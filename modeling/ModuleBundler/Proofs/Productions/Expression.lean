import ModuleBundler.Grammar.Expression
import ModuleBundler.Proofs.Productions.Function

/-!
# What the grammar reads: expressions

* `reads_template` : templates, whose text goes on after a substitution;
* `reads_primaryExpr`, `reads_lhsLevel`, `reads_newLevel`, `reads_unaryLevel` : operands;
* `reads_importExpr` : dynamic imports, which are recorded with the span of the whole call;
* `reads_assignLevel` : expressions without commas at their top.
-/

namespace ModuleBundler

open Cursor (Leads)

variable {kinds : DeclarationKind → Prop} {scope : ScopeId} {g : Grammar}

/-! ## Templates and arguments -/

/-- After the brace that closes a substitution the text of the template goes on. -/
theorem TokenRead.answers_templateContinue {s₀ s s' : ParserState} {t : Token}
    (hbefore : Step kinds scope s₀ s) (h : TokenRead kinds scope s t s')
    (hclose : t.type = .braceClose) :
    Answers s' (consumeIn .templateContinue) fun _ s'' => Step kinds scope s₀ s'' := by
  obtain ⟨b, hlast, rfl⟩ := h.last
  have hstep := hbefore.trans h.step
  have hreads := hbefore.readsOn h.step.later h.reads
  refine (answers_consumeIn hstep.chained fun _ => ⟨b, hlast, hclose⟩).mono fun next s'' hnext => ?_
  have hleads : s'.place.Leads s''.place := hnext.place ▸ leads_nextToken _ _
  have hsuffix : s'.tokens.behind <:+ s''.tokens.behind :=
    hnext.behind ▸ List.suffix_cons _ _
  obtain ⟨hstart, first, hfirst, heq⟩ := hreads
  rw [hnext.others]
  refine hstep.withTokens hnext.chained hnext.source hnext.size hleads hsuffix ?_
  exact ⟨hstart.trans hleads, first, hsuffix.subset hfirst, heq⟩

theorem reads_template (hg : g.Steps) (ctx : Context) :
    Reads OwnKind (template g ctx) ctx.scope := by
  refine reads_consume.bind fun first => keeps_loop (fun t => ?_) first
  split
  · exact keeps_pure _
  · refine keeps_of_answers fun s hs => ?_
    have hstep : Step OwnKind ctx.scope s s := .refl hs
    refine (hstep.answers (reads_expression hg (ctx.withIn true)).keeps).bind fun _ s₁ hstep => ?_
    refine (answers_require OwnKind ctx.scope _ hstep.chained).bind
      fun close s₂ ⟨hclose, htype⟩ => ?_
    exact (hclose.answers_templateContinue hstep htype).bind fun _ s₃ hstep => answers_pure hstep
  · exact (reads_fail t _).keeps
  · exact (reads_fail t _).keeps
  · exact (reads_fail t _).keeps

theorem reads_callArguments (hg : g.Steps) (ctx : Context) :
    Reads OwnKind (callArguments g ctx) ctx.scope := by
  refine (reads_require _).bind fun _ => (keeps_separatedList _ _ ?_).bind fun _ => keeps_lastEnd
  refine (keeps_consumeIf _).bind fun _ => (hg.assignExpr _).keeps.bind fun _ => keeps_pure _

theorem reads_memberName : Reads kinds memberName scope := reads_requireThat _ _

theorem reads_computedMember (hg : g.Steps) (ctx : Context) (e : Expr) :
    Reads OwnKind (computedMember g ctx e) ctx.scope := by
  refine reads_consume.bind fun _ => (reads_expression hg _).keeps.bind fun _ => ?_
  exact (reads_require _).keeps.bind fun _ => keeps_pure _

theorem reads_call (hg : g.Steps) (ctx : Context) (e : Expr) :
    Reads OwnKind (call g ctx e) ctx.scope :=
  (reads_callArguments hg ctx).bind fun _ => (keeps_markSideEffect ctx).bind fun _ => keeps_pure _

theorem keeps_callChain (hg : g.Steps) (ctx : Context) (callsAllowed : Bool) (first : Expr) :
    Keeps OwnKind (callChain g ctx callsAllowed first) ctx.scope := by
  refine keeps_loop (fun e => keeps_peek.bind fun t => ?_) first
  have hmember : Keeps OwnKind (memberName >>= fun name =>
      pure (Round.again (β := Expr) (α := Expr) ⟨e.span.join name.span, .member⟩)) ctx.scope :=
    reads_memberName.keeps.bind fun _ => keeps_pure _
  split
  · exact reads_consume.keeps.bind fun _ => hmember
  · refine keeps_ite (reads_consume.keeps.bind fun _ => keeps_peek.bind fun next => ?_)
      (keeps_pure _)
    split
    · exact (reads_call hg ctx e).keeps.map _
    · exact (reads_computedMember hg ctx e).keeps.map _
    · exact hmember
  · exact (reads_computedMember hg ctx e).keeps.map _
  · exact keeps_ite ((reads_call hg ctx e).keeps.map _) (keeps_pure _)
  · exact (reads_template hg ctx).keeps.bind fun _ =>
      (keeps_markSideEffect ctx).bind fun _ => keeps_pure _
  · exact (reads_template hg ctx).keeps.bind fun _ =>
      (keeps_markSideEffect ctx).bind fun _ => keeps_pure _
  · exact keeps_pure _

/-! ## Literals of arrays and objects -/

theorem reads_arrayLiteral (hg : g.Steps) (ctx : Context) :
    Reads OwnKind (arrayLiteral g ctx) ctx.scope := by
  refine (reads_requireIn (by decide) _).bind fun _ => (keeps_loopWhile ?_).bind fun _ =>
    keeps_lastEnd.bind fun _ => keeps_pure _
  refine (keeps_consumeIf _).bind fun _ => keeps_ite (keeps_pure _) ?_
  refine (keeps_consumeIf _).bind fun _ => keeps_ite (keeps_pure _) ?_
  refine (keeps_consumeIf _).bind fun _ => (hg.assignExpr _).keeps.bind fun _ => ?_
  refine (keeps_consumeIf _).bind fun _ => keeps_ite (keeps_pure _) ?_
  exact (reads_require _).keeps.bind fun _ => keeps_pure _

theorem keeps_objectMember (hg : g.Steps) (ctx : Context) :
    Keeps OwnKind (objectMember g ctx) ctx.scope := by
  refine (keeps_consumeIf _).bind fun _ => keeps_ite ?_ ?_
  · exact (hg.assignExpr _).keeps.bind fun _ => keeps_pure _
  refine keeps_methodModifiers.bind fun modifiers => keeps_of_answers fun s hs => ?_
  refine (answers_peekIn OwnKind ctx.scope _ hs).bind fun t s₁ ht => ?_
  refine (answers_propertyKey hg ctx ht.step.chained).bind fun key s₂ hkey => ?_
  have hafter : Step OwnKind ctx.scope s₂ s₂ := .refl hkey.step.chained
  refine (hafter.answers keeps_peek).bind fun next s₃ hafter => ?_
  have hall : ∀ {s'}, Step OwnKind ctx.scope s₂ s' → Step OwnKind ctx.scope s s' := fun h =>
    ht.step.trans (hkey.step.trans h)
  refine answers_ite (fun _ => ?_) fun _ => answers_ite (fun _ => answers_fail next _) fun _ => ?_
  · exact (hall hafter).answers ((reads_method hg ctx _ _).keeps.bind fun _ => keeps_pure _)
  refine (hafter.answers (keeps_consumeIf _)).bind fun _ s₄ hafter => ?_
  refine answers_ite (fun _ => ?_) fun _ => answers_ite (fun hname => ?_) fun _ =>
    answers_fail next _
  · exact (hall hafter).answers ((hg.assignExpr ctx).keeps.bind fun _ => keeps_pure _)
  · -- The name of the property is the token that was looked at.
    have hspelled := (hkey.spelled hname).mono hafter.behind.subset
    rw [ht.place, ← ht.token] at hspelled
    have hspan := hkey.between.mono ht.step.leads hafter.leads
    refine ((hall hafter).answers_refer (.inl rfl) hspan hspelled).bind
      fun _ s₅ ⟨hrest, _⟩ => hrest.answers ?_
    refine (keeps_consumeIf _).bind fun _ => keeps_ite ?_ (keeps_pure _)
    exact (hg.assignExpr ctx).keeps.bind fun _ => keeps_pure _

theorem reads_objectLiteral (hg : g.Steps) (ctx : Context) :
    Reads OwnKind (objectLiteral g ctx) ctx.scope := by
  refine (reads_requireIn (by decide) _).bind fun _ => ?_
  refine (keeps_separatedList _ _ (keeps_objectMember hg _)).bind fun _ => ?_
  exact keeps_lastEnd.bind fun _ => keeps_pure _

/-! ## Operands -/

theorem reads_parenthesized (hg : g.Steps) (ctx : Context) :
    Reads OwnKind (parenthesized g ctx) ctx.scope := by
  refine (reads_consumeIn (by decide)).bind fun _ => (reads_expression hg _).keeps.bind fun _ => ?_
  exact (reads_require _).keeps.bind fun _ => keeps_pure _

theorem keeps_asyncFunctionAhead : Keeps kinds asyncFunctionAhead scope :=
  keeps_peek2.bind fun _ => keeps_pure _

theorem reads_variableUse (ctx : Context) : Reads kinds (variableUse ctx) ctx.scope := by
  refine reads_of_answers fun s hs => ?_
  refine (answers_token kinds ctx.scope (by decide) hs).bind fun t s₁ ht => ?_
  refine (ht.step.answers_refer (.inl rfl) ht.between ht.spelled).bind
    fun _ s₂ ⟨hstep, hlater⟩ => answers_pure ⟨hstep, hlater.readsOn ht.reads⟩

theorem reads_primaryExpr (hg : g.Steps) (ctx : Context) :
    Reads OwnKind (primaryExpr g ctx) ctx.scope := by
  refine (keeps_peekIn _).bindReads fun t => ?_
  have hliteral : Reads OwnKind (consumeIn .slashIsRegex >>= fun _ =>
      pure (Expr.other t.span)) ctx.scope :=
    (reads_consumeIn (by decide)).bind fun _ => keeps_pure _
  have htemplate : Reads OwnKind (template g ctx >>= fun stop =>
      pure (Expr.other ⟨t.span.start, stop⟩)) ctx.scope :=
    (reads_template hg ctx).bind fun _ => keeps_pure _
  split
  · exact keeps_asyncFunctionAhead.bindReads fun _ =>
      reads_ite (reads_functionExpr hg ctx) (reads_variableUse ctx)
  any_goals exact hliteral
  any_goals exact htemplate
  · exact reads_parenthesized hg ctx
  · exact reads_arrayLiteral hg ctx
  · exact reads_objectLiteral hg ctx
  · exact reads_functionExpr hg ctx
  · exact reads_classExpr hg ctx
  · refine (reads_consumeIn (by decide)).bind fun _ => keeps_peek.bind fun _ => ?_
    exact keeps_ite (keeps_pure _) (reads_fail t _).keeps
  · exact reads_fail t _
  · exact reads_fail t _
  · exact reads_ite (reads_variableUse ctx) (reads_fail t _)

theorem reads_metaProperty (keyword : Token) (spelling whole : String) :
    Reads kinds (metaProperty keyword spelling whole) scope :=
  (reads_require _).bind fun t => keeps_ite (keeps_pure _) (reads_fail t _).keeps

theorem reads_newLevel (hg : g.Steps) (ctx : Context) :
    Reads OwnKind (newLevel g ctx) ctx.scope := by
  refine (reads_consumeIn (by decide)).bind fun keyword => ?_
  refine (keeps_consumeIf _).bind fun _ => keeps_ite (reads_metaProperty keyword _ _).keeps ?_
  refine (keeps_markSideEffect ctx).bind fun _ => (keeps_peekIn _).bind fun t => ?_
  refine keeps_choice (hg.newExpr ctx).keeps (reads_primaryExpr hg ctx).keeps fun operand => ?_
  refine (keeps_callChain hg ctx _ operand).bind fun callee => keeps_peek.bind fun next => ?_
  exact keeps_choice (reads_callArguments hg ctx).keeps (keeps_pure _) fun _ => keeps_pure _

/-- A dynamic import is recorded with the span of its call. -/
theorem Step.answers_recordDynamicImport {ctx : Context} {s s' : ParserState}
    (h : Step kinds ctx.scope s s') (first : Token) (argument : Span) {call : Span}
    (hcall : call.Between s.place s'.place) (hedges : TokenEdges s'.tokens.behind call) :
    Answers s' (recordDynamicImport ctx first argument call) fun _ s'' =>
      Step kinds ctx.scope s s'' ∧ Later s' s'' := by
  refine answers_ite (fun _ => ?_) fun _ => answers_pure ⟨h, .refl _⟩
  split
  · intro _ s'' heq
    cases heq
    refine ⟨{ h with dynamicImports := h.dynamicImports.push ?_ }, .ofTokens rfl rfl rfl⟩
    exact ⟨hcall, hedges, .inl rfl⟩
  · exact answers_pure ⟨h, .refl _⟩

/-- The call that an import keyword begins is closed, and recorded with its span. -/
theorem TokenRead.answers_closeImport {ctx : Context} {s s₁ s' : ParserState} {keyword : Token}
    (h : TokenRead kinds ctx.scope s keyword s₁) (hstep : Step kinds ctx.scope s₁ s')
    (first : Token) (argument : Span) : Answers s' (do
      let close ← require .parenthesisClose
      recordDynamicImport ctx first argument (keyword.span.join close.span)
      pure (Expr.mk (keyword.span.join close.span) .call)) fun _ s'' =>
        Step kinds ctx.scope s s'' ∧ ReadsOn s s'' := by
  refine (answers_require kinds ctx.scope _ hstep.chained).bind fun close s'' ⟨hclose, _⟩ => ?_
  have hrest := hstep.trans hclose.step
  have hcall := h.between.join (hclose.between.mono hstep.leads (.refl _))
  have hedges := (h.edges.mono hrest.behind.subset).join hclose.edges
  refine ((h.step.trans hrest).answers_recordDynamicImport first _ hcall hedges).bind
    fun _ last ⟨hrecord, hlater⟩ => answers_pure ⟨hrecord, ?_⟩
  exact hlater.readsOn (hrest.later.readsOn h.reads)

theorem reads_importExpr (hg : g.Steps) (ctx : Context) :
    Reads OwnKind (importExpr g ctx) ctx.scope := by
  refine reads_of_answers fun s hs => ?_
  refine (answers_token OwnKind ctx.scope (by decide) hs).bind fun keyword s₁ hkeyword => ?_
  have hstep : Step OwnKind ctx.scope s₁ s₁ := .refl hkeyword.step.chained
  refine (hstep.answers (keeps_consumeIf _)).bind fun _ s₂ hstep => ?_
  refine answers_ite (fun _ => ?_) fun _ => ?_
  · refine (hstep.answers (reads_metaProperty keyword _ _).keeps).mono fun _ s' hstep => ?_
    exact ⟨hkeyword.step.trans hstep, hstep.later.readsOn hkeyword.reads⟩
  refine (hstep.answers (reads_require _).keeps).bind fun _ s₃ hstep => ?_
  refine (hstep.answers (keeps_markSideEffect ctx)).bind fun _ s₄ hstep => ?_
  refine (hstep.answers (keeps_peekIn _)).bind fun first s₅ hstep => ?_
  refine (hstep.answers (hg.assignExpr (ctx.withIn true)).keeps).bind fun argument s₆ hstep => ?_
  refine (hstep.answers (keeps_consumeIf _)).bind fun _ s₇ hstep => ?_
  refine answers_ite (fun _ => ?_) fun _ => hkeyword.answers_closeImport hstep _ _
  refine (hstep.answers keeps_peek).bind fun next s₈ hstep => ?_
  refine answers_ite (fun _ => ?_) fun _ => hkeyword.answers_closeImport hstep _ _
  refine (hstep.answers (hg.assignExpr (ctx.withIn true)).keeps).bind fun _ s₉ hstep => ?_
  exact (hstep.answers (keeps_consumeIf _)).bind fun _ s₁₀ hstep =>
    hkeyword.answers_closeImport hstep _ _

theorem reads_lhsLevel (hg : g.Steps) (ctx : Context) :
    Reads OwnKind (lhsLevel g ctx) ctx.scope := by
  refine (keeps_peekIn _).bindReads fun t => ?_
  dsimp only
  split
  · exact (reads_newLevel hg ctx).bind fun _ => keeps_callChain hg ctx _ _
  · refine (reads_consumeIn (by decide)).bind fun _ => (keeps_pure _).bind fun _ => ?_
    exact keeps_callChain hg ctx _ _
  · exact (reads_importExpr hg ctx).bind fun _ => keeps_callChain hg ctx _ _
  · exact (reads_primaryExpr hg ctx).bind fun _ => keeps_callChain hg ctx _ _

theorem reads_unaryOperation (hg : g.Steps) (ctx : Context) (isObservable : Bool) :
    Reads OwnKind (unaryOperation g ctx isObservable) ctx.scope := by
  refine (reads_consumeIn (by decide)).bind fun _ => keeps_optional (keeps_markSideEffect ctx) ?_
  exact (hg.unaryExpr ctx).keeps.bind fun _ => keeps_pure _

theorem reads_postfixExpr (hg : g.Steps) (ctx : Context) :
    Reads OwnKind (postfixExpr g ctx) ctx.scope := by
  refine (hg.lhsExpr ctx).bind fun operand => keeps_peek.bind fun t => ?_
  refine keeps_ite (reads_consume.keeps.bind fun _ => ?_) (keeps_pure _)
  exact (keeps_markSideEffect ctx).bind fun _ => keeps_pure _

theorem reads_unaryLevel (hg : g.Steps) (ctx : Context) :
    Reads OwnKind (unaryLevel g ctx) ctx.scope := by
  refine (keeps_peekIn _).bindReads fun t => ?_
  split
  any_goals exact reads_unaryOperation hg ctx _
  · exact reads_ite (reads_unaryOperation hg ctx _) (reads_postfixExpr hg ctx)
  · exact reads_postfixExpr hg ctx

/-! ## Operators -/

theorem reads_binaryExpr (hg : g.Steps) (ctx : Context) :
    Reads OwnKind (binaryExpr g ctx) ctx.scope := by
  refine (hg.unaryExpr ctx).bind fun first => keeps_loop (fun e => ?_) first
  refine keeps_peek.bind fun t => keeps_ite (keeps_pure _) ?_
  exact reads_consume.keeps.bind fun _ => (hg.unaryExpr ctx).keeps.bind fun _ => keeps_pure _

theorem reads_conditionalExpr (hg : g.Steps) (ctx : Context) :
    Reads OwnKind (conditionalExpr g ctx) ctx.scope := by
  refine (reads_binaryExpr hg ctx).bind fun test => (keeps_consumeIf _).bind fun _ => ?_
  refine keeps_ite ((hg.assignExpr _).keeps.bind fun _ => ?_) (keeps_pure _)
  exact (reads_require _).keeps.bind fun _ => (hg.assignExpr _).keeps.bind fun _ => keeps_pure _

theorem reads_yieldExpr (hg : g.Steps) (ctx : Context) :
    Reads OwnKind (yieldExpr g ctx) ctx.scope := by
  refine reads_consume.bind fun keyword => (keeps_markSideEffect ctx).bind fun _ => ?_
  refine keeps_peek.bind fun next => ?_
  refine keeps_choice (keeps_pure _) (keeps_consumeIf _) fun delegates => ?_
  refine (keeps_peekIn _).bind fun operand => keeps_ite ?_ (keeps_pure _)
  exact (hg.assignExpr ctx).keeps.bind fun _ => keeps_pure _

/-! ## Arrow functions -/

theorem keeps_arrowParameters (hg : g.Steps) (ctx : Context) :
    Keeps OwnKind (arrowParameters g ctx) ctx.scope := by
  refine keeps_of_answers fun s hs => ?_
  refine (answers_peekIn OwnKind ctx.scope _ hs).bind fun t s₁ hpeeked => ?_
  refine answers_ite (fun _ => ?_) fun _ => answers_ite (fun _ => ?_) fun _ => ?_
  · refine (hpeeked.answers_consume (by decide)).bind fun _ s₂ ⟨_, ht⟩ => ?_
    have hkind : OwnKind .param := by decide
    exact (ht.nameRead.answers_declared hkind false).bind fun _ s₃ ⟨hname, _⟩ =>
      answers_pure hname.step
  · exact hpeeked.step.answers (keeps_succeeds (reads_functionParameters hg ctx).keeps)
  · exact answers_pure hpeeked.step

/-- What comes before the body of an arrow function is read in the scope of the body. -/
theorem answers_arrowHead (hg : g.Steps) (ctx : Context) {s : ParserState}
    (hs : s.tokens.Chained) :
    Answers s (arrowHead g ctx) fun head s' => Step OwnKind ctx.scope s s' ∧
      ∀ inner, head = some inner → InScope ctx.scope s s' inner.scope := by
  have hstep : Step OwnKind ctx.scope s s := .refl hs
  refine (hstep.answers keeps_peek2).bind fun (a, b) s₁ hstep => ?_
  refine hstep.answers_optional reads_consume.keeps fun s₂ hstep => ?_
  refine (answers_enterScope OwnKind _ _ hstep.chained).bind fun id s₃ ⟨hopen, _, hin⟩ => ?_
  have hin : InScope ctx.scope s s₃ id := hin.mono hstep.later.scopes (Nat.le_refl _)
  have hopen := hstep.trans hopen
  have hnone : ∀ {s'}, Step OwnKind id s₃ s' →
      Step OwnKind ctx.scope s s' ∧ ∀ inner, (none : Option Context) = some inner →
        InScope ctx.scope s s' inner.scope := fun h => ⟨hopen.transIn h hin, fun _ h => nomatch h⟩
  have hinner : Step OwnKind id s₃ s₃ := .refl hopen.chained
  refine (hinner.answers (keeps_arrowParameters hg _)).bind fun found s₄ hinner => ?_
  refine answers_ite (fun _ => ?_) fun _ => answers_pure (hnone hinner)
  refine (hinner.answers keeps_peek).bind fun arrow s₅ hinner => ?_
  refine answers_ite (fun _ => ?_) fun _ => answers_pure (hnone hinner)
  refine (hinner.answers reads_consume.keeps).bind fun _ s₆ hinner => ?_
  refine answers_ite (fun _ => answers_fail arrow _) fun _ => answers_pure ?_
  refine ⟨hopen.transIn hinner hin, fun inner h => ?_⟩
  cases h
  exact hin.mono (Nat.le_refl _) hinner.later.scopes

theorem reads_arrowBody (hg : g.Steps) (ctx : Context) (inAllowed : Bool) :
    Reads OwnKind (arrowBody g ctx inAllowed) ctx.scope := by
  refine keeps_peek.bindReads fun t => reads_ite (reads_functionBody hg ctx) ?_
  exact (hg.assignExpr (ctx.withIn inAllowed)).bind fun _ => keeps_pure _

/-- If an arrow function is read, so is the next token. -/
theorem answers_arrowFunction (hg : g.Steps) (ctx : Context) {s : ParserState}
    (hs : s.tokens.Chained) :
    Answers s (arrowFunction g ctx) fun e s' => Step OwnKind ctx.scope s s' ∧
      (e ≠ none → ReadsOn s s') := by
  have hstep : Step OwnKind ctx.scope s s := .refl hs
  refine (hstep.answers keeps_peek).bind fun start s₁ hstep => ?_
  have hnone : Step OwnKind ctx.scope s₁ s₁ ∧ ∀ inner, (none : Option Context) = some inner →
      InScope ctx.scope s₁ s₁ inner.scope := ⟨.refl hstep.chained, fun _ h => nomatch h⟩
  refine (answers_attempt (answers_arrowHead hg ctx hstep.chained) hnone).bind
    fun head s₂ ⟨hhead, hin⟩ => ?_
  cases head with
  | none => exact answers_pure ⟨hstep.trans hhead, fun h => absurd rfl h⟩
  | some inner =>
    have hbody := reads_arrowBody hg inner.deferred ctx.inAllowed
    refine (hhead.answers_readsIn (hin inner rfl) hbody).bind
      fun stop s₃ ⟨hbody, hreads⟩ => answers_pure ⟨hstep.trans hbody, fun _ => ?_⟩
    exact hstep.readsOn hbody.later hreads

theorem keeps_arrowFunctionAhead (t : Token) : Keeps kinds (arrowFunctionAhead t) scope := by
  refine keeps_ite (keeps_pure _) (keeps_ite ?_ (keeps_pure _))
  exact keeps_peek2.bind fun _ => keeps_pure _

/-! ## Assignments -/

theorem reads_assignment (hg : g.Steps) (ctx : Context) :
    Reads OwnKind (assignment g ctx) ctx.scope := by
  refine (reads_conditionalExpr hg ctx).bind fun target => keeps_peek.bind fun operator => ?_
  refine keeps_ite (keeps_ite ?_ (reads_throw _).keeps) (keeps_pure _)
  refine reads_consume.keeps.bind fun _ => (keeps_markSideEffect ctx).bind fun _ => ?_
  exact (hg.assignExpr ctx).keeps.bind fun _ => keeps_pure _

theorem reads_assignLevel (hg : g.Steps) (ctx : Context) :
    Reads OwnKind (assignLevel g ctx) ctx.scope := by
  refine (keeps_peekIn _).bindReads fun t => reads_ite (reads_yieldExpr hg ctx) ?_
  refine (keeps_arrowFunctionAhead t).bindReads fun ahead => ?_
  refine reads_ite ?_ (reads_assignment hg ctx)
  refine reads_of_answers fun s hs => (answers_arrowFunction hg ctx hs).bind
    fun arrow s₁ ⟨hstep, hreads⟩ => ?_
  cases arrow with
  | some e => exact answers_pure ⟨hstep, hreads (Option.some_ne_none e)⟩
  | none => exact hstep.answers_reads (reads_assignment hg ctx)

end ModuleBundler
