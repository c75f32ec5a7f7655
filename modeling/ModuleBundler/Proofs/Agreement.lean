import ModuleBundler.Proofs.PrecedenceClimbing
import ModuleBundler.Proofs.Productions.Module

/-!
# Grammars that agree

What nests in a text is read by a grammar. If two grammars do the same wherever no more than so many
powers are left, so do the productions that are written over them.

* `agree_ite`, `agree_loopWhile`, `agree_attempt`, … : readers that are put together;
* `Grammar.Agree` : two grammars of which all productions agree;
* `agree_primaryExpr`, `agree_statementLevel`, `agree_moduleItem`, … : one lemma for each production
  that something nests in.
-/

namespace ModuleBundler

variable {α β : Type} {n : Nat} {g g' : Grammar}

/-! ## Readers that are put together -/

theorem agree_throw (e : SyntaxError) : Agree n (throw e : Parse α) (throw e) :=
  fun _ _ _ => ⟨rfl, fun _ _ h => nomatch h⟩

theorem agree_fail (t : Token) (cause : SyntaxError.Cause) :
    Agree n (t.fail cause : Parse α) (t.fail cause) := agree_throw _

theorem Agree.map {p q : Parse α} (h : Agree n p q) (f : α → β) : Agree n (f <$> p) (f <$> q) := by
  rw [← bind_pure_comp, ← bind_pure_comp]
  exact h.bind fun _ => agree_pure _

theorem agree_ite {c : Prop} [Decidable c] {p p' q q' : Parse α} (hp : Agree n p p')
    (hq : Agree n q q') : Agree n (if c then p else q) (if c then p' else q') := by
  split
  · exact hp
  · exact hq

/-- Readers after others that may be left out. -/
theorem agree_optional {c : Prop} [Decidable c] {first first' : Parse α} {rest rest' : Parse β}
    (hfirst : Agree n first first') (hrest : Agree n rest rest') :
    Agree n (if c then first >>= fun _ => rest else rest)
      (if c then first' >>= fun _ => rest' else rest') :=
  agree_ite (hfirst.bind fun _ => hrest) hrest

/-- Readers after one of two others. -/
theorem agree_choice {c : Prop} [Decidable c] {p p' q q' : Parse α} {rest rest' : α → Parse β}
    (hp : Agree n p p') (hq : Agree n q q') (hrest : ∀ a, Agree n (rest a) (rest' a)) :
    Agree n (if c then p >>= rest else q >>= rest) (if c then p' >>= rest' else q' >>= rest') :=
  agree_ite (hp.bind hrest) (hq.bind hrest)

theorem agree_loopWhile {round round' : Parse Bool} (h : Agree n round round') :
    Agree n (loopWhile round) (loopWhile round') :=
  agree_loop (fun _ => h.bind fun _ => agree_ite (agree_pure _) (agree_pure _)) ()

theorem agree_attempt {p q : Parse (Option α)} (h : Agree n p q) :
    Agree n (attempt p) (attempt q) := by
  intro s hs hn
  obtain ⟨heq, hgoes⟩ := h hs hn
  unfold attempt
  rw [← heq]
  refine ⟨rfl, fun a s' h => ?_⟩
  split at h
  · cases h
    exact .refl hs
  · exact hgoes a s' h

theorem agree_succeeds {p q : Parse Unit} (h : Agree n p q) :
    Agree n (succeeds p) (succeeds q) := by
  intro s hs hn
  obtain ⟨heq, hgoes⟩ := h hs hn
  unfold succeeds
  rw [← heq]
  refine ⟨rfl, fun a s' h => ?_⟩
  split at h
  · cases h
    exact hgoes _ _ ‹_›
  · cases h
    exact .refl hs

/-! ## Readers that nothing nests in -/

/-- What steps in every scope agrees with itself. -/
theorem agree_self {p : Parse α} (h : Keeps OwnKind p moduleScope) : Agree n p p := h.agree

/-- Recording something reads nothing. -/
theorem agree_record {p : Parse α}
    (h : ∀ s a s', p s = .ok (a, s') → s'.tokens = s.tokens) : Agree n p p := by
  refine fun s hs _ => ⟨rfl, fun a s' heq => ?_⟩
  have htokens := h s a s' heq
  have hplace : s'.place = s.place := congrArg TokenStream.position htokens
  have hsize := congrArg TokenStream.size htokens
  have hleads : s.place.Leads s'.place := hplace ▸ .refl _
  exact ⟨hs.later (htokens ▸ hs.chained) hsize hleads, hsize, hleads⟩

theorem agree_modify {f : ParserState → ParserState} (h : ∀ s, (f s).tokens = s.tokens) :
    Agree n (modify f : Parse Unit) (modify f) := by
  refine agree_record fun s a s' heq => ?_
  cases heq
  exact h s

theorem agree_declare (ctx : Context) (name : String) (span : Span) (kind : DeclarationKind)
    (shorthand : Bool) :
    Agree n (declare ctx name span kind shorthand) (declare ctx name span kind shorthand) :=
  agree_modify fun _ => rfl

theorem agree_refer (ctx : Context) (name : String) (span : Span) (shorthand : Bool) :
    Agree n (refer ctx name span shorthand) (refer ctx name span shorthand) :=
  agree_modify fun _ => rfl

theorem agree_markSideEffect (ctx : Context) :
    Agree n (markSideEffect ctx) (markSideEffect ctx) := agree_modify fun _ => rfl

theorem agree_enterScope (parent : ScopeId) (type : ScopeType) :
    Agree n (enterScope parent type) (enterScope parent type) := by
  refine agree_record fun s a s' heq => ?_
  cases heq
  rfl

theorem agree_lastEnd : Agree n lastEnd lastEnd := agree_self keeps_lastEnd

theorem agree_peekIn (mode : LexMode) : Agree n (peekIn mode) (peekIn mode) :=
  agree_self (keeps_peekIn mode)

theorem agree_peek2 : Agree n peek2 peek2 := agree_self keeps_peek2

theorem agree_consumeIf (type : TokenType) : Agree n (consumeIf type) (consumeIf type) :=
  agree_self (keeps_consumeIf type)

theorem agree_slash : Agree n (consumeIn .slashIsRegex) (consumeIn .slashIsRegex) :=
  agree_self (reads_consumeIn (by decide)).keeps

theorem agree_require (type : TokenType) : Agree n (require type) (require type) :=
  agree_self (reads_require type).keeps

theorem agree_requireSemicolon : Agree n requireSemicolon requireSemicolon :=
  agree_self keeps_requireSemicolon

theorem agree_memberName : Agree n memberName memberName := agree_self reads_memberName.keeps

theorem agree_bindingIdentifier : Agree n bindingIdentifier bindingIdentifier :=
  agree_self fun _ _ _ hs heq => (answers_bindingIdentifier _ _ hs heq).step

theorem agree_declarationAhead : Agree n declarationAhead declarationAhead :=
  agree_self keeps_declarationAhead

theorem agree_definitionName (ctx : Context) (kind : DefinitionKind) (declared : DeclarationKind) :
    Agree n (definitionName ctx kind declared) (definitionName ctx kind declared) := by
  refine agree_peek.bind fun t => agree_ite (agree_consume.bind fun _ => ?_) ?_
  · exact agree_optional (agree_declare ..) (agree_pure _)
  · exact agree_ite (agree_fail t _) (agree_pure _)

theorem agree_enterNameScope (ctx : Context) (kind : DefinitionKind) (declared : DeclarationKind)
    (name : Option (String × Span)) :
    Agree n (enterNameScope ctx kind declared name) (enterNameScope ctx kind declared name) := by
  refine (agree_enterScope _ _).bind fun scope => ?_
  dsimp only
  split
  · exact (agree_declare ..).bind fun _ => agree_pure _
  · exact agree_pure _

theorem agree_variableUse (ctx : Context) : Agree n (variableUse ctx) (variableUse ctx) :=
  have h : Reads OwnKind (variableUse ctx) ctx.scope := reads_variableUse ctx
  h.keeps.agree

theorem agree_metaProperty (keyword : Token) (spelling whole : String) :
    Agree n (metaProperty keyword spelling whole) (metaProperty keyword spelling whole) :=
  agree_self (reads_metaProperty keyword spelling whole).keeps

theorem agree_recordDynamicImport (ctx : Context) (first : Token) (argument call : Span) :
    Agree n (recordDynamicImport ctx first argument call)
      (recordDynamicImport ctx first argument call) := by
  refine agree_ite ?_ (agree_pure _)
  split
  · exact agree_modify fun _ => rfl
  · exact agree_pure _

theorem agree_labelContext (isLoop : Bool) (ctx : Context) (labels : List Token) :
    Agree n (labelContext isLoop ctx labels) (labelContext isLoop ctx labels) :=
  agree_record fun s _ s' heq => by rw [(answers_labelContext isLoop ctx labels s heq).1]

theorem agree_referenceCount : Agree n referenceCount referenceCount :=
  agree_record fun _ _ _ heq => by rw [(answers_referenceCount heq).2]

theorem agree_importDeclaration (ctx : Context) :
    Agree n (importDeclaration ctx) (importDeclaration ctx) := fun _ hs _ =>
  ⟨rfl, fun _ _ heq => (answers_importDeclaration ctx hs.chained heq).1.step.goes hs⟩

/-- The text of a template goes on only after the brace that was read just before. -/
theorem agree_templateContinue {rest : Token → Parse α}
    (h : ∀ t, Keeps OwnKind (rest t) moduleScope) :
    Agree n (require .braceClose >>= fun _ => consumeIn .templateContinue >>= rest)
      (require .braceClose >>= fun _ => consumeIn .templateContinue >>= rest) := by
  refine agree_self (keeps_of_answers fun s hs => ?_)
  refine (answers_require OwnKind moduleScope _ hs).bind fun close s₁ ⟨hclose, htype⟩ => ?_
  refine (hclose.answers_templateContinue (.refl hs) htype).bind fun t s₂ hstep => ?_
  exact hstep.answers (h t)

theorem agree_separatedList (separator close : TokenType) {item item' : Parse Unit}
    (h : Agree n item item') :
    Agree n (separatedList separator close item) (separatedList separator close item') := by
  refine agree_loopWhile ((agree_consumeIf _).bind fun _ => agree_ite (agree_pure _) ?_)
  refine h.bind fun _ => (agree_consumeIf _).bind fun _ => agree_ite (agree_pure _) ?_
  exact (agree_require _).bind fun _ => agree_pure _

/-! ## Grammars -/

/-- All productions of two grammars agree. -/
structure Grammar.Agree (n : Nat) (g g' : Grammar) : Prop where
  assignExpr : ∀ ctx, ModuleBundler.Agree n (g.assignExpr ctx) (g'.assignExpr ctx)
  unaryExpr : ∀ ctx, ModuleBundler.Agree n (g.unaryExpr ctx) (g'.unaryExpr ctx)
  lhsExpr : ∀ ctx, ModuleBundler.Agree n (g.lhsExpr ctx) (g'.lhsExpr ctx)
  newExpr : ∀ ctx, ModuleBundler.Agree n (g.newExpr ctx) (g'.newExpr ctx)
  pattern : ∀ ctx kind, ModuleBundler.Agree n (g.pattern ctx kind) (g'.pattern ctx kind)
  statement : ∀ ctx, ModuleBundler.Agree n (g.statement ctx) (g'.statement ctx)

theorem agree_tooDeep : Agree n (tooDeep : Parse α) tooDeep := agree_self reads_tooDeep.keeps

theorem Grammar.agree_exhausted : Grammar.exhausted.Agree n Grammar.exhausted :=
  ⟨fun _ => agree_tooDeep, fun _ => agree_tooDeep, fun _ => agree_tooDeep, fun _ => agree_tooDeep,
    fun _ _ => agree_tooDeep, fun _ => agree_tooDeep⟩

section
variable (hg : g.Agree n g')
include hg

/-! ## Expressions and properties -/

theorem agree_expression (ctx : Context) : Agree n (expression g ctx) (expression g' ctx) := by
  refine (hg.assignExpr ctx).bind fun first => agree_loop (fun e => ?_) first
  refine (agree_consumeIf _).bind fun _ => agree_ite ?_ (agree_pure _)
  exact (hg.assignExpr ctx).bind fun _ => agree_pure _

theorem agree_propertyKey (ctx : Context) : Agree n (propertyKey g ctx) (propertyKey g' ctx) := by
  refine agree_consume.bind fun t => ?_
  split
  · refine (hg.assignExpr _).bind fun _ => (agree_require _).bind fun _ => agree_pure _
  any_goals exact agree_pure _
  · exact agree_ite (agree_pure _) (agree_fail t _)

/-! ## Patterns -/

theorem agree_patternWithDefault (ctx : Context) (kind : DeclarationKind) :
    Agree n (patternWithDefault g ctx kind) (patternWithDefault g' ctx kind) := by
  refine (hg.pattern _ _).bind fun _ => (agree_consumeIf _).bind fun _ => ?_
  exact agree_ite ((hg.assignExpr _).bind fun _ => agree_pure _) (agree_pure _)

theorem agree_arrayPattern (ctx : Context) (kind : DeclarationKind) :
    Agree n (arrayPattern g ctx kind) (arrayPattern g' ctx kind) := by
  refine (agree_require _).bind fun _ => agree_loopWhile ?_
  refine (agree_consumeIf _).bind fun _ => agree_ite (agree_pure _) ?_
  refine (agree_consumeIf _).bind fun _ => agree_ite (agree_pure _) ?_
  refine (agree_consumeIf _).bind fun _ => agree_ite ?_ ?_
  · exact (hg.pattern _ _).bind fun _ => (agree_require _).bind fun _ => agree_pure _
  refine (agree_patternWithDefault hg _ _).bind fun _ => (agree_consumeIf _).bind fun _ => ?_
  exact agree_ite (agree_pure _) ((agree_require _).bind fun _ => agree_pure _)

theorem agree_propertyPattern (ctx : Context) (kind : DeclarationKind) :
    Agree n (propertyPattern g ctx kind) (propertyPattern g' ctx kind) := by
  refine (agree_consumeIf _).bind fun _ => agree_ite ?_ (agree_peek2.bind fun (key, next) => ?_)
  · exact agree_bindingIdentifier.bind fun (name, span) => agree_declare ..
  dsimp only
  refine agree_ite ?_ ?_
  · refine agree_bindingIdentifier.bind fun (name, span) => (agree_declare ..).bind fun _ => ?_
    refine (agree_consumeIf _).bind fun _ => agree_ite ?_ (agree_pure _)
    exact (hg.assignExpr _).bind fun _ => agree_pure _
  · refine (agree_propertyKey hg _).bind fun _ => (agree_require _).bind fun _ => ?_
    exact agree_patternWithDefault hg _ _

theorem agree_patternLevel (ctx : Context) (kind : DeclarationKind) :
    Agree n (patternLevel g ctx kind) (patternLevel g' ctx kind) := by
  refine agree_peek.bind fun t => ?_
  split
  · exact agree_arrayPattern hg _ _
  · exact (agree_require _).bind fun _ => agree_separatedList _ _ (agree_propertyPattern hg _ _)
  · exact agree_fail t _
  · exact agree_ite (agree_bindingIdentifier.bind fun _ => agree_declare ..) (agree_fail t _)

/-! ## Functions -/

theorem agree_statements (ctx : Context) (close : TokenType) :
    Agree n (statements g ctx close) (statements g' ctx close) := by
  refine agree_loopWhile (agree_peek.bind fun t => agree_ite (agree_pure _) ?_)
  exact agree_ite (agree_fail t _) ((hg.statement _).bind fun _ => agree_pure _)

theorem agree_functionParameters (ctx : Context) :
    Agree n (functionParameters g ctx) (functionParameters g' ctx) := by
  refine (agree_require _).bind fun _ => agree_separatedList _ _ ?_
  refine (agree_consumeIf _).bind fun _ => agree_ite (hg.pattern _ _) ?_
  exact agree_patternWithDefault hg _ _

theorem agree_functionBody (ctx : Context) :
    Agree n (functionBody g ctx) (functionBody g' ctx) := by
  refine (agree_require _).bind fun _ => (agree_statements hg _ _).bind fun _ => ?_
  exact (agree_require _).bind fun _ => agree_pure _

theorem agree_method (ctx : Context) (isAsync isGenerator : Bool) :
    Agree n (method g ctx isAsync isGenerator) (method g' ctx isAsync isGenerator) := by
  refine (agree_enterScope _ _).bind fun scope => ?_
  exact (agree_functionParameters hg _).bind fun _ => agree_functionBody hg _

theorem agree_function (ctx : Context) (kind : DefinitionKind) :
    Agree n (function g ctx kind) (function g' ctx kind) := by
  refine agree_peek.bind fun start => (agree_consumeIf _).bind fun isAsync => ?_
  refine (agree_require _).bind fun _ => (agree_consumeIf _).bind fun isGenerator => ?_
  refine agree_lastEnd.bind fun nameAt => (agree_definitionName ..).bind fun name => ?_
  refine (agree_enterNameScope ..).bind fun outer => (agree_method hg _ _ _).bind fun stop => ?_
  exact agree_pure _

theorem agree_functionExpr (ctx : Context) : Agree n (functionExpr g ctx) (functionExpr g' ctx) :=
  (agree_function hg ctx _).bind fun _ => agree_pure _

/-! ## Classes -/

theorem agree_staticBlock (ctx : Context) : Agree n (staticBlock g ctx) (staticBlock g' ctx) := by
  refine (agree_enterScope _ _).bind fun scope => (agree_require _).bind fun _ => ?_
  exact (agree_statements hg _ _).bind fun _ => (agree_require _).bind fun _ => agree_pure _

theorem agree_fieldValue (ctx : Context) (isStatic : Bool) :
    Agree n (fieldValue g ctx isStatic) (fieldValue g' ctx isStatic) := by
  refine (agree_enterScope _ _).bind fun scope => ?_
  exact (hg.assignExpr _).bind fun _ => agree_pure _

theorem agree_classProperty (ctx : Context) (isStatic : Bool) :
    Agree n (classProperty g ctx isStatic) (classProperty g' ctx isStatic) := by
  refine (agree_self keeps_methodModifiers).bind fun modifiers => ?_
  refine (agree_propertyKey hg _).bind fun _ => agree_peek.bind fun next => ?_
  refine agree_ite ((agree_method hg _ _ _).bind fun _ => agree_pure _) ?_
  refine agree_ite (agree_fail next _) ((agree_consumeIf _).bind fun _ => ?_)
  exact agree_optional (agree_fieldValue hg _ _) (agree_requireSemicolon.bind fun _ => agree_pure _)

theorem agree_classMember (ctx : Context) : Agree n (classMember g ctx) (classMember g' ctx) := by
  refine (agree_consumeIf _).bind fun _ => agree_ite (agree_pure _) ?_
  refine agree_peek2.bind fun (a, b) => agree_ite (agree_fail a _) (agree_ite ?_ ?_)
  · refine agree_consume.bind fun _ => agree_peek.bind fun next => ?_
    exact agree_ite (agree_staticBlock hg _) (agree_classProperty hg _ _)
  · exact agree_classProperty hg _ _

theorem agree_classDefinition (ctx : Context) (kind : DefinitionKind) :
    Agree n (classDefinition g ctx kind) (classDefinition g' ctx kind) := by
  refine (agree_require _).bind fun keyword => (agree_definitionName ..).bind fun name => ?_
  refine (agree_enterNameScope ..).bind fun inner => (agree_consumeIf _).bind fun _ => ?_
  have hmembers : Agree n (loopWhile do
        if ← consumeIf .braceClose then pure false
        else
          classMember g inner
          pure true) (loopWhile do
        if ← consumeIf .braceClose then pure false
        else
          classMember g' inner
          pure true) :=
    agree_loopWhile ((agree_consumeIf _).bind fun _ => agree_ite (agree_pure _)
      ((agree_classMember hg _).bind fun _ => agree_pure _))
  have hrest := (agree_require .braceOpen).bind fun _ => hmembers.bind fun _ =>
    agree_lastEnd.bind fun stop =>
      agree_pure (n := n) (⟨⟨keyword.span.start, stop⟩, name, keyword.span.stop⟩ : Definition)
  exact agree_ite ((hg.lhsExpr _).bind fun _ => hrest) hrest

theorem agree_classExpr (ctx : Context) : Agree n (classExpr g ctx) (classExpr g' ctx) :=
  (agree_classDefinition hg ctx _).bind fun _ => agree_pure _

/-! ## Operands -/

theorem agree_template (ctx : Context) : Agree n (template g ctx) (template g' ctx) := by
  refine agree_consume.bind fun first => agree_loop (fun t => ?_) first
  split
  · exact agree_pure _
  · exact (agree_expression hg _).bind fun _ => agree_templateContinue fun _ => keeps_pure _
  · exact agree_fail t _
  · exact agree_fail t _
  · exact agree_fail t _

theorem agree_callArguments (ctx : Context) :
    Agree n (callArguments g ctx) (callArguments g' ctx) := by
  refine (agree_require _).bind fun _ => (agree_separatedList _ _ ?_).bind fun _ => agree_lastEnd
  exact (agree_consumeIf _).bind fun _ => (hg.assignExpr _).bind fun _ => agree_pure _

theorem agree_computedMember (ctx : Context) (e : Expr) :
    Agree n (computedMember g ctx e) (computedMember g' ctx e) := by
  refine agree_consume.bind fun _ => (agree_expression hg _).bind fun _ => ?_
  exact (agree_require _).bind fun _ => agree_pure _

theorem agree_call (ctx : Context) (e : Expr) : Agree n (call g ctx e) (call g' ctx e) := by
  refine (agree_callArguments hg ctx).bind fun _ => (agree_markSideEffect ctx).bind fun _ => ?_
  exact agree_pure _

theorem agree_callChain (ctx : Context) (callsAllowed : Bool) (first : Expr) :
    Agree n (callChain g ctx callsAllowed first) (callChain g' ctx callsAllowed first) := by
  refine agree_loop (fun e => agree_peek.bind fun t => ?_) first
  have hmember : Agree n (memberName >>= fun name =>
      pure (Round.again (β := Expr) (α := Expr) ⟨e.span.join name.span, .member⟩)) _ :=
    agree_memberName.bind fun _ => agree_pure _
  have htemplate := (agree_template hg ctx).bind fun stop =>
    (agree_markSideEffect ctx).bind fun _ => agree_pure (n := n) (Round.again (β := Expr) (α := Expr) ⟨⟨e.span.start, stop⟩, .call⟩)
  split
  · exact agree_consume.bind fun _ => hmember
  · refine agree_ite (agree_consume.bind fun _ => agree_peek.bind fun next => ?_) (agree_pure _)
    split
    · exact (agree_call hg ctx e).map _
    · exact (agree_computedMember hg ctx e).map _
    · exact hmember
  · exact (agree_computedMember hg ctx e).map _
  · exact agree_ite ((agree_call hg ctx e).map _) (agree_pure _)
  · exact htemplate
  · exact htemplate
  · exact agree_pure _

theorem agree_arrayLiteral (ctx : Context) :
    Agree n (arrayLiteral g ctx) (arrayLiteral g' ctx) := by
  refine (agree_self (reads_requireIn (by decide) _).keeps).bind fun opening => ?_
  refine (agree_loopWhile ?_).bind fun _ => agree_lastEnd.bind fun _ => agree_pure _
  refine (agree_consumeIf _).bind fun _ => agree_ite (agree_pure _) ?_
  refine (agree_consumeIf _).bind fun _ => agree_ite (agree_pure _) ?_
  refine (agree_consumeIf _).bind fun _ => (hg.assignExpr _).bind fun _ => ?_
  refine (agree_consumeIf _).bind fun _ => agree_ite (agree_pure _) ?_
  exact (agree_require _).bind fun _ => agree_pure _

theorem agree_objectMember (ctx : Context) :
    Agree n (objectMember g ctx) (objectMember g' ctx) := by
  have hvalue := (hg.assignExpr ctx).bind fun _ => agree_pure (n := n) ()
  refine (agree_consumeIf _).bind fun _ => agree_ite hvalue ?_
  refine (agree_self keeps_methodModifiers).bind fun modifiers => agree_peek.bind fun t => ?_
  refine (agree_propertyKey hg _).bind fun key => agree_peek.bind fun next => ?_
  refine agree_ite ((agree_method hg _ _ _).bind fun _ => agree_pure _) ?_
  refine agree_ite (agree_fail next _) ((agree_consumeIf _).bind fun _ => agree_ite hvalue ?_)
  refine agree_ite ((agree_refer ..).bind fun _ => (agree_consumeIf _).bind fun _ => ?_)
    (agree_fail next _)
  exact agree_ite hvalue (agree_pure _)

theorem agree_objectLiteral (ctx : Context) :
    Agree n (objectLiteral g ctx) (objectLiteral g' ctx) := by
  refine (agree_self (reads_requireIn (by decide) _).keeps).bind fun opening => ?_
  refine (agree_separatedList _ _ (agree_objectMember hg _)).bind fun _ => ?_
  exact agree_lastEnd.bind fun _ => agree_pure _

theorem agree_parenthesized (ctx : Context) :
    Agree n (parenthesized g ctx) (parenthesized g' ctx) := by
  refine agree_slash.bind fun _ => (agree_expression hg _).bind fun _ => ?_
  exact (agree_require _).bind fun _ => agree_pure _

theorem agree_primaryExpr (ctx : Context) : Agree n (primaryExpr g ctx) (primaryExpr g' ctx) := by
  refine (agree_peekIn _).bind fun t => ?_
  have hliteral := agree_slash.bind fun _ => agree_pure (n := n) (Expr.other t.span)
  have htemplate := (agree_template hg ctx).bind fun stop =>
    agree_pure (n := n) (Expr.other ⟨t.span.start, stop⟩)
  split
  · refine (agree_self keeps_asyncFunctionAhead).bind fun _ => ?_
    exact agree_ite (agree_functionExpr hg ctx) (agree_variableUse ctx)
  any_goals exact hliteral
  any_goals exact htemplate
  · exact agree_parenthesized hg ctx
  · exact agree_arrayLiteral hg ctx
  · exact agree_objectLiteral hg ctx
  · exact agree_functionExpr hg ctx
  · exact agree_classExpr hg ctx
  · refine agree_slash.bind fun _ => agree_peek.bind fun _ => ?_
    exact agree_ite (agree_pure _) (agree_fail t _)
  · exact agree_fail t _
  · exact agree_fail t _
  · exact agree_ite (agree_variableUse ctx) (agree_fail t _)

theorem agree_newLevel (ctx : Context) : Agree n (newLevel g ctx) (newLevel g' ctx) := by
  refine agree_slash.bind fun keyword => (agree_consumeIf _).bind fun _ => ?_
  refine agree_ite (agree_metaProperty keyword _ _) ((agree_markSideEffect ctx).bind fun _ => ?_)
  refine (agree_peekIn _).bind fun t => ?_
  refine agree_choice (hg.newExpr ctx) (agree_primaryExpr hg ctx) fun operand => ?_
  refine (agree_callChain hg ctx _ operand).bind fun callee => agree_peek.bind fun next => ?_
  exact agree_choice (agree_callArguments hg ctx) (agree_pure _) fun _ => agree_pure _

theorem agree_importExpr (ctx : Context) : Agree n (importExpr g ctx) (importExpr g' ctx) := by
  refine agree_slash.bind fun keyword => (agree_consumeIf _).bind fun _ => ?_
  refine agree_ite (agree_metaProperty keyword _ _) ((agree_require _).bind fun _ => ?_)
  refine (agree_markSideEffect ctx).bind fun _ => (agree_peekIn _).bind fun first => ?_
  refine (hg.assignExpr _).bind fun argument => (agree_consumeIf _).bind fun _ => ?_
  have hclose := (agree_require .parenthesisClose).bind fun close =>
    (agree_recordDynamicImport (n := n) ctx first argument.span (keyword.span.join close.span)).bind
      fun _ => agree_pure (⟨keyword.span.join close.span, .call⟩ : Expr)
  refine agree_ite (agree_peek.bind fun next => agree_ite ?_ hclose) hclose
  exact (hg.assignExpr _).bind fun _ => (agree_consumeIf _).bind fun _ => hclose

theorem agree_lhsLevel (ctx : Context) : Agree n (lhsLevel g ctx) (lhsLevel g' ctx) := by
  refine (agree_peekIn _).bind fun t => ?_
  have hchain := fun operand => agree_callChain hg ctx true operand
  split
  · exact (agree_newLevel hg ctx).bind hchain
  · exact agree_slash.bind fun _ => hchain _
  · exact (agree_importExpr hg ctx).bind hchain
  · exact (agree_primaryExpr hg ctx).bind hchain

theorem agree_unaryOperation (ctx : Context) (isObservable : Bool) :
    Agree n (unaryOperation g ctx isObservable) (unaryOperation g' ctx isObservable) := by
  refine agree_slash.bind fun operator => agree_optional (agree_markSideEffect ctx) ?_
  exact (hg.unaryExpr ctx).bind fun _ => agree_pure _

theorem agree_postfixExpr (ctx : Context) : Agree n (postfixExpr g ctx) (postfixExpr g' ctx) := by
  refine (hg.lhsExpr ctx).bind fun operand => agree_peek.bind fun t => agree_ite ?_ (agree_pure _)
  exact agree_consume.bind fun _ => (agree_markSideEffect ctx).bind fun _ => agree_pure _

theorem agree_unaryLevel (ctx : Context) : Agree n (unaryLevel g ctx) (unaryLevel g' ctx) := by
  refine (agree_peekIn _).bind fun t => ?_
  split
  any_goals exact agree_unaryOperation hg ctx _
  · exact agree_ite (agree_unaryOperation hg ctx _) (agree_postfixExpr hg ctx)
  · exact agree_postfixExpr hg ctx

/-! ## Operators and arrow functions -/

theorem agree_yieldExpr (ctx : Context) : Agree n (yieldExpr g ctx) (yieldExpr g' ctx) := by
  refine agree_consume.bind fun keyword => (agree_markSideEffect ctx).bind fun _ => ?_
  refine agree_peek.bind fun next => ?_
  refine agree_choice (agree_pure _) (agree_consumeIf _) fun delegates => ?_
  refine (agree_peekIn _).bind fun operand => agree_ite ?_ (agree_pure _)
  exact (hg.assignExpr ctx).bind fun _ => agree_pure _

theorem agree_arrowParameters (ctx : Context) :
    Agree n (arrowParameters g ctx) (arrowParameters g' ctx) := by
  refine agree_peek.bind fun t => agree_ite ?_ (agree_ite ?_ (agree_pure _))
  · exact agree_consume.bind fun _ => (agree_declare ..).bind fun _ => agree_pure _
  · exact agree_succeeds (agree_functionParameters hg ctx)

theorem agree_arrowHead (ctx : Context) : Agree n (arrowHead g ctx) (arrowHead g' ctx) := by
  refine agree_peek2.bind fun (a, b) => agree_optional agree_consume ?_
  refine (agree_enterScope _ _).bind fun scope => (agree_arrowParameters hg _).bind fun found => ?_
  refine agree_ite (agree_peek.bind fun arrow => agree_ite ?_ (agree_pure _)) (agree_pure _)
  exact agree_consume.bind fun _ => agree_ite (agree_fail arrow _) (agree_pure _)

theorem agree_arrowBody (ctx : Context) (inAllowed : Bool) :
    Agree n (arrowBody g ctx inAllowed) (arrowBody g' ctx inAllowed) := by
  refine agree_peek.bind fun t => agree_ite (agree_functionBody hg ctx) ?_
  exact (hg.assignExpr _).bind fun _ => agree_pure _

theorem agree_arrowFunction (ctx : Context) :
    Agree n (arrowFunction g ctx) (arrowFunction g' ctx) := by
  refine agree_peek.bind fun start => (agree_attempt (agree_arrowHead hg ctx)).bind fun head => ?_
  split
  · exact agree_pure _
  · exact (agree_arrowBody hg _ _).bind fun _ => agree_pure _

/-! ## Statements -/

theorem agree_block (ctx : Context) : Agree n (block g ctx) (block g' ctx) := by
  refine (agree_require _).bind fun _ => (agree_enterScope _ _).bind fun scope => ?_
  exact (agree_statements hg _ _).bind fun _ => (agree_require _).bind fun _ => agree_pure _

theorem agree_parenthesizedCondition (ctx : Context) :
    Agree n (parenthesizedCondition g ctx) (parenthesizedCondition g' ctx) := by
  refine (agree_require _).bind fun _ => (agree_expression hg _).bind fun _ => ?_
  exact (agree_require _).bind fun _ => agree_pure _

theorem agree_expressionStatement (ctx : Context) :
    Agree n (expressionStatement g ctx) (expressionStatement g' ctx) :=
  (agree_expression hg ctx).bind fun _ => agree_requireSemicolon

theorem agree_variableDeclaration (ctx : Context) (kind : DeclarationKind) (inForHead : Bool) :
    Agree n (variableDeclaration g ctx kind inForHead)
      (variableDeclaration g' ctx kind inForHead) := by
  refine agree_consume.bind fun _ => agree_loopWhile ?_
  have hdeclarator : Agree n (declarator g ctx kind inForHead)
      (declarator g' ctx kind inForHead) := by
    refine (hg.pattern _ _).bind fun _ => (agree_consumeIf _).bind fun _ => ?_
    refine agree_ite ((hg.assignExpr ctx).bind fun _ => agree_pure _) ?_
    refine agree_ite (agree_peek.bind fun next => ?_) (agree_pure _)
    exact agree_ite (agree_pure _) (agree_fail next _)
  exact hdeclarator.bind fun _ => agree_consumeIf _

theorem agree_variableStatement (ctx : Context) (kind : DeclarationKind) :
    Agree n (variableStatement g ctx kind) (variableStatement g' ctx kind) :=
  (agree_variableDeclaration hg ctx kind false).bind fun _ => agree_requireSemicolon

theorem agree_ifStatement (ctx : Context) : Agree n (ifStatement g ctx) (ifStatement g' ctx) := by
  refine agree_consume.bind fun _ => (agree_parenthesizedCondition hg ctx).bind fun _ => ?_
  refine (hg.statement ctx).bind fun _ => (agree_consumeIf _).bind fun _ => ?_
  exact agree_ite (hg.statement ctx) (agree_pure _)

theorem agree_whileStatement (ctx : Context) :
    Agree n (whileStatement g ctx) (whileStatement g' ctx) := by
  refine agree_consume.bind fun _ => (agree_parenthesizedCondition hg ctx).bind fun _ => ?_
  exact hg.statement _

theorem agree_doStatement (ctx : Context) : Agree n (doStatement g ctx) (doStatement g' ctx) := by
  refine agree_consume.bind fun _ => (hg.statement _).bind fun _ => ?_
  refine (agree_require _).bind fun _ => ?_
  refine (agree_parenthesizedCondition hg ctx).bind fun _ => ?_
  exact (agree_consumeIf _).bind fun _ => agree_pure _

theorem agree_forInit (ctx : Context) : Agree n (forInit g ctx) (forInit g' ctx) := by
  refine (agree_peekIn _).bind fun t => ?_
  split
  · exact agree_pure _
  any_goals exact agree_variableDeclaration hg ctx _ true
  · exact (agree_expression hg ctx).bind fun _ => agree_pure _

theorem agree_expressionUnless (ctx : Context) (type : TokenType) :
    Agree n (expressionUnless g ctx type) (expressionUnless g' ctx type) := by
  refine (agree_peekIn _).bind fun t => agree_ite ?_ (agree_pure _)
  exact (agree_expression hg ctx).bind fun _ => agree_pure _

theorem agree_forRest (ctx : Context) : Agree n (forRest g ctx) (forRest g' ctx) := by
  refine (agree_consumeIf _).bind fun _ => agree_ite ?_ ?_
  · exact (hg.assignExpr ctx).bind fun _ => agree_pure _
  refine (agree_consumeIf _).bind fun _ => agree_ite ?_ ?_
  · exact (agree_expression hg ctx).bind fun _ => agree_pure _
  refine (agree_require _).bind fun _ => (agree_expressionUnless hg ctx _).bind fun _ => ?_
  exact (agree_require _).bind fun _ => agree_expressionUnless hg ctx _

theorem agree_forStatement (ctx : Context) :
    Agree n (forStatement g ctx) (forStatement g' ctx) := by
  refine agree_consume.bind fun _ => agree_optional (agree_consumeIf _) ?_
  refine (agree_require _).bind fun _ => (agree_enterScope _ _).bind fun scope => ?_
  refine (agree_forInit hg _).bind fun _ => (agree_forRest hg _).bind fun _ => ?_
  exact (agree_require _).bind fun _ => hg.statement _

theorem agree_caseLabel (ctx : Context) : Agree n (caseLabel g ctx) (caseLabel g' ctx) := by
  refine agree_consume.bind fun t => ?_
  have hcolon := (agree_require (n := n) .colon).bind fun _ => agree_pure ()
  dsimp only
  split
  · exact (agree_expression hg _).bind fun _ => hcolon
  · exact hcolon
  · exact (agree_fail t _).bind fun _ => hcolon
  · exact (agree_fail t _).bind fun _ => hcolon

theorem agree_caseBody (ctx : Context) : Agree n (caseBody g ctx) (caseBody g' ctx) := by
  refine agree_loopWhile (agree_peek.bind fun t => ?_)
  split
  any_goals exact agree_pure _
  · exact agree_fail t _
  · exact (hg.statement ctx).bind fun _ => agree_pure _

theorem agree_switchStatement (ctx : Context) :
    Agree n (switchStatement g ctx) (switchStatement g' ctx) := by
  refine agree_consume.bind fun _ => (agree_parenthesizedCondition hg ctx).bind fun _ => ?_
  refine (agree_require _).bind fun _ => (agree_enterScope _ _).bind fun scope => ?_
  refine (agree_loopWhile ?_).bind fun _ => agree_pure _
  refine (agree_consumeIf _).bind fun _ => agree_ite (agree_pure _) ?_
  exact (agree_caseLabel hg _).bind fun _ => (agree_caseBody hg _).bind fun _ => agree_pure _

theorem agree_returnStatement (ctx : Context) :
    Agree n (returnStatement g ctx) (returnStatement g' ctx) := by
  refine agree_consume.bind fun keyword => agree_ite ?_ (agree_fail keyword _)
  refine (agree_peekIn _).bind fun t => ?_
  exact agree_optional (agree_expression hg ctx) agree_requireSemicolon

theorem agree_throwStatement (ctx : Context) :
    Agree n (throwStatement g ctx) (throwStatement g' ctx) := by
  refine agree_consume.bind fun _ => (agree_peekIn _).bind fun t => ?_
  exact agree_ite (agree_fail t _) (agree_expressionStatement hg ctx)

theorem agree_catchClause (ctx : Context) :
    Agree n (catchClause g ctx) (catchClause g' ctx) := by
  refine (agree_enterScope _ _).bind fun scope => (agree_consumeIf _).bind fun _ => ?_
  have hblock := (agree_block hg (ctx.within scope)).bind fun _ => agree_pure (n := n) ()
  exact agree_ite ((hg.pattern _ _).bind fun _ => (agree_require _).bind fun _ => hblock) hblock

theorem agree_tryStatement (ctx : Context) :
    Agree n (tryStatement g ctx) (tryStatement g' ctx) := by
  refine agree_consume.bind fun keyword => (agree_block hg ctx).bind fun _ => ?_
  refine (agree_consumeIf _).bind fun caught => agree_optional (agree_catchClause hg ctx) ?_
  refine (agree_consumeIf _).bind fun finalized => agree_optional (agree_block hg ctx) ?_
  exact agree_ite (agree_pure _) (agree_fail keyword _)

theorem agree_labelledStatement (ctx : Context) :
    Agree n (labelledStatement g ctx) (labelledStatement g' ctx) := by
  refine (agree_self keeps_labels).bind fun read => agree_peek.bind fun t => ?_
  exact (agree_labelContext _ ctx read).bind fun inner => hg.statement inner

theorem agree_functionStatement (ctx : Context) :
    Agree n (functionStatement g ctx) (functionStatement g' ctx) :=
  (agree_function hg ctx _).bind fun _ => agree_pure _

theorem agree_openStatement (ctx : Context) (first : TokenType) :
    Agree n (openStatement g ctx first) (openStatement g' ctx first) := by
  refine agree_ite (agree_peek2.bind fun (_, next) => ?_) (agree_expressionStatement hg ctx)
  exact agree_ite (agree_labelledStatement hg ctx) (agree_expressionStatement hg ctx)

theorem agree_statementLevel (ctx : Context) :
    Agree n (statementLevel g ctx) (statementLevel g' ctx) := by
  refine (agree_peekIn _).bind fun t => ?_
  split
  · exact (agree_block hg ctx).bind fun _ => agree_pure _
  · exact agree_consume.bind fun _ => agree_pure _
  · exact agree_variableStatement hg ctx _
  · exact agree_variableStatement hg ctx _
  · exact agree_variableStatement hg ctx _
  · exact agree_functionStatement hg ctx
  · refine agree_declarationAhead.bind fun _ => ?_
    exact agree_ite (agree_functionStatement hg ctx) (agree_openStatement hg ctx _)
  · exact (agree_classDefinition hg ctx _).bind fun _ => agree_pure _
  · exact agree_ifStatement hg ctx
  · exact agree_forStatement hg ctx
  · exact agree_whileStatement hg ctx
  · exact agree_doStatement hg ctx
  · exact agree_returnStatement hg ctx
  · exact agree_self (reads_jumpStatement ctx).keeps
  · exact agree_self (reads_jumpStatement ctx).keeps
  · exact agree_throwStatement hg ctx
  · exact agree_tryStatement hg ctx
  · exact agree_switchStatement hg ctx
  · exact agree_consume.bind fun _ => agree_requireSemicolon
  · exact agree_fail t _
  · refine agree_peek2.bind fun (_, next) => ?_
    exact agree_ite (agree_expressionStatement hg ctx) (agree_fail t _)
  · exact agree_fail t _
  · exact agree_openStatement hg ctx _

/-! ## Modules -/

theorem agree_exportedDeclaration (ctx : Context) (strip : Span) :
    Agree n (exportedDeclaration g ctx strip) (exportedDeclaration g' ctx strip) := by
  refine (agree_self keeps_declarationCount).bind fun start => (hg.statement ctx).bind fun _ => ?_
  exact (agree_modify fun _ => by rfl).bind fun _ => agree_pure _

theorem agree_defaultDefinition (ctx : Context) (isFunction : Bool) :
    Agree n (defaultDefinition g ctx isFunction) (defaultDefinition g' ctx isFunction) := by
  refine agree_choice (agree_function hg ctx _) (agree_classDefinition hg ctx _) fun _ => ?_
  exact agree_optional (agree_declare ..) (agree_pure _)

theorem agree_exportDefault (ctx : Context) (keyword : Span) :
    Agree n (exportDefault g ctx keyword) (exportDefault g' ctx keyword) := by
  refine agree_consume.bind fun word => (agree_peekIn _).bind fun next => ?_
  refine (agree_self (keeps_functionAhead next)).bind fun isFunction => agree_ite ?_ ?_
  · refine (agree_defaultDefinition hg ctx _).bind fun definition => ?_
    exact (agree_modify fun _ => by rfl).bind fun _ => agree_pure _
  · refine (agree_declare ..).bind fun _ => (hg.assignExpr _).bind fun e => ?_
    refine agree_requireSemicolon.bind fun missing => ?_
    exact (agree_modify fun _ => by rfl).bind fun _ => agree_pure _

theorem agree_exportDeclaration (ctx : Context) :
    Agree n (exportDeclaration g ctx) (exportDeclaration g' ctx) := by
  refine (agree_require _).bind fun keyword => agree_peek.bind fun t => ?_
  split
  · exact agree_exportDefault hg ctx _
  · exact agree_self reads_exportStar.keeps
  · exact agree_self reads_exportList.keeps
  · refine agree_declarationAhead.bind fun _ => ?_
    exact agree_ite (agree_exportedDeclaration hg ctx _) (agree_fail t _)

theorem agree_moduleItemBody (ctx : Context) (first : Token) :
    Agree n (moduleItemBody g ctx first) (moduleItemBody g' ctx first) := by
  have hrest : ∀ isImport : Bool, Agree n (do
      if isImport then importDeclaration ctx
      else if first.type = .keywordExport then exportDeclaration g ctx
      else
        let isDeclaration ← declarationAhead
        let missing ← g.statement ctx
        pure (if isDeclaration then ItemKind.declaration else .statement, missing)) (do
      if isImport then importDeclaration ctx
      else if first.type = .keywordExport then exportDeclaration g' ctx
      else
        let isDeclaration ← declarationAhead
        let missing ← g'.statement ctx
        pure (if isDeclaration then ItemKind.declaration else .statement, missing)) := by
    intro isImport
    refine agree_ite (agree_importDeclaration ctx) (agree_ite (agree_exportDeclaration hg ctx) ?_)
    exact agree_declarationAhead.bind fun _ => (hg.statement ctx).bind fun _ => agree_pure _
  exact agree_ite (agree_peek2.bind fun (_, next) => hrest _) ((agree_pure _).bind hrest)

theorem agree_moduleItem (ctx : Context) : Agree n (moduleItem g ctx) (moduleItem g' ctx) := by
  refine (agree_peekIn _).bind fun first => (agree_modify fun _ => by rfl).bind fun _ => ?_
  refine (agree_self keeps_declarationCount).bind fun declarations => ?_
  refine agree_referenceCount.bind fun references => ?_
  refine (agree_moduleItemBody hg ctx first).bind fun (kind, missing) => ?_
  exact agree_modify fun _ => rfl

theorem agree_moduleRest (ctx : Context) : Agree n (moduleRest g ctx) (moduleRest g' ctx) := by
  have hitems := agree_loopWhile (agree_peek.bind fun t =>
    agree_ite (c := t.type = .eof) (agree_pure false)
      ((agree_moduleItem hg ctx).bind fun _ => agree_pure true))
  refine hitems.bind fun _ => (agree_require .eof).bind fun _ => ?_
  refine agree_record fun s record s' h => ?_
  obtain ⟨_, _, hget, h⟩ := stateBind_eq_ok.mp h
  cases hget
  obtain ⟨tree, htree, h⟩ := bind_eq_ok.mp ((liftBind_run _ _ _).symm.trans h)
  cases h
  rfl

end

end ModuleBundler
