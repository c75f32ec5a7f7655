import ModuleBundler.Proofs.Productions.Module

/-!
# The spans of expressions

* `SpanRead` : from one state to another all of a span is read; `SpanRead.join`, `SpanRead.upto` :
  spans that reach further;
* `Stops`, `Spans` : readers that answer where they stop, or with expressions that span what they
  read;
* `Grammar.Spanned`, `Grammar.spanned_ofDepth` : so do all readers of expressions, however deep
  the text nests;
* `ItemKind.ValueRead`, `answers_moduleItemBody_value` : the value of a default export goes from a
  token to such.
-/

namespace ModuleBundler

open Cursor (Leads)

variable {scope : ScopeId} {g : Grammar} {s s₁ s₂ s' : ParserState}

/-! ## Spans that are read -/

/-- From one state to another all of a span is read, from where its first token begins. -/
structure SpanRead (scope : ScopeId) (s : ParserState) (span : Span) (s' : ParserState) : Prop where
  step : Step OwnKind scope s s'
  reads : ReadsOn s s'
  span : span = ⟨s.place.tokenStart.offset, s'.place.offset⟩

theorem TokenRead.spanRead {t : Token} (h : TokenRead OwnKind scope s t s') :
    SpanRead scope s t.span s' := ⟨h.step, h.reads, h.span⟩

namespace SpanRead

variable {span more : Span}

/-- More is read after a span, to where it ends now. -/
theorem upto (h : SpanRead scope s span s₁) (hstep : Step OwnKind scope s₁ s') {stop : Nat}
    (hstop : stop = s'.tokens.lastEnd) : SpanRead scope s ⟨span.start, stop⟩ s' := by
  refine ⟨h.step.trans hstep, hstep.later.readsOn h.reads, ?_⟩
  rw [h.span, hstop, hstep.chained.lastEnd_eq]
  rfl

/-- A span is read after another one. -/
theorem join (h : SpanRead scope s span s₁) (hstep : Step OwnKind scope s₁ s₂)
    (hmore : SpanRead scope s₂ more s') : SpanRead scope s (span.join more) s' := by
  have hrest := hstep.trans hmore.step
  refine ⟨h.step.trans hrest, hrest.later.readsOn h.reads, ?_⟩
  have hfirst := h.reads.1.offset_le
  have hmid := (hstep.leads.trans (leads_tokenStart s₂.place)).offset_le
  have hlast := hmore.reads.1.offset_le
  rw [h.span, hmore.span]
  unfold Span.join
  dsimp only
  rw [Nat.min_eq_left (by omega), Nat.max_eq_right (by omega)]

/-- Nothing is read afterwards. -/
theorem stay (h : SpanRead scope s span s₁) (hstep : Step OwnKind scope s₁ s')
    (hplace : s'.place = s₁.place) : SpanRead scope s span s' := by
  refine ⟨h.step.trans hstep, hstep.later.readsOn h.reads, ?_⟩
  rw [h.span, hplace]

/-- Nothing is read before. -/
theorem after (h : SpanRead scope s₁ span s') (hstep : Step OwnKind scope s s₁)
    (hplace : s₁.place = s.place) : SpanRead scope s span s' := by
  refine ⟨hstep.trans h.step, hstep.readsOn h.step.later h.reads, ?_⟩
  rw [h.span, hplace]

/-- It ends where the last token does. -/
theorem stop (h : SpanRead scope s span s') : span.stop = s'.tokens.lastEnd := by
  rw [h.span, h.step.chained.lastEnd_eq]
  rfl

theorem edges (h : SpanRead scope s span s') : TokenEdges s'.tokens.behind span := by
  rw [h.span]
  exact ⟨h.reads.edge, h.reads.edge_place h.step.chained⟩

end SpanRead

/-! ## Readers -/

/-- The answers of the reader are where the last token ends. -/
def Stops (p : Parse Nat) : Prop := ∀ s, Answers s p fun stop s' => stop = s'.tokens.lastEnd

/-- The expressions that the reader gives span what it reads. -/
def Spans (p : Parse Expr) (scope : ScopeId) : Prop :=
  ∀ ⦃s⦄, s.tokens.Chained → Answers s p fun e s' => SpanRead scope s e.span s'

theorem stops_lastEnd : Stops lastEnd := by
  intro s stop s' heq
  cases heq
  rfl

theorem spans_fail (t : Token) (cause : SyntaxError.Cause) : Spans (t.fail cause) scope :=
  fun _ _ => answers_fail t cause

theorem spans_ite {c : Prop} [Decidable c] {p q : Parse Expr} (hp : Spans p scope)
    (hq : Spans q scope) : Spans (if c then p else q) scope := by
  split
  · exact hp
  · exact hq

/-- A token that is read ends where the last token does. -/
theorem answers_consumeIn_stop (mode : LexMode) (s : ParserState) :
    Answers s (consumeIn mode) fun t s' => t.span.stop = s'.tokens.lastEnd := by
  intro t s' heq
  have hsome : (s.tokens.fill mode 1).ahead ≠ [] := by
    change TokenStream.lookAhead mode 1 s.tokens.position s.tokens.ahead ≠ []
    cases s.tokens.ahead with
    | nil => exact List.cons_ne_nil _ _
    | cons next rest =>
      rw [TokenStream.lookAhead]
      split
      · exact List.cons_ne_nil _ _
      · exact List.cons_ne_nil _ _
  obtain ⟨next, rest, hahead⟩ := List.exists_cons_of_ne_nil hsome
  have hadvance : s.tokens.advance mode =
      (next.token, { s.tokens.fill mode 1 with
        behind := next :: (s.tokens.fill mode 1).behind, ahead := rest }) := by
    unfold TokenStream.advance
    dsimp only
    rw [hahead]
  cases heq
  change (s.tokens.advance mode).1.span.stop = (s.tokens.advance mode).2.lastEnd
  rw [hadvance]
  rfl

theorem answers_require_stop (type : TokenType) (s : ParserState) :
    Answers s (require type) fun t s' => t.span.stop = s'.tokens.lastEnd :=
  (answers_consumeIn_stop .standard s).bind fun t _ hstop =>
    answers_ite (fun _ => answers_pure hstop) fun _ => answers_fail t _

/-- What a reader reads is known, and so is the span of its answer. -/
theorem Reads.spans {p : Parse Expr} (hp : Reads OwnKind p scope)
    (h : ∀ ⦃s⦄, s.tokens.Chained → Answers s p fun e s' =>
      e.span = ⟨s.place.tokenStart.offset, s'.tokens.lastEnd⟩) : Spans p scope := by
  intro s hs e s' heq
  obtain ⟨hstep, hreads⟩ := hp hs heq
  refine ⟨hstep, hreads, ?_⟩
  rw [h hs heq, hstep.chained.lastEnd_eq]
  rfl

/-- What is looked at is not read yet. -/
theorem spans_peekIn {mode : LexMode} (hmode : mode ≠ .templateContinue) {f : Token → Parse Expr}
    (h : ∀ (t : Token) ⦃s⦄, s.tokens.Chained → t.span.start = s.place.tokenStart.offset →
      Answers s (f t) fun e s' => SpanRead scope s e.span s') :
    Spans (peekIn mode >>= f) scope := by
  intro s hs
  refine (answers_peekIn OwnKind scope mode hs).bind fun t s₁ ht => ?_
  exact (h t ht.step.chained (ht.start hmode)).mono fun _ _ hread => hread.after ht.step ht.place

theorem answers_markSideEffect_place (ctx : Context) (hs : s.tokens.Chained) :
    Answers s (markSideEffect ctx) fun _ s' =>
      Step OwnKind ctx.scope s s' ∧ s'.place = s.place :=
  answers_modify.mono fun _ _ heq => heq ▸ ⟨.withSideEffects hs _, rfl⟩

/-- Two tokens are looked at and not read. -/
theorem answers_peek2_place (scope : ScopeId) (hs : s.tokens.Chained) :
    Answers s peek2 fun _ s' => Step OwnKind scope s s' ∧ s'.place = s.place := by
  intro pair s' heq
  obtain ⟨-, hstays⟩ := hs.peek2_spec
  cases heq
  exact ⟨.ofTokens hstays, hstays.position⟩

/-- A token is read if it is of a type; otherwise nothing is. -/
theorem answers_consumeIf_place (scope : ScopeId) (type : TokenType) (hs : s.tokens.Chained) :
    Answers s (consumeIf type) fun taken s' =>
      Step OwnKind scope s s' ∧ (taken = false → s'.place = s.place) := by
  refine (answers_peekIn OwnKind scope _ hs).bind fun t s₁ ht => ?_
  refine answers_ite (fun _ => ?_) fun _ => answers_pure ⟨ht.step, fun _ => ht.place⟩
  exact (ht.step.answers reads_consume.keeps).bind fun _ s₂ hstep => answers_pure ⟨hstep, nofun⟩

theorem answers_requireIn_start {mode : LexMode} (hmode : mode ≠ .templateContinue)
    (type : TokenType) (hs : s.tokens.Chained) :
    Answers s (requireIn mode type) fun t _ => t.span.start = s.place.tokenStart.offset := by
  refine (answers_token OwnKind moduleScope hmode hs).bind fun t s₁ ht => ?_
  exact answers_ite (fun _ => answers_pure (by rw [ht.span])) fun _ => answers_fail t _

/-- What the readers of expressions of a level give spans what they read. -/
structure Grammar.Spanned (g : Grammar) : Prop where
  assignExpr : ∀ ctx, Spans (g.assignExpr ctx) ctx.scope
  unaryExpr : ∀ ctx, Spans (g.unaryExpr ctx) ctx.scope
  lhsExpr : ∀ ctx, Spans (g.lhsExpr ctx) ctx.scope
  newExpr : ∀ ctx, Spans (g.newExpr ctx) ctx.scope

/-! ## Members, calls and templates -/

theorem stops_template (ctx : Context) : Stops (template g ctx) := by
  intro s
  refine (answers_consumeIn_stop .standard s).bind fun first s₁ hfirst => ?_
  -- Each part of a template ends where the reader is.
  refine answers_loop (fun (t : Token) s' => t.span.stop = s'.tokens.lastEnd)
    (fun t s₂ hstop => ?_) first hfirst
  split
  · exact answers_pure hstop
  · refine .after fun _ s₃ => .after fun _ s₄ => ?_
    exact (answers_consumeIn_stop .templateContinue s₄).bind fun next s₅ h => answers_pure h
  · exact answers_fail t _
  · exact answers_fail t _
  · exact answers_fail t _

theorem stops_callArguments (ctx : Context) : Stops (callArguments g ctx) := fun _ =>
  .after fun _ _ => .after fun _ s => stops_lastEnd s

/-- The reader goes on with what was read of an expression before. -/
def GoesOn (p : Parse Expr) (scope : ScopeId) (e : Expr) : Prop :=
  ∀ ⦃s s₁ s₂⦄, SpanRead scope s e.span s₁ → Step OwnKind scope s₁ s₂ →
    Answers s₂ p fun e' s' => SpanRead scope s e'.span s'

theorem goesOn_computedMember (hg : g.Steps) (ctx : Context) (e : Expr) :
    GoesOn (computedMember g ctx e) ctx.scope e := by
  intro s s₁ s₂ h hstep
  refine (hstep.answers reads_consume.keeps).bind fun _ s₃ hstep => ?_
  refine (hstep.answers (reads_expression hg (ctx.withIn true)).keeps).bind fun _ s₄ hstep => ?_
  refine (answers_require OwnKind ctx.scope _ hstep.chained).bind fun close s₅ ⟨hclose, _⟩ => ?_
  exact answers_pure (h.join hstep hclose.spanRead)

/-- Something is done where a reader has stopped. -/
theorem SpanRead.answers_stopped {ctx : Context} {span : Span}
    (h : SpanRead ctx.scope s span s₁) (hstep : Step OwnKind ctx.scope s₁ s₂) {p : Parse Nat}
    (hp : Reads OwnKind p ctx.scope) (hstops : Stops p) {α : Type} {f : Nat → Parse α}
    {property : α → ParserState → Prop}
    (hf : ∀ stop s₃, SpanRead ctx.scope s ⟨span.start, stop⟩ s₃ → Answers s₃ (f stop) property) :
    Answers s₂ (do
      let stop ← p
      markSideEffect ctx
      f stop) property := by
  refine ((hstep.answers hp.keeps).and (hstops s₂)).bind fun stop s₃ ⟨hstep, hstop⟩ => ?_
  refine (answers_markSideEffect_place ctx hstep.chained).bind fun _ s₄ ⟨hmark, hplace⟩ => ?_
  exact hf stop s₄ ((h.upto hstep hstop).stay hmark hplace)

theorem goesOn_call (hg : g.Steps) (ctx : Context) (e : Expr) :
    GoesOn (call g ctx e) ctx.scope e := fun _ _ _ h hstep =>
  h.answers_stopped hstep (reads_callArguments hg ctx) (stops_callArguments ctx)
    fun _ _ h => answers_pure h

/-- The name of a member is read. -/
theorem SpanRead.answers_memberName {span : Span} (h : SpanRead scope s span s₁)
    (hstep : Step OwnKind scope s₁ s₂) :
    Answers s₂ memberName fun name s' => SpanRead scope s (span.join name.span) s' := by
  refine (answers_token OwnKind scope (by decide) hstep.chained).bind fun name s₃ hname => ?_
  exact answers_ite (fun _ => answers_pure (h.join hstep hname.spanRead)) fun _ =>
    answers_fail name _

/-- One more member, call or template is read after an expression, or the end is found. -/
def RoundSpans (scope : ScopeId) (s : ParserState) : Round Expr Expr → ParserState → Prop
  | .again e, s' => SpanRead scope s e.span s'
  | .done e, s' => SpanRead scope s e.span s'

theorem Answers.again {p : Parse Expr}
    (h : Answers s₁ p fun e s' => SpanRead scope s e.span s') :
    Answers s₁ (Round.again <$> p) (RoundSpans scope s) := by
  rw [← bind_pure_comp]
  exact h.bind fun _ _ h => answers_pure h

theorem answers_callChain (hg : g.Steps) (ctx : Context) (callsAllowed : Bool) {first : Expr}
    (h : SpanRead ctx.scope s first.span s₁) :
    Answers s₁ (callChain g ctx callsAllowed first) fun e s' =>
      SpanRead ctx.scope s e.span s' := by
  refine answers_loop (fun (e : Expr) s' => SpanRead ctx.scope s e.span s')
    (fun e s₂ h => Answers.mono (?_ : Answers s₂ _ (RoundSpans ctx.scope s)) ?_) first h
  · refine (answers_peekIn OwnKind ctx.scope .standard h.step.chained).bind fun t s₃ ht => ?_
    have h := h.stay ht.step ht.place
    have hstep : Step OwnKind ctx.scope s₃ s₃ := .refl ht.step.chained
    have hname : ∀ {s₄ : ParserState}, Step OwnKind ctx.scope s₃ s₄ →
        Answers s₄ (memberName >>= fun name =>
          pure (Round.again (β := Expr) (α := Expr) ⟨e.span.join name.span, .member⟩))
          (RoundSpans ctx.scope s) := fun hstep =>
      (h.answers_memberName hstep).bind fun _ _ h => answers_pure h
    have htemplate : Answers s₃ (do
        let stop ← template g ctx
        markSideEffect ctx
        pure (Round.again (⟨⟨e.span.start, stop⟩, .call⟩ : Expr))) (RoundSpans ctx.scope s) :=
      h.answers_stopped hstep (reads_template hg ctx) (stops_template ctx)
        fun _ _ h => answers_pure h
    split
    · exact (hstep.answers reads_consume.keeps).bind fun _ s₄ hstep => hname hstep
    · refine answers_ite (fun _ => ?_) fun _ => answers_pure h
      refine (hstep.answers reads_consume.keeps).bind fun _ s₄ hstep => ?_
      refine (hstep.answers keeps_peek).bind fun next s₅ hstep => ?_
      split
      · exact (goesOn_call hg ctx e h hstep).again
      · exact (goesOn_computedMember hg ctx e h hstep).again
      · exact hname hstep
    · exact (goesOn_computedMember hg ctx e h hstep).again
    · exact answers_ite (fun _ => (goesOn_call hg ctx e h hstep).again) fun _ => answers_pure h
    · exact htemplate
    · exact htemplate
    · exact answers_pure h
  · intro next s' h
    cases next with
    | again e => exact h
    | done e => exact h

/-! ## Literals, functions and classes -/

/-- What a reader reads goes from its opening token to where it stops. -/
theorem answers_opened {mode : LexMode} (hmode : mode ≠ .templateContinue) {type : TokenType}
    (kind : ExprKind) {α : Type} {inner : Parse α} (hs : s.tokens.Chained) :
    Answers s (do
      let opening ← requireIn mode type
      let _ ← inner
      let stop ← lastEnd
      pure (⟨⟨opening.span.start, stop⟩, kind⟩ : Expr)) fun e s' =>
        e.span = ⟨s.place.tokenStart.offset, s'.tokens.lastEnd⟩ := by
  refine (answers_requireIn_start hmode type hs).bind fun opening s₁ hstart => ?_
  refine .after fun _ s₂ => (stops_lastEnd s₂).bind fun stop s₃ hstop => answers_pure ?_
  rw [hstart, hstop]

theorem spans_arrayLiteral (hg : g.Steps) (ctx : Context) :
    Spans (arrayLiteral g ctx) ctx.scope :=
  (reads_arrayLiteral hg ctx).spans fun _ => answers_opened (by decide) .arrayLiteral

theorem spans_objectLiteral (hg : g.Steps) (ctx : Context) :
    Spans (objectLiteral g ctx) ctx.scope :=
  (reads_objectLiteral hg ctx).spans fun _ => answers_opened (by decide) .objectLiteral

theorem stops_functionBody (ctx : Context) : Stops (functionBody g ctx) := fun _ =>
  .after fun _ _ => .after fun _ s => (answers_require_stop .braceClose s).bind fun _ _ hstop =>
    answers_pure hstop

theorem stops_method (ctx : Context) (isAsync isGenerator : Bool) :
    Stops (method g ctx isAsync isGenerator) := fun _ =>
  .after fun _ _ => .after fun _ s => stops_functionBody _ s

theorem spans_functionExpr (hg : g.Steps) (ctx : Context) :
    Spans (functionExpr g ctx) ctx.scope := by
  refine (reads_functionExpr hg ctx).spans fun s hs => ?_
  refine Answers.bind (?_ : Answers s (function g ctx .expression) fun definition s' =>
    definition.span = ⟨s.place.tokenStart.offset, s'.tokens.lastEnd⟩) fun _ _ h => answers_pure h
  refine (answers_peekIn OwnKind ctx.scope .standard hs).bind fun start s₁ hstart => ?_
  refine .after fun _ _ => .after fun _ _ => .after fun _ _ => .after fun _ _ => ?_
  refine .after fun _ _ => .after fun outer s₂ => ?_
  refine (stops_method outer _ _ s₂).bind fun stop s₃ hstop => answers_pure ?_
  rw [hstart.start (by decide), hstart.place, hstop]

theorem spans_classExpr (hg : g.Steps) (ctx : Context) : Spans (classExpr g ctx) ctx.scope := by
  refine (reads_classExpr hg ctx).spans fun s hs => ?_
  refine Answers.bind (?_ : Answers s (classDefinition g ctx .expression) fun definition s' =>
    definition.span = ⟨s.place.tokenStart.offset, s'.tokens.lastEnd⟩) fun _ _ h => answers_pure h
  have hend : ∀ {start : Nat} (name : Option (String × Span)) (nameAt : Nat),
      start = s.place.tokenStart.offset → ∀ s₁, Answers s₁ (do
        let stop ← lastEnd
        pure (⟨⟨start, stop⟩, name, nameAt⟩ : Definition)) fun definition s' =>
          definition.span = ⟨s.place.tokenStart.offset, s'.tokens.lastEnd⟩ := by
    intro start name nameAt hstart s₁
    refine (stops_lastEnd s₁).bind fun stop s₂ hstop => answers_pure ?_
    rw [hstart, hstop]
  refine (answers_requireIn_start (by decide) _ hs).bind fun keyword s₁ hstart => ?_
  refine .after fun _ _ => .after fun _ _ => .after fun _ _ => answers_ite (fun _ => ?_) fun _ => ?_
  · exact .after fun _ _ => .after fun _ _ => .after fun _ _ => hend _ _ hstart _
  · exact .after fun _ _ => .after fun _ _ => hend _ _ hstart _

/-! ## Operands -/

theorem spans_parenthesized (hg : g.Steps) (ctx : Context) :
    Spans (parenthesized g ctx) ctx.scope := by
  intro s hs
  refine (answers_token OwnKind ctx.scope (by decide) hs).bind fun opening s₁ hopening => ?_
  have hstep : Step OwnKind ctx.scope s₁ s₁ := .refl hopening.step.chained
  refine (hstep.answers (reads_expression hg (ctx.withIn true)).keeps).bind fun _ s₂ hstep => ?_
  refine (answers_require OwnKind ctx.scope _ hstep.chained).bind fun close s₃ ⟨hclose, _⟩ => ?_
  exact answers_pure (hopening.spanRead.join hstep hclose.spanRead)

theorem spans_variableUse (ctx : Context) : Spans (variableUse ctx) ctx.scope := by
  refine (reads_variableUse ctx).spans fun s hs => ?_
  refine (answers_token OwnKind ctx.scope (by decide) hs).bind fun t s₁ ht => ?_
  refine answers_modify.bind fun _ s₂ hs₂ => answers_pure ?_
  rw [hs₂, ht.span, ht.step.chained.lastEnd_eq]
  rfl

/-- The token that was looked at is read as an operand. -/
theorem Peeked.answers_operand {mode : LexMode} (hmode : mode ≠ .templateContinue) {t : Token}
    (h : Peeked OwnKind scope mode s t s₁) {α : Type} {f : Parse α}
    {property : α → ParserState → Prop}
    (hf : ∀ s₂, SpanRead scope s t.span s₂ → Answers s₂ f property) :
    Answers s₁ (consumeIn mode >>= fun _ => f) property :=
  (h.answers_consume hmode).bind fun _ s₂ ⟨_, hread⟩ => hf s₂ hread.spanRead

theorem spans_primaryExpr (hg : g.Steps) (ctx : Context) : Spans (primaryExpr g ctx) ctx.scope := by
  intro s hs
  refine (answers_peekIn OwnKind ctx.scope .slashIsRegex hs).bind fun t s₁ ht => ?_
  have hafter : ∀ {p : Parse Expr}, Spans p ctx.scope → Answers s₁ p fun e s' =>
      SpanRead ctx.scope s e.span s' := fun hp =>
    (hp ht.step.chained).mono fun _ _ h => h.after ht.step ht.place
  have hliteral : Answers s₁ (consumeIn .slashIsRegex >>= fun _ => pure (Expr.other t.span))
      fun e s' => SpanRead ctx.scope s e.span s' :=
    ht.answers_operand (by decide) fun _ h => answers_pure h
  have htemplate : Answers s₁ (template g ctx >>= fun stop =>
      pure (Expr.other ⟨t.span.start, stop⟩)) fun e s' => SpanRead ctx.scope s e.span s' := by
    have hread : Reads OwnKind (template g ctx >>= fun stop =>
        pure (Expr.other ⟨t.span.start, stop⟩)) ctx.scope :=
      (reads_template hg ctx).bind fun _ => keeps_pure _
    intro e s' heq
    obtain ⟨hstep, hreads⟩ := hread ht.step.chained heq
    refine SpanRead.after ⟨hstep, hreads, ?_⟩ ht.step ht.place
    have hspan : Answers s₁ (template g ctx >>= fun stop =>
        pure (Expr.other ⟨t.span.start, stop⟩)) fun e s' =>
          e.span = ⟨t.span.start, s'.tokens.lastEnd⟩ := by
      refine (stops_template ctx s₁).bind fun stop _ hstop => answers_pure ?_
      rw [hstop]
      rfl
    rw [hspan heq, ht.start (by decide), hstep.chained.lastEnd_eq]
    rfl
  split
  · have hahead : Answers s₁ asyncFunctionAhead fun _ s' =>
        Step OwnKind ctx.scope s₁ s' ∧ s'.place = s₁.place :=
      (answers_peek2_place ctx.scope ht.step.chained).bind fun _ _ h => answers_pure h
    refine hahead.bind fun _ s₂ ⟨hstep, hplace⟩ => ?_
    have hhere : ∀ {p : Parse Expr}, Spans p ctx.scope → Answers s₂ p fun e s' =>
        SpanRead ctx.scope s e.span s' := fun hp =>
      (hp hstep.chained).mono fun _ _ h => (h.after hstep hplace).after ht.step ht.place
    exact answers_ite (fun _ => hhere (spans_functionExpr hg ctx)) fun _ =>
      hhere (spans_variableUse ctx)
  any_goals exact hliteral
  any_goals exact htemplate
  · exact hafter (spans_parenthesized hg ctx)
  · exact hafter (spans_arrayLiteral hg ctx)
  · exact hafter (spans_objectLiteral hg ctx)
  · exact hafter (spans_functionExpr hg ctx)
  · exact hafter (spans_classExpr hg ctx)
  · refine ht.answers_operand (by decide) fun s₂ h => ?_
    refine (answers_peekIn OwnKind ctx.scope .standard h.step.chained).bind fun next s₃ hnext => ?_
    exact answers_ite (fun _ => answers_pure (h.stay hnext.step hnext.place)) fun _ =>
      answers_fail t _
  · exact answers_fail t _
  · exact answers_fail t _
  · exact hafter (spans_ite (spans_variableUse ctx) (spans_fail t _))

/-- A name is read after a keyword and a dot. -/
theorem SpanRead.answers_metaProperty {keyword : Token} (h : SpanRead scope s keyword.span s₁)
    (hstep : Step OwnKind scope s₁ s₂) (spelling whole : String) :
    Answers s₂ (metaProperty keyword spelling whole) fun e s' => SpanRead scope s e.span s' := by
  refine (answers_require OwnKind scope _ hstep.chained).bind fun t s₃ ⟨ht, _⟩ => ?_
  exact answers_ite (fun _ => answers_pure (h.join hstep ht.spanRead)) fun _ => answers_fail t _

theorem spans_newLevel (hg : g.Steps) (hspans : g.Spanned) (ctx : Context) :
    Spans (newLevel g ctx) ctx.scope := by
  intro s hs
  refine (answers_token OwnKind ctx.scope (by decide) hs).bind fun keyword s₁ hkeyword => ?_
  have hkeyword := hkeyword.spanRead
  have hstep : Step OwnKind ctx.scope s₁ s₁ := .refl hkeyword.step.chained
  refine (hstep.answers (keeps_consumeIf _)).bind fun _ s₂ hstep => answers_ite (fun _ => ?_) ?_
  · exact hkeyword.answers_metaProperty hstep _ _
  intro _
  refine (hstep.answers (keeps_markSideEffect ctx)).bind fun _ s₃ hstep => ?_
  refine (hstep.answers (keeps_peekIn _)).bind fun t s₄ hstep => ?_
  refine answers_choice (hspans.newExpr ctx hstep.chained) (spans_primaryExpr hg ctx hstep.chained)
    fun operand s₅ hoperand => ?_
  refine (answers_callChain hg ctx false hoperand).bind fun callee s₆ hcallee => ?_
  refine (answers_peekIn OwnKind ctx.scope .standard hcallee.step.chained).bind
    fun next s₇ hnext => ?_
  have hcallee := hcallee.stay hnext.step hnext.place
  have hstep := hstep.trans hcallee.step
  have harguments : Answers s₇ (callArguments g ctx) fun stop s' =>
      Step OwnKind ctx.scope s₁ s' ∧ stop = s'.tokens.lastEnd :=
    (hstep.answers (reads_callArguments hg ctx).keeps).and (stops_callArguments ctx s₇)
  exact answers_choice harguments (answers_pure ⟨hstep, hcallee.stop⟩)
    fun stop s₈ ⟨hstep, hstop⟩ => answers_pure (hkeyword.upto hstep hstop)

/-- A dynamic import ends with its closing parenthesis. -/
theorem SpanRead.answers_closeImport {ctx : Context} {keyword : Token}
    (h : SpanRead ctx.scope s keyword.span s₁) (hstep : Step OwnKind ctx.scope s₁ s₂)
    (first : Token) (argument : Span) : Answers s₂ (do
      let close ← require .parenthesisClose
      recordDynamicImport ctx first argument (keyword.span.join close.span)
      pure (Expr.mk (keyword.span.join close.span) .call)) fun e s' =>
        e.span.start = s.place.tokenStart.offset ∧ e.span.stop = s'.tokens.lastEnd := by
  refine (answers_require OwnKind ctx.scope _ hstep.chained).bind fun close s₃ ⟨hclose, _⟩ => ?_
  have hcall := h.join hstep hclose.spanRead
  have hrecord : Answers s₃ (recordDynamicImport ctx first argument
      (keyword.span.join close.span)) fun _ s' => s'.tokens = s₃.tokens := by
    refine answers_ite (fun _ => ?_) fun _ => answers_pure rfl
    split
    · exact answers_modify.mono fun _ _ heq => heq ▸ rfl
    · exact answers_pure rfl
  refine hrecord.bind fun _ s₄ htokens => answers_pure ⟨?_, ?_⟩
  · rw [hcall.span]
  · rw [htokens]
    exact hcall.stop

theorem spans_importExpr (hg : g.Steps) (ctx : Context) : Spans (importExpr g ctx) ctx.scope := by
  refine (reads_importExpr hg ctx).spans fun s hs => ?_
  refine Answers.mono (?_ : Answers s (importExpr g ctx) fun e s' =>
    e.span.start = s.place.tokenStart.offset ∧ e.span.stop = s'.tokens.lastEnd)
    fun e s' ⟨hstart, hstop⟩ => by rw [← hstart, ← hstop]
  refine (answers_token OwnKind ctx.scope (by decide) hs).bind fun keyword s₁ hkeyword => ?_
  have hkeyword := hkeyword.spanRead
  have hstep : Step OwnKind ctx.scope s₁ s₁ := .refl hkeyword.step.chained
  refine (hstep.answers (keeps_consumeIf _)).bind fun _ s₂ hstep => ?_
  refine answers_ite (fun _ => ?_) fun _ => ?_
  · exact (hkeyword.answers_metaProperty hstep _ _).mono fun _ _ h => ⟨by rw [h.span], h.stop⟩
  refine (hstep.answers (reads_require _).keeps).bind fun _ s₃ hstep => ?_
  refine (hstep.answers (keeps_markSideEffect ctx)).bind fun _ s₄ hstep => ?_
  refine (hstep.answers (keeps_peekIn _)).bind fun first s₅ hstep => ?_
  refine (hstep.answers (hg.assignExpr (ctx.withIn true)).keeps).bind fun argument s₆ hstep => ?_
  refine (hstep.answers (keeps_consumeIf _)).bind fun _ s₇ hstep => ?_
  refine answers_ite (fun _ => ?_) fun _ => hkeyword.answers_closeImport hstep _ _
  refine (hstep.answers keeps_peek).bind fun next s₈ hstep => ?_
  refine answers_ite (fun _ => ?_) fun _ => hkeyword.answers_closeImport hstep _ _
  refine (hstep.answers (hg.assignExpr (ctx.withIn true)).keeps).bind fun _ s₉ hstep => ?_
  exact (hstep.answers (keeps_consumeIf _)).bind fun _ s₁₀ hstep =>
    hkeyword.answers_closeImport hstep _ _

theorem spans_lhsLevel (hg : g.Steps) (hspans : g.Spanned) (ctx : Context) :
    Spans (lhsLevel g ctx) ctx.scope := by
  intro s hs
  refine (answers_peekIn OwnKind ctx.scope .slashIsRegex hs).bind fun t s₁ ht => ?_
  have hafter : ∀ {p : Parse Expr}, Spans p ctx.scope →
      Answers s₁ (p >>= callChain g ctx true) fun e s' => SpanRead ctx.scope s e.span s' :=
    fun hp => (hp ht.step.chained).bind fun operand s₂ h =>
      answers_callChain hg ctx true (h.after ht.step ht.place)
  dsimp only
  split
  · exact hafter (spans_newLevel hg hspans ctx)
  · exact ht.answers_operand (by decide) fun s₂ h => answers_callChain hg ctx true h
  · exact hafter (spans_importExpr hg ctx)
  · exact hafter (spans_primaryExpr hg ctx)

/-! ## Operators -/

theorem spans_unaryOperation (hspans : g.Spanned) (ctx : Context) (isObservable : Bool) :
    Spans (unaryOperation g ctx isObservable) ctx.scope := by
  intro s hs
  refine (answers_token OwnKind ctx.scope (by decide) hs).bind fun operator s₁ hoperator => ?_
  have hstep : Step OwnKind ctx.scope s₁ s₁ := .refl hoperator.step.chained
  refine hstep.answers_optional (keeps_markSideEffect ctx) fun s₂ hstep => ?_
  refine (hspans.unaryExpr ctx hstep.chained).bind fun operand s₃ hoperand => ?_
  exact answers_pure (hoperator.spanRead.join hstep hoperand)

theorem spans_postfixExpr (hspans : g.Spanned) (ctx : Context) :
    Spans (postfixExpr g ctx) ctx.scope := by
  intro s hs
  refine (hspans.lhsExpr ctx hs).bind fun operand s₁ h => ?_
  refine (answers_peekIn OwnKind ctx.scope .standard h.step.chained).bind fun t s₂ ht => ?_
  refine answers_ite (fun _ => ?_) fun _ => answers_pure (h.stay ht.step ht.place)
  refine ht.answers_operand (by decide) fun s₃ hread => ?_
  refine (answers_markSideEffect_place ctx hread.step.chained).bind
    fun _ s₄ ⟨hmark, hplace⟩ => answers_pure ?_
  exact (h.join (.refl h.step.chained) hread).stay hmark hplace

theorem spans_unaryLevel (hspans : g.Spanned) (ctx : Context) :
    Spans (unaryLevel g ctx) ctx.scope := by
  refine spans_peekIn (by decide) fun t s hs _ => ?_
  split
  any_goals exact spans_unaryOperation hspans ctx _ hs
  · exact spans_ite (spans_unaryOperation hspans ctx _) (spans_postfixExpr hspans ctx) hs
  · exact spans_postfixExpr hspans ctx hs

theorem spans_binaryExpr (hspans : g.Spanned) (ctx : Context) :
    Spans (binaryExpr g ctx) ctx.scope := by
  intro s hs
  refine (hspans.unaryExpr ctx hs).bind fun first s₁ h => ?_
  refine answers_loop (fun (e : Expr) s' => SpanRead ctx.scope s e.span s') (fun e s₂ h => ?_)
    first h
  refine (answers_peekIn OwnKind ctx.scope .standard h.step.chained).bind fun t s₃ ht => ?_
  refine answers_ite (fun _ => answers_pure (h.stay ht.step ht.place)) fun _ => ?_
  refine (ht.step.answers reads_consume.keeps).bind fun _ s₄ hstep => ?_
  refine (hspans.unaryExpr ctx hstep.chained).bind fun right s₅ hright => ?_
  exact answers_pure (h.join hstep hright)

theorem spans_conditionalExpr (hg : g.Steps) (hspans : g.Spanned) (ctx : Context) :
    Spans (conditionalExpr g ctx) ctx.scope := by
  intro s hs
  refine (spans_binaryExpr hspans ctx hs).bind fun test s₁ h => ?_
  refine (answers_consumeIf_place ctx.scope .question h.step.chained).bind
    fun isConditional s₂ ⟨hstep, hplace⟩ => ?_
  refine answers_ite (fun _ => ?_) fun hnone => ?_
  · refine (hstep.answers (hg.assignExpr (ctx.withIn true)).keeps).bind fun _ s₃ hstep => ?_
    refine (hstep.answers (reads_require _).keeps).bind fun _ s₄ hstep => ?_
    refine (hspans.assignExpr ctx hstep.chained).bind fun alternative s₅ halternative => ?_
    exact answers_pure (h.join hstep halternative)
  · exact answers_pure (h.stay hstep (hplace (eq_false_of_ne_true hnone)))

theorem spans_yieldExpr (hspans : g.Spanned) (ctx : Context) :
    Spans (yieldExpr g ctx) ctx.scope := by
  intro s hs
  refine (answers_token OwnKind ctx.scope (by decide) hs).bind fun keyword s₁ hkeyword => ?_
  have h := hkeyword.spanRead
  refine (answers_markSideEffect_place ctx h.step.chained).bind fun _ s₂ ⟨hmark, hplace⟩ => ?_
  have h := h.stay hmark hplace
  refine (answers_peekIn OwnKind ctx.scope .standard h.step.chained).bind fun next s₃ hnext => ?_
  have h := h.stay hnext.step hnext.place
  have hrest : ∀ (delegates : Bool) (s₄ : ParserState),
      (Step OwnKind ctx.scope s₃ s₄ ∧ (delegates = false → s₄.place = s₃.place)) →
        Answers s₄ (do
          let operand ← peekIn .slashIsRegex
          if delegates || (!operand.afterLineBreak && !endsExpression operand.type) then
            let value ← g.assignExpr ctx
            pure (Expr.other (keyword.span.join value.span))
          else pure (.other keyword.span)) fun e s' => SpanRead ctx.scope s e.span s' := by
    intro delegates s₄ ⟨hstep, hplace⟩
    refine (answers_peekIn OwnKind ctx.scope .slashIsRegex hstep.chained).bind
      fun operand s₅ hoperand => answers_ite (fun _ => ?_) fun hnone => ?_
    · refine (hspans.assignExpr ctx hoperand.step.chained).bind fun value s₆ hvalue => ?_
      exact answers_pure (h.join (hstep.trans hoperand.step) hvalue)
    · have hdelegates : delegates = false :=
        (Bool.or_eq_false_iff.mp (eq_false_of_ne_true hnone)).1
      exact answers_pure
        ((h.stay hstep (hplace hdelegates)).stay hoperand.step hoperand.place)
  exact answers_choice (answers_pure ⟨.refl h.step.chained, fun _ => rfl⟩)
    (answers_consumeIf_place ctx.scope .asterisk h.step.chained) hrest

/-! ## Arrow functions and assignments -/

theorem stops_arrowBody (hspans : g.Spanned) (ctx : Context) (inAllowed : Bool)
    (hs : s.tokens.Chained) :
    Answers s (arrowBody g ctx inAllowed) fun stop s' => stop = s'.tokens.lastEnd := by
  refine (answers_peekIn OwnKind ctx.scope .standard hs).bind fun t s₁ ht => ?_
  refine answers_ite (fun _ => stops_functionBody ctx s₁) fun _ => ?_
  exact (hspans.assignExpr (ctx.withIn inAllowed) ht.step.chained).bind fun _ _ h =>
    answers_pure h.stop

/-- What is tried and given up leaves everything as it was. -/
theorem answers_attempt_eq {α : Type} {reading : Parse (Option α)} :
    Answers s (attempt reading) fun a? s' => a? = none → s' = s := by
  intro a? s' heq hnone
  subst hnone
  unfold attempt at heq
  split at heq
  · cases heq
    rfl
  · rename_i hsome
    exact absurd heq (hsome s')

theorem answers_arrowFunction_spans (hg : g.Steps) (hspans : g.Spanned) (ctx : Context)
    (hs : s.tokens.Chained) :
    Answers s (arrowFunction g ctx) fun arrow? s' =>
      match arrow? with
      | some e => SpanRead ctx.scope s e.span s'
      | none => Step OwnKind ctx.scope s s' ∧ s'.place = s.place := by
  refine Answers.mono ((answers_arrowFunction hg ctx hs).and (?_ : Answers s _ fun arrow? s' =>
    match arrow? with
    | some e => e.span = ⟨s.place.tokenStart.offset, s'.tokens.lastEnd⟩
    | none => s'.place = s.place)) fun arrow? s' ⟨⟨hstep, hreads⟩, hspan⟩ => ?_
  · refine (answers_peekIn OwnKind ctx.scope .standard hs).bind fun start s₁ hstart => ?_
    have hhead : Answers s₁ (arrowHead g ctx) fun _ s' => s'.tokens.Chained :=
      (answers_arrowHead hg ctx hstart.step.chained).mono fun _ _ ⟨hstep, _⟩ => hstep.chained
    refine ((answers_attempt hhead hstart.step.chained).and answers_attempt_eq).bind
      fun inner? s₂ ⟨hchained, heq⟩ => ?_
    cases inner? with
    | none =>
      refine answers_pure ?_
      rw [heq rfl]
      exact hstart.place
    | some inner =>
      refine (stops_arrowBody hspans inner.deferred ctx.inAllowed hchained).bind
        fun stop s₃ hstop => answers_pure ?_
      change (⟨start.span.start, stop⟩ : Span) = _
      rw [hstart.start (by decide), hstart.place, hstop]
  · cases arrow? with
    | none => exact ⟨hstep, hspan⟩
    | some e =>
      refine ⟨hstep, hreads (Option.some_ne_none e), ?_⟩
      rw [hspan, hstep.chained.lastEnd_eq]
      rfl

theorem spans_assignment (hg : g.Steps) (hspans : g.Spanned) (ctx : Context) :
    Spans (assignment g ctx) ctx.scope := by
  intro s hs
  refine (spans_conditionalExpr hg hspans ctx hs).bind fun target s₁ h => ?_
  refine (answers_peekIn OwnKind ctx.scope .standard h.step.chained).bind fun t s₂ ht => ?_
  refine answers_ite (fun _ => answers_ite (fun _ => ?_) fun _ => nofun) fun _ =>
    answers_pure (h.stay ht.step ht.place)
  refine (ht.step.answers reads_consume.keeps).bind fun _ s₃ hstep => ?_
  refine (hstep.answers (keeps_markSideEffect ctx)).bind fun _ s₄ hstep => ?_
  refine (hspans.assignExpr ctx hstep.chained).bind fun value s₅ hvalue => ?_
  exact answers_pure (h.join hstep hvalue)

theorem spans_assignLevel (hg : g.Steps) (hspans : g.Spanned) (ctx : Context) :
    Spans (assignLevel g ctx) ctx.scope := by
  refine spans_peekIn (by decide) fun t s hs _ => ?_
  refine answers_ite (fun _ => spans_yieldExpr hspans ctx hs) fun _ => ?_
  have hrest : ∀ (arrow? : Option Expr) (s₁ : ParserState), (match arrow? with
      | some e => SpanRead ctx.scope s e.span s₁
      | none => Step OwnKind ctx.scope s s₁ ∧ s₁.place = s.place) →
        Answers s₁ (match arrow? with
          | some e => pure e
          | none => assignment g ctx) fun e s' => SpanRead ctx.scope s e.span s' := by
    intro arrow? s₁ h
    cases arrow? with
    | some e => exact answers_pure h
    | none =>
      exact (spans_assignment hg hspans ctx h.1.chained).mono fun _ _ hread =>
        hread.after h.1 h.2
  have hahead : Answers s (arrowFunctionAhead t) fun _ s' =>
      Step OwnKind ctx.scope s s' ∧ s'.place = s.place := by
    refine answers_ite (fun _ => answers_pure ⟨.refl hs, rfl⟩) fun _ =>
      answers_ite (fun _ => ?_) fun _ => answers_pure ⟨.refl hs, rfl⟩
    exact (answers_peek2_place ctx.scope hs).bind fun _ _ h => answers_pure h
  refine hahead.bind fun _ s₁ ⟨hstep, hplace⟩ => ?_
  refine answers_choice ((answers_arrowFunction_spans hg hspans ctx hstep.chained).mono
    fun arrow? s₂ h => ?_) (answers_pure ⟨hstep, hplace⟩) hrest
  cases arrow? with
  | some e => exact SpanRead.after h hstep hplace
  | none => exact ⟨hstep.trans h.1, h.2.trans hplace⟩

/-! ## Levels of nesting -/

theorem spans_tooDeep : Spans tooDeep scope := spans_peekIn (by decide) fun t _ _ _ =>
  answers_fail t _

theorem Grammar.spanned_ofDepth (depth : Nat) : (Grammar.ofDepth depth).Spanned := by
  induction depth with
  | zero => exact ⟨fun _ => spans_tooDeep, fun _ => spans_tooDeep, fun _ => spans_tooDeep,
      fun _ => spans_tooDeep⟩
  | succ depth ih =>
    have hg := Grammar.steps_ofDepth depth
    exact ⟨spans_assignLevel hg ih, spans_unaryLevel ih, spans_lhsLevel hg ih,
      spans_newLevel hg ih⟩

/-! ## Default exports -/

/-- The value that an item exports goes from one of the tokens to another. -/
def ItemKind.ValueRead (tokens : List BufferedToken) : ItemKind → Prop
  | .exportDefaultExpression _ value => TokenEdges tokens value
  | .importDeclaration | .exportList | .exportFrom | .exportDeclaration _
  | .exportDefaultDeclaration .. | .declaration | .statement => True

theorem ItemKind.ValueRead.mono {tokens tokens' : List BufferedToken} {kind : ItemKind}
    (h : kind.ValueRead tokens) (hsub : tokens ⊆ tokens') : kind.ValueRead tokens' := by
  cases kind with
  | exportDefaultExpression strip value => exact TokenEdges.mono h hsub
  | _ => trivial

theorem answers_exportDefault_value (hspans : g.Spanned) (ctx : Context) (keyword : Span)
    (hs : s.tokens.Chained) :
    Answers s (exportDefault g ctx keyword) fun read s' => read.1.ValueRead s'.tokens.behind := by
  have hstep : Step OwnKind ctx.scope s s := .refl hs
  refine (hstep.answers reads_consume.keeps).bind fun word s₁ hstep => ?_
  refine (hstep.answers (keeps_peekIn _)).bind fun next s₂ hstep => ?_
  refine (hstep.answers (keeps_functionAhead next)).bind fun isFunction s₃ hstep => ?_
  refine answers_ite (fun _ => ?_) fun _ => ?_
  · exact .after fun _ _ => .after fun _ _ => answers_pure trivial
  · have hdeclare : Answers s₃ (declare ctx defaultBinding
        (.point (⟨keyword.start, next.span.start⟩ : Span).stop) .const false) fun _ s' =>
          s'.tokens.Chained :=
      answers_modify.mono fun _ _ heq => heq ▸ hstep.chained
    refine hdeclare.bind fun _ s₄ hs₄ => ?_
    refine (hspans.assignExpr (ctx.withIn true) hs₄).bind fun e s₅ he => ?_
    have hrest : Step OwnKind ctx.scope s₅ s₅ := .refl he.step.chained
    refine (hrest.answers keeps_requireSemicolon).bind fun _ s₆ hrest => ?_
    refine (hrest.answers (keeps_addBinding _ _ _)).bind fun _ s₇ hrest => answers_pure ?_
    exact he.edges.mono hrest.behind.subset

theorem answers_moduleItemBody_value (hspans : g.Spanned) (ctx : Context)
    (first : Token) (hs : s.tokens.Chained) :
    Answers s (moduleItemBody g ctx first) fun read s' => read.1.ValueRead s'.tokens.behind := by
  have hexport : ∀ {s₁ : ParserState}, s₁.tokens.Chained →
      Answers s₁ (exportDeclaration g ctx) fun read s' => read.1.ValueRead s'.tokens.behind := by
    intro s₁ hs₁
    have hstep : Step OwnKind ctx.scope s₁ s₁ := .refl hs₁
    refine (hstep.answers (reads_require _).keeps).bind fun keyword s₂ hstep => ?_
    refine (hstep.answers keeps_peek).bind fun t s₃ hstep => ?_
    split
    · exact answers_exportDefault_value hspans ctx keyword.span hstep.chained
    · exact (answers_exportStar_kind s₃).mono fun _ _ h => h ▸ trivial
    · refine (answers_exportList_kind s₃).mono fun _ _ h => ?_
      rcases h with h | h <;> exact h ▸ trivial
    · refine .after fun _ _ => answers_ite (fun _ => ?_) fun _ => answers_fail _ _
      exact .after fun _ _ => .after fun _ _ => .after fun _ _ => answers_pure trivial
  have hrest : ∀ (isImport : Bool) (s₁ : ParserState), s₁.tokens.Chained → Answers s₁ (do
      if isImport then importDeclaration ctx
      else if first.type = .keywordExport then exportDeclaration g ctx
      else
        let isDeclaration ← declarationAhead
        let missing ← g.statement ctx
        pure (if isDeclaration then ItemKind.declaration else .statement, missing))
      fun read s' => read.1.ValueRead s'.tokens.behind := by
    intro isImport s₁ hs₁
    refine answers_ite (fun _ => ?_) fun _ => answers_ite (fun _ => hexport hs₁) fun _ => ?_
    · exact (answers_importDeclaration ctx hs₁).mono fun _ _ h => h.2 ▸ trivial
    · refine .after fun isDeclaration _ => .after fun _ _ => answers_pure ?_
      dsimp only
      split
      · trivial
      · trivial
  refine answers_ite (fun _ => ?_) fun _ => hrest false s hs
  exact (answers_peek2_place ctx.scope hs).bind fun _ s₁ ⟨hstep, _⟩ => hrest _ s₁ hstep.chained

end ModuleBundler
