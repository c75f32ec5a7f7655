import ModuleBundler.Grammar.Class
import ModuleBundler.Proofs.Productions.Pattern

/-!
# What the grammar reads: functions and classes

* `TokenFollows` : a token ends at an offset, and the token after it is read;
* `answers_function`, `answers_classDefinition` : functions and classes step in the text, and the
  token after the place for a missing name is read.
-/

namespace ModuleBundler

open Cursor (Leads)

variable {g : Grammar}

/-- Between two places there is one with the offset, at which a token ends that is no closing brace,
and the token after it is read. -/
def TokenFollows (tokens : List BufferedToken) (first last : Cursor) (offset : Nat) : Prop :=
  ∃ place : Cursor, first.Leads place ∧ place.offset = offset ∧ place.tokenStart.Leads last ∧
    ∃ before earlier, before :: earlier <:+ tokens ∧ before.after = place ∧
      before.token.span.stop = offset ∧ before.token.type ≠ .braceClose

theorem TokenFollows.edge {tokens : List BufferedToken} {first last : Cursor} {offset : Nat}
    (h : TokenFollows tokens first last offset) : TokenEdge tokens offset := by
  obtain ⟨_, -, -, -, before, earlier, hsuffix, -, hstop, -⟩ := h
  exact ⟨before, hsuffix.subset List.mem_cons_self, .inr hstop.symm⟩

theorem TokenFollows.mono {tokens tokens' : List BufferedToken} {first first' last last' : Cursor}
    {offset : Nat} (h : TokenFollows tokens first last offset) (hfirst : first'.Leads first)
    (hlast : last.Leads last') (hbehind : tokens <:+ tokens') :
    TokenFollows tokens' first' last' offset := by
  obtain ⟨place, hplace, heq, hfollows, before, earlier, hsuffix, hbefore⟩ := h
  exact ⟨place, hfirst.trans hplace, heq, hfollows.trans hlast, before, earlier,
    hsuffix.trans hbehind, hbefore⟩

/-! ## Names -/

/-- The name of a definition is read with its span, if there is one. -/
theorem answers_definitionName (ctx : Context) (kind : DefinitionKind)
    {declared : DeclarationKind} (hdeclared : OwnKind declared) {s : ParserState}
    (hs : s.tokens.Chained) :
    Answers s (definitionName ctx kind declared) fun name s' => Step OwnKind ctx.scope s s' ∧
      ∀ named, name = some named → NameRead OwnKind ctx.scope s named s' := by
  refine (answers_peekIn OwnKind ctx.scope _ hs).bind fun t s₁ hpeeked => ?_
  refine answers_ite (fun _ => ?_) fun _ => ?_
  · refine (hpeeked.answers_consume (by decide)).bind fun _ s₂ ⟨_, ht⟩ => ?_
    have hread : ∀ s₃, NameRead OwnKind ctx.scope s (decodeName t.text, t.span) s₃ →
        Step OwnKind ctx.scope s s₃ ∧ ∀ named, some (decodeName t.text, t.span) = some named →
          NameRead OwnKind ctx.scope s named s₃ := by
      rintro s₃ hname
      refine ⟨hname.step, fun named hnamed => ?_⟩
      cases hnamed
      exact hname
    refine answers_ite (fun _ => ?_) fun _ => answers_pure (hread s₂ ht.nameRead)
    refine (ht.nameRead.answers_declared hdeclared false).bind fun _ s₃ ⟨hname, _⟩ => ?_
    exact answers_pure (hread s₃ hname)
  · refine answers_ite (fun _ => answers_fail t _) fun _ => answers_pure ?_
    exact ⟨hpeeked.step, fun _ h => nomatch h⟩

/-- The name of an expression is declared in a scope of its own. -/
theorem Step.answers_enterNameScope {ctx : Context} {s s' : ParserState}
    (h : Step OwnKind ctx.scope s s') (kind : DefinitionKind) {declared : DeclarationKind}
    (hdeclared : OwnKind declared) {name : Option (String × Span)}
    (hname : ∀ named, name = some named → NameRead OwnKind ctx.scope s named s') :
    Answers s' (enterNameScope ctx kind declared name) fun inner s'' =>
      Step OwnKind ctx.scope s s'' ∧ InScope ctx.scope s s'' inner.scope := by
  refine (answers_enterScope OwnKind _ _ h.chained).bind fun id s₁ ⟨hstep, hplace, hin⟩ => ?_
  have hin : InScope ctx.scope s s₁ id := hin.mono h.later.scopes (Nat.le_refl _)
  dsimp only
  split
  · have hread := hname _ rfl
    have hspan := hread.between
    rw [← hplace] at hspan
    have hspelled := hread.spelled.mono hstep.behind.subset
    refine ((h.trans hstep).answers_declare hdeclared hin hspan (.inl hspelled)).bind
      fun _ s₂ ⟨hstep₂, hlater, _⟩ => answers_pure ⟨hstep₂, ?_⟩
    exact hin.mono (Nat.le_refl _) hlater.scopes
  · exact answers_pure ⟨h.trans hstep, hin⟩

/-! ## Functions -/

theorem keeps_statements (hg : g.Steps) (ctx : Context) (close : TokenType) :
    Keeps OwnKind (statements g ctx close) ctx.scope := by
  refine keeps_loopWhile (keeps_peek.bind fun t => keeps_ite (keeps_pure _) ?_)
  exact keeps_ite (reads_fail t _).keeps ((hg.statement ctx).keeps.bind fun _ => keeps_pure _)

theorem reads_functionParameters (hg : g.Steps) (ctx : Context) :
    Reads OwnKind (functionParameters g ctx) ctx.scope := by
  refine (reads_require _).bind fun _ => keeps_separatedList _ _ ?_
  refine (keeps_consumeIf _).bind fun _ => keeps_ite ?_ ?_
  · exact (hg.pattern ctx .param (by decide)).keeps
  · exact (reads_patternWithDefault hg ctx (by decide)).keeps

theorem reads_functionBody (hg : g.Steps) (ctx : Context) :
    Reads OwnKind (functionBody g ctx) ctx.scope := by
  refine (reads_require _).bind fun _ => (keeps_statements hg ctx _).bind fun _ => ?_
  exact (reads_require _).keeps.bind fun _ => keeps_pure _

theorem reads_method (hg : g.Steps) (ctx : Context) (isAsync isGenerator : Bool) :
    Reads OwnKind (method g ctx isAsync isGenerator) ctx.scope := by
  refine reads_enterScope fun id => ?_
  have hinner := reads_functionParameters hg
    ((ctx.forFunction isAsync isGenerator).within id).deferred
  exact hinner.bind fun _ => (reads_functionBody hg _).keeps

/-- What is known of a definition that was read: a token ends at the place for a missing name, and
the token after it is read. -/
structure DefinitionRead (scope : ScopeId) (s : ParserState) (definition : Definition)
    (s' : ParserState) : Prop where
  step : Step OwnKind scope s s'
  reads : ReadsOn s s'
  nameAt : TokenFollows s'.tokens.behind s.place s'.place definition.nameAt

/-- The last token read is no closing brace. -/
def EndsPlain (s : ParserState) : Prop :=
  ∃ before, s.tokens.behind.head? = some before ∧ before.token.type ≠ .braceClose

theorem TokenRead.endsPlain {kinds : DeclarationKind → Prop} {scope : ScopeId} {s s' : ParserState}
    {t : Token} (h : TokenRead kinds scope s t s') (htype : t.type ≠ .braceClose) :
    EndsPlain s' := by
  obtain ⟨before, hbefore, rfl⟩ := h.last
  exact ⟨before, hbefore, htype⟩

/-- The star of a generator may follow the keyword. No closing brace stands before the name in any
case. -/
theorem answers_generatorMark {scope : ScopeId} {s s' : ParserState} {keyword : Token}
    (h : TokenRead OwnKind scope s keyword s') (htype : keyword.type ≠ .braceClose) :
    Answers s' (consumeIf .asterisk) fun _ s'' => Step OwnKind scope s' s'' ∧ EndsPlain s'' := by
  intro isGenerator s'' heq
  obtain ⟨t, s₁, hpeek, heq⟩ := stateBind_eq_ok.mp heq
  obtain ⟨-, hstays⟩ := h.step.chained.peek_spec .standard
  have ht := answers_peekIn OwnKind scope _ h.step.chained hpeek
  split at heq
  · rename_i hmark
    obtain ⟨_, s₂, hconsume, heq⟩ := stateBind_eq_ok.mp heq
    cases heq
    obtain ⟨rfl, hread⟩ := ht.answers_consume (by decide) hconsume
    exact ⟨hread.step, hread.endsPlain (by rw [hmark]; decide)⟩
  · cases heq
    refine ⟨ht.step, ?_⟩
    cases hpeek
    obtain ⟨before, hbefore, hplain⟩ := h.endsPlain htype
    exact ⟨before, hstays.behind ▸ hbefore, hplain⟩

/-- The token after the place of a state is read by a later one. -/
theorem ReadsOn.tokenFollows {s s' s'' : ParserState} {scope : ScopeId} (h : ReadsOn s' s'')
    (hstep : Step OwnKind scope s' s'') (hs' : s'.tokens.Chained)
    (hfirst : s.place.Leads s'.place) (hplain : EndsPlain s') :
    TokenFollows s''.tokens.behind s.place s''.place s'.place.offset := by
  obtain ⟨before, hbefore, htype⟩ := hplain
  obtain ⟨earlier, heq⟩ := List.head?_eq_some_iff.mp hbefore
  refine ⟨s'.place, hfirst, rfl, h.1, before, earlier, heq ▸ hstep.behind, ?_, ?_, htype⟩
  · unfold ParserState.place TokenStream.position
    rw [heq]
  · change before.token.span.stop = s'.tokens.position.offset
    rw [← hs'.lastEnd_eq]
    unfold TokenStream.lastEnd
    rw [heq]

/-- A function steps in the text. -/
theorem answers_function (hg : g.Steps) (ctx : Context) (kind : DefinitionKind)
    {s : ParserState} (hs : s.tokens.Chained) :
    Answers s (function g ctx kind) (DefinitionRead ctx.scope s) := by
  have hstep : Step OwnKind ctx.scope s s := .refl hs
  refine (hstep.answers keeps_peek).bind fun start s₁ hstep => ?_
  refine (hstep.answers (keeps_consumeIf _)).bind fun isAsync s₂ hstep => ?_
  refine (answers_require OwnKind ctx.scope _ hstep.chained).bind fun keyword s₃ ⟨hkeyword, htype⟩ => ?_
  have hreads := hstep.readsOn hkeyword.step.later hkeyword.reads
  have hstep := hstep.trans hkeyword.step
  have hplain : keyword.type ≠ .braceClose := by
    rw [htype]
    decide
  refine (answers_generatorMark hkeyword hplain).bind fun isGenerator s₄ ⟨hmark, hplain⟩ => ?_
  refine (answers_lastEnd hmark.chained).bind fun nameAt _ ⟨hs₄, hnameAt⟩ => ?_
  subst hs₄ hnameAt
  refine (answers_definitionName ctx kind (by decide) hmark.chained).bind
    fun name s₅ ⟨hname, hnamed⟩ => ?_
  refine (hname.answers_enterNameScope kind (by decide) hnamed).bind
    fun outer s₆ ⟨hname, hin⟩ => ?_
  refine (hname.answers_readsIn hin (reads_method hg outer _ _)).bind
    fun stop s₇ ⟨hrest, hmethod⟩ => answers_pure ?_
  have hbefore := hstep.trans hmark
  refine ⟨hbefore.trans hrest, (hmark.trans hrest).later.readsOn hreads, ?_⟩
  exact hmethod.tokenFollows hrest hmark.chained hbefore.leads hplain

/-! ## Classes -/

theorem reads_functionExpr (hg : g.Steps) (ctx : Context) :
    Reads OwnKind (functionExpr g ctx) ctx.scope := by
  refine reads_of_answers fun s hs => (answers_function hg ctx _ hs).bind fun _ s' h => ?_
  exact answers_pure ⟨h.step, h.reads⟩

theorem reads_staticBlock (hg : g.Steps) (ctx : Context) :
    Reads OwnKind (staticBlock g ctx) ctx.scope := by
  refine reads_enterScope fun id => (reads_require _).bind fun _ => ?_
  have hbody := keeps_statements hg ((ctx.forStaticBlock.within id).jumpBoundary) .braceClose
  exact hbody.bind fun _ => (reads_require _).keeps.bind fun _ => keeps_pure _

theorem reads_fieldValue (hg : g.Steps) (ctx : Context) (isStatic : Bool) :
    Reads OwnKind (fieldValue g ctx isStatic) ctx.scope := by
  refine reads_enterScope fun id => ?_
  cases isStatic with
  | true =>
    have hvalue := hg.assignExpr ((ctx.forFunction false false).within id)
    exact hvalue.bind fun _ => keeps_pure _
  | false =>
    have hvalue := hg.assignExpr ((ctx.forFunction false false).within id).deferred
    exact hvalue.bind fun _ => keeps_pure _

theorem reads_classProperty (hg : g.Steps) (ctx : Context) (isStatic : Bool) :
    Reads OwnKind (classProperty g ctx isStatic) ctx.scope := by
  refine keeps_methodModifiers.bindReads fun modifiers => ?_
  refine (reads_propertyKey hg ctx).bind fun _ => keeps_peek.bind fun next => ?_
  refine keeps_ite ?_ (keeps_ite (reads_fail next _).keeps ?_)
  · exact (reads_method hg ctx _ _).keeps.bind fun _ => keeps_pure _
  · refine (keeps_consumeIf _).bind fun _ => keeps_optional (reads_fieldValue hg ctx _).keeps ?_
    exact keeps_requireSemicolon.bind fun _ => keeps_pure _

theorem keeps_classMember (hg : g.Steps) (ctx : Context) :
    Keeps OwnKind (classMember g ctx) ctx.scope := by
  refine (keeps_consumeIf _).bind fun _ => keeps_ite (keeps_pure _) ?_
  refine keeps_peek2.bind fun (a, b) => keeps_ite (reads_fail a _).keeps ?_
  refine keeps_ite ?_ (reads_classProperty hg ctx _).keeps
  refine reads_consume.keeps.bind fun _ => keeps_peek.bind fun next => ?_
  exact keeps_ite (reads_staticBlock hg ctx).keeps (reads_classProperty hg ctx _).keeps

/-- The members of a class are read, up to and with the closing brace. -/
theorem keeps_classMembers (hg : g.Steps) (ctx : Context) : Keeps OwnKind (loopWhile do
    if ← consumeIf .braceClose then pure false
    else
      classMember g ctx
      pure true) ctx.scope := by
  refine keeps_loopWhile ((keeps_consumeIf _).bind fun _ => keeps_ite (keeps_pure _) ?_)
  exact (keeps_classMember hg ctx).bind fun _ => keeps_pure _

/-- A class steps in the text. -/
theorem answers_classDefinition (hg : g.Steps) (ctx : Context) (kind : DefinitionKind)
    {s : ParserState} (hs : s.tokens.Chained) :
    Answers s (classDefinition g ctx kind) (DefinitionRead ctx.scope s) := by
  refine (answers_require OwnKind ctx.scope _ hs).bind fun keyword s₁ ⟨hkeyword, htype⟩ => ?_
  refine (answers_definitionName ctx kind (by decide) hkeyword.step.chained).bind
    fun name s₂ ⟨hname, hnamed⟩ => ?_
  refine (hname.answers_enterNameScope kind (by decide) hnamed).bind
    fun inner s₃ ⟨hname, hin⟩ => ?_
  have hbody : Step OwnKind inner.scope s₃ s₃ := .refl hname.chained
  refine (hbody.answers (keeps_consumeIf _)).bind fun extended s₄ hbody => ?_
  refine hbody.answers_optional (hg.lhsExpr inner).keeps fun s₅ hbody => ?_
  refine (hbody.answers_reads (reads_require _)).bind fun _ s₆ ⟨hopen, hreads⟩ => ?_
  have hmembers : Step OwnKind inner.scope s₆ s₆ := .refl hopen.chained
  refine (hmembers.answers (keeps_classMembers hg inner)).bind fun _ s₇ hmembers => ?_
  refine (answers_lastEnd hmembers.chained).bind fun stop _ ⟨hs₇, _⟩ => answers_pure ?_
  subst hs₇
  have hinside := hopen.trans hmembers
  have hrest := hname.transIn hinside hin
  have hreads := hname.readsOn hinside.later (hmembers.later.readsOn hreads)
  refine ⟨hkeyword.step.trans hrest, hrest.later.readsOn hkeyword.reads, ?_⟩
  have hplain : keyword.type ≠ .braceClose := by
    rw [htype]
    decide
  have hfollows := hreads.tokenFollows hrest hkeyword.step.chained hkeyword.step.leads
    (hkeyword.endsPlain hplain)
  rwa [hkeyword.span]

theorem reads_classExpr (hg : g.Steps) (ctx : Context) :
    Reads OwnKind (classExpr g ctx) ctx.scope := by
  refine reads_of_answers fun s hs => (answers_classDefinition hg ctx _ hs).bind fun _ s' h => ?_
  exact answers_pure ⟨h.step, h.reads⟩

end ModuleBundler
