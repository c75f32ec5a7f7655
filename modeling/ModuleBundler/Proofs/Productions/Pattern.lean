import ModuleBundler.Grammar.Pattern
import ModuleBundler.Proofs.Reading

/-!
# What the grammar reads: patterns

* `OwnKind` : the kinds of declarations other than imports;
* `Grammar.Steps` : the productions of a level step in the text;
* `reads_patternLevel` : so do patterns of the next level.
-/

namespace ModuleBundler

open Cursor (Leads)

/-- A declaration that is no import. -/
def OwnKind (kind : DeclarationKind) : Prop := kind ≠ .imported

instance : DecidablePred OwnKind := fun kind => inferInstanceAs (Decidable (kind ≠ .imported))

/-- All productions of a level read the next token. -/
structure Grammar.Steps (g : Grammar) : Prop where
  assignExpr : ∀ ctx, Reads OwnKind (g.assignExpr ctx) ctx.scope
  unaryExpr : ∀ ctx, Reads OwnKind (g.unaryExpr ctx) ctx.scope
  lhsExpr : ∀ ctx, Reads OwnKind (g.lhsExpr ctx) ctx.scope
  newExpr : ∀ ctx, Reads OwnKind (g.newExpr ctx) ctx.scope
  pattern : ∀ ctx kind, OwnKind kind → Reads OwnKind (g.pattern ctx kind) ctx.scope
  statement : ∀ ctx, Reads OwnKind (g.statement ctx) ctx.scope

variable {kinds : DeclarationKind → Prop} {scope : ScopeId} {g : Grammar}

theorem reads_tooDeep {α : Type} : Reads kinds (tooDeep : Parse α) scope :=
  keeps_peek.bindReads fun t => reads_fail t _

theorem Grammar.steps_exhausted : Grammar.exhausted.Steps :=
  ⟨fun _ => reads_tooDeep, fun _ => reads_tooDeep, fun _ => reads_tooDeep, fun _ => reads_tooDeep,
    fun _ _ _ => reads_tooDeep, fun _ => reads_tooDeep⟩

/-! ## Expressions and properties -/

theorem reads_expression (hg : g.Steps) (ctx : Context) :
    Reads OwnKind (expression g ctx) ctx.scope := by
  refine (hg.assignExpr ctx).bind fun first => keeps_loop (fun e => ?_) first
  refine (keeps_consumeIf _).bind fun _ => keeps_ite ?_ (keeps_pure _)
  exact (hg.assignExpr ctx).keeps.bind fun _ => keeps_pure _

theorem keeps_methodModifiers : Keeps kinds methodModifiers scope := by
  refine keeps_peek2.bind fun (a, b) => ?_
  dsimp only
  refine keeps_ite ?_ ?_
  · exact reads_consume.keeps.bind fun _ => (keeps_consumeIf _).bind fun _ => keeps_pure _
  · exact (keeps_consumeIf _).bind fun _ => keeps_pure _

/-- The name of a property is read with its span. If it may be the name of a variable, it is that of
the next token. -/
structure KeyRead (ctx : Context) (s : ParserState) (key : PropertyKey) (s' : ParserState) :
    Prop where
  step : Step OwnKind ctx.scope s s'
  reads : ReadsOn s s'
  between : key.span.Between s.place s'.place
  spelled : key.type.isIdentifier = true →
    Spelled s'.tokens.behind (decodeName (nextToken .standard s.place).1.text) key.span

theorem answers_propertyKey (hg : g.Steps) (ctx : Context) {s : ParserState}
    (hs : s.tokens.Chained) : Answers s (propertyKey g ctx) (KeyRead ctx s) := by
  have hmode : LexMode.standard ≠ .templateContinue := by decide
  refine ((answers_token OwnKind ctx.scope hmode hs).and
    (answers_consumeIn hs fun h => absurd h hmode)).bind fun t s₁ ⟨ht, hnext⟩ => ?_
  have hread : ∀ type, KeyRead ctx s ⟨t.span, type⟩ s₁ := fun type =>
    ⟨ht.step, ht.reads, ht.between, fun _ => hnext.token ▸ ht.spelled⟩
  split
  · have hstep : Step OwnKind ctx.scope s₁ s₁ := .refl ht.step.chained
    refine (hstep.answers (hg.assignExpr (ctx.withIn true)).keeps).bind fun _ s₂ hstep => ?_
    refine (answers_require OwnKind ctx.scope _ hstep.chained).bind fun close s₃ ⟨hclose, _⟩ => ?_
    have hrest := hstep.trans hclose.step
    refine answers_pure ⟨ht.step.trans hrest, hrest.later.readsOn ht.reads, ?_, fun h => nomatch h⟩
    exact ht.between.join (hclose.between.mono hstep.leads (.refl _))
  · exact answers_pure (hread _)
  · exact answers_pure (hread _)
  · exact answers_pure (hread _)
  · exact answers_pure (hread _)
  · exact answers_ite (fun _ => answers_pure (hread _)) fun _ => answers_fail t _

theorem reads_propertyKey (hg : g.Steps) (ctx : Context) :
    Reads OwnKind (propertyKey g ctx) ctx.scope := by
  intro s a s' hs h
  have hkey := answers_propertyKey hg ctx hs h
  exact ⟨hkey.step, hkey.reads⟩

/-! ## Patterns -/

/-- A name that is being declared is read with its span. -/
structure NameRead (kinds : DeclarationKind → Prop) (scope : ScopeId) (s : ParserState)
    (name : String × Span) (s' : ParserState) : Prop where
  step : Step kinds scope s s'
  reads : ReadsOn s s'
  between : name.2.Between s.place s'.place
  spelled : Spelled s'.tokens.behind name.1 name.2

theorem TokenRead.nameRead {s s' : ParserState} {t : Token} (h : TokenRead kinds scope s t s') :
    NameRead kinds scope s (decodeName t.text, t.span) s' :=
  ⟨h.step, h.reads, h.between, h.spelled⟩

theorem answers_bindingIdentifier (kinds : DeclarationKind → Prop) (scope : ScopeId)
    {s : ParserState} (hs : s.tokens.Chained) :
    Answers s bindingIdentifier (NameRead kinds scope s) := by
  refine (answers_peekIn kinds scope _ hs).bind fun t s₁ hpeeked => ?_
  refine answers_ite (fun _ => ?_) fun _ => answers_fail t _
  refine (hpeeked.answers_consume (by decide)).bind fun _ s₂ ⟨_, ht⟩ => ?_
  exact answers_pure ht.nameRead

/-- A name that was read is declared. -/
theorem NameRead.answers_declared {ctx : Context} {s s' : ParserState} {name : String × Span}
    (h : NameRead kinds ctx.scope s name s') {kind : DeclarationKind} (hkind : kinds kind)
    (shorthand : Bool) :
    Answers s' (declare ctx name.1 name.2 kind shorthand) fun _ s'' =>
      NameRead kinds ctx.scope s name s'' ∧ s''.declarations =
        s'.declarations.push ⟨name.1, name.2, ctx.scope, kind, shorthand⟩ := by
  intro _ s'' heq
  obtain ⟨hstep, -, hpush⟩ :=
    h.step.answers_declare hkind (.inl rfl) h.between (.inl h.spelled) heq
  cases heq
  exact ⟨⟨hstep, h.reads, h.between, h.spelled⟩, hpush⟩

/-- A name is read and declared before a reader goes on. -/
theorem reads_declaredIdentifier_bind {α : Type} {kind : DeclarationKind} (hkind : kinds kind)
    (ctx : Context) (shorthand : Bool) {rest : String × Span → Parse α}
    (hrest : ∀ name, Keeps kinds (rest name) ctx.scope) :
    Reads kinds (bindingIdentifier >>= fun name =>
      declare ctx name.1 name.2 kind shorthand >>= fun _ => rest name) ctx.scope := by
  refine reads_of_answers fun s hs => ?_
  refine (answers_bindingIdentifier kinds ctx.scope hs).bind fun name s₁ hname => ?_
  refine (hname.answers_declared hkind shorthand).bind fun _ s₂ ⟨hname, _⟩ => ?_
  intro a s₃ h
  have hstep := hrest name hname.step.chained h
  exact ⟨hname.step.trans hstep, hstep.later.readsOn hname.reads⟩

theorem reads_declaredIdentifier {kind : DeclarationKind} (hkind : kinds kind) (ctx : Context)
    (shorthand : Bool) : Reads kinds (bindingIdentifier >>= fun name =>
      declare ctx name.1 name.2 kind shorthand) ctx.scope := by
  have h := reads_declaredIdentifier_bind hkind ctx shorthand fun _ => keeps_pure ()
  simpa only [bind_pure_unit] using h

theorem reads_patternWithDefault (hg : g.Steps) (ctx : Context) {kind : DeclarationKind}
    (hkind : OwnKind kind) : Reads OwnKind (patternWithDefault g ctx kind) ctx.scope := by
  refine (hg.pattern ctx kind hkind).bind fun _ => (keeps_consumeIf _).bind fun _ => ?_
  exact keeps_ite ((hg.assignExpr _).keeps.bind fun _ => keeps_pure _) (keeps_pure _)

theorem reads_arrayPattern (hg : g.Steps) (ctx : Context) {kind : DeclarationKind}
    (hkind : OwnKind kind) : Reads OwnKind (arrayPattern g ctx kind) ctx.scope := by
  refine (reads_require _).bind fun _ => keeps_loopWhile ?_
  refine (keeps_consumeIf _).bind fun _ => keeps_ite (keeps_pure _) ?_
  refine (keeps_consumeIf _).bind fun _ => keeps_ite (keeps_pure _) ?_
  refine (keeps_consumeIf _).bind fun _ => keeps_ite ?_ ?_
  · refine (hg.pattern ctx kind hkind).keeps.bind fun _ => ?_
    exact (reads_require _).keeps.bind fun _ => keeps_pure _
  · refine (reads_patternWithDefault hg ctx hkind).keeps.bind fun _ => ?_
    refine (keeps_consumeIf _).bind fun _ => keeps_ite (keeps_pure _) ?_
    exact (reads_require _).keeps.bind fun _ => keeps_pure _

theorem keeps_propertyPattern (hg : g.Steps) (ctx : Context) {kind : DeclarationKind}
    (hkind : OwnKind kind) : Keeps OwnKind (propertyPattern g ctx kind) ctx.scope := by
  refine (keeps_consumeIf _).bind fun _ => keeps_ite ?_ ?_
  · exact (reads_declaredIdentifier hkind ctx false).keeps
  · refine keeps_peek2.bind fun (key, next) => keeps_ite ?_ ?_
    · refine (reads_declaredIdentifier_bind hkind ctx true fun _ => ?_).keeps
      refine (keeps_consumeIf _).bind fun _ => keeps_ite ?_ (keeps_pure _)
      exact (hg.assignExpr _).keeps.bind fun _ => keeps_pure _
    · refine (reads_propertyKey hg ctx).keeps.bind fun _ => ?_
      refine (reads_require _).keeps.bind fun _ => ?_
      exact (reads_patternWithDefault hg ctx hkind).keeps

theorem keeps_objectPattern (hg : g.Steps) (ctx : Context) {kind : DeclarationKind}
    (hkind : OwnKind kind) : Reads OwnKind (objectPattern g ctx kind) ctx.scope :=
  (reads_require _).bind fun _ => keeps_separatedList _ _ (keeps_propertyPattern hg ctx hkind)

/-- Patterns step if what nests in them does. -/
theorem reads_patternLevel (hg : g.Steps) (ctx : Context) {kind : DeclarationKind}
    (hkind : OwnKind kind) : Reads OwnKind (patternLevel g ctx kind) ctx.scope := by
  refine keeps_peek.bindReads fun t => ?_
  split
  · exact reads_arrayPattern hg ctx hkind
  · exact keeps_objectPattern hg ctx hkind
  · exact reads_fail t _
  · exact reads_ite (reads_declaredIdentifier hkind ctx false) (reads_fail t _)

end ModuleBundler
