import ModuleBundler.Proofs.Syntax.Sites
import ModuleBundler.Proofs.WaysOut

/-!
# Where a `var` stands

* `Outline.KeepsVars` : no `var` gets out of a text, as each stands in a function of it;
* `Outline.DeclaresDirectly` : each `var` that gets out of a text stands in none of its scopes;
* `Derives.keepsVars`, `Derives.declaresDirectly` : a text without statements keeps what it does not
  declare itself, whatever expressions are in it;
* `Phrase.declarationText` : the declarations that may be exported;
* `Outline.DeclaresDirectly.belongsTo_iff` : what a text declares belongs to the scope around it
  just if it stands there.

Blocks and loops let a `var` out. They are statements, and statements stand in expressions only
within functions, in the bodies of methods and in the static blocks of classes, which count as such.
-/

namespace ModuleBundler

/-! ## Texts -/

/-- Whether a `var` in the part stays there. -/
def NodeKind.isFunctionScope (kind : NodeKind) : Bool := kind.scopeType? = some .function

def Role.declaresVar : Role → Bool
  | declares kind _ => kind = .var
  | plain | uses _ => false

def Leaf.declaresVar : Leaf → Bool
  | token _ role => role.declaresVar
  | placeholder _ kind => kind = .var
  | effect _ => false

namespace Outline

/-- No `var` gets out of the text. -/
def KeepsVars : Outline → Prop
  | nil => True
  | leaf l rest => l.declaresVar = false ∧ rest.KeepsVars
  | node kind inner rest => (kind.isFunctionScope = true ∨ inner.KeepsVars) ∧ rest.KeepsVars

/-- Each `var` that gets out of the text stands in none of its scopes. -/
def DeclaresDirectly : Outline → Prop
  | nil => True
  | leaf _ rest => rest.DeclaresDirectly
  | node kind inner rest => (kind.isFunctionScope = true ∨ inner.KeepsVars) ∧ rest.DeclaresDirectly

variable {o o' : Outline}

theorem KeepsVars.append (h : o.KeepsVars) (h' : o'.KeepsVars) : (o ++ o').KeepsVars := by
  induction o with
  | nil => exact h'
  | leaf l rest ih => exact ⟨h.1, ih h.2⟩
  | node kind inner rest _ ih => exact ⟨h.1, ih h.2⟩

theorem DeclaresDirectly.append (h : o.DeclaresDirectly) (h' : o'.DeclaresDirectly) :
    (o ++ o').DeclaresDirectly := by
  induction o with
  | nil => exact h'
  | leaf l rest ih => exact ih h
  | node kind inner rest _ ih => exact ⟨h.1, ih h.2⟩

end Outline

/-! ## Phrases -/

namespace Phrase

/-- Whether no `var` gets out of a text of the form, if that holds of all forms but statements and
the patterns of `var`. -/
def keepsVars : Phrase → Bool
  | token _ role => !role.declaresVar
  | placeholder kind => kind ≠ .var
  | empty | effect _ => true
  | rule n => n ≠ .statement && n ≠ .pattern .var
  | node kind inner => kind.isFunctionScope || inner.keepsVars
  | seq first rest => first.keepsVars && rest.keepsVars
  | or left right => left.keepsVars && right.keepsVars
  | many item => item.keepsVars

/-- Whether a text of the form declares directly, if that holds of all forms but statements. -/
def declaresDirectly : Phrase → Bool
  | empty | token .. | placeholder _ | effect _ => true
  | rule n => n ≠ .statement
  | node kind inner => kind.isFunctionScope || inner.keepsVars
  | seq first rest => first.declaresDirectly && rest.declaresDirectly
  | or left right => left.declaresDirectly && right.declaresDirectly
  | many item => item.declaresDirectly

end Phrase

theorem syntaxRules_keepsVars (n : Nonterminal) (hn : n ≠ .statement) (hvar : n ≠ .pattern .var) :
    (syntaxRules n).keepsVars = true := by
  cases n with
  | pattern kind =>
    cases kind with
    | var => exact absurd rfl hvar
    | «let» | const | function | classDecl | param | catchParam | imported => rfl
  | statement => exact absurd rfl hn
  | assignment | unary | leftHandSide | new => rfl

theorem syntaxRules_declaresDirectly (n : Nonterminal) (hn : n ≠ .statement) :
    (syntaxRules n).declaresDirectly = true := by
  cases n with
  | pattern kind => cases kind <;> rfl
  | statement => exact absurd rfl hn
  | assignment | unary | leftHandSide | new => rfl

namespace Derives

variable {rules : Rules} {p : Phrase} {o : Outline}

/-- No `var` gets out of a text if the rules let none out. -/
theorem keepsVars
    (hrules : ∀ n, n ≠ .statement → n ≠ .pattern .var → (rules n).keepsVars = true)
    (h : Derives rules p o) (hp : p.keepsVars = true) : o.KeepsVars := by
  induction h with
  | empty | effect | none => simp [Outline.KeepsVars, Leaf.declaresVar]
  | token => exact ⟨(Bool.not_eq_true' _).mp hp, trivial⟩
  | placeholder => exact ⟨decide_eq_false (of_decide_eq_true hp), trivial⟩
  | @rule n _ _ ih =>
    obtain ⟨hn, hvar⟩ := Bool.and_eq_true_iff.mp hp
    exact ih (hrules n (of_decide_eq_true hn) (of_decide_eq_true hvar))
  | node _ ih => exact ⟨(Bool.or_eq_true_iff.mp hp).imp_right ih, trivial⟩
  | seq _ _ ih ih' =>
    obtain ⟨hp, hp'⟩ := Bool.and_eq_true_iff.mp hp
    exact (ih hp).append (ih' hp')
  | left _ ih => exact ih (Bool.and_eq_true_iff.mp hp).1
  | right _ ih => exact ih (Bool.and_eq_true_iff.mp hp).2
  | more _ _ ih ih' => exact (ih hp).append (ih' hp)

/-- A text declares directly if the rules do. -/
theorem declaresDirectly
    (hkeeps : ∀ n, n ≠ .statement → n ≠ .pattern .var → (rules n).keepsVars = true)
    (hrules : ∀ n, n ≠ .statement → (rules n).declaresDirectly = true)
    (h : Derives rules p o) (hp : p.declaresDirectly = true) : o.DeclaresDirectly := by
  induction h with
  | empty | token | placeholder | effect | none => trivial
  | @rule n _ _ ih => exact ih (hrules n (of_decide_eq_true hp))
  | node derives _ =>
    exact ⟨(Bool.or_eq_true_iff.mp hp).imp_right (derives.keepsVars hkeeps), trivial⟩
  | seq _ _ ih ih' =>
    obtain ⟨hp, hp'⟩ := Bool.and_eq_true_iff.mp hp
    exact (ih hp).append (ih' hp')
  | left _ ih => exact ih (Bool.and_eq_true_iff.mp hp).1
  | right _ ih => exact ih (Bool.and_eq_true_iff.mp hp).2
  | more _ _ ih ih' => exact (ih hp).append (ih' hp)

end Derives

/-- A declaration that may stand after `export`. -/
def Phrase.declarationText : Phrase :=
  oneOf [row [variableDeclaration, semicolon], functionText .declaration true,
    classText .declaration true]

/-! ## Scopes -/

namespace Outline

variable {scopes : Array Scope} {o : Outline} {scope next own : ScopeId} {l : Leaf}

/-- The scope that a node opens is there. -/
theorem scope_of_scopeType? {kind : NodeKind} {type : ScopeType}
    (hkind : kind.scopeType? = some type) (h : ScopesFrom scopes next (kind.opened scope)) :
    scopes[next]? = some ⟨some scope, type⟩ := by
  unfold NodeKind.opened at h
  rw [hkind] at h
  exact h 0 _ rfl

/-- The scope that holds what stands in a node lies in the scope around it. -/
theorem within_inside {kind : NodeKind} (h : ScopesFrom scopes next (kind.opened scope)) :
    Within scopes (kind.inside scope next) scope := by
  unfold NodeKind.inside
  cases htype : kind.scopeType? with
  | none => exact .refl
  | some type =>
    rw [Option.isSome_some, if_pos rfl]
    exact .single (by rw [scope_of_scopeType? htype h]; rfl)

/-- What stands in an outline stands in the scope around that, or in one that lies in it. -/
theorem within_of_mem_leaves (h : ScopesFrom scopes next (o.scopes scope next))
    (hl : (own, l) ∈ o.leaves scope next) : Within scopes own scope := by
  induction o generalizing scope next with
  | nil => cases hl
  | leaf first rest ih =>
    rcases List.mem_cons.mp hl with heq | hl
    · cases heq
      exact .refl
    · exact ih h hl
  | node kind inner rest ihinner ih =>
    obtain ⟨hopened, hinner, hrest⟩ := scopesFrom_node h
    rcases List.mem_append.mp hl with hl | hl
    · exact (ihinner hinner hl).trans (within_inside hopened)
    · exact ih hrest hl

/-- A function around a place keeps its `var`s from a scope further out. -/
def FunctionBetween (scopes : Array Scope) (own scope : ScopeId) : Prop :=
  ∃ between, Within scopes own between ∧ StopsVars scopes between ∧
    StrictlyWithin scopes between scope

theorem FunctionBetween.outward {outer : ScopeId} (h : FunctionBetween scopes own scope)
    (hwithin : Within scopes scope outer) : FunctionBetween scopes own outer := by
  obtain ⟨between, hown, hstops, hstrictly⟩ := h
  exact ⟨between, hown, hstops, hstrictly.trans_left hwithin⟩

/-- A node that is a function stands between what is in it and the scope around it. -/
theorem functionBetween_of_node {kind : NodeKind} {inner rest : Outline}
    (hkind : kind.isFunctionScope = true)
    (h : ScopesFrom scopes next ((node kind inner rest).scopes scope next))
    (hl : (own, l) ∈ inner.leaves (kind.inside scope next) (next + kind.scopeCount)) :
    FunctionBetween scopes own scope := by
  have htype : kind.scopeType? = some .function := of_decide_eq_true hkind
  obtain ⟨hopened, hinner, -⟩ := scopesFrom_node h
  have hscope := scope_of_scopeType? htype hopened
  have hwithin := within_of_mem_leaves hinner hl
  unfold NodeKind.inside at hwithin
  rw [htype] at hwithin
  exact ⟨next, hwithin, ⟨_, hscope, .inl rfl⟩, .single (by rw [hscope]; rfl)⟩

/-- Each `var` in a text that keeps all of them has a function around it. -/
theorem KeepsVars.functionBetween (ho : o.KeepsVars)
    (h : ScopesFrom scopes next (o.scopes scope next)) (hl : (own, l) ∈ o.leaves scope next)
    (hvar : l.declaresVar = true) : FunctionBetween scopes own scope := by
  induction o generalizing scope next with
  | nil => cases hl
  | leaf first rest ih =>
    rcases List.mem_cons.mp hl with heq | hl
    · cases heq
      exact absurd (ho.1.symm.trans hvar) Bool.false_ne_true
    · exact ih ho.2 h hl
  | node kind inner rest ihinner ih =>
    rcases List.mem_append.mp hl with hl | hl
    · obtain ⟨hopened, hinner, -⟩ := scopesFrom_node h
      rcases ho.1 with hfunction | hkeeps
      · exact functionBetween_of_node hfunction h hl
      · exact (ihinner hkeeps hinner hl).outward (within_inside hopened)
    · exact ih ho.2 (scopesFrom_node h).2.2 hl

/-- Each `var` in a text that declares directly stands in the scope around the text, or has a
function around it. -/
theorem DeclaresDirectly.functionBetween (ho : o.DeclaresDirectly)
    (h : ScopesFrom scopes next (o.scopes scope next)) (hl : (own, l) ∈ o.leaves scope next)
    (hvar : l.declaresVar = true) : own = scope ∨ FunctionBetween scopes own scope := by
  induction o generalizing next with
  | nil => cases hl
  | leaf first rest ih =>
    rcases List.mem_cons.mp hl with heq | hl
    · cases heq
      exact .inl rfl
    · exact ih ho h hl
  | node kind inner rest _ ih =>
    rcases List.mem_append.mp hl with hl | hl
    · obtain ⟨hopened, hinner, -⟩ := scopesFrom_node h
      rcases ho.1 with hfunction | hkeeps
      · exact .inr (functionBetween_of_node hfunction h hl)
      · exact .inr ((hkeeps.functionBetween hinner hl hvar).outward (within_inside hopened))
    · exact ih ho.2 (scopesFrom_node h).2.2 hl

/-- What declares as a `var` is such a leaf. -/
theorem declaresVar_of_declaration? {d : Declaration} (h : l.declaration? own = some d) :
    d.scope = own ∧ (d.kind = .var → l.declaresVar = true) := by
  rcases Leaf.eq_of_declaration? h with ⟨b, kind, shorthand, rfl, rfl⟩ | ⟨offset, kind, rfl, rfl⟩
  · exact ⟨rfl, decide_eq_true⟩
  · exact ⟨rfl, decide_eq_true⟩

/-- What a text declares directly in a scope that lets no `var` out belongs to the scope just if it
stands there. -/
theorem DeclaresDirectly.belongsTo_iff (ho : o.DeclaresDirectly) (hroot : RootedScopes scopes)
    (hstops : StopsVars scopes scope) (h : ScopesFrom scopes next (o.scopes scope next))
    {d : Declaration} (hd : d ∈ o.declarations scope next) :
    BelongsTo scopes d scope ↔ d.scope = scope := by
  obtain ⟨way, hway⟩ := hroot.exists_wayOut scope
  obtain ⟨⟨own, l⟩, hl, hdeclares⟩ := List.mem_filterMap.mp hd
  obtain ⟨hown, hvar⟩ := declaresVar_of_declaration? hdeclares
  constructor
  · rintro (hstays | ⟨hkind, -, -, hclosest⟩)
    · rfl
    · rcases ho.functionBetween h hl (hvar hkind) with heq | ⟨between, hwithin, hstops', hstrictly⟩
      · exact hown.trans heq
      · exact absurd hstops' (hclosest between (hown ▸ hwithin) hstrictly)
  · intro hscope
    by_cases hkind : d.kind = .var
    · refine .hoisted hkind (hscope ▸ .refl) hstops fun mid hmid hstrictly => ?_
      -- A scope between the place and itself would lie in itself.
      rw [hscope] at hmid
      exact absurd (hstrictly.trans_right hmid) hway.not_strictlyWithin
    · rw [← hscope]
      exact .own hkind

end Outline
end ModuleBundler
