import ModuleBundler.Proofs.Enclosing
import ModuleBundler.Proofs.ScopeIndices

/-!
# What names mean in a scope

* `NestedScopes.enclosing_eq_cons` : around a scope are its parent and all around that;
* `ScopeTree.Climb.resolve_eq` : a name means the same along a way on which nothing declares it;
* `ScopeTree.resolve_eq_parent_iff` : a name means the same in a scope and in its parent if and only
  if the scope does not declare it.
-/

namespace ModuleBundler

/-! ## Scopes around a scope -/

variable {scopes : Array Scope}

theorem NestedScopes.parent_lt (h : NestedScopes scopes) {id parent : ScopeId}
    (hparent : (scopes[id]?).bind Scope.parent = some parent) : parent < id := by
  obtain ⟨scope, hscope, -⟩ := Option.bind_eq_some_iff.mp hparent
  have hlt := (Array.getElem?_eq_some_iff.mp hscope).1
  rcases Nat.eq_zero_or_pos id with rfl | hpos
  · rw [h.outermost] at hparent
    cases hparent
  · obtain ⟨parent', hparent', hbefore⟩ := h.parent id hpos hlt
    cases hparent.symm.trans hparent'
    exact hbefore

/-- There are no more scopes around a scope than there are before it. -/
theorem NestedScopes.enclosingWithin_succ (h : NestedScopes scopes) {count : Nat} {id : ScopeId}
    (hcount : id ≤ count) :
    enclosingWithin scopes (count + 1) id = enclosingWithin scopes count id := by
  induction count generalizing id with
  | zero =>
    obtain rfl := Nat.le_zero.mp hcount
    unfold enclosingWithin
    rw [h.outermost]
  | succ count ih =>
    rw [enclosingWithin]
    conv_rhs => rw [enclosingWithin]
    cases hparent : (scopes[id]?).bind Scope.parent with
    | none => rfl
    | some parent =>
      have hlt := Nat.lt_of_lt_of_le (h.parent_lt hparent) hcount
      exact congrArg (id :: ·) (ih (Nat.le_of_lt_succ hlt))

/-- Around a scope are its parent and all around that. -/
theorem NestedScopes.enclosing_eq_cons (h : NestedScopes scopes) {id parent : ScopeId}
    (hparent : (scopes[id]?).bind Scope.parent = some parent) :
    enclosing scopes id = id :: enclosing scopes parent := by
  obtain ⟨scope, hscope, -⟩ := Option.bind_eq_some_iff.mp hparent
  have hlt := Nat.lt_trans (h.parent_lt hparent) (Array.getElem?_eq_some_iff.mp hscope).1
  obtain ⟨count, hsize⟩ := Nat.exists_eq_succ_of_ne_zero (Nat.ne_of_gt h.nonempty)
  have hcount : parent ≤ count := Nat.le_of_lt_succ (hsize ▸ hlt)
  unfold enclosing
  rw [hsize, h.enclosingWithin_succ hcount, enclosingWithin, hparent]

/-- The scopes around a scope do not come after it. -/
theorem NestedScopes.le_of_mem_enclosingWithin (h : NestedScopes scopes) {count : Nat}
    {id other : ScopeId} (hother : other ∈ enclosingWithin scopes count id) : other ≤ id := by
  induction count generalizing id with
  | zero =>
    rw [enclosingWithin, List.mem_singleton] at hother
    exact Nat.le_of_eq hother
  | succ count ih =>
    unfold enclosingWithin at hother
    cases hparent : (scopes[id]?).bind Scope.parent with
    | none =>
      rw [hparent] at hother
      exact Nat.le_of_eq (List.mem_singleton.mp hother)
    | some parent =>
      rw [hparent] at hother
      rcases List.mem_cons.mp hother with rfl | hother
      · exact Nat.le_refl _
      · exact Nat.le_trans (ih hother) (Nat.le_of_lt (h.parent_lt hparent))

/-! ## Names -/

namespace ScopeTree

variable {tree : ScopeTree} {id parent : ScopeId} {name : String}

/-- What a scope declares hides what is declared around it. -/
theorem resolve_eq_or (h : NestedScopes tree.scopes)
    (hparent : (tree.scopes[id]?).bind Scope.parent = some parent) :
    tree.resolve id name = (tree.tables.lookup id name).or (tree.resolve parent name) := by
  unfold resolve ScopeTables.resolve
  rw [h.enclosing_eq_cons hparent, List.findSome?_cons]
  cases tree.tables.lookup id name with
  | none => rfl
  | some binding => rfl

theorem lookup_eq_none (h : ¬ tree.Declares id name) : tree.tables.lookup id name = none :=
  Option.not_isSome_iff_eq_none.mp h

/-- A name means the same along a way on which nothing declares it. -/
theorem Climb.resolve_eq (h : NestedScopes tree.scopes) {place scope : ScopeId}
    {way : List ScopeId} (hclimb : tree.Climb place way scope)
    (hway : ∀ mid ∈ way, ¬ tree.Declares mid name) :
    tree.resolve place name = tree.resolve scope name := by
  induction hclimb with
  | here place => rfl
  | up nested isParent rest ih =>
    obtain ⟨hfirst, hrest⟩ := List.forall_mem_cons.mp hway
    rw [resolve_eq_or h isParent, lookup_eq_none hfirst, Option.none_or]
    exact ih hrest

theorem tablesHold_of_build {declarations : Array Declaration} {references : Array Reference}
    (h : ScopeTree.build scopes declarations references = .ok tree) :
    TablesHold scopes declarations.toList tree.tables := by
  obtain ⟨tables, htables, h⟩ := bind_eq_ok.mp h
  rw [← Array.foldlM_toList] at htables
  have hold := (tablesHold_nil scopes).foldlM htables
  rw [List.nil_append] at hold
  split at h
  · cases h
  · cases h
    exact hold

/-- A reference is bound to what its name means in its scope. -/
theorem ofReference_of_build {declarations : Array Declaration} {references : Array Reference}
    (h : ScopeTree.build scopes declarations references = .ok tree) :
    tree.ofReference = references.map fun r => tree.resolve r.scope r.name := by
  obtain ⟨tables, -, h⟩ := bind_eq_ok.mp h
  split at h
  · cases h
  · cases h
    rfl

/-- A name means the same in a scope and in its parent if and only if the scope does not declare
it. -/
theorem resolve_eq_parent_iff (h : NestedScopes tree.scopes) {declarations : List Declaration}
    (hold : TablesHold tree.scopes declarations tree.tables)
    (hparent : (tree.scopes[id]?).bind Scope.parent = some parent) :
    tree.resolve id name = tree.resolve parent name ↔ ¬ tree.Declares id name := by
  rw [resolve_eq_or h hparent]
  constructor
  · intro heq hdeclares
    obtain ⟨binding, hbinding⟩ := Option.isSome_iff_exists.mp hdeclares
    rw [hbinding, Option.some_or] at heq
    -- The binding would belong to a scope further out too.
    obtain ⟨outer, houter, hbinding'⟩ := List.exists_of_findSome?_eq_some heq.symm
    obtain ⟨b, hb, hscope⟩ := hold.scope _ _ _ hbinding
    obtain ⟨b', hb', hscope'⟩ := hold.scope _ _ _ hbinding'
    cases hb.symm.trans hb'
    have hle : id ≤ parent := (hscope.symm.trans hscope') ▸ h.le_of_mem_enclosingWithin houter
    exact absurd (h.parent_lt hparent) (Nat.not_lt.mpr hle)
  · intro hnot
    rw [lookup_eq_none hnot, Option.none_or]

end ScopeTree
end ModuleBundler
