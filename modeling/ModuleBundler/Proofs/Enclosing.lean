import Mathlib.Data.List.Nodup
import Mathlib.Data.List.Perm.Subperm
import ModuleBundler.Scope.Tree

/-!
# The scopes around a place

* `ScopeTree.Inside` : the scopes around a place, up to but excluding the module scope;
* `ScopeTree.Climb` : the way from a place outwards to one of them, which needs no scope twice;
* `ScopeTree.mem_namesEnclosing` : the names that enclose a place are those that they declare.
-/

namespace ModuleBundler

/-- The scopes around a place in a scope, that one included, up to but excluding the module
scope. -/
inductive ScopeTree.Inside (tree : ScopeTree) (place : ScopeId) : ScopeId → Prop where
  | self (nested : place ≠ moduleScope) : tree.Inside place place
  | parent {scope parent : ScopeId} (inside : tree.Inside place scope)
      (isParent : (tree.scopes[scope]?).bind Scope.parent = some parent)
      (nested : parent ≠ moduleScope) : tree.Inside place parent

/-- A scope declares a name. -/
def ScopeTree.Declares (tree : ScopeTree) (scope : ScopeId) (name : String) : Prop :=
  (tree.tables.lookup scope name).isSome

/-! ## Ways outwards -/

/-- The scopes on the way from a place outwards to a scope, that one excluded. -/
inductive ScopeTree.Climb (tree : ScopeTree) : ScopeId → List ScopeId → ScopeId → Prop where
  | here (place : ScopeId) : tree.Climb place [] place
  | up {place parent scope : ScopeId} {way : List ScopeId} (nested : place ≠ moduleScope)
      (isParent : (tree.scopes[place]?).bind Scope.parent = some parent)
      (rest : tree.Climb parent way scope) : tree.Climb place (place :: way) scope

namespace ScopeTree

variable {tree : ScopeTree} {place scope parent : ScopeId} {way : List ScopeId}

theorem Climb.append (h : tree.Climb place way scope) (nested : scope ≠ moduleScope)
    (isParent : (tree.scopes[scope]?).bind Scope.parent = some parent) :
    tree.Climb place (way ++ [scope]) parent := by
  induction h with
  | here place => exact .up nested isParent (.here parent)
  | up nested' isParent' rest ih => exact .up nested' isParent' (ih nested isParent)

theorem Inside.climb (h : tree.Inside place scope) :
    scope ≠ moduleScope ∧ ∃ way, tree.Climb place way scope := by
  induction h with
  | self nested => exact ⟨nested, [], .here place⟩
  | parent inside isParent nested ih =>
    obtain ⟨hscope, way, hway⟩ := ih
    exact ⟨nested, _, hway.append hscope isParent⟩

/-- The way from a scope on the way. -/
theorem Climb.from_mem (h : tree.Climb place way scope) {mid : ScopeId} (hmid : mid ∈ way) :
    ∃ rest, (mid :: rest) <:+ way ∧ tree.Climb mid (mid :: rest) scope := by
  induction h with
  | here place => cases hmid
  | @up place parent scope way nested isParent rest ih =>
    rcases List.mem_cons.mp hmid with rfl | hmid
    · exact ⟨way, List.suffix_refl _, .up nested isParent rest⟩
    · obtain ⟨rest', hsuffix, hclimb⟩ := ih hmid
      exact ⟨rest', hsuffix.trans (List.suffix_cons _ _), hclimb⟩

/-- There is a way that comes to no scope twice. -/
theorem Climb.exists_nodup (h : tree.Climb place way scope) :
    ∃ way', way'.Nodup ∧ tree.Climb place way' scope := by
  induction h with
  | here place => exact ⟨[], List.nodup_nil, .here place⟩
  | @up place parent scope way nested isParent rest ih =>
    obtain ⟨way', hnodup, hclimb⟩ := ih
    by_cases hmem : place ∈ way'
    · obtain ⟨rest', hsuffix, hclimb'⟩ := hclimb.from_mem hmem
      exact ⟨place :: rest', hnodup.sublist hsuffix.sublist, hclimb'⟩
    · exact ⟨place :: way', List.nodup_cons.mpr ⟨hmem, hnodup⟩, .up nested isParent hclimb⟩

/-- A way leads through no module scope. -/
theorem Climb.ne_moduleScope (h : tree.Climb place way scope) :
    ∀ mid ∈ way, mid ≠ moduleScope := by
  induction h with
  | here place => exact fun _ h => nomatch h
  | up nested isParent rest ih => exact List.forall_mem_cons.mpr ⟨nested, ih⟩

theorem Climb.lt (h : tree.Climb place way scope) : ∀ mid ∈ way, mid < tree.scopes.size := by
  induction h with
  | here place => exact fun _ h => nomatch h
  | up nested isParent rest ih =>
    obtain ⟨s, hs, -⟩ := Option.bind_eq_some_iff.mp isParent
    exact List.forall_mem_cons.mpr ⟨(Array.getElem?_eq_some_iff.mp hs).1, ih⟩

/-- A way that comes to no scope twice is no longer than there are scopes. -/
theorem Climb.length_le (h : tree.Climb place way scope) (hnodup : way.Nodup) :
    way.length ≤ tree.scopes.size := by
  have hsub : way ⊆ List.range tree.scopes.size :=
    fun mid hmid => List.mem_range.mpr (h.lt mid hmid)
  have hlength := (List.subperm_of_subset hnodup hsub).length_le
  rwa [List.length_range] at hlength

theorem enclosingWithin_eq_cons (scopes : Array Scope) (count : Nat) (scope : ScopeId) :
    ∃ outer, enclosingWithin scopes count scope = scope :: outer := by
  cases count with
  | zero => exact ⟨[], rfl⟩
  | succ count =>
    unfold enclosingWithin
    split
    · exact ⟨_, rfl⟩
    · exact ⟨_, rfl⟩

/-- A scope that a way leads to encloses the place, within the length of the way. -/
theorem Climb.mem_takeWhile (h : tree.Climb place way scope) (hscope : scope ≠ moduleScope)
    {count : Nat} (hcount : way.length ≤ count) :
    scope ∈ (enclosingWithin tree.scopes count place).takeWhile (· ≠ moduleScope) := by
  induction h generalizing count with
  | here place =>
    obtain ⟨outer, houter⟩ := enclosingWithin_eq_cons tree.scopes count place
    rw [houter, List.takeWhile_cons, if_pos (decide_eq_true hscope)]
    exact List.mem_cons_self
  | up nested isParent rest ih =>
    cases count with
    | zero => cases hcount
    | succ count =>
      unfold enclosingWithin
      rw [isParent]
      dsimp only
      rw [List.takeWhile_cons, if_pos (decide_eq_true nested)]
      exact List.mem_cons_of_mem _ (ih hscope (Nat.le_of_succ_le_succ hcount))

/-- The scopes around the parent of a scope are around it too. -/
theorem Inside.outward (h : tree.Inside parent scope) (nested : place ≠ moduleScope)
    (isParent : (tree.scopes[place]?).bind Scope.parent = some parent) : tree.Inside place scope := by
  induction h with
  | self hparent => exact .parent (.self nested) isParent hparent
  | parent _ isParent' nested' ih => exact .parent ih isParent' nested'

/-- The scopes that enclose a place are around it. -/
theorem inside_of_mem_takeWhile {count : Nat}
    (h : scope ∈ (enclosingWithin tree.scopes count place).takeWhile (· ≠ moduleScope)) :
    tree.Inside place scope := by
  have hself : ∀ {place : ScopeId}, scope ∈ [place].takeWhile (· ≠ moduleScope) →
      tree.Inside place scope := by
    intro place h
    rw [List.takeWhile_cons] at h
    split at h
    · rename_i nested
      obtain rfl := List.mem_singleton.mp h
      exact .self (of_decide_eq_true nested)
    · cases h
  induction count generalizing place with
  | zero => exact hself h
  | succ count ih =>
    unfold enclosingWithin at h
    split at h
    · rename_i parent isParent
      rw [List.takeWhile_cons] at h
      split at h
      · rename_i nested
        rcases List.mem_cons.mp h with rfl | h
        · exact .self (of_decide_eq_true nested)
        · exact (ih h).outward (of_decide_eq_true nested) isParent
      · cases h
    · exact hself h

theorem declares_iff {name : String} :
    tree.Declares scope name ↔ name ∈ ((tree.names[scope]?).getD []).map Prod.fst := by
  rw [Declares, ScopeTables.lookup, List.lookup_isSome_iff, List.mem_map]
  refine exists_congr fun entry => and_congr_right fun _ => ?_
  rw [beq_iff_eq]
  exact eq_comm

/-- The names that enclose a place are those that the scopes around it declare. -/
theorem mem_namesEnclosing {name : String} : name ∈ tree.namesEnclosing place ↔
    ∃ scope, tree.Inside place scope ∧ tree.Declares scope name := by
  unfold namesEnclosing
  simp only [List.mem_flatMap, ← declares_iff]
  constructor
  · rintro ⟨scope, hmem, hdeclares⟩
    exact ⟨scope, inside_of_mem_takeWhile hmem, hdeclares⟩
  · rintro ⟨scope, hinside, hdeclares⟩
    obtain ⟨hscope, _, hclimb⟩ := hinside.climb
    obtain ⟨way, hnodup, hclimb⟩ := hclimb.exists_nodup
    exact ⟨scope, hclimb.mem_takeWhile hscope (hclimb.length_le hnodup), hdeclares⟩

/-- A scope around a place declares no name but those that enclose the place. -/
theorem Inside.not_declares {name : String} (h : tree.Inside place scope)
    (hname : name ∉ tree.namesEnclosing place) : ¬ tree.Declares scope name :=
  fun hdeclares => hname (mem_namesEnclosing.mpr ⟨scope, h, hdeclares⟩)

end ScopeTree
end ModuleBundler
