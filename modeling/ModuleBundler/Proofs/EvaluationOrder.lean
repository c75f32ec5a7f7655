import Mathlib.Data.List.Perm.Subperm
import ModuleBundler.Graph.Basic

/-!
# The order of evaluation

* `Walk.Holds` : what a walk keeps: it has been at the modules on the way to where it is and at those
  that it has left for good;
* `Walk.Holds.visit` : going to a module keeps that, and the depth is never used up;
* `order_holds` : each module of a graph is evaluated, once.
-/

namespace ModuleBundler
namespace ModuleGraph

/-- What a walk keeps on the way `path` in a graph of so many modules. -/
structure Walk.Holds (size : Nat) (path : List Nat) (walk : Walk) : Prop where
  nodup : (path ++ walk.finished).Nodup
  bound : ∀ i ∈ path ++ walk.finished, i < size
  visited : ∀ i, i ∈ walk.visited ↔ i ∈ path ++ walk.finished

/-- A walk goes on to modules and stays on its way. -/
structure Walk.GoesTo (size : Nat) (path : List Nat) (walk : Walk) (indices : List Nat)
    (walk' : Walk) : Prop where
  holds : walk'.Holds size path
  reached : ∀ i ∈ indices, i ∈ walk'.visited
  kept : ∀ i ∈ walk.visited, i ∈ walk'.visited

/-- A way through all modules has been everywhere. -/
theorem Walk.Holds.mem_of_length_eq {size : Nat} {path : List Nat} {walk : Walk}
    (h : walk.Holds size path) (hlength : path.length = size) {index : Nat} (hindex : index < size) :
    index ∈ walk.visited := by
  have hpath : path.Nodup := (List.nodup_append.mp h.nodup).1
  have hsub : path ⊆ List.range size := fun i hi =>
    List.mem_range.mpr (h.bound i (List.mem_append_left _ hi))
  have hperm := (List.subperm_of_subset hpath hsub).perm_of_length_le
    (Nat.le_of_eq (List.length_range.trans hlength.symm))
  exact (h.visited index).mpr
    (List.mem_append_left _ (hperm.mem_iff.mpr (List.mem_range.mpr hindex)))

/-- A walk that is at a new module has it on its way. -/
theorem Walk.Holds.enter {size : Nat} {path : List Nat} {walk : Walk} (h : walk.Holds size path)
    {index : Nat} (hindex : index < size) (hnew : index ∉ walk.visited) :
    Walk.Holds size (index :: path) ⟨index :: walk.visited, walk.finished⟩ where
  nodup := List.nodup_cons.mpr ⟨fun hmem => hnew ((h.visited index).mpr hmem), h.nodup⟩
  bound := List.forall_mem_cons.mpr ⟨hindex, h.bound⟩
  visited i := by
    rw [List.cons_append, List.mem_cons, List.mem_cons, h.visited]

/-- A walk that leaves a module for good has it no more on its way. -/
theorem Walk.Holds.leave {size : Nat} {path : List Nat} {walk : Walk} {index : Nat}
    (h : walk.Holds size (index :: path)) :
    Walk.Holds size path ⟨walk.visited, walk.finished ++ [index]⟩ := by
  have hperm : (path ++ (walk.finished ++ [index])).Perm (index :: path ++ walk.finished) := by
    rw [← List.append_assoc]
    exact List.perm_append_singleton index (path ++ walk.finished)
  refine ⟨hperm.nodup_iff.mpr h.nodup, fun i hi => h.bound i (hperm.mem_iff.mp hi), fun i => ?_⟩
  rw [h.visited, hperm.mem_iff]

/-- Going to one module after another is a walk to all of them. -/
theorem Walk.Holds.foldl {size : Nat} {path : List Nat} {step : Walk → Nat → Walk}
    (hstep : ∀ walk : Walk, walk.Holds size path → ∀ index < size,
      walk.GoesTo size path [index] (step walk index))
    {indices : List Nat} (hindices : ∀ i ∈ indices, i < size) {walk : Walk}
    (h : walk.Holds size path) : walk.GoesTo size path indices (indices.foldl step walk) := by
  induction indices generalizing walk with
  | nil => exact ⟨h, fun _ hi => (nomatch hi), fun _ hi => hi⟩
  | cons index rest ih =>
    obtain ⟨hindex, hrest⟩ := List.forall_mem_cons.mp hindices
    have hfirst := hstep walk h index hindex
    have hlater := ih hrest hfirst.holds
    refine ⟨hlater.holds, List.forall_mem_cons.mpr ⟨?_, hlater.reached⟩, fun i hi => ?_⟩
    · exact hlater.kept index (hfirst.reached index (List.mem_singleton_self index))
    · exact hlater.kept i (hfirst.kept i hi)

variable {next : Nat → List Nat} {size : Nat}

/-- Going to a module keeps what the walk keeps. The way and the depth together are as long as there
are modules, so that no depth is left only where the walk has been everywhere. -/
theorem Walk.Holds.visit (hnext : ∀ index, ∀ i ∈ next index, i < size) {depth : Nat}
    {path : List Nat} {walk : Walk} (h : walk.Holds size path)
    (hdepth : path.length + depth = size) {index : Nat} (hindex : index < size) :
    walk.GoesTo size path [index] (ModuleGraph.visit next depth walk index) := by
  induction depth generalizing path walk index with
  | zero =>
    have hmem := h.mem_of_length_eq hdepth hindex
    exact ⟨h, List.forall_mem_singleton.mpr hmem, fun _ hi => hi⟩
  | succ depth ih =>
    unfold ModuleGraph.visit
    split
    · rename_i hmem
      exact ⟨h, List.forall_mem_singleton.mpr hmem, fun _ hi => hi⟩
    · rename_i hnew
      have hentered := h.enter hindex hnew
      have hlength : (index :: path).length + depth = size := by
        rw [List.length_cons]
        omega
      have hwalked := hentered.foldl (fun walk h i hi => ih h hlength hi) (hnext index)
      have hat := hwalked.kept index List.mem_cons_self
      refine ⟨hwalked.holds.leave, List.forall_mem_singleton.mpr hat, fun i hi => ?_⟩
      exact hwalked.kept i (List.mem_cons_of_mem _ hi)

/-- The walk through a graph ends with all modules left for good. -/
theorem order_holds {g : ModuleGraph} (hg : ∀ index, ∀ i ∈ g.successors index, i < g.size) :
    g.order.Nodup ∧ ∀ index, index ∈ g.order ↔ index < g.size := by
  have hstart : Walk.Holds g.size [] ⟨[], []⟩ :=
    ⟨List.nodup_nil, fun _ h => (nomatch h), fun _ => Iff.rfl⟩
  have hindices : ∀ i ∈ g.indices, i < g.size := fun i hi => List.mem_range.mp hi
  have hend := hstart.foldl (fun walk h i hi => h.visit hg (Nat.zero_add _) hi) hindices
  refine ⟨hend.holds.nodup, fun index => ⟨fun h => hend.holds.bound index h, fun h => ?_⟩⟩
  exact (hend.holds.visited index).mp (hend.reached index (List.mem_range.mpr h))

end ModuleGraph
end ModuleBundler
