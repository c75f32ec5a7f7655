import ModuleBundler.Link.Star
import ModuleBundler.Proofs.OutsideStars
import ModuleBundler.Proofs.Reachability

/-!
# Walks along stars

* `Exports` : a module exports a name, by itself or through stars;
* `StarWalk.Meets` : what a walk does at one module; `run_searches` : the walk is a search, which
  notes all modules but the first;
* `mem_starWalk` : the walk notes the modules that stars lead to;
* `mem_exportNames` : the names that are gathered on the way are those that the module exports.
-/

namespace ModuleBundler

open Relation (ReflTransGen)

/-- A module exports a name: it has such an export by name, or takes it over from a module of the
graph that has. -/
inductive Exports (g : ModuleGraph) (key : ExportKey) : Prop where
  | own (own : HasOwnExport g key)
  | taken (taken : BundledExport g key)

/-! ## Steps of a walk -/

/-- The modules that targets lead to. -/
def targetModules (targets : List StarTarget) : List Nat := targets.filterMap StarTarget.module?

theorem mem_targetModules {targets : List StarTarget} {index : Nat} :
    index ∈ targetModules targets ↔ .module index ∈ targets := by
  unfold targetModules
  rw [List.mem_filterMap]
  constructor
  · rintro ⟨target, htarget, hindex⟩
    cases target with
    | module other =>
      cases hindex
      exact htarget
    | external specifier => cases hindex
  · intro h
    exact ⟨_, h, rfl⟩

theorem mem_starTargets {g : ModuleGraph} {index target : Nat} :
    .module target ∈ g.starTargets index ↔ StarStep g index target := by
  unfold ModuleGraph.starTargets StarStep
  cases hm : g.modules[index]? with
  | none => simp
  | some m =>
    simp only [Option.map_some, Option.getD_some, List.mem_map, Option.some.injEq]
    constructor
    · rintro ⟨⟨specifier, dependency⟩, hmem, heq⟩
      cases dependency with
      | module other =>
        cases heq
        exact ⟨m, specifier, rfl, hmem⟩
      | external => cases heq
    · rintro ⟨_, specifier, rfl, hmem⟩
      exact ⟨_, hmem, rfl⟩

namespace StarWalk

/-- Meeting targets puts the new modules among them on the stack and notes them. -/
structure Meets (targets : List StarTarget) (new : List Nat) (walk walk' : StarWalk) : Prop where
  visited : walk'.visited = new ++ walk.visited
  stack : walk'.stack = new ++ walk.stack
  met : ∀ index, .module index ∈ walk'.met ↔ .module index ∈ walk.met ∨ index ∈ new
  mem_new : ∀ index, index ∈ new ↔ .module index ∈ targets ∧ index ∉ walk.visited
  nodup : new.Nodup

theorem exists_meets (targets : List StarTarget) (walk : StarWalk) :
    ∃ new, Meets targets new walk (targets.foldl meet walk) := by
  induction targets generalizing walk with
  | nil => exact ⟨[], rfl, rfl, by simp, by simp, List.nodup_nil⟩
  | cons target rest ih =>
    cases target with
    | external specifier =>
      obtain ⟨new, h⟩ := ih (walk.meet (.external specifier))
      refine ⟨new, h.visited, h.stack, fun index => ?_, fun index => ?_, h.nodup⟩
      · rw [List.foldl_cons, h.met]
        simp [meet]
      · rw [h.mem_new]
        simp [meet]
    | module top =>
      obtain ⟨new, h⟩ := ih (walk.meet (.module top))
      by_cases hmem : top ∈ walk.visited
      · have hmeet : walk.meet (.module top) = walk := if_pos hmem
        rw [hmeet] at h
        refine ⟨new, ?_⟩
        rw [List.foldl_cons, hmeet]
        refine { h with mem_new := fun index => ?_ }
        rw [h.mem_new, List.mem_cons, StarTarget.module.injEq]
        refine and_congr_left fun hnew => (or_iff_right ?_).symm
        rintro rfl
        exact hnew hmem
      · have hmeet : walk.meet (.module top) =
            ⟨top :: walk.visited, top :: walk.stack, walk.met ++ [.module top]⟩ := if_neg hmem
        rw [hmeet] at h
        have htop : top ∉ new := fun hnew => ((h.mem_new top).mp hnew).2 List.mem_cons_self
        refine ⟨new ++ [top], ?_⟩
        rw [List.foldl_cons, hmeet]
        refine ⟨?_, ?_, fun index => ?_, fun index => ?_, ?_⟩
        · rw [h.visited, List.append_assoc]
          rfl
        · rw [h.stack, List.append_assoc]
          rfl
        · rw [h.met]
          simp only [List.mem_append, List.mem_singleton, StarTarget.module.injEq]
          rw [or_assoc, or_comm (a := index = top)]
        · simp only [List.mem_append, List.mem_cons, h.mem_new, not_or,
            StarTarget.module.injEq]
          by_cases hindex : index = top
          · simp [hindex, hmem]
          · simp [hindex]
        · refine List.nodup_append.mpr ⟨h.nodup, List.nodup_singleton _, fun a ha b hb hab => ?_⟩
          rw [hab, List.mem_singleton.mp hb] at ha
          exact htop ha

/-- A walk from a module notes all modules that it visits but the first. -/
structure Notes (first : Nat) (walk : StarWalk) : Prop where
  visited : first ∈ walk.visited
  met : ∀ index, .module index ∈ walk.met ↔ index ∈ walk.visited ∧ index ≠ first

theorem notes_start (index : Nat) : Notes index (.start index) where
  visited := List.mem_singleton_self index
  met other := by simp [StarWalk.start]

theorem Notes.meets {first : Nat} {targets : List StarTarget} {new : List Nat}
    {walk walk' : StarWalk} (h : Notes first walk) (meets : Meets targets new walk walk') :
    Notes first walk' where
  visited := by
    rw [meets.visited]
    exact List.mem_append_right _ h.visited
  met index := by
    have hnew : index ∈ new → index ≠ first := by
      rintro hindex rfl
      exact ((meets.mem_new index).mp hindex).2 h.visited
    rw [meets.met, h.met, meets.visited, List.mem_append]
    tauto

/-- A walk with room for all modules is a search. -/
theorem run_searches {targets : Nat → List StarTarget} {all : List Nat} {first : Nat}
    (hall : ∀ a ∈ all, ∀ b ∈ targetModules (targets a), b ∈ all) {count : Nat} {walk : StarWalk}
    (notes : Notes first walk)
    (room : SearchRoom (fun a => targetModules (targets a)) all count walk.stack walk.visited) :
    Searches (fun a => targetModules (targets a)) walk.stack walk.visited
        (run targets count walk).visited ∧ Notes first (run targets count walk) := by
  induction count generalizing walk with
  | zero =>
    rw [room.eq_nil]
    exact ⟨.done _, notes⟩
  | succ count ih =>
    obtain ⟨visited, stack, met⟩ := walk
    cases stack with
    | nil => exact ⟨.done _, notes⟩
    | cons top rest =>
      obtain ⟨new, meets⟩ := exists_meets (targets top).reverse ⟨visited, rest, met⟩
      have mem_new : ∀ b, b ∈ new ↔ b ∈ targetModules (targets top) ∧ b ∉ visited := by
        intro b
        rw [meets.mem_new, List.mem_reverse, mem_targetModules]
      have hroom := room.take hall mem_new meets.nodup
      have hnotes : Notes first ⟨visited, rest, met⟩ := ⟨notes.visited, notes.met⟩
      rw [← meets.stack, ← meets.visited] at hroom
      obtain ⟨hsearch, hrun⟩ := ih (hnotes.meets meets) hroom
      refine ⟨.take (.refl _) mem_new meets.nodup ?_, hrun⟩
      rw [meets.stack, meets.visited] at hsearch
      exact hsearch

end StarWalk

/-! ## What a walk notes -/

variable {g : ModuleGraph}

/-- **The walk from a module notes the modules that stars lead it to**, but for itself. -/
theorem mem_starWalk (hg : g.WellFormed) {index target : Nat} :
    .module target ∈ starWalk g index ↔
      ReflTransGen (StarStep g) index target ∧ target ≠ index := by
  have hnext : ∀ {a b}, b ∈ targetModules (g.starTargets a) ↔ StarStep g a b := by
    intro a b
    rw [mem_targetModules, mem_starTargets]
  -- The first module stands apart, as it need not be one of the graph.
  have hall : ∀ a ∈ index :: List.range g.size, ∀ b ∈ targetModules (g.starTargets a),
      b ∈ index :: List.range g.size := by
    intro a _ b hb
    exact List.mem_cons_of_mem _ (List.mem_range.mpr ((hnext.mp hb).lt_size hg))
  have hstart := SearchState.start (fun a => targetModules (g.starTargets a)) [index]
  have room : SearchRoom (fun a => targetModules (g.starTargets a)) (index :: List.range g.size)
      (g.size + 1) [index] [index] := by
    refine ⟨hstart, fun a ha => ?_, List.nodup_singleton index, ?_⟩
    · rw [List.mem_singleton.mp ha]
      exact List.mem_cons_self
    · exact Nat.le_of_eq (congrArg (· + 1 + 1) List.length_range)
  obtain ⟨hsearch, hnotes⟩ := StarWalk.run_searches hall (StarWalk.notes_start index) room
  have hclosed := hsearch.closed hstart
  have hvisited : target ∈ (StarWalk.run g.starTargets (g.size + 1) (.start index)).visited ↔
      ReflTransGen (StarStep g) index target := by
    constructor
    · refine hsearch.subset hstart ⟨fun a ha => ?_, fun a ha b hb => ?_⟩ target
      · rw [List.mem_singleton.mp ha]
      · exact ha.tail (hnext.mp hb)
    · intro reach
      induction reach with
      | refl => exact hclosed.start index (List.mem_singleton_self index)
      | tail _ step ih => exact hclosed.step _ ih _ (hnext.mpr step)
  unfold starWalk
  rw [hnotes.met, hvisited]

theorem mem_ownExportNames {index : Nat} {name : String} :
    name ∈ g.ownExportNames index ↔ HasOwnExport g (index, name) := by
  unfold ModuleGraph.ownExportNames HasOwnExport SourceModule.export?
  cases g.modules[index]? with
  | none => simp
  | some m =>
    simp only [Option.map_some, Option.getD_some, List.mem_map, Option.some.injEq]
    constructor
    · rintro ⟨e, he, rfl⟩
      have hsome : (m.record.exports.toList.find? fun other =>
          other.exported = e.exported).isSome := by
        rw [List.find?_isSome]
        exact ⟨e, he, decide_eq_true rfl⟩
      obtain ⟨first, hfirst⟩ := Option.isSome_iff_exists.mp hsome
      exact ⟨m, first, rfl, hfirst⟩
    · rintro ⟨_, e, rfl, he⟩
      have hname := List.find?_some he
      exact ⟨e, List.mem_of_find?_eq_some he, of_decide_eq_true hname⟩

/-- **The names that are gathered for a module are those that it exports.** -/
theorem mem_exportNames (hg : g.WellFormed) {index : Nat} {name : String} :
    name ∈ exportNames g index ↔ Exports g (index, name) := by
  unfold exportNames
  simp only [List.mem_eraseDups, List.mem_append, List.mem_filter, List.mem_flatMap,
    mem_ownExportNames, decide_eq_true_eq]
  have htaken : ∀ {target}, target ∈ (starWalk g index).filterMap StarTarget.module? ↔
      ReflTransGen (StarStep g) index target ∧ target ≠ index := by
    intro target
    rw [← mem_starWalk hg]
    exact mem_targetModules
  constructor
  · rintro (hown | ⟨⟨target, htarget, hown⟩, hname⟩)
    · exact .own hown
    · exact .taken ⟨hname, target, (htaken.mp htarget).1, hown⟩
  · rintro (hown | ⟨hname, target, reach, hown⟩)
    · exact .inl hown
    · by_cases htarget : target = index
      · exact .inl (htarget ▸ hown)
      · exact .inr ⟨⟨target, htaken.mpr ⟨reach, htarget⟩, hown⟩, hname⟩

end ModuleBundler
