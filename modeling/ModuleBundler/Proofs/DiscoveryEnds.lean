import Mathlib.Data.List.Perm.Subperm
import ModuleBundler.Proofs.DiscoverySteps

/-!
# Discoveries that come to an end

* `Discovery.InOrder` : the modules of a discovery are those of the first of the ids met, each once;
* `Discovery.InOrder.add`, `Discovery.InOrder.addAll` : adding modules keeps that;
* `discover_ends` : a discovery ends if no more than so many ids have a text.
-/

namespace ModuleBundler

variable {provider : ModuleProvider} {cancelled : List ModuleId → Bool} {ids : List ModuleId}

/-- All modules that have a text are among the `ids`. -/
def ModuleProvider.TextsAmong (provider : ModuleProvider) (ids : List ModuleId) : Prop :=
  ∀ id text, provider.load id = .text text → id ∈ ids

/-- No id was met twice, and the modules are those of the first ids that were met. They have a
text. -/
structure Discovery.InOrder (ids : List ModuleId) (d : Discovery) : Prop where
  nodup : d.known.Nodup
  modules : d.modules.toList.map SourceModule.id <+: d.known
  texts : ∀ m ∈ d.modules, m.id ∈ ids

/-- No more modules are added than there are texts. -/
theorem Discovery.InOrder.size_le {d : Discovery} (h : d.InOrder ids) :
    d.modules.size ≤ ids.length := by
  have hnodup := h.nodup.sublist h.modules.sublist
  have hsub : d.modules.toList.map SourceModule.id ⊆ ids := by
    intro id hid
    obtain ⟨m, hm, rfl⟩ := List.mem_map.mp hid
    exact h.texts m (Array.mem_toList_iff.mp hm)
  have hle := (List.subperm_of_subset hnodup hsub).length_le
  rwa [List.length_map, Array.length_toList] at hle

/-- Adding the module of the next id keeps the order. -/
theorem Discovery.InOrder.add {d d' : Discovery} (h : d.InOrder ids) {entry : LoadedModule}
    (hid : d.known[d.modules.size]? = some entry.1)
    (htext : ∀ text, entry.2 = .text text → entry.1 ∈ ids) (hadd : d.add provider entry = .ok d') :
    d'.InOrder ids ∧ d'.modules.size = d.modules.size + 1 ∧ d.known <+: d'.known := by
  obtain ⟨m, rfl, hadded⟩ := add_eq_ok hadd
  refine ⟨⟨hadded.nodup h.nodup, ?_, ?_⟩, ?_, hadded.known⟩
  · -- The id that comes next in what was met is that of the module.
    have htake := List.prefix_iff_eq_take.mp h.modules
    rw [List.length_map, Array.length_toList] at htake
    have hnext : d.known.take d.modules.size ++ [m.id] = d.known.take (d.modules.size + 1) := by
      rw [List.take_add_one, hid]
      rfl
    rw [hadded.modules, Array.toList_push, List.map_append, htake, List.map_singleton, hnext]
    exact (List.take_prefix _ _).trans hadded.known
  · rw [hadded.modules]
    intro other hother
    rcases Array.mem_push.mp hother with hother | rfl
    · exact h.texts other hother
    · exact htext _ rfl
  · rw [hadded.modules, Array.size_push]

/-- Adding the modules of the next ids keeps the order. -/
theorem Discovery.InOrder.addAll {d d' : Discovery} {entries : List LoadedModule}
    (h : d.InOrder ids) (hentries : entries.map Prod.fst <+: d.known.drop d.modules.size)
    (htexts : ∀ entry ∈ entries, ∀ text, entry.2 = .text text → entry.1 ∈ ids)
    (hadd : entries.foldlM (Discovery.add provider) d = .ok d') :
    d'.InOrder ids ∧ d'.modules.size = d.modules.size + entries.length := by
  induction entries generalizing d with
  | nil =>
    cases hadd
    exact ⟨h, rfl⟩
  | cons entry rest ih =>
    rw [List.foldlM_cons] at hadd
    obtain ⟨mid, hmid, hrest⟩ := bind_eq_ok.mp hadd
    obtain ⟨htext, htexts⟩ := List.forall_mem_cons.mp htexts
    obtain ⟨others, hothers⟩ := hentries
    rw [List.map_cons, List.cons_append] at hothers
    have hid : d.known[d.modules.size]? = some entry.1 := by
      rw [← List.head?_drop, ← hothers]
      rfl
    obtain ⟨hmid', hsize, hknown⟩ := h.add hid htext hmid
    have hdrop : rest.map Prod.fst <+: mid.known.drop mid.modules.size := by
      have htail : rest.map Prod.fst ++ others = d.known.drop mid.modules.size := by
        rw [hsize, ← List.tail_drop, ← hothers, List.tail_cons]
      obtain ⟨new, hnew⟩ := hknown
      refine List.IsPrefix.trans ⟨others, htail⟩ ⟨new.drop (mid.modules.size - d.known.length), ?_⟩
      rw [← hnew, List.drop_append]
    obtain ⟨hall, hsize'⟩ := ih hmid' hdrop htexts hrest
    refine ⟨hall, ?_⟩
    rw [hsize', hsize, List.length_cons]
    omega

/-- Rounds that each add a module come to an end before more modules are added than have a text. -/
theorem Discovery.InOrder.run {d : Discovery} (h : d.InOrder ids)
    (htexts : provider.TextsAmong ids) {rounds : Nat} {loads : List ModuleId}
    (hrounds : ids.length < rounds + d.modules.size) :
    ∃ logged, d.run provider cancelled rounds loads = some logged := by
  induction rounds generalizing d loads with
  | zero =>
    have hle := h.size_le
    omega
  | succ rounds ih =>
    rw [Discovery.run]
    split
    · exact ⟨_, rfl⟩
    rename_i hfrontier
    split
    · exact ⟨_, rfl⟩
    dsimp only
    obtain ⟨hids, -, hall⟩ := @loadFrontier_spec provider cancelled loads d.frontier
    split
    · exact ⟨_, rfl⟩
    · rename_i d' hadd
      unfold Discovery.addAll at hadd
      split at hadd
      · cases hadd
      have hlonger : (loadFrontier provider cancelled loads d.frontier).1.map Prod.fst <+:
          d.frontier := ⟨[], by rw [List.append_nil, hids]⟩
      have hids' : ∀ entry ∈ (loadFrontier provider cancelled loads d.frontier).1,
          ∀ text, entry.2 = .text text → entry.1 ∈ ids := by
        intro entry hentry text htext
        rcases hall entry hentry with hfailed | ⟨hloaded, -⟩
        · rw [hfailed] at htext
          cases htext
        · exact htexts _ text (load_of_loaded (hloaded.symm.trans htext))
      obtain ⟨hnext, hsize⟩ := h.addAll hlonger hids' hadd
      refine ih hnext ?_
      have hlength := congrArg List.length hids
      rw [List.length_map] at hlength
      have hpos : 0 < d.frontier.length := by
        rw [List.isEmpty_iff] at hfrontier
        exact List.length_pos_iff.mpr hfrontier
      omega

/-- **Discoveries end.** If the ids that have a text are among some, a discovery ends in no more
rounds than these are, and one. -/
theorem discover_ends (htexts : provider.TextsAmong ids) {rounds : Nat}
    (hrounds : ids.length < rounds) :
    ∃ logged, discover provider cancelled rounds = some logged := by
  have hstart : Discovery.InOrder ids .start := by
    refine ⟨List.nodup_singleton _, List.nil_prefix, fun _ hm => ?_⟩
    exact (Array.not_mem_empty _ hm).elim
  exact hstart.run htexts hrounds

end ModuleBundler
