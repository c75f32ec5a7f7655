import Mathlib.Logic.Relation
import ModuleBundler.Proofs.BoundNames
import ModuleBundler.Proofs.DiscoveryRounds
import ModuleBundler.Proofs.Productions.Module

/-!
# Graphs that are discovered

* `ModuleGraph.WellFormed` : a graph whose records are those of its texts, and in which requests
  lead to modules of the graph;
* `ModuleGraph.Edge` : a module leads to another one;
* `Discovery.Explored` : what rounds of loads keep, and `discover_explored` : what they come to;
* `discover_wellFormed` : every graph that is discovered is well-formed.
-/

namespace ModuleBundler

/-- A module whose record is that of its text and whose requests lead to some of the first modules. -/
structure SourceModule.WellFormed (count : Nat) (m : SourceModule) : Prop where
  parsed : parseModule m.source = .ok m.record
  requests : ∀ index, .module index ∈ m.requests → index < count
  dynamicImports : ∀ index, .module index ∈ m.dynamicImports → index < count

theorem SourceModule.WellFormed.mono {count count' : Nat} {m : SourceModule}
    (h : m.WellFormed count) (hle : count ≤ count') : m.WellFormed count' where
  parsed := h.parsed
  requests index hindex := Nat.lt_of_lt_of_le (h.requests index hindex) hle
  dynamicImports index hindex := Nat.lt_of_lt_of_le (h.dynamicImports index hindex) hle

theorem SourceModule.WellFormed.recordRead {count : Nat} {m : SourceModule}
    (h : m.WellFormed count) : ∃ tokens, RecordRead (.ofString m.source) tokens m.record :=
  parseModule_read h.parsed

theorem SourceModule.WellFormed.bound {count : Nat} {m : SourceModule} (h : m.WellFormed count) :
    m.record.scopes.Bound := by
  obtain ⟨tokens, hread⟩ := h.recordRead
  obtain ⟨declarations, references, hbuild⟩ := hread.scopes
  exact ScopeTree.bound_of_build hread.nested.nonempty hbuild

/-- A graph with an entry, of modules whose requests lead to modules of the graph. -/
structure ModuleGraph.WellFormed (g : ModuleGraph) : Prop where
  entry : 0 < g.size
  modules : ∀ m ∈ g.modules, m.WellFormed g.size

/-- A module whose dependencies are on what its requests mean is well-formed. -/
theorem SourceModule.Resolved.wellFormed {provider : ModuleProvider} {known : List ModuleId}
    {m : SourceModule} (h : m.Resolved provider known) : m.WellFormed known.length where
  parsed := h.parsed
  requests _ hindex := h.lt_length (.inl hindex)
  dynamicImports _ hindex := h.lt_length (.inr hindex)

/-! ## Graphs so far -/

namespace ModuleGraph

/-- The ids of the modules. -/
def ids (g : ModuleGraph) : List ModuleId := g.modules.toList.map SourceModule.id

/-- A module leads to another one. -/
def Edge (g : ModuleGraph) (a b : Nat) : Prop := ∃ m, g.modules[a]? = some m ∧ m.LeadsTo b

theorem length_ids (g : ModuleGraph) : g.ids.length = g.size := by
  rw [ids, List.length_map, Array.length_toList, size]

theorem getElem?_ids (g : ModuleGraph) (index : Nat) :
    g.ids[index]? = g.modules[index]?.map SourceModule.id := by
  rw [ids, List.getElem?_map, Array.getElem?_toList]

end ModuleGraph

/-- The modules so far. -/
def Discovery.graph (d : Discovery) : ModuleGraph := ⟨d.modules⟩

variable {provider : ModuleProvider} {d d' : Discovery} {m : SourceModule}

theorem Discovery.Added.ids (h : d.Added provider d' m) :
    d'.graph.ids = d.graph.ids ++ [m.id] := by
  unfold ModuleGraph.ids Discovery.graph
  rw [h.modules, Array.toList_push, List.map_append, List.map_singleton]

/-- What modules lead to does not change. -/
theorem Discovery.Added.edge (h : d.Added provider d' m) {a b : Nat} (hedge : d.graph.Edge a b) :
    d'.graph.Edge a b := by
  obtain ⟨other, hother, hleads⟩ := hedge
  have hlt : a < d.modules.size := (Array.getElem?_eq_some_iff.mp hother).1
  refine ⟨other, ?_, hleads⟩
  change d'.modules[a]? = some other
  rw [h.modules, Array.getElem?_push, if_neg (Nat.ne_of_lt hlt)]
  exact hother

/-! ## Rounds -/

/-- No id was met twice, and the entry was met first. The modules have the texts of their ids, their
dependencies are on what their requests mean, and nothing was met but what the entry leads to. -/
structure Discovery.Explored (provider : ModuleProvider) (d : Discovery) : Prop where
  entry : d.known[0]? = some (.file entryPath)
  nodup : d.known.Nodup
  read : ∀ m ∈ d.modules, provider.load m.id = .text m.source ∧ m.Resolved provider d.known
  reached : ∀ index < d.known.length, Relation.ReflTransGen d.graph.Edge 0 index

theorem explored_start (provider : ModuleProvider) : Discovery.start.Explored provider where
  entry := rfl
  nodup := List.nodup_singleton _
  read _ hm := (Array.not_mem_empty _ hm).elim
  reached index hlt := by
    obtain rfl : index = 0 := Nat.lt_one_iff.mp hlt
    exact .refl

/-- One more module is added, of an id that was met. -/
theorem Discovery.Explored.add (h : d.Explored provider) (hsize : d.modules.size < d.known.length)
    (hload : provider.load m.id = .text m.source) (hadded : d.Added provider d' m) :
    d'.Explored provider where
  entry := getElem?_of_isPrefix hadded.known h.entry
  nodup := hadded.nodup h.nodup
  read := by
    rw [hadded.modules]
    intro other hother
    rcases Array.mem_push.mp hother with hother | rfl
    · obtain ⟨hload, hresolved⟩ := h.read other hother
      exact ⟨hload, hresolved.mono hadded.known⟩
    · exact ⟨hload, hadded.resolved⟩
  reached index hlt := by
    have hold : ∀ index < d.known.length, Relation.ReflTransGen d'.graph.Edge 0 index :=
      fun index hlt => (h.reached index hlt).lift id fun _ _ => hadded.edge
    rcases hadded.new index hlt with hlt | hleads
    · exact hold index hlt
    · -- The module is that of an id that was met, so that the entry leads to it.
      refine (hold _ hsize).tail ⟨m, ?_, hleads⟩
      change d'.modules[d.modules.size]? = some m
      rw [hadded.modules, Array.getElem?_push_size]

/-- The modules of a round are added. All of them have a text. -/
theorem Discovery.Explored.addAll {entries : List LoadedModule} (h : d.Explored provider)
    (hsize : d.modules.size + entries.length ≤ d.known.length)
    (hloads : ∀ entry ∈ entries, ∀ text, entry.2 = .text text →
      provider.load entry.1 = .text text)
    (hadd : entries.foldlM (Discovery.add provider) d = .ok d') :
    d'.Explored provider ∧ d.known <+: d'.known ∧
      d'.graph.ids = d.graph.ids ++ entries.map Prod.fst ∧
      ∀ entry ∈ entries, ∃ text, entry.2 = .text text := by
  induction entries generalizing d with
  | nil =>
    cases hadd
    exact ⟨h, List.prefix_refl _, (List.append_nil _).symm, fun _ h => nomatch h⟩
  | cons entry rest ih =>
    rw [List.foldlM_cons] at hadd
    obtain ⟨mid, hmid, hrest⟩ := bind_eq_ok.mp hadd
    obtain ⟨m, rfl, hadded⟩ := add_eq_ok hmid
    obtain ⟨hload, hloads⟩ := List.forall_mem_cons.mp hloads
    rw [List.length_cons] at hsize
    have hlength := hadded.known.length_le
    have hgrown : mid.modules.size = d.modules.size + 1 := by rw [hadded.modules, Array.size_push]
    have hexplored := h.add (by omega) (hload _ rfl) hadded
    obtain ⟨hall, hknown, hids, htexts⟩ := ih hexplored (by omega) hloads hrest
    refine ⟨hall, hadded.known.trans hknown, ?_, List.forall_mem_cons.mpr ⟨⟨_, rfl⟩, htexts⟩⟩
    rw [hids, hadded.ids, List.append_assoc]
    rfl

/-- Rounds come to a graph of all that was met, and each of its modules was loaded once. -/
theorem Discovery.Explored.run {cancelled : List ModuleId → Bool} {rounds : Nat}
    {loads loads' : List ModuleId} {g : ModuleGraph} (h : d.Explored provider)
    (hids : d.graph.ids <+: d.known) (hloads : loads = d.graph.ids)
    (hrun : d.run provider cancelled rounds loads = some ⟨loads', .ok g⟩) :
    (Discovery.mk g.ids g.modules).Explored provider ∧ loads' = g.ids := by
  induction rounds generalizing loads d with
  | zero => cases hrun
  | succ rounds ih =>
    have hknown : d.graph.ids ++ d.frontier = d.known := by
      obtain ⟨rest, hrest⟩ := hids
      have hsize : d.modules.size = d.graph.ids.length := d.graph.length_ids.symm
      rw [Discovery.frontier, ← hrest, hsize, List.drop_left]
    rw [Discovery.run] at hrun
    split at hrun
    · rename_i hempty
      cases hrun
      rw [List.isEmpty_iff.mp hempty, List.append_nil] at hknown
      change (Discovery.mk d.graph.ids d.modules).Explored provider ∧ loads' = d.graph.ids
      rw [hknown]
      exact ⟨h, hloads.trans hknown⟩
    · split at hrun
      · cases hrun
      · dsimp only at hrun
        split at hrun
        · cases hrun
        · rename_i d' hadd
          obtain ⟨hfrontier, -, hentries⟩ :=
            @loadFrontier_spec provider cancelled loads d.frontier
          unfold Discovery.addAll at hadd
          split at hadd
          · cases hadd
          have hsize := congrArg List.length hfrontier
          have hlength := congrArg List.length hknown
          rw [List.length_map] at hsize
          rw [List.length_append, ModuleGraph.length_ids] at hlength
          have htext : ∀ entry ∈ (loadFrontier provider cancelled loads d.frontier).1,
              ∀ text, entry.2 = .text text → provider.load entry.1 = .text text := by
            intro entry hentry text htext
            rcases hentries entry hentry with hfailed | ⟨hloaded, -⟩
            · rw [hfailed] at htext
              cases htext
            · exact load_of_loaded (hloaded.symm.trans htext)
          obtain ⟨hexplored, hmore, hids', htexts⟩ :=
            h.addAll (by rw [hsize]; exact Nat.le_of_eq hlength) htext hadd
          rw [hfrontier, hknown] at hids'
          rw [loadFrontier_loads htexts, hloads, hknown] at hrun
          exact ih hexplored (hids' ▸ hmore) hids'.symm hrun

/-- What a discovery comes to was explored, and each of its modules was loaded once. -/
theorem discover_explored {provider : ModuleProvider} {cancelled : List ModuleId → Bool}
    {rounds : Nat} {loads : List ModuleId} {g : ModuleGraph}
    (h : discover provider cancelled rounds = some ⟨loads, .ok g⟩) :
    (Discovery.mk g.ids g.modules).Explored provider ∧ loads = g.ids :=
  (explored_start provider).run List.nil_prefix rfl h

/-- **Discovered graphs are well-formed.** The record of every module is that of its text, and all
requests and dynamic imports that lead into the graph lead to modules of it. -/
theorem discover_wellFormed {provider : ModuleProvider} {cancelled : List ModuleId → Bool}
    {rounds : Nat} {loads : List ModuleId} {g : ModuleGraph}
    (h : discover provider cancelled rounds = some ⟨loads, .ok g⟩) : g.WellFormed := by
  obtain ⟨hexplored, -⟩ := discover_explored h
  refine ⟨?_, fun m hm => ?_⟩
  · rw [← g.length_ids]
    exact (List.getElem?_eq_some_iff.mp hexplored.entry).1
  · rw [← g.length_ids]
    exact (hexplored.read m hm).2.wellFormed

end ModuleBundler
