import ModuleBundler.Proofs.Discovered
import ModuleBundler.Proofs.DiscoverySteps

/-!
# The graph that the entry leads to

* `ModuleProvider.Imports` : a module has a request or a dynamic import that means another one;
* `ModuleGraph.Aligned` : each request has its dependency, on the module that it means;
* `ModuleGraph.Exact` : a graph has the modules that the entry leads to, each once, and no others;
* `run_load_error` : a failed load is about something that was loaded;
* `discover_exact` : all graphs that are discovered are exact, and on a site nothing but the entry is
  ever missing.
-/

namespace ModuleBundler

variable {provider : ModuleProvider} {cancelled : List ModuleId → Bool}

/-- The text of a module has a request or a dynamic import that means another one. -/
def ModuleProvider.Imports (provider : ModuleProvider) (importer id : ModuleId) : Prop :=
  ∃ text record request, provider.load importer = .text text ∧ parseModule text = .ok record ∧
    (request ∈ record.requests.toList ∨
      request ∈ record.dynamicImports.toList.map DynamicImport.request) ∧
    provider.resolve request.specifier importer = .ok (.module id)

namespace ModuleGraph

/-- The requests of an importer have a dependency each, in order: on a module if and only if that is
what the request means, and on nothing in the graph if and only if it means nothing to bundle. -/
structure Aligned (g : ModuleGraph) (provider : ModuleProvider) (importer : ModuleId)
    (requests : List ModuleRequest) (dependencies : List Dependency) : Prop where
  length : dependencies.length = requests.length
  module : ∀ (i : Nat) (request : ModuleRequest), requests[i]? = some request → ∀ index : Nat,
    dependencies[i]? = some (.module index) ↔ ∃ target, g.modules[index]? = some target ∧
      provider.resolve request.specifier importer = .ok (.module target.id)
  external : ∀ (i : Nat) (request : ModuleRequest), requests[i]? = some request →
    (dependencies[i]? = some .external ↔
      provider.resolve request.specifier importer = .ok .external)

/-- The graph has the modules that the entry leads to, each once, and no others. All of them were
loaded, once and in this order, and nothing else was. -/
structure Exact (g : ModuleGraph) (provider : ModuleProvider) (loads : List ModuleId) : Prop where
  entry : g.ids[0]? = some (.file entryPath)
  nodup : g.ids.Nodup
  read : ∀ m ∈ g.modules, provider.load m.id = .text m.source ∧ parseModule m.source = .ok m.record
  requests : ∀ m ∈ g.modules, g.Aligned provider m.id m.record.requests.toList m.requests
  dynamicImports : ∀ m ∈ g.modules, g.Aligned provider m.id
    (m.record.dynamicImports.toList.map DynamicImport.request) m.dynamicImports
  reached : ∀ index < g.size, Relation.ReflTransGen g.Edge 0 index
  mem_ids : ∀ id, id ∈ g.ids ↔ Relation.ReflTransGen provider.Imports (.file entryPath) id
  loads : loads = g.ids

/-! ## Dependencies -/

variable {g : ModuleGraph}

theorem getElem?_ids_eq_some {index : Nat} {id : ModuleId} :
    g.ids[index]? = some id ↔ ∃ m, g.modules[index]? = some m ∧ m.id = id := by
  rw [getElem?_ids, Option.map_eq_some_iff]

/-- Dependencies on what requests mean are aligned with them. -/
theorem aligned (hnodup : g.ids.Nodup) {importer : ModuleId} {requests : List ModuleRequest}
    {dependencies : List Dependency}
    (h : List.Forall₂ (fun request dependency => dependency.Means provider g.ids importer request)
      requests dependencies) : g.Aligned provider importer requests dependencies := by
  have hmeans : ∀ (i : Nat) (request : ModuleRequest), requests[i]? = some request → ∃ dependency,
      dependencies[i]? = some dependency ∧ dependency.Means provider g.ids importer request := by
    intro i request hrequest
    obtain ⟨hlt, rfl⟩ := List.getElem?_eq_some_iff.mp hrequest
    have hlt' : i < dependencies.length := h.length_eq ▸ hlt
    exact ⟨_, List.getElem?_eq_getElem hlt', h.get hlt hlt'⟩
  refine ⟨h.length_eq.symm, fun i request hrequest index => ?_, fun i request hrequest => ?_⟩
  · obtain ⟨dependency, hget, hmeans⟩ := hmeans i request hrequest
    rw [hget, Option.some.injEq]
    constructor
    · rintro rfl
      obtain ⟨id, hid, hresolve⟩ := hmeans
      obtain ⟨target, htarget, rfl⟩ := getElem?_ids_eq_some.mp hid
      exact ⟨target, htarget, hresolve⟩
    · rintro ⟨target, htarget, hresolve⟩
      cases dependency with
      | external => cases hmeans.symm.trans hresolve
      | module other =>
        -- No two modules have the same id.
        obtain ⟨id, hid, hresolve'⟩ := hmeans
        cases hresolve'.symm.trans hresolve
        have hid' := getElem?_ids_eq_some.mpr ⟨target, htarget, rfl⟩
        have hlt := (List.getElem?_eq_some_iff.mp hid).1
        exact congrArg _ ((List.getElem?_inj hlt hnodup).mp (hid.trans hid'.symm))
  · obtain ⟨dependency, hget, hmeans⟩ := hmeans i request hrequest
    rw [hget, Option.some.injEq]
    constructor
    · rintro rfl
      exact hmeans
    · intro hresolve
      cases dependency with
      | external => rfl
      | module other =>
        obtain ⟨id, -, hresolve'⟩ := hmeans
        cases hresolve'.symm.trans hresolve

/-! ## Modules -/

section
variable (h : (Discovery.mk g.ids g.modules).Explored provider)
include h

/-- What the modules lead to has the ids that their texts import. -/
theorem imports_of_edge {a b : Nat} (hedge : g.Edge a b) : ∃ importer id,
    g.ids[a]? = some importer ∧ g.ids[b]? = some id ∧ provider.Imports importer id := by
  obtain ⟨m, hm, hleads⟩ := hedge
  obtain ⟨hload, hresolved⟩ := h.read m (Array.mem_of_getElem? hm)
  have hid := getElem?_ids_eq_some.mpr ⟨m, hm, rfl⟩
  rcases hleads with hmem | hmem
  · obtain ⟨request, hrequest, id, hid', hresolve⟩ := exists_of_forall₂ hresolved.requests hmem
    exact ⟨m.id, id, hid, hid', _, _, request, hload, hresolved.parsed, .inl hrequest, hresolve⟩
  · obtain ⟨request, hrequest, id, hid', hresolve⟩ :=
      exists_of_forall₂ hresolved.dynamicImports hmem
    exact ⟨m.id, id, hid, hid', _, _, request, hload, hresolved.parsed, .inr hrequest, hresolve⟩

/-- What the text of a module imports is a module. -/
theorem mem_ids_of_imports {importer id : ModuleId} (himporter : importer ∈ g.ids)
    (himports : provider.Imports importer id) : id ∈ g.ids := by
  obtain ⟨m, hm, rfl⟩ := List.mem_map.mp himporter
  obtain ⟨hload, hresolved⟩ := h.read m (Array.mem_toList_iff.mp hm)
  obtain ⟨text, record, request, hload', hparse, hrequest, hresolve⟩ := himports
  cases hload.symm.trans hload'
  cases hresolved.parsed.symm.trans hparse
  have hmet : ∀ {dependency : Dependency}, dependency.Means provider g.ids m.id request →
      id ∈ g.ids := by
    intro dependency hmeans
    cases dependency with
    | external => cases hmeans.symm.trans hresolve
    | module index =>
      obtain ⟨other, hother, hresolve'⟩ := hmeans
      cases hresolve'.symm.trans hresolve
      exact List.mem_of_getElem? hother
  rcases hrequest with hrequest | hrequest
  · obtain ⟨dependency, -, hmeans⟩ := exists_of_forall₂ hresolved.requests.flip hrequest
    exact hmet hmeans
  · obtain ⟨dependency, -, hmeans⟩ := exists_of_forall₂ hresolved.dynamicImports.flip hrequest
    exact hmet hmeans

/-- The ids are those that the entry leads to by way of imports. -/
theorem mem_ids_iff (id : ModuleId) :
    id ∈ g.ids ↔ Relation.ReflTransGen provider.Imports (.file entryPath) id := by
  constructor
  · intro hid
    obtain ⟨index, hget⟩ := List.getElem?_of_mem hid
    have hreached := h.reached index (List.getElem?_eq_some_iff.mp hget).1
    induction hreached generalizing id with
    | refl =>
      obtain rfl : .file entryPath = id := Option.some.inj (h.entry.symm.trans hget)
      exact .refl
    | tail _ hedge ih =>
      obtain ⟨importer, id', himporter, hid', himports⟩ := imports_of_edge h hedge
      obtain rfl : id' = id := Option.some.inj (hid'.symm.trans hget)
      exact (ih importer (List.mem_of_getElem? himporter) himporter).tail himports
  · intro hreached
    induction hreached with
    | refl => exact List.mem_of_getElem? h.entry
    | tail _ himports ih => exact mem_ids_of_imports h ih himports

theorem exact : g.Exact provider g.ids where
  entry := h.entry
  nodup := h.nodup
  read m hm := ⟨(h.read m hm).1, (h.read m hm).2.parsed⟩
  requests m hm := aligned h.nodup (h.read m hm).2.requests
  dynamicImports m hm := aligned h.nodup (h.read m hm).2.dynamicImports
  reached index hlt := h.reached index (by rw [g.length_ids]; exact hlt)
  mem_ids := mem_ids_iff h
  loads := rfl

end
end ModuleGraph

/-! ## Failed loads -/

/-- Following requests fails only where the meaning of one is not found. -/
theorem dependenciesOf_error {importer : ModuleId} {source : String} {known : List ModuleId}
    {requests : List ModuleRequest} {e : CompileError}
    (h : dependenciesOf provider importer source known requests = .error e) :
    ∃ reason, e.cause = .resolve reason := by
  induction requests generalizing known with
  | nil => cases h
  | cons request rest ih =>
    rw [dependenciesOf] at h
    split at h
    · cases h
      exact ⟨_, rfl⟩
    · rcases bind_eq_error.mp h with h | ⟨⟨others, known'⟩, -, h⟩
      · exact ih h
      · cases h

/-- A failed load is that of the module that was to be added. -/
theorem add_load_error {d : Discovery} {entry : LoadedModule} {e : CompileError}
    (h : d.add provider entry = .error e) {error : LoadError} (he : e.cause = .load error) :
    entry.2 = .failed e := by
  obtain ⟨id, loaded⟩ := entry
  cases loaded with
  | failed e' =>
    cases h
    rfl
  | crashed message =>
    cases h
    cases he
  | text source =>
    unfold Discovery.add at h
    dsimp only at h
    split at h
    · cases h
      cases he
    · rcases bind_eq_error.mp h with h | ⟨⟨requests, known⟩, -, h⟩
      · obtain ⟨reason, hreason⟩ := dependenciesOf_error h
        cases hreason.symm.trans he
      rcases bind_eq_error.mp h with h | ⟨⟨dynamicImports, known'⟩, -, h⟩
      · obtain ⟨reason, hreason⟩ := dependenciesOf_error h
        cases hreason.symm.trans he
      · cases h

/-- If what was loaded failed, its load did. -/
theorem load_of_failed {id : ModuleId} {e : CompileError} (h : provider.loaded id = .failed e) :
    ∃ error, provider.load id = .failed error ∧ e.cause = .load error ∧ e.module = some id := by
  unfold ModuleProvider.loaded at h
  split at h
  · cases h
  · rename_i error heq
    cases h
    exact ⟨error, heq, rfl, rfl⟩
  · cases h

/-- A failed load is about something that was loaded. -/
theorem run_load_error {rounds : Nat} {loads loads' : List ModuleId} {d : Discovery}
    {e : CompileError} (h : d.run provider cancelled rounds loads = some ⟨loads', .error e⟩)
    {error : LoadError} (he : e.cause = .load error) :
    ∃ id ∈ loads', provider.load id = .failed error ∧ e.module = some id := by
  induction rounds generalizing loads d with
  | zero => cases h
  | succ rounds ih =>
    rw [Discovery.run] at h
    split at h
    · cases h
    · split at h
      · cases h
        cases he
      · dsimp only at h
        split at h
        · rename_i hadd
          cases h
          unfold Discovery.addAll at hadd
          split at hadd
          · cases hadd
            cases he
          · obtain ⟨entry, hentry, mid, hfailed⟩ := exists_of_foldlM_error hadd
            have hload := add_load_error hfailed he
            rcases (loadFrontier_spec loads d.frontier).2.2 entry hentry with
              hcancelled | ⟨hloaded, hmem⟩
            · cases hcancelled.symm.trans hload
              cases he
            · obtain ⟨error', hload', hcause, hmodule⟩ := load_of_failed (hloaded.symm.trans hload)
              cases hcause.symm.trans he
              exact ⟨entry.1, hmem, hload', hmodule⟩
        · exact ih h

/-- A specifier means a file of a site only if the site has it. -/
theorem Site.contains_of_resolve {site : Site} {specifier path : String} {importer : ModuleId}
    (h : site.resolve specifier importer = .ok (.module (.file path))) :
    site.files.contains path = true := by
  have hremote : ∀ url : Except UrlError Url,
      site.remoteResolution specifier url ≠ .ok (.module (.file path)) := by
    intro url hurl
    cases url with
    | error reason => cases hurl
    | ok url =>
      unfold Site.remoteResolution Site.remoteModule at hurl
      dsimp only at hurl
      split at hurl
      · cases hurl
      · cases hurl
  unfold Site.resolve at h
  split at h
  · exact absurd h (hremote _)
  · split at h
    · rename_i hcontains
      cases h
      exact hcontains
    · split at h
      · split at h
        · exact absurd h (hremote _)
        · cases h
      · dsimp only at h
        split at h
        · rename_i hcontains
          cases h
          exact (Bool.and_eq_true _ _ ▸ hcontains).2
        · cases h

/-- On a site nothing is missing to which a specifier leads. -/
theorem Site.eq_entry_of_missing {site : Site} {id : ModuleId} (hfound : site.provider.Finds id)
    {path : String} (h : site.load id = .failed (.missing path)) :
    id = .file entryPath ∧ path = entryPath := by
  unfold Site.load at h
  split at h
  · split at h
    · cases h
    · cases h
    · cases h
  · rename_i file
    split at h
    · cases h
    · rename_i hnone
      cases h
      rcases hfound with heq | ⟨specifier, importer, hresolve⟩
      · cases heq
        exact ⟨rfl, rfl⟩
      · have hcontains := Site.contains_of_resolve hresolve
        rw [FileSet.contains, hnone] at hcontains
        cases hcontains

/-! ## Discoveries -/

/-- **Graphs are exact.** A graph that is discovered has the entry first and no module twice. The
requests and dynamic imports of each module have one dependency each, on the module with the id that
they mean. The entry leads to each module, and what it leads to was loaded once, and nothing else.
On a site no load but that of the entry finds its module missing, and no failure says so of another
one. -/
theorem discover_exact {rounds : Nat} {logged : Logged ModuleGraph}
    (h : discover provider cancelled rounds = some logged) :
    (∀ g, logged.result = .ok g → g.Exact provider logged.loads) ∧
    ∀ site : Site, provider = site.provider →
      (∀ id ∈ logged.loads, ∀ path, site.load id = .failed (.missing path) →
        id = .file entryPath ∧ path = entryPath) ∧
      ∀ e path, logged.result = .error e → e.cause = .load (.missing path) →
        e.module = some (.file entryPath) ∧ path = entryPath := by
  obtain ⟨loads, result⟩ := logged
  refine ⟨?_, ?_⟩
  · rintro g rfl
    obtain ⟨hexplored, rfl⟩ := discover_explored h
    exact ModuleGraph.exact hexplored
  · rintro site rfl
    have hmissing : ∀ id ∈ loads, ∀ path, site.load id = .failed (.missing path) →
        id = .file entryPath ∧ path = entryPath := fun id hid path =>
      Site.eq_entry_of_missing (loads_found h id hid)
    refine ⟨hmissing, ?_⟩
    rintro e path rfl he
    obtain ⟨id, hid, hload, hmodule⟩ := run_load_error h he
    obtain ⟨rfl, rfl⟩ := hmissing id hid path hload
    exact ⟨hmodule, rfl⟩

/-- Files that request each other and themselves, statically and dynamically, some of them twice. -/
def tangledSite : Site where
  files := .ofList [
    ("/index.js",
      "import \"./a.js\";\nimport \"./x/../a.js\";\nimport \"outside\";\nimport \"./b.js\";\n"),
    ("/a.js", "import \"./a.js\";\nconst later = () => [import(\"/b.js\"), import(\"./c.js\")];\n"),
    ("/b.js", "import \"./a.js\";\nimport \"./index.js\";\n"),
    ("/c.js", ""),
    ("/unused.js", "import \"./c.js\";\n")]
  origin := none
  fetch := offline

/-- Their graph has four modules, which the entry leads to. -/
theorem tangledSite_graph_exact : ∃ loads g,
    discover tangledSite.provider (fun _ => false) 5 = some ⟨loads, .ok g⟩ ∧
      loads = [.file "/index.js", .file "/a.js", .file "/b.js", .file "/c.js"] ∧
      g.modules.toList.map SourceModule.requests =
        [[.module 1, .module 1, .external, .module 2], [.module 1], [.module 1, .module 0], []] ∧
      g.Exact tangledSite.provider loads ∧
      ∀ id ∈ loads, ∀ path, tangledSite.load id = .failed (.missing path) → path = entryPath := by
  have hrun : ((discover tangledSite.provider (fun _ => false) 5).any fun logged =>
      logged.loads = [.file "/index.js", .file "/a.js", .file "/b.js", .file "/c.js"] ∧
        logged.result.toOption.any fun g => g.modules.toList.map SourceModule.requests =
          [[.module 1, .module 1, .external, .module 2], [.module 1], [.module 1, .module 0],
            []]) = true := by
    decide +kernel
  obtain ⟨⟨loads, result⟩, hdiscover, hrun⟩ := (Option.any_eq_true _ _).mp hrun
  obtain ⟨hloads, hrequests⟩ := of_decide_eq_true hrun
  obtain ⟨hexact, hsite⟩ := discover_exact hdiscover
  cases result with
  | error => cases hrequests
  | ok g =>
    refine ⟨loads, g, hdiscover, hloads, of_decide_eq_true hrequests, hexact g rfl, ?_⟩
    intro id hid path hload
    exact ((hsite tangledSite rfl).1 id hid path hload).2

end ModuleBundler
