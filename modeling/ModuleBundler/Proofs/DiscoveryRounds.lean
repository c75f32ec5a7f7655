import Mathlib.Data.List.Nodup
import ModuleBundler.Graph.Discovery
import ModuleBundler.Proofs.Outcome

/-!
# What a round of a discovery does

* `ModuleProvider.loaded` : what comes of loading a module, and `loadFrontier_spec` : of a round;
* `Dependency.Means` : a dependency is on what a request means, by the ids that were met;
* `dependenciesOf_means` : following requests gives a dependency on what each of them means;
* `Discovery.Added` : what a discovery is once a module is added;
* `add_eq_ok` : nothing else comes of adding a module.
-/

namespace ModuleBundler

variable {provider : ModuleProvider}

/-! ## Loads -/

/-- What comes of loading a module, with the module that a failure is about. -/
def ModuleProvider.loaded (provider : ModuleProvider) (id : ModuleId) : Loaded CompileError :=
  match provider.load id with
  | .text text => .text text
  | .failed error => .failed ⟨.load error, some id, none⟩
  | .crashed message => .crashed message

/-- What was loaded for an id. -/
abbrev LoadedModule := ModuleId × Loaded CompileError

theorem load_of_loaded {id : ModuleId} {text : String} (h : provider.loaded id = .text text) :
    provider.load id = .text text := by
  unfold ModuleProvider.loaded at h
  split at h
  · rename_i heq
    cases h
    exact heq
  · cases h
  · cases h

/-- What is loaded for ids, in their order, is their text if they have one. What was not cancelled is
in the log. -/
theorem loadFrontier_spec {cancelled : List ModuleId → Bool} (loads rest : List ModuleId) :
    (loadFrontier provider cancelled loads rest).1.map Prod.fst = rest ∧
      loads <+: (loadFrontier provider cancelled loads rest).2 ∧
      ∀ entry ∈ (loadFrontier provider cancelled loads rest).1,
        entry.2 = .failed .cancelled ∨ (entry.2 = provider.loaded entry.1 ∧
          entry.1 ∈ (loadFrontier provider cancelled loads rest).2) := by
  induction rest generalizing loads with
  | nil => exact ⟨rfl, List.prefix_refl _, fun _ h => nomatch h⟩
  | cons id rest ih =>
    rw [loadFrontier]
    split
    · obtain ⟨hids, hlonger, hall⟩ := ih loads
      exact ⟨congrArg (id :: ·) hids, hlonger, List.forall_mem_cons.mpr ⟨.inl rfl, hall⟩⟩
    · obtain ⟨hids, hlonger, hall⟩ := ih (loads ++ [id])
      refine ⟨congrArg (id :: ·) hids, (List.prefix_append _ _).trans hlonger,
        List.forall_mem_cons.mpr ⟨.inr ⟨rfl, ?_⟩, hall⟩⟩
      exact hlonger.mem (List.mem_append_right _ (List.mem_singleton_self _))

/-- Where everything has a text, everything is in the log. -/
theorem loadFrontier_loads {cancelled : List ModuleId → Bool} {loads rest : List ModuleId}
    (h : ∀ entry ∈ (loadFrontier provider cancelled loads rest).1, ∃ text, entry.2 = .text text) :
    (loadFrontier provider cancelled loads rest).2 = loads ++ rest := by
  induction rest generalizing loads with
  | nil => exact (List.append_nil _).symm
  | cons id rest ih =>
    rw [loadFrontier] at h ⊢
    split at h
    · obtain ⟨text, htext⟩ := h _ List.mem_cons_self
      cases htext
    · rename_i hcontinue
      rw [if_neg hcontinue]
      have hrest := ih fun entry hentry => h entry (List.mem_cons_of_mem _ hentry)
      dsimp only
      rw [hrest, List.append_assoc, List.singleton_append]

/-! ## What requests mean -/

/-- The dependency is on what the request of an importer means, by the ids that were met. -/
def Dependency.Means (provider : ModuleProvider) (known : List ModuleId) (importer : ModuleId)
    (request : ModuleRequest) : Dependency → Prop
  | .module index => ∃ id, known[index]? = some id ∧
    provider.resolve request.specifier importer = .ok (.module id)
  | .external => provider.resolve request.specifier importer = .ok .external

/-- It stays so when more ids are met. -/
theorem Dependency.Means.mono {known known' : List ModuleId} {importer : ModuleId}
    {request : ModuleRequest} {dependency : Dependency}
    (h : dependency.Means provider known importer request) (hknown : known <+: known') :
    dependency.Means provider known' importer request := by
  cases dependency with
  | external => exact h
  | module index =>
    obtain ⟨id, hid, hresolve⟩ := h
    exact ⟨id, getElem?_of_isPrefix hknown hid, hresolve⟩

/-! ## Following requests -/

theorem dependencyOn_known (known : List ModuleId) (resolution : Resolution) :
    (dependencyOn known resolution).2 = known ∨ ∃ id, resolution = .module id ∧ id ∉ known ∧
      (dependencyOn known resolution).2 = known ++ [id] := by
  cases resolution with
  | external => exact .inl rfl
  | module id =>
    unfold dependencyOn
    dsimp only
    split
    · exact .inl rfl
    · rename_i hnone
      exact .inr ⟨id, rfl, List.idxOf?_eq_none_iff.mp hnone, rfl⟩

/-- The dependency on a meaning is on that, and it is the only one on an id that is new. -/
theorem dependencyOn_means {known : List ModuleId} {importer : ModuleId} {request : ModuleRequest}
    {resolution : Resolution} (h : provider.resolve request.specifier importer = .ok resolution) :
    (dependencyOn known resolution).1.Means provider (dependencyOn known resolution).2 importer
        request ∧
      ∀ index < (dependencyOn known resolution).2.length,
        index < known.length ∨ (dependencyOn known resolution).1 = .module index := by
  cases resolution with
  | external => exact ⟨h, fun index hlt => .inl hlt⟩
  | module id =>
    unfold dependencyOn
    dsimp only
    split
    · rename_i index hindex
      obtain ⟨hlt, hid, -⟩ := List.idxOf?_eq_some_iff.mp hindex
      refine ⟨⟨id, ?_, h⟩, fun index hlt => .inl hlt⟩
      rw [List.getElem?_eq_getElem hlt, hid]
    · refine ⟨⟨id, List.getElem?_concat_length, h⟩, fun index hlt => ?_⟩
      rw [List.length_append, List.length_singleton] at hlt
      rcases Nat.lt_succ_iff_lt_or_eq.mp hlt with hlt | rfl
      · exact .inl hlt
      · exact .inr rfl

/-- Following requests meets more ids, each of them once. -/
theorem dependenciesOf_known {importer : ModuleId} {source : String} {known known' : List ModuleId}
    {requests : List ModuleRequest} {dependencies : List Dependency}
    (h : dependenciesOf provider importer source known requests = .ok (dependencies, known')) :
    known <+: known' ∧ (known.Nodup → known'.Nodup) := by
  induction requests generalizing known dependencies with
  | nil =>
    cases h
    exact ⟨List.prefix_refl _, id⟩
  | cons request rest ih =>
    rw [dependenciesOf] at h
    split at h
    · cases h
    · rename_i resolution _
      obtain ⟨⟨others, _⟩, hothers, h⟩ := bind_eq_ok.mp h
      cases h
      change dependenciesOf _ _ _ (dependencyOn known resolution).2 rest = _ at hothers
      rcases dependencyOn_known known resolution with heq | ⟨id, -, hnew, heq⟩
      · rw [heq] at hothers
        exact ih hothers
      · rw [heq] at hothers
        obtain ⟨hlonger, hnodup⟩ := ih hothers
        refine ⟨(List.prefix_append _ _).trans hlonger, fun h => hnodup ?_⟩
        rw [← List.concat_eq_append]
        exact .concat hnew h

/-- Following requests gives a dependency on what each of them means, and there is one on every id
that is new. -/
theorem dependenciesOf_means {importer : ModuleId} {source : String} {known known' : List ModuleId}
    {requests : List ModuleRequest} {dependencies : List Dependency}
    (h : dependenciesOf provider importer source known requests = .ok (dependencies, known')) :
    List.Forall₂ (fun request dependency => dependency.Means provider known' importer request)
        requests dependencies ∧
      ∀ index < known'.length, index < known.length ∨ .module index ∈ dependencies := by
  induction requests generalizing known dependencies with
  | nil =>
    cases h
    exact ⟨.nil, fun index hlt => .inl hlt⟩
  | cons request rest ih =>
    rw [dependenciesOf] at h
    split at h
    · cases h
    · rename_i resolution hresolve
      obtain ⟨⟨others, _⟩, hothers, h⟩ := bind_eq_ok.mp h
      cases h
      change dependenciesOf _ _ _ (dependencyOn known resolution).2 rest = _ at hothers
      obtain ⟨hmeans, hnew⟩ := @dependencyOn_means provider known importer request _ hresolve
      obtain ⟨hall, hnew'⟩ := ih hothers
      refine ⟨.cons (hmeans.mono (dependenciesOf_known hothers).1) hall, fun index hlt => ?_⟩
      rcases hnew' index hlt with hlt | hmem
      · exact (hnew index hlt).imp id fun heq => List.mem_cons.mpr (.inl heq.symm)
      · exact .inr (List.mem_cons_of_mem _ hmem)

/-! ## Adding a module -/

/-- The module leads to the one of an index, by a request or a dynamic import. -/
def SourceModule.LeadsTo (m : SourceModule) (index : Nat) : Prop :=
  .module index ∈ m.requests ∨ .module index ∈ m.dynamicImports

/-- The record of a module is that of its text, and its dependencies are on what its requests and
dynamic imports mean. -/
structure SourceModule.Resolved (provider : ModuleProvider) (known : List ModuleId)
    (m : SourceModule) : Prop where
  parsed : parseModule m.source = .ok m.record
  requests : List.Forall₂
    (fun request dependency => dependency.Means provider known m.id request)
    m.record.requests.toList m.requests
  dynamicImports : List.Forall₂
    (fun request dependency => dependency.Means provider known m.id request)
    (m.record.dynamicImports.toList.map DynamicImport.request) m.dynamicImports

theorem SourceModule.Resolved.mono {known known' : List ModuleId} {m : SourceModule}
    (h : m.Resolved provider known) (hknown : known <+: known') : m.Resolved provider known' where
  parsed := h.parsed
  requests := h.requests.imp fun _ _ hmeans => hmeans.mono hknown
  dynamicImports := h.dynamicImports.imp fun _ _ hmeans => hmeans.mono hknown

/-- A module leads to ids that were met. -/
theorem SourceModule.Resolved.lt_length {known : List ModuleId} {m : SourceModule}
    (h : m.Resolved provider known) {index : Nat} (hindex : m.LeadsTo index) :
    index < known.length := by
  have hmet : ∀ {request : ModuleRequest},
      (Dependency.module index).Means provider known m.id request → index < known.length := by
    rintro request ⟨id, hid, -⟩
    exact (List.getElem?_eq_some_iff.mp hid).1
  rcases hindex with hmem | hmem
  · obtain ⟨request, -, hmeans⟩ := exists_of_forall₂ h.requests hmem
    exact hmet hmeans
  · obtain ⟨request, -, hmeans⟩ := exists_of_forall₂ h.dynamicImports hmem
    exact hmet hmeans

/-- A discovery to which a module was added. -/
structure Discovery.Added (provider : ModuleProvider) (d d' : Discovery) (m : SourceModule) :
    Prop where
  modules : d'.modules = d.modules.push m
  known : d.known <+: d'.known
  nodup : d.known.Nodup → d'.known.Nodup
  resolved : m.Resolved provider d'.known
  /-- All that is new is what the module leads to. -/
  new : ∀ index < d'.known.length, index < d.known.length ∨ m.LeadsTo index

/-- Adding a module succeeds only with a text, and then it is the module of that. -/
theorem add_eq_ok {d d' : Discovery} {entry : LoadedModule}
    (h : d.add provider entry = .ok d') :
    ∃ m : SourceModule, entry = (m.id, .text m.source) ∧ d.Added provider d' m := by
  obtain ⟨id, loaded⟩ := entry
  cases loaded with
  | failed | crashed => cases h
  | text source =>
    unfold Discovery.add at h
    dsimp only at h
    split at h
    · cases h
    · rename_i record hrecord
      obtain ⟨⟨requests, known⟩, hrequests, h⟩ := bind_eq_ok.mp h
      obtain ⟨⟨dynamicImports, known'⟩, hdynamic, h⟩ := bind_eq_ok.mp h
      cases h
      obtain ⟨hknown, hnodup⟩ := dependenciesOf_known hrequests
      obtain ⟨hknown', hnodup'⟩ := dependenciesOf_known hdynamic
      obtain ⟨hmeans, hnew⟩ := dependenciesOf_means hrequests
      obtain ⟨hmeans', hnew'⟩ := dependenciesOf_means hdynamic
      refine ⟨_, rfl, rfl, hknown.trans hknown', hnodup' ∘ hnodup, ⟨hrecord, ?_, hmeans'⟩,
        fun index hlt => ?_⟩
      · exact hmeans.imp fun _ _ h => h.mono hknown'
      · rcases hnew' index hlt with hlt | hmem
        · exact (hnew index hlt).imp_right .inl
        · exact .inr (.inr hmem)

end ModuleBundler
