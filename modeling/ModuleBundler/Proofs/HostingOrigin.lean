import ModuleBundler.Compile
import ModuleBundler.Proofs.DiscoverySteps

/-!
# What a site fetches

* `OnSite` : a module is a file or on the origin of the site;
* `fetched` : the URLs that were fetched among all that was loaded;
* `fetches_only_origin` : a compilation meets and fetches modules of the origin of its site alone, each
  of them once, and would be the same on a network with anything else outside of that origin.
-/

namespace ModuleBundler

/-- A module is not at a URL outside of the origin of the site. -/
def OnSite (site : Site) (id : ModuleId) : Prop :=
  ∀ url, id = .remote url → sameOrigin url.origin site.origin = true

/-- The URLs among ids. -/
def fetched (loads : List ModuleId) : List Url :=
  loads.filterMap fun
    | .file _ => none
    | .remote url => some url

theorem mem_fetched {loads : List ModuleId} {url : Url} :
    url ∈ fetched loads ↔ .remote url ∈ loads := by
  rw [fetched, List.mem_filterMap]
  constructor
  · rintro ⟨id, hid, h⟩
    cases id with
    | file path => cases h
    | remote other =>
      cases h
      exact hid
  · exact fun h => ⟨_, h, rfl⟩

theorem nodup_fetched {loads : List ModuleId} (h : loads.Nodup) : (fetched loads).Nodup := by
  refine h.filterMap fun id id' url hurl hurl' => ?_
  cases id with
  | file path => cases hurl
  | remote other =>
    cases id' with
    | file path => cases hurl'
    | remote other' =>
      cases hurl
      cases hurl'
      rfl

/-! ## Resolution -/

section
variable {site : Site}

theorem remoteModule_onSite {url : Url} {id : ModuleId}
    (h : site.remoteModule url = .ok (.module id)) : OnSite site id := by
  unfold Site.remoteModule at h
  split at h
  · rename_i hsame
    cases h
    intro other hother
    cases hother
    exact hsame
  · cases h

theorem remoteResolution_onSite {specifier : String} {url : Except UrlError Url} {id : ModuleId}
    (h : site.remoteResolution specifier url = .ok (.module id)) : OnSite site id := by
  cases url with
  | error reason => cases h
  | ok url => exact remoteModule_onSite h

/-- What a specifier means in a module is on the site, whichever module that is. -/
theorem resolve_onSite {specifier : String} {importer id : ModuleId}
    (h : site.resolve specifier importer = .ok (.module id)) : OnSite site id := by
  have hfile : ∀ {path}, (.file path : ModuleId) = id → OnSite site id := by
    rintro path rfl url hurl
    cases hurl
  unfold Site.resolve at h
  split at h
  · exact remoteResolution_onSite h
  · split at h
    · cases h
      exact hfile rfl
    · split at h
      · split at h
        · exact remoteResolution_onSite h
        · cases h
      · dsimp only at h
        split at h
        · cases h
          exact hfile rfl
        · cases h

/-! ## Steps -/

/-- All that is met is on the site. -/
theorem known_onSite (site : Site) (cancelled : List ModuleId → Bool) (n : Nat) :
    ∀ id ∈ ((DiscoveryState.next site.provider cancelled)^[n] .start).known, OnSite site id := by
  intro id hid
  rcases known_found site.provider cancelled n id hid with rfl | ⟨specifier, importer, hresolve⟩
  · intro url hurl
    cases hurl
  · exact resolve_onSite hresolve

/-- The network of two sites answers the same on their origin. -/
def SameOnSite (site : Site) (fetch : Url → Loaded FetchError) : Prop :=
  ∀ url, sameOrigin url.origin site.origin = true → fetch url = site.fetch url

theorem loaded_congr {fetch : Url → Loaded FetchError} (h : SameOnSite site fetch) {id : ModuleId}
    (hid : OnSite site id) :
    ({ site with fetch } : Site).provider.loaded id = site.provider.loaded id := by
  have hload : ({ site with fetch } : Site).load id = site.load id := by
    cases id with
    | file path => rfl
    | remote url => simp only [Site.load, h url (hid url rfl)]
  have hprovider : ({ site with fetch } : Site).provider.load id = site.provider.load id := hload
  rw [ModuleProvider.loaded, hprovider]
  rfl

/-- A step loads nothing that is not on the site. -/
theorem next_congr {fetch : Url → Loaded FetchError} (h : SameOnSite site fetch)
    (cancelled : List ModuleId → Bool) {s : DiscoveryState} (hin : s.InOrder)
    (hknown : ∀ id ∈ s.known, OnSite site id) :
    s.next ({ site with fetch } : Site).provider cancelled = s.next site.provider cancelled :=
  next_eq_of_agree hin (fun id hid => loaded_congr h (hknown id hid))
    fun _ _ _ _ _ _ _ _ => rfl

theorem iterate_next_congr {fetch : Url → Loaded FetchError} (h : SameOnSite site fetch)
    (cancelled : List ModuleId → Bool) (n : Nat) :
    (DiscoveryState.next ({ site with fetch } : Site).provider cancelled)^[n] .start =
      (DiscoveryState.next site.provider cancelled)^[n] .start := by
  induction n with
  | zero => rfl
  | succ n ih =>
    rw [Function.iterate_succ_apply', Function.iterate_succ_apply', ih]
    exact next_congr h cancelled (inOrder_iterate _ _ n) (known_onSite site cancelled n)

/-! ## Compilations -/

/-- A compilation gives a result, after as many rounds of loads as it takes. -/
def Compiles (provider : ModuleProvider) (options : CompileOptions)
    (cancelled : List ModuleId → Bool) (logged : Logged Bundle) : Prop :=
  ∃ rounds, compile provider options cancelled rounds = some logged

/-- The result of a compilation is that of the discovery of its modules. -/
theorem compiles_iff {provider : ModuleProvider} {options : CompileOptions}
    {cancelled : List ModuleId → Bool} {logged : Logged Bundle} :
    Compiles provider options cancelled logged ↔
      ∃ n known discovered,
        (DiscoveryState.next provider cancelled)^[n] .start = .finished known discovered ∧
        logged = ⟨discovered.loads, do
          let g ← discovered.result
          if cancelled discovered.loads then throw .cancelled
          compileGraph options g⟩ := by
  constructor
  · rintro ⟨rounds, h⟩
    obtain ⟨discovered, hdiscovered, rfl⟩ := Option.map_eq_some_iff.mp h
    obtain ⟨known, n, hn⟩ := (leads_finished_iff discovered).mpr ⟨rounds, hdiscovered⟩
    exact ⟨n, known, discovered, hn, rfl⟩
  · rintro ⟨n, known, discovered, hn, rfl⟩
    obtain ⟨rounds, hrounds⟩ := (leads_finished_iff discovered).mp ⟨known, n, hn⟩
    exact ⟨rounds, Option.map_eq_some_iff.mpr ⟨discovered, hrounds, rfl⟩⟩

/-- **Only the origin of a site is fetched from.** At every step of a discovery all that was met is
on the site and was met once, and what was loaded are some of these, each loaded once. So every URL
that a compilation fetches has the origin of the site, and none is fetched twice. And what the
network has elsewhere makes no difference. -/
theorem fetches_only_origin (site : Site) (cancelled : List ModuleId → Bool) :
    (∀ n, ∀ s, s = (DiscoveryState.next site.provider cancelled)^[n] .start →
      (∀ url, .remote url ∈ s.known → sameOrigin url.origin site.origin = true) ∧
      s.known.Nodup ∧ s.loads.Sublist s.known) ∧
    (∀ options logged, Compiles site.provider options cancelled logged →
      (∃ n known result, (DiscoveryState.next site.provider cancelled)^[n] .start =
        .finished known ⟨logged.loads, result⟩) ∧
      (∀ url ∈ fetched logged.loads, sameOrigin url.origin site.origin = true) ∧
      (fetched logged.loads).Nodup) ∧
    ∀ fetch, SameOnSite site fetch → ∀ options logged,
      Compiles ({ site with fetch } : Site).provider options cancelled logged ↔
        Compiles site.provider options cancelled logged := by
  have hknown : ∀ n url,
      .remote url ∈ ((DiscoveryState.next site.provider cancelled)^[n] .start).known →
      sameOrigin url.origin site.origin = true :=
    fun n url hurl => known_onSite site cancelled n _ hurl url rfl
  have hloads := fun n => (inOrder_iterate site.provider cancelled n).loads_sublist
  refine ⟨?_, ?_, ?_⟩
  · rintro n s rfl
    exact ⟨hknown n, known_nodup n, hloads n⟩
  · intro options logged h
    obtain ⟨n, known, discovered, hn, rfl⟩ := compiles_iff.mp h
    have hlast : ((DiscoveryState.next site.provider cancelled)^[n] .start).loads =
        discovered.loads := by rw [hn]; rfl
    refine ⟨⟨n, known, discovered.result, hn⟩, fun url hurl => ?_, ?_⟩
    · rw [← hlast, mem_fetched] at hurl
      exact hknown n url ((hloads n).subset hurl)
    · rw [← hlast]
      exact nodup_fetched ((known_nodup n).sublist (hloads n))
  · intro fetch h options logged
    rw [compiles_iff, compiles_iff]
    simp only [iterate_next_congr h]

end

end ModuleBundler
