import Mathlib.Logic.Function.Iterate
import ModuleBundler.Proofs.DiscoveryRounds

/-!
# Discovering a module graph, step by step

* `DiscoveryState` : how far a discovery has come, `DiscoveryState.next` : its next step, which is to
  load one module, to follow one request or to go on to the next module or round;
* `DiscoveryState.Leads` : what comes of a state after some steps;
* `leads_finished_iff` : the steps lead to the end that `discover` gives, and to none if it never
  gives one.
-/

namespace ModuleBundler

/-! ## States and steps -/

/-- A module that was read and whose requests are to be followed. -/
structure ReadModule where
  id : ModuleId
  source : String
  record : ModuleRecord

/-- All requests of a module, the static ones first. -/
def ReadModule.requests (m : ReadModule) : List ModuleRequest :=
  m.record.requests.toList ++ m.record.dynamicImports.toList.map DynamicImport.request

/-- The module, once it is known what all its requests lead to. -/
def ReadModule.withDependencies (m : ReadModule) (dependencies : List Dependency) : SourceModule where
  id := m.id
  source := m.source
  record := m.record
  requests := dependencies.take m.record.requests.size
  dynamicImports := dependencies.drop m.record.requests.size

/-- How far a discovery has come. -/
inductive DiscoveryState where
  /-- Between two rounds. -/
  | round (loads : List ModuleId) (d : Discovery)
  /-- In a round of loads, of which some are done and the rest is left. -/
  | loading (loads : List ModuleId) (d : Discovery) (done : List LoadedModule)
      (rest : List ModuleId)
  /-- After the loads of a round, with those whose modules are to be added. -/
  | adding (loads : List ModuleId) (d : Discovery) (entries : List LoadedModule)
  /-- In a module that is added. Some of its requests are followed and the rest is left, and so are
  modules that come after it. -/
  | following (loads : List ModuleId) (d : Discovery) (m : ReadModule)
      (dependencies : List Dependency) (rest : List ModuleRequest) (entries : List LoadedModule)
  | finished (known : List ModuleId) (logged : Logged ModuleGraph)

namespace DiscoveryState

/-- Nothing was loaded. -/
def start : DiscoveryState := .round [] .start

/-- The ids met so far. Those whose modules were not loaded are the last of them. -/
def known : DiscoveryState → List ModuleId
  | round _ d | loading _ d _ _ | adding _ d _ | following _ d _ _ _ _ => d.known
  | finished known _ => known

/-- The ids whose modules were loaded, in order. -/
def loads : DiscoveryState → List ModuleId
  | round loads _ | loading loads _ _ _ | adding loads _ _ | following loads _ _ _ _ _ => loads
  | finished _ logged => logged.loads

/-- The next step of a discovery. -/
def next (provider : ModuleProvider) (cancelled : List ModuleId → Bool) :
    DiscoveryState → DiscoveryState
  | round loads d =>
    if d.frontier.isEmpty then finished d.known ⟨loads, .ok ⟨d.modules⟩⟩
    else if cancelled loads then finished d.known ⟨loads, .error .cancelled⟩
    else loading loads d [] d.frontier
  | loading loads d done (id :: rest) =>
    if cancelled loads then loading loads d (done ++ [(id, .failed .cancelled)]) rest
    else loading (loads ++ [id]) d (done ++ [(id, provider.loaded id)]) rest
  | loading loads d done [] =>
    match done.findSome? fun entry => entry.2.crash? with
    | some message => finished d.known ⟨loads, .error (.internal (.crash message))⟩
    | none => adding loads d done
  | adding loads d ((id, .text source) :: entries) =>
    match parseModule source with
    | .error e => finished d.known ⟨loads, .error ⟨.parse e, some id, some ⟨source, e.span⟩⟩⟩
    | .ok record =>
      let m : ReadModule := ⟨id, source, record⟩
      following loads d m [] m.requests entries
  | adding loads d ((_, .failed e) :: _) => finished d.known ⟨loads, .error e⟩
  | adding loads d ((_, .crashed message) :: _) =>
    finished d.known ⟨loads, .error (.internal (.crash message))⟩
  | adding loads d [] => round loads d
  | following loads d m dependencies (request :: rest) entries =>
    match provider.resolve request.specifier m.id with
    | .error e =>
      finished d.known ⟨loads, .error ⟨.resolve e, some m.id, some ⟨m.source, request.span⟩⟩⟩
    | .ok resolution =>
      let (dependency, known) := dependencyOn d.known resolution
      following loads { d with known } m (dependencies ++ [dependency]) rest entries
  | following loads d m dependencies [] entries =>
    adding loads { d with modules := d.modules.push (m.withDependencies dependencies) } entries
  | finished known logged => finished known logged

/-- Some steps lead from one state to another. -/
def Leads (provider : ModuleProvider) (cancelled : List ModuleId → Bool)
    (s t : DiscoveryState) : Prop :=
  ∃ n, (next provider cancelled)^[n] s = t

end DiscoveryState

section
variable {provider : ModuleProvider} {cancelled : List ModuleId → Bool}

open DiscoveryState

theorem DiscoveryState.Leads.refl (s : DiscoveryState) : Leads provider cancelled s s := ⟨0, rfl⟩

/-- One step and those after it. -/
theorem DiscoveryState.Leads.head {s t u : DiscoveryState} (step : next provider cancelled s = t)
    (h : Leads provider cancelled t u) : Leads provider cancelled s u := by
  obtain ⟨n, hn⟩ := h
  exact ⟨n + 1, by rw [Function.iterate_succ_apply, step, hn]⟩

theorem DiscoveryState.Leads.trans {s t u : DiscoveryState} (h : Leads provider cancelled s t)
    (h' : Leads provider cancelled t u) : Leads provider cancelled s u := by
  obtain ⟨n, rfl⟩ := h
  obtain ⟨n', rfl⟩ := h'
  exact ⟨n' + n, Function.iterate_add_apply _ n' n s⟩

/-- At the end nothing more happens. -/
theorem iterate_next_finished (n : Nat) (known : List ModuleId) (logged : Logged ModuleGraph) :
    (next provider cancelled)^[n] (.finished known logged) = .finished known logged :=
  Function.iterate_fixed rfl n

/-! ## Loads of a round -/

variable (provider cancelled) in
theorem loadFrontier_leads (loads : List ModuleId) (d : Discovery) (done : List LoadedModule)
    (rest : List ModuleId) :
    Leads provider cancelled (.loading loads d done rest)
      (.loading (loadFrontier provider cancelled loads rest).2 d
        (done ++ (loadFrontier provider cancelled loads rest).1) []) := by
  induction rest generalizing loads done with
  | nil =>
    rw [loadFrontier, List.append_nil]
    exact .refl _
  | cons id rest ih =>
    by_cases hcancelled : cancelled loads = true
    · have hload : loadFrontier provider cancelled loads (id :: rest) =
          ((id, .failed .cancelled) :: (loadFrontier provider cancelled loads rest).1,
            (loadFrontier provider cancelled loads rest).2) := by
        rw [loadFrontier, if_pos hcancelled]
      rw [hload]
      refine .head (by rw [next, if_pos hcancelled]) ?_
      have := ih loads (done ++ [(id, .failed .cancelled)])
      rwa [List.append_assoc] at this
    · have hload : loadFrontier provider cancelled loads (id :: rest) =
          ((id, provider.loaded id) :: (loadFrontier provider cancelled (loads ++ [id]) rest).1,
            (loadFrontier provider cancelled (loads ++ [id]) rest).2) := by
        rw [loadFrontier, if_neg hcancelled]
        rfl
      rw [hload]
      refine .head (by rw [next, if_neg hcancelled]) ?_
      have := ih (loads ++ [id]) (done ++ [(id, provider.loaded id)])
      rwa [List.append_assoc] at this

/-! ## Modules that are added -/

/-- What follows one list of requests and then another. -/
theorem dependenciesOf_append (importer : ModuleId) (source : String) (known : List ModuleId)
    (requests rest : List ModuleRequest) :
    dependenciesOf provider importer source known (requests ++ rest) = (do
      let (dependencies, known) ← dependenciesOf provider importer source known requests
      let (others, known) ← dependenciesOf provider importer source known rest
      pure (dependencies ++ others, known)) := by
  induction requests generalizing known with
  | nil =>
    change dependenciesOf provider importer source known rest =
      (dependenciesOf provider importer source known rest >>= fun r => pure ([] ++ r.1, r.2))
    cases dependenciesOf provider importer source known rest with
    | error e => rfl
    | ok r => rfl
  | cons request requests ih =>
    rw [List.cons_append, dependenciesOf, dependenciesOf]
    cases provider.resolve request.specifier importer with
    | error e => rfl
    | ok resolution =>
      dsimp only
      rw [ih]
      cases dependenciesOf provider importer source (dependencyOn known resolution).2 requests with
      | error e => rfl
      | ok r =>
        change ((dependenciesOf provider importer source r.2 rest >>= _) >>= _) =
          (dependenciesOf provider importer source r.2 rest >>= _)
        cases dependenciesOf provider importer source r.2 rest with
        | error e => rfl
        | ok r' => rfl

theorem length_dependenciesOf {importer : ModuleId} {source : String} {known known' : List ModuleId}
    {requests : List ModuleRequest} {dependencies : List Dependency}
    (h : dependenciesOf provider importer source known requests = .ok (dependencies, known')) :
    dependencies.length = requests.length := by
  induction requests generalizing known dependencies with
  | nil =>
    cases h
    rfl
  | cons request rest ih =>
    rw [dependenciesOf] at h
    split at h
    · cases h
    · obtain ⟨⟨others, _⟩, hothers, h⟩ := bind_eq_ok.mp h
      cases h
      rw [List.length_cons, List.length_cons, ih hothers]

theorem following_leads_ok {loads : List ModuleId} {d : Discovery} {m : ReadModule}
    {dependencies others : List Dependency} {known : List ModuleId} {rest : List ModuleRequest}
    (entries : List LoadedModule)
    (h : dependenciesOf provider m.id m.source d.known rest = .ok (others, known)) :
    Leads provider cancelled (.following loads d m dependencies rest entries)
      (.following loads { d with known } m (dependencies ++ others) [] entries) := by
  induction rest generalizing d dependencies others with
  | nil =>
    cases h
    rw [List.append_nil]
    exact .refl _
  | cons request rest ih =>
    rw [dependenciesOf] at h
    cases hresolve : provider.resolve request.specifier m.id with
    | error e =>
      rw [hresolve] at h
      cases h
    | ok resolution =>
      rw [hresolve] at h
      obtain ⟨⟨others, _⟩, hothers, h⟩ := bind_eq_ok.mp h
      cases h
      refine .head (by rw [next, hresolve]) ?_
      have := @ih { d with known := (dependencyOn d.known resolution).2 }
        (dependencies ++ [(dependencyOn d.known resolution).1]) others hothers
      rwa [List.append_assoc] at this

theorem following_leads_error {loads : List ModuleId} {d : Discovery} {m : ReadModule}
    {dependencies : List Dependency} {rest : List ModuleRequest} (entries : List LoadedModule)
    {e : CompileError} (h : dependenciesOf provider m.id m.source d.known rest = .error e) :
    ∃ known, Leads provider cancelled (.following loads d m dependencies rest entries)
      (.finished known ⟨loads, .error e⟩) := by
  induction rest generalizing d dependencies with
  | nil => cases h
  | cons request rest ih =>
    rw [dependenciesOf] at h
    cases hresolve : provider.resolve request.specifier m.id with
    | error e =>
      rw [hresolve] at h
      cases h
      exact ⟨d.known, .head (by rw [next, hresolve]) (.refl _)⟩
    | ok resolution =>
      rw [hresolve] at h
      have hrest : dependenciesOf provider m.id m.source (dependencyOn d.known resolution).2 rest =
          .error e := by
        cases hothers : dependenciesOf provider m.id m.source
            (dependencyOn d.known resolution).2 rest with
        | error e' =>
          simp only [hothers] at h
          exact h
        | ok r =>
          simp only [hothers] at h
          cases h
      obtain ⟨known, hleads⟩ :=
        ih (d := { d with known := (dependencyOn d.known resolution).2 }) hrest
      exact ⟨known, .head (by rw [next, hresolve]) hleads⟩

/-- A module is added once all its requests are followed. -/
theorem add_text {d : Discovery} (m : ReadModule) (h : parseModule m.source = .ok m.record) :
    d.add provider (m.id, .text m.source) =
      (dependenciesOf provider m.id m.source d.known m.requests).map fun r =>
        ⟨r.2, d.modules.push (m.withDependencies r.1)⟩ := by
  simp only [Discovery.add, h, ReadModule.requests, dependenciesOf_append]
  cases hrequests : dependenciesOf provider m.id m.source d.known m.record.requests.toList with
  | error e => rfl
  | ok r =>
    obtain ⟨dependencies, known⟩ := r
    have hlength := (length_dependenciesOf hrequests).trans Array.length_toList
    change (dependenciesOf provider m.id m.source known _ >>= fun r => _) =
      (dependenciesOf provider m.id m.source known _ >>= fun r' => _).map fun r => _
    cases dependenciesOf provider m.id m.source known
        (m.record.dynamicImports.toList.map DynamicImport.request) with
    | error e => rfl
    | ok r' =>
      refine congrArg (fun m => Except.ok (Discovery.mk r'.2 (d.modules.push m))) ?_
      simp only [ReadModule.withDependencies, ← hlength, List.take_left, List.drop_left]

variable (provider cancelled) in
/-- Either a module is added or the discovery ends. -/
theorem add_leads (loads : List ModuleId) (d : Discovery) (entry : LoadedModule)
    (entries : List LoadedModule) :
    match d.add provider entry with
    | .ok d' => Leads provider cancelled (.adding loads d (entry :: entries))
        (.adding loads d' entries)
    | .error e => ∃ known, Leads provider cancelled (.adding loads d (entry :: entries))
        (.finished known ⟨loads, .error e⟩) := by
  obtain ⟨id, loaded⟩ := entry
  cases loaded with
  | failed e => exact ⟨d.known, .head rfl (.refl _)⟩
  | crashed message => exact ⟨d.known, .head rfl (.refl _)⟩
  | text source =>
    cases hparse : parseModule source with
    | error e =>
      simp only [Discovery.add, hparse]
      exact ⟨d.known, .head (by rw [next, hparse]) (.refl _)⟩
    | ok record =>
      let m : ReadModule := ⟨id, source, record⟩
      rw [add_text m hparse]
      have hstep : next provider cancelled (.adding loads d ((id, .text source) :: entries)) =
          .following loads d m [] m.requests entries := by
        rw [next, hparse]
      cases hdependencies : dependenciesOf provider m.id m.source d.known m.requests with
      | error e =>
        exact (following_leads_error entries hdependencies).imp fun known h => .head hstep h
      | ok r =>
        exact .head hstep
          ((following_leads_ok entries hdependencies).trans (.head rfl (.refl _)))

variable (provider cancelled) in
theorem addAll_leads (loads : List ModuleId) (d : Discovery) (entries : List LoadedModule) :
    match entries.foldlM (Discovery.add provider) d with
    | .ok d' => Leads provider cancelled (.adding loads d entries) (.round loads d')
    | .error e => ∃ known, Leads provider cancelled (.adding loads d entries)
        (.finished known ⟨loads, .error e⟩) := by
  induction entries generalizing d with
  | nil => exact .head rfl (.refl _)
  | cons entry entries ih =>
    have hadd := add_leads provider cancelled loads d entry entries
    rw [List.foldlM_cons]
    cases h : d.add provider entry with
    | error e =>
      rw [h] at hadd
      exact hadd
    | ok d' =>
      rw [h] at hadd
      have hrest := ih d'
      change match entries.foldlM (Discovery.add provider) d' with
        | .ok d'' => _
        | .error e => _
      cases hfold : entries.foldlM (Discovery.add provider) d' with
      | error e =>
        rw [hfold] at hrest
        obtain ⟨known, hrest⟩ := hrest
        exact ⟨known, hadd.trans hrest⟩
      | ok d'' =>
        rw [hfold] at hrest
        exact hadd.trans hrest

/-! ## Rounds -/

variable (provider cancelled) in
/-- A round ends the discovery or leads to the next one. -/
theorem round_leads (loads : List ModuleId) (d : Discovery) :
    (∃ known logged, Leads provider cancelled (.round loads d) (.finished known logged) ∧
      ∀ rounds, d.run provider cancelled (rounds + 1) loads = some logged) ∨
    ∃ loads' d', Leads provider cancelled (next provider cancelled (.round loads d))
        (.round loads' d') ∧
      ∀ rounds, d.run provider cancelled (rounds + 1) loads =
        d'.run provider cancelled rounds loads' := by
  by_cases hempty : d.frontier.isEmpty = true
  · exact .inl ⟨_, _, .head (by rw [next, if_pos hempty]) (.refl _), fun rounds => by
      rw [Discovery.run, if_pos hempty]⟩
  by_cases hcancelled : cancelled loads = true
  · exact .inl ⟨_, _, .head (by rw [next, if_neg hempty, if_pos hcancelled]) (.refl _),
      fun rounds => by rw [Discovery.run, if_neg hempty, if_pos hcancelled]⟩
  have hnext : next provider cancelled (.round loads d) = .loading loads d [] d.frontier := by
    rw [next, if_neg hempty, if_neg hcancelled]
  have hfail : ∀ e, d.addAll provider (loadFrontier provider cancelled loads d.frontier).1 =
      .error e → ∀ rounds, d.run provider cancelled (rounds + 1) loads =
        some ⟨(loadFrontier provider cancelled loads d.frontier).2, .error e⟩ := by
    intro e he rounds
    rw [Discovery.run, if_neg hempty, if_neg hcancelled]
    dsimp only
    rw [he]
  have hgoOn : ∀ d', d.addAll provider (loadFrontier provider cancelled loads d.frontier).1 =
      .ok d' → ∀ rounds, d.run provider cancelled (rounds + 1) loads =
        d'.run provider cancelled rounds (loadFrontier provider cancelled loads d.frontier).2 := by
    intro d' hd' rounds
    rw [Discovery.run, if_neg hempty, if_neg hcancelled]
    dsimp only
    rw [hd']
  have hloads := loadFrontier_leads provider cancelled
    loads d [] d.frontier
  rw [List.nil_append] at hloads
  generalize loadFrontier provider cancelled loads d.frontier = loaded at hfail hgoOn hloads
  obtain ⟨entries, loads'⟩ := loaded
  cases hcrash : entries.findSome? fun entry => entry.2.crash? with
  | some message =>
    have hadd : d.addAll provider entries = .error (.internal (.crash message)) := by
      rw [Discovery.addAll, hcrash]
    refine .inl ⟨d.known, _, .head hnext (hloads.trans (.head ?_ (.refl _))), hfail _ hadd⟩
    rw [next, hcrash]
  | none =>
    have hfold : d.addAll provider entries = entries.foldlM (Discovery.add provider) d := by
      rw [Discovery.addAll, hcrash]
    have hadding : Leads provider cancelled (.loading loads d [] d.frontier)
        (.adding loads' d entries) := hloads.trans (.head (by rw [next, hcrash]) (.refl _))
    have hadd := addAll_leads provider cancelled loads' d entries
    rw [← hfold] at hadd
    cases hadded : d.addAll provider entries with
    | error e =>
      rw [hadded] at hadd
      obtain ⟨known, hadd⟩ := hadd
      exact .inl ⟨known, _, .head hnext (hadding.trans hadd), hfail e hadded⟩
    | ok d' =>
      rw [hadded] at hadd
      refine .inr ⟨loads', d', ?_, hgoOn d' hadded⟩
      rw [hnext]
      exact hadding.trans hadd

theorem run_leads {rounds : Nat} {loads : List ModuleId} {d : Discovery}
    {logged : Logged ModuleGraph} (h : d.run provider cancelled rounds loads = some logged) :
    ∃ known, Leads provider cancelled (.round loads d) (.finished known logged) := by
  induction rounds generalizing loads d with
  | zero => cases h
  | succ rounds ih =>
    rcases round_leads provider cancelled loads d with
      ⟨known, logged', hleads, hrun⟩ | ⟨loads', d', hleads, hrun⟩
    · cases (hrun rounds).symm.trans h
      exact ⟨known, hleads⟩
    · obtain ⟨known, hrest⟩ := ih ((hrun rounds).symm.trans h)
      exact ⟨known, .head rfl (hleads.trans hrest)⟩

/-- Steps that lead to an end lead there from all that they come to. -/
theorem iterate_next_rest {s : DiscoveryState} {n n' : Nat} {known : List ModuleId}
    {logged : Logged ModuleGraph} (h : (next provider cancelled)^[n] s = .finished known logged)
    {loads : List ModuleId} {d : Discovery} (h' : (next provider cancelled)^[n'] s = .round loads d) :
    (next provider cancelled)^[n - n'] (.round loads d) = .finished known logged := by
  have hle : n' ≤ n := by
    by_contra hlt
    obtain ⟨more, rfl⟩ := Nat.exists_eq_add_of_le' (Nat.le_of_not_le hlt)
    rw [Function.iterate_add_apply, h, iterate_next_finished] at h'
    cases h'
  rw [← h', ← Function.iterate_add_apply, Nat.sub_add_cancel hle, h]

theorem run_of_leads {n : Nat} {loads : List ModuleId} {d : Discovery} {known : List ModuleId}
    {logged : Logged ModuleGraph}
    (h : (next provider cancelled)^[n] (.round loads d) = .finished known logged) :
    ∃ rounds, d.run provider cancelled rounds loads = some logged := by
  induction n using Nat.strongRecOn generalizing loads d with
  | ind n ih =>
    rcases round_leads provider cancelled loads d with
      ⟨known', logged', ⟨n', hleads⟩, hrun⟩ | ⟨loads', d', ⟨n', hleads⟩, hrun⟩
    · -- Both ends are reached, so they are the same.
      have hboth := congrArg (next provider cancelled)^[n'] h
      rw [← Function.iterate_add_apply, Nat.add_comm, Function.iterate_add_apply, hleads,
        iterate_next_finished, iterate_next_finished] at hboth
      cases hboth
      exact ⟨1, hrun 0⟩
    · cases n with
      | zero => cases h
      | succ n =>
        rw [Function.iterate_succ_apply] at h
        obtain ⟨rounds, hrounds⟩ := ih (n - n') (by omega) (iterate_next_rest h hleads)
        exact ⟨rounds + 1, (hrun rounds).trans hrounds⟩

/-- The steps from the start come to an end if and only if discovery does, with the same result. -/
theorem leads_finished_iff (logged : Logged ModuleGraph) :
    (∃ known, Leads provider cancelled .start (.finished known logged)) ↔
      ∃ rounds, discover provider cancelled rounds = some logged := by
  constructor
  · rintro ⟨known, n, h⟩
    exact run_of_leads h
  · rintro ⟨rounds, h⟩
    exact run_leads h

/-! ## What is met and what is loaded -/

variable (provider cancelled) in
/-- A step meets nothing new, or one module to which a specifier leads. -/
theorem known_next (s : DiscoveryState) :
    (s.next provider cancelled).known = s.known ∨
      ∃ specifier importer id, provider.resolve specifier importer = .ok (.module id) ∧
        id ∉ s.known ∧ (s.next provider cancelled).known = s.known ++ [id] := by
  fun_cases DiscoveryState.next provider cancelled s
  case case14 loads d m dependencies request rest entries resolution hresolve dependency known h =>
    change known = d.known ∨ ∃ specifier importer id,
      provider.resolve specifier importer = .ok (.module id) ∧ id ∉ d.known ∧ known = d.known ++ [id]
    have hknown := dependencyOn_known d.known resolution
    rw [h] at hknown
    obtain hknown | ⟨id, rfl, hnew, hknown⟩ := hknown
    · exact .inl hknown
    · exact .inr ⟨request.specifier, m.id, id, hresolve, hnew, hknown⟩
  all_goals exact .inl rfl

/-- The entry, or what a specifier means in some module. -/
def ModuleProvider.Finds (provider : ModuleProvider) (id : ModuleId) : Prop :=
  id = .file entryPath ∨ ∃ specifier importer, provider.resolve specifier importer = .ok (.module id)

variable (provider cancelled) in
theorem known_found (n : Nat) :
    ∀ id ∈ ((next provider cancelled)^[n] .start).known, provider.Finds id := by
  induction n with
  | zero => exact List.forall_mem_singleton.mpr (.inl rfl)
  | succ n ih =>
    rw [Function.iterate_succ_apply']
    obtain h | ⟨specifier, importer, id, hresolve, -, h⟩ :=
      known_next provider cancelled ((next provider cancelled)^[n] .start)
    · rwa [h]
    · rw [h, List.forall_mem_append, List.forall_mem_singleton]
      exact ⟨ih, .inr ⟨specifier, importer, hresolve⟩⟩

/-- What was met was met once. -/
theorem known_nodup (n : Nat) : ((next provider cancelled)^[n] .start).known.Nodup := by
  induction n with
  | zero => exact List.nodup_singleton _
  | succ n ih =>
    rw [Function.iterate_succ_apply']
    obtain h | ⟨specifier, importer, id, -, hnew, h⟩ :=
      known_next provider cancelled ((next provider cancelled)^[n] .start)
    · rwa [h]
    · rw [h, ← List.concat_eq_append]
      exact .concat hnew ih

/-- Modules are loaded in the order in which they were met: before a round some of those that were
added, and in it some of those that are done too. -/
def DiscoveryState.InOrder : DiscoveryState → Prop
  | round loads d => loads.Sublist (d.known.take d.modules.size)
  | loading loads d done rest =>
    loads.Sublist (d.known.take (d.modules.size + done.length)) ∧
      rest = d.known.drop (d.modules.size + done.length)
  | adding loads d entries => loads.Sublist (d.known.take (d.modules.size + entries.length))
  | following loads d _ _ _ entries =>
    loads.Sublist (d.known.take (d.modules.size + entries.length + 1))
  | finished known logged => logged.loads.Sublist known

theorem take_succ_of_drop {α : Type} {as : List α} {n : Nat} {a : α} {rest : List α}
    (h : a :: rest = as.drop n) : as.take (n + 1) = as.take n ++ [a] ∧ rest = as.drop (n + 1) := by
  constructor
  · rw [List.take_add_one, ← List.head?_drop, ← h]
    rfl
  · rw [← List.tail_drop, ← h]
    rfl

theorem dependencyOn_take_sublist (known : List ModuleId) (resolution : Resolution) (n : Nat) :
    (known.take n).Sublist ((dependencyOn known resolution).2.take n) := by
  obtain h | ⟨id, -, -, h⟩ := dependencyOn_known known resolution
  · rw [h]
  · rw [h, List.take_append]
    exact List.sublist_append_left _ _

variable (provider cancelled) in
theorem DiscoveryState.InOrder.next {s : DiscoveryState} (h : s.InOrder) :
    (s.next provider cancelled).InOrder := by
  fun_cases DiscoveryState.next provider cancelled s
  case case3 => exact ⟨h, rfl⟩
  case case4 loads d done id rest _ =>
    obtain ⟨hloads, hrest⟩ := h
    obtain ⟨htake, hdrop⟩ := take_succ_of_drop hrest
    rw [DiscoveryState.InOrder, List.length_append, List.length_singleton, ← Nat.add_assoc, htake]
    exact ⟨hloads.trans (List.sublist_append_left _ _), hdrop⟩
  case case5 loads d done id rest _ =>
    obtain ⟨hloads, hrest⟩ := h
    obtain ⟨htake, hdrop⟩ := take_succ_of_drop hrest
    rw [DiscoveryState.InOrder, List.length_append, List.length_singleton, ← Nat.add_assoc, htake]
    exact ⟨hloads.append (.refl _), hdrop⟩
  case case7 => exact h.1
  case case9 => exact h
  case case12 => exact h
  case case14 loads d m dependencies request rest entries resolution _ dependency known hknown =>
    have htake := dependencyOn_take_sublist d.known resolution
    rw [hknown] at htake
    exact List.Sublist.trans h (htake _)
  case case15 loads d m dependencies entries =>
    rw [DiscoveryState.InOrder, Array.size_push, Nat.add_right_comm]
    exact h
  case case16 => exact h
  case case6 => exact h.1.trans (List.take_sublist _ _)
  all_goals exact List.Sublist.trans h (List.take_sublist _ _)

variable (provider cancelled) in
theorem inOrder_iterate (n : Nat) : ((next provider cancelled)^[n] .start).InOrder := by
  induction n with
  | zero => exact List.nil_sublist _
  | succ n ih =>
    rw [Function.iterate_succ_apply']
    exact ih.next provider cancelled

/-- A step asks its provider at most for the module of one id that was met, or for the meaning of one
specifier. -/
theorem next_eq_of_agree {provider' : ModuleProvider} {s : DiscoveryState} (h : s.InOrder)
    (hloaded : ∀ id ∈ s.known, provider'.loaded id = provider.loaded id)
    (hresolve : ∀ loads d m dependencies request rest entries,
      s = .following loads d m dependencies (request :: rest) entries →
      provider'.resolve request.specifier m.id = provider.resolve request.specifier m.id) :
    s.next provider' cancelled = s.next provider cancelled := by
  cases s with
  | loading loads d done rest =>
    cases rest with
    | nil => rfl
    | cons id rest =>
      have hid : id ∈ d.known := List.mem_of_mem_drop (h.2 ▸ List.mem_cons_self)
      simp only [DiscoveryState.next, hloaded id hid]
  | adding loads d entries =>
    rcases entries with _ | ⟨⟨id, _ | _ | _⟩, entries⟩ <;> rfl
  | following loads d m dependencies rest entries =>
    cases rest with
    | nil => rfl
    | cons request rest => simp only [DiscoveryState.next, hresolve _ _ _ _ _ _ _ rfl]
  | _ => rfl

/-- What was loaded was met, and was loaded in that order. -/
theorem DiscoveryState.InOrder.loads_sublist {s : DiscoveryState} (h : s.InOrder) :
    s.loads.Sublist s.known := by
  cases s with
  | finished => exact h
  | loading => exact h.1.trans (List.take_sublist _ _)
  | _ => exact List.Sublist.trans h (List.take_sublist _ _)

/-- What was loaded is the entry or what a specifier means, whatever came of it. -/
theorem loads_found {rounds : Nat} {logged : Logged ModuleGraph}
    (h : discover provider cancelled rounds = some logged) :
    ∀ id ∈ logged.loads, provider.Finds id := by
  obtain ⟨known, n, hfinished⟩ := (leads_finished_iff logged).mpr ⟨rounds, h⟩
  have hknown := known_found provider cancelled n
  have hloads := (inOrder_iterate provider cancelled n).loads_sublist
  rw [hfinished] at hknown hloads
  exact fun id hid => hknown id (hloads.subset hid)

end
end ModuleBundler
