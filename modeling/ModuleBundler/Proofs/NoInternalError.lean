import ModuleBundler.Compile
import ModuleBundler.Proofs.ClosedBundle
import ModuleBundler.Proofs.DiscoveryEnds
import ModuleBundler.Proofs.LinePlaces
import ModuleBundler.Proofs.ModuleIndices

/-!
# Compilations never fail through an error of their own

* `Blameless` : work does not end in an internal error, whatever else it ends in;
* `ExportStep.Sound`, `blameless_resolveExport` : lookups of exports stay in the graph and within
  their depth;
* `LinksBlameless`, `link_blameless` : linking finds all that it looks up;
* `discover_blameless` : so does a discovery if nothing that is loaded breaks down;
* `compile_never_internal` : what comes of a compilation is a bundle or an error of another kind.
-/

namespace ModuleBundler

open Cursor (Leads)

variable {α β : Type}

/-- The work does not end in an internal error. -/
def Blameless (x : Except CompileError α) : Prop :=
  ∀ e, x = .error e → e.cause.kind ≠ .internal

theorem blameless_ok (a : α) : Blameless (.ok a : Except CompileError α) :=
  fun _ h => nomatch h

theorem blameless_error {e : CompileError} (h : e.cause.kind ≠ .internal) :
    Blameless (.error e : Except CompileError α) := by
  intro e' heq
  cases heq
  exact h

theorem Blameless.bind {x : Except CompileError α} {f : α → Except CompileError β}
    (hx : Blameless x) (hf : ∀ a, x = .ok a → Blameless (f a)) : Blameless (x >>= f) := by
  cases x with
  | error e => exact blameless_error (hx e rfl)
  | ok a => exact hf a rfl

theorem Gives.blameless {x : Except CompileError α} {property : α → Prop}
    (h : Gives x property) : Blameless x := by
  obtain ⟨a, rfl, -⟩ := h
  exact blameless_ok a

theorem blameless_foldlM {f : β → α → Except CompileError β} {as : List α}
    (h : ∀ b, ∀ a ∈ as, Blameless (f b a)) (b : β) : Blameless (as.foldlM f b) := by
  induction as generalizing b with
  | nil => exact blameless_ok b
  | cons a as ih =>
    rw [List.foldlM_cons]
    refine (h b a List.mem_cons_self).bind fun b' _ => ih (fun b a ha => ?_) b'
    exact h b a (List.mem_cons_of_mem _ ha)

/-! ## Exports -/

variable {g : ModuleGraph}

/-- A step of a lookup does not end in an internal error, and goes on to modules of the graph. -/
def ExportStep.Sound (g : ModuleGraph) : ExportStep → Prop
  | .settled answer => Blameless answer
  | .forward _ next _ => next.1 < g.size
  | .stars entries => ∀ specifier target, (specifier, .module target) ∈ entries → target < g.size

theorem blameless_getModule {index : Nat} (h : index < g.size) : Blameless (g.getModule index) := by
  rw [ModuleGraph.getModule, Array.getElem?_eq_getElem h]
  exact blameless_ok _

theorem blameless_orMissing {m : SourceModule} {key : ExportKey} (hkey : key.1 < g.size)
    (span : Span) (found : Option Slot) : Blameless (g.orMissing m key span found) := by
  cases found with
  | some slot => exact blameless_ok slot
  | none => exact (blameless_getModule hkey).bind fun _ _ => blameless_error (fun h => nomatch h)

/-- Every request leads somewhere, and to no module that is not there. -/
theorem SourceModule.Indexed.request {m : SourceModule} (hm : m.Indexed g.size) {index : Nat}
    (h : index < m.record.requests.size) : ∃ specifier dependency,
      m.request? index = some (specifier, dependency) ∧
        ∀ target, dependency = .module target → target < g.size := by
  have hlt : index < m.requests.length := by
    rw [hm.dependencies.1]
    exact h
  refine ⟨m.record.requests[index].specifier, m.requests[index], ?_, fun target htarget => ?_⟩
  · rw [SourceModule.request?, Array.getElem?_eq_getElem h, List.getElem?_eq_getElem hlt]
    rfl
  · exact hm.modules target (.inl (htarget ▸ List.getElem_mem hlt))

/-- What a request takes is something of the graph or from outside. -/
theorem SourceModule.Indexed.requestTarget {m : SourceModule} (hm : m.Indexed g.size)
    {request : Nat} (h : request < m.record.requests.size) (imported : Imported) :
    Gives (m.requestTarget request imported) fun target =>
      ∀ key, target = .inr key → key.1 < g.size := by
  obtain ⟨specifier, dependency, heq, htarget⟩ := hm.request h
  unfold SourceModule.requestTarget
  rw [heq]
  cases dependency with
  | external => exact gives_ok fun _ h => nomatch h
  | module target =>
    cases imported with
    | all => exact gives_ok fun _ h => nomatch h
    | name name =>
      refine gives_ok fun key hkey => ?_
      cases hkey
      exact htarget target rfl

theorem requestStep_sound {m : SourceModule} (hm : m.Indexed g.size) {request : Nat}
    (h : request < m.record.requests.size) (imported : Imported) (span : Span) :
    (m.requestStep request imported span).Sound g := by
  obtain ⟨target, heq, htarget⟩ := hm.requestTarget h imported
  unfold SourceModule.requestStep
  rw [heq]
  cases target with
  | inl slot => exact blameless_ok _
  | inr key => exact htarget key rfl

/-- A variable that is an import is found among the imports. -/
theorem SourceModule.Indexed.importOf {m : SourceModule} (hm : m.Indexed g.size) {name : String}
    {binding : BindingId} (hbinding : m.record.scopes.moduleBinding? name = some binding)
    (hkind : m.record.scopes.bindingKind? binding = some .imported) :
    ∃ entry, m.importOf name = .ok entry ∧ entry.1 < m.record.requests.size := by
  obtain ⟨entry, hentry, hname⟩ := hm.importing name binding hbinding hkind
  unfold SourceModule.importOf
  split
  · rename_i found hfound
    refine ⟨found, rfl, ?_⟩
    obtain ⟨decl, hdecl, heq, -⟩ :=
      SourceModule.mem_importSpecifiers.mp (List.mem_of_find?_eq_some hfound)
    rw [heq]
    exact hm.importRequests decl hdecl
  · rename_i hnone
    have hne := List.find?_eq_none.mp hnone entry hentry
    simp [hname] at hne

theorem ownStep_sound {m : SourceModule} (hm : m.Indexed g.size) (index : Nat)
    {e : ExportSpecifier} (he : e ∈ m.record.exports) : (m.ownStep index e).Sound g := by
  have hrequested := hm.exportRequests e he
  unfold SourceModule.ownStep
  cases htarget : e.target with
  | reexport request imported =>
    rw [htarget] at hrequested
    exact requestStep_sound hm hrequested imported e.span
  | binding name =>
    dsimp only
    split
    · exact blameless_error (fun h => nomatch h)
    · rename_i binding hbinding
      split
      · rename_i hkind
        obtain ⟨⟨request, s⟩, heq, hrequest⟩ := hm.importOf hbinding hkind
        rw [heq]
        exact requestStep_sound hm hrequest s.imported s.span
      · exact blameless_ok _

theorem exportStep_sound (hg : g.Indexed) {key : ExportKey} (hkey : key.1 < g.size) :
    (exportStep g key).Sound g := by
  have hmem : g.modules[key.1] ∈ g.modules := Array.getElem_mem hkey
  have hm := hg.modules _ hmem
  unfold exportStep
  rw [Array.getElem?_eq_getElem hkey]
  dsimp only
  split
  · rename_i e he
    exact ownStep_sound hm key.1 (Array.mem_toList_iff.mp (List.mem_of_find?_eq_some he))
  · split
    · exact blameless_ok _
    · intro specifier target hstar
      obtain ⟨request, hrequest, heq⟩ := List.mem_filterMap.mp hstar
      have hlt := hm.starRequests request (Array.mem_toList_iff.mp hrequest)
      obtain ⟨_, dependency, heq', htarget⟩ := hm.request hlt
      rw [heq'] at heq
      cases heq
      exact htarget target rfl

/-- Trying modules ends in no internal error if asking those that have not been asked does not. -/
theorem blameless_resolveStars {lookup : ExportLookup} {visiting : List ExportKey} {name : String}
    {outside : Option Slot} {entries : List (String × Dependency)}
    (h : ∀ specifier target, (specifier, .module target) ∈ entries → (target, name) ∉ visiting →
      Blameless (lookup visiting (target, name))) :
    Blameless (resolveStars lookup visiting name outside entries) := by
  induction entries generalizing outside with
  | nil => exact blameless_ok outside
  | cons entry rest ih =>
    have hrest := fun specifier target hmem => h specifier target (List.mem_cons_of_mem _ hmem)
    obtain ⟨specifier, target | _⟩ := entry
    · rw [resolveStars]
      split
      · exact ih hrest
      · rename_i hnew
        refine (h specifier target List.mem_cons_self hnew).bind fun found _ => ?_
        cases found with
        | some slot => exact blameless_ok _
        | none => exact ih hrest
    · rw [resolveStars]
      exact ih hrest

/-- Lookups of exports end in no internal error: they go from modules of the graph to modules of the
graph, and their depth is not used up. -/
theorem blameless_resolveExport (hg : g.Indexed) {cache : ExportCache} {asked : ExportKey}
    {depth : Nat} {visiting : List ExportKey} {key : ExportKey}
    (hroom : LookupRoom g (lookupNames g asked) visiting key) (hkey : key.1 < g.size)
    (hdepth : g.lookupDepth ≤ visiting.length + depth) :
    Blameless (resolveExport g cache depth visiting key) := by
  induction depth generalizing visiting key with
  | zero =>
    have hlt := hroom.length_lt
    omega
  | succ depth ih =>
    rw [resolveExport_succ]
    split
    · exact blameless_ok _
    have hsound := exportStep_sound hg hkey
    have hdepth' : g.lookupDepth ≤ (key :: visiting).length + depth := by
      rw [List.length_cons]
      omega
    cases hstep : exportStep g key with
    | settled answer =>
      rw [hstep] at hsound
      exact hsound
    | forward m next span =>
      rw [hstep] at hsound
      change Blameless (if next ∈ key :: visiting then _ else _)
      split
      · exact blameless_error (fun h => nomatch h)
      · rename_i hnew
        have hnext := hroom.next hkey ((exportStep_eq_forward hstep).2 asked) hnew
        refine (ih hnext hsound hdepth').bind fun found _ => ?_
        rw [← bind_pure_comp]
        exact (blameless_orMissing hsound span found).bind fun _ _ => blameless_ok _
    | stars entries =>
      rw [hstep] at hsound
      refine blameless_resolveStars fun specifier target hstar hnew => ?_
      exact ih (hroom.next hkey hroom.name hnew) (hsound specifier target hstar) hdepth'

/-! ## Linking -/

/-- The work does not end in an internal error, if the answers so far are slots of the graph. -/
def LinksBlameless (g : ModuleGraph) (work : Linking α) : Prop :=
  ∀ cache, CacheIsOf g cache → Blameless (work cache)

theorem linksBlameless_pure (a : α) : LinksBlameless g (pure a : Linking α) :=
  fun _ _ => blameless_ok _

theorem linksBlameless_liftBind {work : Except CompileError α} {next : α → Linking β}
    (hwork : Blameless work) (hnext : ∀ a, work = .ok a → LinksBlameless g (next a)) :
    LinksBlameless g (liftM work >>= next) := by
  intro cache hcache
  change Blameless ((liftM work >>= next).run cache)
  rw [liftBind_run]
  exact hwork.bind fun a ha => hnext a ha cache hcache

theorem LinksBlameless.bind {work : Linking α} {next : α → Linking β} {first : α → Prop}
    (hwork : LinksBlameless g work) (hlinks : Links g work first)
    (hnext : ∀ a, first a → LinksBlameless g (next a)) : LinksBlameless g (work >>= next) := by
  intro cache hcache
  change Blameless (work cache >>= fun result => next result.1 result.2)
  refine (hwork cache hcache).bind fun (a, cache') heq => ?_
  obtain ⟨hcache', ha⟩ := hlinks hcache heq
  exact hnext a ha cache' hcache'

theorem linksBlameless_mapM {work : α → Linking β} {property : β → Prop} {as : List α}
    (h : ∀ a ∈ as, LinksBlameless g (work a)) (hlinks : ∀ a ∈ as, Links g (work a) property) :
    LinksBlameless g (as.mapM work) := by
  induction as with
  | nil => exact linksBlameless_pure _
  | cons a as ih =>
    rw [List.mapM_cons]
    obtain ⟨hfirst, hrest⟩ := List.forall_mem_cons.mp h
    obtain ⟨hlinksFirst, hlinksRest⟩ := List.forall_mem_cons.mp hlinks
    refine hfirst.bind hlinksFirst fun b _ => ?_
    exact (ih hrest hlinksRest).bind (links_mapM_all hlinksRest) fun _ _ => linksBlameless_pure _

section
variable (hg : g.WellFormed) (hindexed : g.Indexed)
include hindexed

theorem linksBlameless_exportedSlot {key : ExportKey} (hkey : key.1 < g.size) :
    LinksBlameless g (exportedSlot g key) := by
  intro cache _
  change Blameless ((exportedSlot g key).run cache)
  rw [exportedSlot_run]
  have hroom : LookupRoom g (lookupNames g key) [] key :=
    ⟨by simp, fun _ h => (nomatch h), List.mem_cons_self⟩
  have hdepth : g.lookupDepth ≤ ([] : List ExportKey).length + g.lookupDepth := by simp
  have hanswer := @blameless_resolveExport g hindexed cache key _ _ _ hroom hkey hdepth
  exact hanswer.bind fun _ _ => blameless_ok _

include hg

/-- What a module imports is found: it is one of its imports, and has a request. -/
theorem linksBlameless_importedSlot {m : SourceModule} (hm : m ∈ g.modules)
    {entry : Nat × ImportSpecifier} (hentry : entry ∈ m.importSpecifiers) :
    LinksBlameless g (importedSlot g m entry.2.localName) := by
  have hm' := hindexed.modules m hm
  have himport := (hg.modules m hm).importOf_eq hentry
  obtain ⟨decl, hdecl, hrequest, -⟩ := SourceModule.mem_importSpecifiers.mp hentry
  have hlt := hm'.importRequests decl hdecl
  rw [← hrequest] at hlt
  obtain ⟨target, htarget, hkey⟩ := hm'.requestTarget hlt entry.2.imported
  refine linksBlameless_liftBind (himport ▸ blameless_ok entry) fun a ha => ?_
  obtain rfl : entry = a := Except.ok.inj (himport.symm.trans ha)
  refine linksBlameless_liftBind (htarget ▸ blameless_ok target) fun b hb => ?_
  obtain rfl : target = b := Except.ok.inj (htarget.symm.trans hb)
  cases target with
  | inl slot => exact linksBlameless_pure slot
  | inr key =>
    have hlt := hkey key rfl
    refine (linksBlameless_exportedSlot hindexed hlt).bind (links_exportedSlot hg key)
      fun slot _ cache _ => ?_
    exact (blameless_orMissing hlt entry.2.span slot).bind fun _ _ => blameless_ok _

theorem linksBlameless_linkImports {m : SourceModule} (hm : m ∈ g.modules) :
    LinksBlameless g (linkImports g m) := by
  refine linksBlameless_mapM (fun entry hentry => ?_)
    (show ∀ entry ∈ m.importSpecifiers, Links g _ fun _ => True from fun entry _ => ?_)
  · refine (linksBlameless_importedSlot hg hindexed hm hentry).bind
      (links_importedSlot hg hm _) fun slot _ => ?_
    obtain ⟨binding, hbinding⟩ := (hindexed.modules m hm).imported entry hentry
    rw [hbinding]
    exact linksBlameless_pure _
  · refine (links_importedSlot hg hm _).bind fun slot _ => ?_
    split
    · exact links_pure trivial
    · intro _ _ _ _ h
      cases h

theorem linksBlameless_resolvedExports {index : Nat} (hindex : index < g.size) :
    LinksBlameless g (resolvedExports g index) := by
  have hslots : ∀ name ∈ exportNames g index, LinksBlameless g (do
      let slot ← exportedSlot g (index, name)
      pure (slot.map fun slot => (name, slot))) := by
    intro name _
    have hslot := @linksBlameless_exportedSlot g hindexed (index, name) hindex
    exact hslot.bind (links_exportedSlot hg _) fun _ _ => linksBlameless_pure _
  have hlinks : ∀ name ∈ exportNames g index, Links g (do
      let slot ← exportedSlot g (index, name)
      pure (slot.map fun slot => (name, slot))) fun _ => True := fun name _ =>
    (links_exportedSlot hg _).bind fun _ _ => links_pure trivial
  exact (linksBlameless_mapM hslots hlinks).bind (links_mapM_all hlinks)
    fun _ _ => linksBlameless_pure _

theorem linksBlameless_linkNamespaces {count : Nat} {pending : List Nat}
    {done : List (Nat × ExportList)} (h : NamespacesLinked g pending done) :
    LinksBlameless g (linkNamespaces g count pending done) := by
  induction count generalizing pending done with
  | zero => exact linksBlameless_pure _
  | succ count ih =>
    unfold linkNamespaces
    split
    · exact linksBlameless_pure _
    · rename_i index rest hpending
      have hindex : index < g.size :=
        h.bound index (List.mem_append_left _ (pending_cases hpending).1)
      refine (linksBlameless_resolvedExports hg hindexed hindex).bind
        (links_resolvedExports hg index) fun exports hexports => ?_
      exact ih (h.step hpending fun e he => hexports e (List.mem_mergeSort.mp he))

/-- Linking the modules of a graph ends in no internal error. -/
theorem linksBlameless_linkModules : LinksBlameless g (linkModules g) := by
  have hisOf : ∀ m ∈ g.modules.toList,
      Links g (linkImports g m) fun entries => ∀ entry ∈ entries, entry.2.IsOf g := by
    refine fun m hm => (links_linkImports hg (Array.mem_toList_iff.mp hm)).mono ?_
    exact fun entries hall entry hentry => (hall entry hentry).1
  have hblameless : ∀ m ∈ g.modules.toList, LinksBlameless g (linkImports g m) := fun m hm =>
    linksBlameless_linkImports hg hindexed (Array.mem_toList_iff.mp hm)
  refine (linksBlameless_mapM hblameless hisOf).bind (links_mapM_all hisOf)
    fun imports himports => ?_
  refine (linksBlameless_resolvedExports hg hindexed hindexed.entry).bind
    (links_resolvedExports hg 0) fun entryExports hentry => ?_
  have hstart := namespaceRoots_linked hg himports hentry
  refine (linksBlameless_linkNamespaces hg hindexed hstart).bind
    (links_linkNamespaces hg hstart (Nat.lt_succ_self _)) fun _ _ => linksBlameless_pure _

end

theorem blameless_checkExports (g : ModuleGraph) : Blameless g.checkExports := by
  unfold ModuleGraph.checkExports
  induction g.modules.toList with
  | nil => exact blameless_ok ()
  | cons m rest ih =>
    refine Blameless.bind ?_ fun _ _ => ih
    dsimp only
    split
    · exact blameless_error (fun h => nomatch h)
    · exact blameless_ok ()

/-- **Linking finds all that it looks up.** -/
theorem link_blameless (hg : g.WellFormed) (hindexed : g.Indexed) : Blameless (link g) := by
  refine (blameless_checkExports g).bind fun _ _ => ?_
  have hempty : CacheIsOf g [] := fun _ _ h => nomatch h
  exact (linksBlameless_linkModules hg hindexed [] hempty).bind fun _ _ => blameless_ok _

/-- A graph that is linked has its bundle written, with a name for all that is in it. -/
theorem emit_gives (hg : g.WellFormed) {l : Linkage} (hl : l.WellFormed g) (dropUnused : Bool) :
    Gives (emit g l (shake g l dropUnused) (assignNames g l (shake g l dropUnused)))
      fun _ => True := by
  obtain ⟨output, -, hemit⟩ := givesWith_emit (fun slot h => Written.named hg hl h) hg
  exact ⟨output, hemit _ ⟨fun _ _ => rfl, rfl⟩, trivial⟩

/-- **A graph without a dead index is compiled without an internal error.** -/
theorem compileGraph_blameless (hg : g.WellFormed) (hindexed : g.Indexed)
    (options : CompileOptions) : Blameless (compileGraph options g) := by
  refine (link_blameless hg hindexed).bind fun l hlink => ?_
  have hl := link_wellFormed hg hlink
  exact (emit_gives hg hl options.dropUnused).blameless.bind fun _ _ => blameless_ok _

/-! ## Discoveries -/

section
variable {provider : ModuleProvider} {cancelled : List ModuleId → Bool}

/-- Nothing that the provider loads breaks down. -/
def ModuleProvider.Returns (provider : ModuleProvider) : Prop :=
  ∀ id message, provider.load id ≠ .crashed message

/-- What was loaded is no break-down, and no internal error. -/
def Loaded.Sound (loaded : Loaded CompileError) : Prop :=
  loaded.crash? = none ∧ ∀ e, loaded = .failed e → e.cause.kind ≠ .internal

theorem ModuleProvider.Returns.loaded (h : provider.Returns) (id : ModuleId) :
    (provider.loaded id).Sound := by
  unfold ModuleProvider.loaded
  cases hload : provider.load id with
  | text text => exact ⟨rfl, fun _ h => nomatch h⟩
  | failed error =>
    refine ⟨rfl, fun e he => ?_⟩
    cases he
    exact fun h => nomatch h
  | crashed message => exact absurd hload (h id message)

theorem blameless_dependenciesOf {importer : ModuleId} {source : String} {known : List ModuleId}
    {requests : List ModuleRequest} :
    Blameless (dependenciesOf provider importer source known requests) := by
  induction requests generalizing known with
  | nil => exact blameless_ok _
  | cons request rest ih =>
    rw [dependenciesOf]
    split
    · rename_i e _
      refine blameless_error ?_
      cases e with
      | invalidUrl | crossOrigin =>
        intro h
        cases h
    · exact ih.bind fun _ _ => blameless_ok _

theorem Discovery.blameless_add {d : Discovery} {entry : LoadedModule} (h : entry.2.Sound) :
    Blameless (d.add provider entry) := by
  obtain ⟨id, loaded⟩ := entry
  cases loaded with
  | failed e => exact blameless_error (h.2 e rfl)
  | crashed message => cases h.1
  | text source =>
    unfold Discovery.add
    dsimp only
    split
    · exact blameless_error (fun h => nomatch h)
    · refine blameless_dependenciesOf.bind fun _ _ => ?_
      exact blameless_dependenciesOf.bind fun _ _ => blameless_ok _

theorem Discovery.blameless_addAll {d : Discovery} {entries : List LoadedModule}
    (h : ∀ entry ∈ entries, entry.2.Sound) : Blameless (d.addAll provider entries) := by
  have hnone : (entries.findSome? fun entry => entry.2.crash?) = none :=
    List.findSome?_eq_none_iff.mpr fun entry hentry => (h entry hentry).1
  unfold Discovery.addAll
  rw [hnone]
  exact blameless_foldlM (fun _ entry hentry => Discovery.blameless_add (h entry hentry)) d

theorem Discovery.run_blameless (hreturns : provider.Returns) {rounds : Nat}
    {loads : List ModuleId} {d : Discovery} {logged : Logged ModuleGraph}
    (h : d.run provider cancelled rounds loads = some logged) : Blameless logged.result := by
  induction rounds generalizing loads d with
  | zero => cases h
  | succ rounds ih =>
    rw [Discovery.run] at h
    split at h
    · cases h
      exact blameless_ok _
    split at h
    · cases h
      refine blameless_error fun h => ?_
      cases h
    dsimp only at h
    have hsound : ∀ entry ∈ (loadFrontier provider cancelled loads d.frontier).1,
        entry.2.Sound := by
      intro entry hentry
      rcases (loadFrontier_spec loads d.frontier).2.2 entry hentry with hfailed | ⟨hloaded, -⟩
      · rw [hfailed]
        refine ⟨rfl, fun e he h => ?_⟩
        cases he
        cases h
      · rw [hloaded]
        exact hreturns.loaded entry.1
    split at h
    · rename_i e hadd
      cases h
      exact blameless_error (Discovery.blameless_addAll hsound e hadd)
    · exact ih h

/-- **Discoveries end in no internal error.** -/
theorem discover_blameless (hreturns : provider.Returns) {rounds : Nat}
    {logged : Logged ModuleGraph} (h : discover provider cancelled rounds = some logged) :
    Blameless logged.result :=
  Discovery.run_blameless hreturns h

end

/-! ## Compilations -/

section
variable {site : Site}

theorem Site.returns (h : ∀ url message, site.fetch url ≠ .crashed message) :
    site.provider.Returns := by
  intro id message hload
  change site.load id = .crashed message at hload
  unfold Site.load at hload
  split at hload
  · rename_i url
    split at hload
    · cases hload
    · cases hload
    · rename_i heq
      exact h url _ heq
  · split at hload
    · cases hload
    · cases hload

/-- The modules that have a text are the files of the site and those of the network. -/
theorem Site.textsAmong {urls : List Url}
    (h : ∀ url text, site.fetch url = .text text → url ∈ urls) :
    site.provider.TextsAmong (site.files.paths.map .file ++ urls.map .remote) := by
  intro id text hload
  change site.load id = .text text at hload
  rw [List.mem_append, List.mem_map, List.mem_map]
  unfold Site.load at hload
  split at hload
  · rename_i url
    split at hload
    · rename_i heq
      exact .inr ⟨url, h url _ heq, rfl⟩
    · cases hload
    · cases hload
  · rename_i path
    split at hload
    · rename_i heq
      exact .inl ⟨path, List.mem_map_of_mem (mem_of_lookup_eq_some heq), rfl⟩
    · cases hload

end

/-- **No compilation ends in an internal error.** Let a fetch of the network never break down. Then
what comes of a compilation is a bundle or an error of another kind, and something comes of it
unless there is no end to what the network has. All places and indices in the graph, its linkage and
its needs lead to something, and its bundle is written. The line of an offset is one of the text,
and begins at a place at or before it. A token goes from one place of its text to another, and where
the reading of a string or template looks closer is one of the characters that it looks for. -/
theorem compile_never_internal (site : Site)
    (hreturns : ∀ url message, site.fetch url ≠ .crashed message) :
    (∀ options cancelled rounds logged,
      compile site.provider options cancelled rounds = some logged →
        ∀ e, logged.result = .error e → e.diagnostic.kind ≠ .internal) ∧
    (∀ urls : List Url, (∀ url text, site.fetch url = .text text → url ∈ urls) →
      ∀ options cancelled rounds, site.files.size + urls.length < rounds →
        ∃ logged, compile site.provider options cancelled rounds = some logged) ∧
    (∀ cancelled rounds loads g, discover site.provider cancelled rounds = some ⟨loads, .ok g⟩ →
      g.Indexed ∧ ∀ l, link g = .ok l → l.Indexed g ∧ ∀ dropUnused,
        (∀ need ∈ (shake g l dropUnused).all, need.IsOf g) ∧
        ∃ output, emit g l (shake g l dropUnused) (assignNames g l (shake g l dropUnused)) =
          .ok output) ∧
    (∀ text offset, ((LineIndex.ofString text).place offset).line <
        (LineIndex.ofString text).lineCount ∧
      (LineIndex.ofString text).lineStart ((LineIndex.ofString text).place offset).line ≤ offset ∧
      IsPlace text ((LineIndex.ofString text).lineStart
        ((LineIndex.ofString text).place offset).line)) ∧
    (∀ text place mode, (Cursor.ofString text).Leads place →
      (nextToken mode place).1.span.IsOf text) ∧
    (∀ quote (place : Cursor), ∃ stop, stop = place.skipWhile (plainInString quote) ∧
      scanString quote place.offset place.rest = scanString quote stop.offset stop.rest ∧
      ∀ c, stop.rest.head? = some c → c = '\\' ∨ c = '\n' ∨ c = quote) ∧
    ∀ place : Cursor, ∃ stop, stop = place.skipWhile plainInTemplate ∧
      scanTemplate place.offset place.rest = scanTemplate stop.offset stop.rest ∧
      ∀ c, stop.rest.head? = some c → c = '\\' ∨ c = '\x60' ∨ c = '$' := by
  refine ⟨?_, ?_, ?_, LineIndex.place_spec, ?_, fun quote place => ?_, fun place => ?_⟩
  · intro options cancelled rounds logged h
    obtain ⟨discovered, hdiscovered, rfl⟩ := Option.map_eq_some_iff.mp h
    refine (discover_blameless (Site.returns hreturns) hdiscovered).bind fun g hg => ?_
    obtain ⟨loads, result⟩ := discovered
    obtain rfl : result = .ok g := hg
    dsimp only
    split
    · exact blameless_error (fun h => nomatch h)
    · have hg := discover_wellFormed hdiscovered
      exact compileGraph_blameless hg (discover_indexed hdiscovered) options
  · intro urls hurls options cancelled rounds hrounds
    have hlength : (site.files.paths.map ModuleId.file ++ urls.map ModuleId.remote).length <
        rounds := by
      simpa [FileSet.paths, FileSet.size] using hrounds
    obtain ⟨logged, h⟩ := @discover_ends _ cancelled _ (Site.textsAmong hurls) _ hlength
    exact ⟨_, Option.map_eq_some_iff.mpr ⟨logged, h, rfl⟩⟩
  · intro cancelled rounds loads g h
    have hg := discover_wellFormed h
    refine ⟨discover_indexed h, fun l hlink => ⟨link_indexed hg hlink, fun dropUnused => ?_⟩⟩
    have hl := link_wellFormed hg hlink
    obtain ⟨output, houtput, -⟩ := emit_gives hg hl dropUnused
    exact ⟨shake_isOf hg hl dropUnused, output, houtput⟩
  · intro text place mode hplace
    obtain ⟨hafter, hspan⟩ := nextToken_span mode place
    exact ⟨_, _, _, hplace.trans (leads_tokenStartIn mode place), hafter, .refl _, hspan⟩
  · refine ⟨_, rfl, scanString_skipWhile quote place, fun c hc => ?_⟩
    have hplain := Cursor.head_skipWhile _ _ hc
    simpa [plainInString, ← or_iff_not_imp_left] using hplain
  · refine ⟨_, rfl, scanTemplate_skipWhile place, fun c hc => ?_⟩
    have hplain := Cursor.head_skipWhile _ _ hc
    simpa [plainInTemplate, ← or_iff_not_imp_left] using hplain

/-- Two files that export a name from each other, on a network that answers nothing. -/
def circularSite : Site where
  files := .ofList [
    ("/index.js", "export * from \"./a.js\";\nexport { x as y } from \"./a.js\";\n"),
    ("/a.js", "export { y as x } from \"./index.js\";\n")]
  origin := none
  fetch := offline

/-- Something comes of compiling the two files, and that is no internal error. -/
theorem circularSite_compiles :
    (∀ url message, circularSite.fetch url ≠ .crashed message) ∧
    ∃ logged, compile circularSite.provider .default (fun _ => false) 3 = some logged ∧
      ∀ e, logged.result = .error e → e.diagnostic.kind ≠ .internal := by
  have hreturns : ∀ url message, circularSite.fetch url ≠ .crashed message := by
    intro url message h
    cases h
  obtain ⟨hkind, hends, -⟩ := compile_never_internal circularSite hreturns
  have hurls : ∀ url text, circularSite.fetch url = .text text → url ∈ ([] : List Url) :=
    fun _ _ h => nomatch h
  have hsize : circularSite.files.size + ([] : List Url).length < 3 := by decide +kernel
  obtain ⟨logged, h⟩ := hends [] hurls .default (fun _ => false) 3 hsize
  exact ⟨hreturns, logged, h, hkind _ _ _ _ h⟩

end ModuleBundler
