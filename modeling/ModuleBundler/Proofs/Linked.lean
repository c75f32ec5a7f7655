import Mathlib.Data.List.TakeWhile
import ModuleBundler.Link.Linkage
import ModuleBundler.Proofs.Discovered
import ModuleBundler.Proofs.ExportLookup

/-!
# What links lead to

* `Slot.IsOf` : a slot that a graph can have: a variable that a module declares, the exports of a
  module of the graph, or something from outside;
* `resolveExport_isOf` : exports stand for such slots;
* `Linkage.WellFormed` : imports and exports stand for such slots, and there is an entry for every
  module of which one of them, or a dynamic import, gives the exports as an object;
* `link_wellFormed` : linking a well-formed graph gives that;
* `exists_linked_of_any` : what is linked of a graph that is discovered, from a check of it.
-/

namespace ModuleBundler

/-- A variable that a module declares and does not import. -/
def SourceModule.Declares (m : SourceModule) (binding : BindingId) : Prop :=
  m.record.scopes.isModuleBinding binding = true ∧
    m.record.scopes.bindingKind? binding ≠ some .imported

/-- A slot that a graph can have. -/
def Slot.IsOf (g : ModuleGraph) : Slot → Prop
  | .declared module binding => ∃ m, g.modules[module]? = some m ∧ m.Declares binding
  | .namespaceOf module => module < g.size
  | .external .. => True

/-! ## Exports -/

theorem requestTarget_isOf {g : ModuleGraph} {m : SourceModule} (hm : m.WellFormed g.size)
    {request : Nat} {imported : Imported} {slot : Slot}
    (h : m.requestTarget request imported = .ok (.inl slot)) : slot.IsOf g := by
  unfold SourceModule.requestTarget at h
  split at h
  · cases h
  · cases h
    trivial
  · rename_i specifier target heq
    cases h
    refine hm.requests target ?_
    obtain ⟨entry, hentry, heq⟩ := Option.bind_eq_some_iff.mp heq
    obtain ⟨dependency, hdependency, heq⟩ := Option.bind_eq_some_iff.mp heq
    cases heq
    exact List.mem_of_getElem? hdependency
  · cases h

variable {g : ModuleGraph}

/-- The answers of a lookup are slots that the graph can have. -/
def LookupIsOf (g : ModuleGraph) (lookup : ExportLookup) : Prop :=
  ∀ visiting key slot, lookup visiting key = .ok (some slot) → slot.IsOf g

theorem requestStep_isOf {m : SourceModule} (hm : m.WellFormed g.size)
    {request : Nat} {imported : Imported} {span : Span} {slot : Slot}
    (h : m.requestStep request imported span = .settled (.ok (some slot))) : slot.IsOf g := by
  unfold SourceModule.requestStep at h
  split at h
  · cases h
  · rename_i heq
    cases h
    exact requestTarget_isOf hm heq
  · cases h

theorem exportStep_isOf (hg : g.WellFormed) {key : ExportKey} {slot : Slot}
    (h : exportStep g key = .settled (.ok (some slot))) : slot.IsOf g := by
  unfold exportStep at h
  split at h
  · cases h
  · rename_i m hm
    have hwell := hg.modules m (Array.mem_of_getElem? hm)
    split at h
    · unfold SourceModule.ownStep at h
      split at h
      · exact requestStep_isOf hwell h
      · split at h
        · cases h
        · rename_i binding hbinding
          split at h
          · split at h
            · cases h
            · exact requestStep_isOf hwell h
          · rename_i hkind
            cases h
            exact ⟨m, hm, hwell.bound.isModuleBinding _ _ hbinding, hkind⟩
    · split at h
      · cases h
      · cases h

/-- What is taken over is something from outside or an answer of the lookup. -/
theorem resolveStars_isOf {lookup : ExportLookup} (hlookup : LookupIsOf g lookup)
    {visiting : List ExportKey} {name : String} {outside : Option Slot}
    {entries : List (String × Dependency)} {slot : Slot}
    (houtside : ∀ other, outside = some other → other.IsOf g)
    (h : resolveStars lookup visiting name outside entries = .ok (some slot)) : slot.IsOf g := by
  induction entries generalizing outside with
  | nil =>
    cases h
    exact houtside slot rfl
  | cons entry rest ih =>
    obtain ⟨specifier, target | _⟩ := entry
    · rw [resolveStars] at h
      split at h
      · exact ih houtside h
      · obtain ⟨found, hfound, h⟩ := bind_eq_ok.mp h
        cases found with
        | some other =>
          cases h
          exact hlookup _ _ _ hfound
        | none => exact ih houtside h
    · rw [resolveStars] at h
      refine ih (fun other hother => ?_) h
      cases outside with
      | some _ => exact houtside other hother
      | none =>
        cases hother
        trivial

/-- Exports stand for slots that the graph can have. -/
theorem resolveExport_isOf (hg : g.WellFormed) {cache : ExportCache}
    (hcache : ∀ key slot, cache.lookup key = some (some slot) → slot.IsOf g) (depth : Nat) :
    LookupIsOf g (resolveExport g cache depth) := by
  induction depth with
  | zero => exact fun _ _ _ h => nomatch h
  | succ depth ih =>
    intro visiting key slot h
    rw [resolveExport_succ] at h
    split at h
    · rename_i heq
      cases h
      exact hcache key slot heq
    · cases hstep : exportStep g key with
      | settled answer =>
        rw [hstep] at h
        subst h
        exact exportStep_isOf hg hstep
      | forward m next span =>
        rw [hstep] at h
        change (if next ∈ key :: visiting then _ else _) = _ at h
        split at h
        · cases h
        · obtain ⟨found, hfound, h⟩ := bind_eq_ok.mp h
          obtain ⟨slot', hslot', heq⟩ := map_eq_ok.mp h
          cases heq
          exact ih _ _ _ (orMissing_eq_ok.mp hslot' ▸ hfound)
      | stars entries =>
        rw [hstep] at h
        have hnone : ∀ other, (none : Option Slot) = some other → other.IsOf g :=
          fun _ h => nomatch h
        exact resolveStars_isOf ih hnone h

/-! ## Linking -/

/-- The answers so far are slots that the graph can have. -/
def CacheIsOf (g : ModuleGraph) (cache : ExportCache) : Prop :=
  ∀ key slot, cache.lookup key = some (some slot) → slot.IsOf g

/-- What the work gives has the property, and the answers that it keeps are slots of the graph. -/
def Links (g : ModuleGraph) {α : Type} (work : Linking α) (property : α → Prop) : Prop :=
  ∀ ⦃cache a cache'⦄, CacheIsOf g cache → work cache = .ok (a, cache') →
    CacheIsOf g cache' ∧ property a

variable {α β : Type}

theorem Links.bind {work : Linking α} {next : α → Linking β} {first : α → Prop}
    {property : β → Prop} (hwork : Links g work first)
    (hnext : ∀ a, first a → Links g (next a) property) : Links g (work >>= next) property :=
  Maintains.bind hwork hnext

theorem Links.mono {work : Linking α} {first property : α → Prop} (hwork : Links g work first)
    (h : ∀ a, first a → property a) : Links g work property :=
  Maintains.mono hwork h

theorem links_pure {a : α} {property : α → Prop} (h : property a) :
    Links g (pure a : Linking α) property :=
  maintains_pure h

theorem links_liftM {work : Except CompileError α} {property : α → Prop}
    (h : ∀ a, work = .ok a → property a) : Links g (liftM work : Linking α) property :=
  maintains_liftM h

theorem links_liftBind {work : Except CompileError α} {next : α → Linking β} {property : β → Prop}
    (h : ∀ a, work = .ok a → Links g (next a) property) :
    Links g (liftM work >>= next) property :=
  maintains_liftBind h

theorem links_mapM {work : α → Linking β} {property : α → β → Prop} {as : List α}
    (h : ∀ a ∈ as, Links g (work a) (property a)) :
    Links g (as.mapM work) (List.Forall₂ property as) :=
  maintains_mapM h

theorem links_mapM_all {work : α → Linking β} {property : β → Prop} {as : List α}
    (h : ∀ a ∈ as, Links g (work a) property) :
    Links g (as.mapM work) fun bs => ∀ b ∈ bs, property b :=
  maintains_mapM_all h

theorem links_exportedSlot (hg : g.WellFormed) (key : ExportKey) :
    Links g (exportedSlot g key) fun found => ∀ slot, found = some slot → slot.IsOf g := by
  intro cache found cache' hcache h
  change (exportedSlot g key).run cache = _ at h
  rw [exportedSlot_run] at h
  obtain ⟨answer, hanswer, heq⟩ := map_eq_ok.mp h
  cases heq
  have hslot : ∀ slot, found = some slot → slot.IsOf g := fun slot hfound =>
    resolveExport_isOf hg hcache _ _ _ _ (hfound ▸ hanswer)
  refine ⟨?_, hslot⟩
  split
  · exact hcache
  · intro other slot hother
    rw [List.lookup_cons] at hother
    split at hother
    · cases hother
      exact hslot slot rfl
    · exact hcache other slot hother

/-- What a module imports under a name is a slot of the graph. -/
theorem links_importedSlot (hg : g.WellFormed) {m : SourceModule} (hm : m ∈ g.modules)
    (name : String) : Links g (importedSlot g m name) (Slot.IsOf g) := by
  refine links_liftBind fun (request, s) _ => links_liftBind fun target htarget => ?_
  cases target with
  | inl slot => exact links_pure (requestTarget_isOf (hg.modules m hm) htarget)
  | inr key =>
    refine (links_exportedSlot hg key).bind fun found hfound => links_liftM fun slot hslot => ?_
    exact hfound slot (orMissing_eq_ok.mp hslot)

/-- A variable that a module imports, with the slot that it stands for. -/
def ImportLinked (g : ModuleGraph) (m : SourceModule) (entry : BindingId × Slot) : Prop :=
  entry.2.IsOf g ∧ ∃ s ∈ m.importSpecifiers,
    m.record.scopes.moduleBinding? s.2.localName = some entry.1

theorem links_linkImports (hg : g.WellFormed) {m : SourceModule} (hm : m ∈ g.modules) :
    Links g (linkImports g m) fun entries => ∀ entry ∈ entries, ImportLinked g m entry := by
  refine links_mapM_all fun s hs => (links_importedSlot hg hm _).bind fun slot hslot => ?_
  split
  · rename_i binding hbinding
    exact links_pure ⟨hslot, s, hs, hbinding⟩
  · exact fun _ _ _ _ h => nomatch h

/-- The exports of a module are slots of the graph. -/
theorem links_resolvedExports (hg : g.WellFormed) (index : Nat) :
    Links g (resolvedExports g index) fun exports => ∀ e ∈ exports, e.2.IsOf g := by
  have hslots : ∀ name ∈ exportNames g index, Links g (do
      let slot ← exportedSlot g (index, name)
      pure (slot.map fun slot => (name, slot))) fun found => ∀ e, found = some e → e.2.IsOf g := by
    refine fun name _ => (links_exportedSlot hg (index, name)).bind fun found hfound => ?_
    refine links_pure fun e he => ?_
    obtain ⟨slot, hslot, rfl⟩ := Option.map_eq_some_iff.mp he
    exact hfound slot hslot
  refine (links_mapM_all hslots).bind fun slots hall => links_pure fun e he => ?_
  obtain ⟨found, hfound, heq⟩ := List.mem_filterMap.mp he
  exact hall found hfound e heq

/-! ## Namespaces -/

theorem isSome_lookup_iff [DecidableEq α] {entries : List (α × β)} {key : α} :
    (entries.lookup key).isSome = true ↔ key ∈ entries.map Prod.fst := by
  rw [List.lookup_isSome_iff, List.mem_map]
  refine exists_congr fun entry => and_congr_right fun _ => ?_
  rw [beq_iff_eq]
  exact eq_comm

/-- What pending entries are left of after those in front that are done. -/
theorem pending_cases {pending rest : List Nat} {done : List (Nat × β)} {index : Nat}
    (h : (pending.reverse.dropWhile fun i => (done.lookup i).isSome) = index :: rest) :
    index ∈ pending ∧ (∀ i ∈ rest, i ∈ pending) ∧ index ∉ done.map Prod.fst ∧
      ∀ i ∈ pending, i ∈ done.map Prod.fst ∨ i = index ∨ i ∈ rest := by
  have hsub : ∀ i ∈ index :: rest, i ∈ pending := fun i hi =>
    List.mem_reverse.mp (List.dropWhile_subset _ (h ▸ hi))
  obtain ⟨hindex, hrest⟩ := List.forall_mem_cons.mp hsub
  refine ⟨hindex, hrest, fun hdone => ?_, fun i hi => ?_⟩
  · have hnot := List.head?_dropWhile_not (fun i => (done.lookup i).isSome) pending.reverse
    rw [h] at hnot
    have hsome := isSome_lookup_iff.mpr hdone
    rw [hnot] at hsome
    cases hsome
  · have hi := List.mem_reverse.mpr hi
    rw [← List.takeWhile_append_dropWhile (p := fun i => (done.lookup i).isSome)
      (l := pending.reverse), h, List.mem_append, List.mem_cons] at hi
    refine hi.imp_left fun htake => ?_
    have hsome := List.mem_takeWhile_imp htake
    exact isSome_lookup_iff.mp hsome

/-- The modules whose exports are linked and those that are pending. -/
structure NamespacesLinked (g : ModuleGraph) (pending : List Nat)
    (done : List (Nat × ExportList)) : Prop where
  nodup : (done.map Prod.fst).Nodup
  bound : ∀ i ∈ pending ++ done.map Prod.fst, i < g.size
  isOf : ∀ entry ∈ done, ∀ e ∈ entry.2, e.2.IsOf g
  closed : ∀ entry ∈ done, ∀ i ∈ namespaceModules entry.2, i ∈ pending ++ done.map Prod.fst

theorem mem_namespaceModules {exports : ExportList} {index : Nat} :
    index ∈ namespaceModules exports ↔ ∃ e ∈ exports, e.2 = .namespaceOf index := by
  unfold namespaceModules
  rw [List.mem_filterMap]
  refine exists_congr fun e => and_congr_right fun _ => ?_
  cases h : e.2 with
  | namespaceOf module => simp [Slot.namespaceModule?]
  | declared | external => simp [Slot.namespaceModule?]

/-- No more modules are done than there are. -/
theorem NamespacesLinked.length_le {pending : List Nat} {done : List (Nat × ExportList)}
    (h : NamespacesLinked g pending done) : done.length ≤ g.size := by
  have hsub : done.map Prod.fst ⊆ List.range g.size := fun i hi =>
    List.mem_range.mpr (h.bound i (List.mem_append_right _ hi))
  have hle := (List.subperm_of_subset h.nodup hsub).length_le
  rwa [List.length_map, List.length_range] at hle

/-- What is pending or done stays so when the exports of one more module are linked. -/
theorem mem_of_pending {pending rest : List Nat} {done : List (Nat × ExportList)} {index : Nat}
    (hpending : (pending.reverse.dropWhile fun i => (done.lookup i).isSome) = index :: rest)
    (exports : ExportList) : ∀ i ∈ pending ++ done.map Prod.fst,
      i ∈ rest.reverse ++ namespaceModules exports ++ ((index, exports) :: done).map Prod.fst := by
  intro i hi
  obtain ⟨-, -, -, hcases⟩ := pending_cases hpending
  simp only [List.mem_append, List.mem_reverse, List.map_cons, List.mem_cons]
  rcases List.mem_append.mp hi with hi | hi
  · rcases hcases i hi with hdone | rfl | hrest
    · exact .inr (.inr hdone)
    · exact .inr (.inl rfl)
    · exact .inl (.inl hrest)
  · exact .inr (.inr hi)

/-- The exports of one more module are linked. -/
theorem NamespacesLinked.step {pending rest : List Nat} {done : List (Nat × ExportList)}
    {index : Nat} {exports : ExportList} (h : NamespacesLinked g pending done)
    (hpending : (pending.reverse.dropWhile fun i => (done.lookup i).isSome) = index :: rest)
    (hexports : ∀ e ∈ exports, e.2.IsOf g) :
    NamespacesLinked g (rest.reverse ++ namespaceModules exports) ((index, exports) :: done) := by
  obtain ⟨hindex, hrest, hnew, -⟩ := pending_cases hpending
  refine ⟨List.nodup_cons.mpr ⟨hnew, h.nodup⟩, fun i hi => ?_, ?_, ?_⟩
  · simp only [List.mem_append, List.mem_reverse, List.map_cons, List.mem_cons] at hi
    rcases hi with (hi | hi) | rfl | hi
    · exact h.bound i (List.mem_append_left _ (hrest i hi))
    · obtain ⟨e, he, heq⟩ := mem_namespaceModules.mp hi
      have hof := hexports e he
      rwa [heq] at hof
    · exact h.bound _ (List.mem_append_left _ hindex)
    · exact h.bound i (List.mem_append_right _ hi)
  · exact List.forall_mem_cons.mpr ⟨hexports, h.isOf⟩
  · refine List.forall_mem_cons.mpr ⟨fun i hi => ?_, fun entry hentry i hi => ?_⟩
    · exact List.mem_append_left _ (List.mem_append_right _ hi)
    · exact mem_of_pending hpending exports i (h.closed entry hentry i hi)

/-- All that pending modules lead to is linked in the end. Every round links a module that was not
linked before, so that there are more rounds than modules. -/
theorem links_linkNamespaces (hg : g.WellFormed) {count : Nat} {pending : List Nat}
    {done : List (Nat × ExportList)} (h : NamespacesLinked g pending done)
    (hcount : g.size < count + done.length) :
    Links g (linkNamespaces g count pending done) fun result => NamespacesLinked g [] result ∧
      ∀ i ∈ pending ++ done.map Prod.fst, i ∈ result.map Prod.fst := by
  induction count generalizing pending done with
  | zero =>
    have := h.length_le
    omega
  | succ count ih =>
    unfold linkNamespaces
    split
    · rename_i hempty
      have hdone : ∀ i ∈ pending ++ done.map Prod.fst, i ∈ done.map Prod.fst := by
        intro i hi
        rcases List.mem_append.mp hi with hi | hi
        · have hall := List.dropWhile_eq_nil_iff.mp hempty i (List.mem_reverse.mpr hi)
          exact isSome_lookup_iff.mp hall
        · exact hi
      refine links_pure ⟨⟨h.nodup, fun i hi => ?_, h.isOf, fun entry hentry i hi => ?_⟩, hdone⟩
      · exact h.bound i (List.mem_append_right _ hi)
      · exact hdone i (h.closed entry hentry i hi)
    · rename_i index rest hpending
      refine (links_resolvedExports hg index).bind fun exports hexports => ?_
      have hsorted : ∀ e ∈ sortExports exports, e.2.IsOf g := fun e he =>
        hexports e (List.mem_mergeSort.mp he)
      have hlength : g.size < count + ((index, sortExports exports) :: done).length := by
        rw [List.length_cons]
        omega
      refine (ih (h.step hpending hsorted) hlength).mono fun result hresult => ⟨hresult.1, ?_⟩
      exact fun i hi => hresult.2 i (mem_of_pending hpending _ i hi)

/-! ## Linkages -/

/-- A slot that the graph can have, with an object if it is the exports of a module. -/
def Linkage.Has (l : Linkage) (g : ModuleGraph) (slot : Slot) : Prop :=
  slot.IsOf g ∧ ∀ index, slot = .namespaceOf index → index ∈ l.namespaces.map Prod.fst

/-- What imports and exports stand for, the graph can have. For every module of which something
gives the exports as an object there is an entry, and only one. -/
structure Linkage.WellFormed (l : Linkage) (g : ModuleGraph) : Prop where
  imports : ∀ (index : Nat) m imports, g.modules[index]? = some m →
    l.imports[index]? = some imports → ∀ entry ∈ imports, l.Has g entry.2 ∧
      ∃ s ∈ m.importSpecifiers, m.record.scopes.moduleBinding? s.2.localName = some entry.1
  dynamicImports : ∀ m ∈ g.modules, ∀ index, .module index ∈ m.dynamicImports →
    index ∈ l.namespaces.map Prod.fst
  entryExports : ∀ e ∈ l.entryExports, l.Has g e.2
  namespaces : ∀ entry ∈ l.namespaces, ∀ e ∈ entry.2, l.Has g e.2
  bound : ∀ index ∈ l.namespaces.map Prod.fst, index < g.size
  nodup : (l.namespaces.map Prod.fst).Nodup

theorem namespaceModule?_eq_some {slot : Slot} {index : Nat} :
    slot.namespaceModule? = some index ↔ slot = .namespaceOf index := by
  cases slot with
  | namespaceOf module => simp [Slot.namespaceModule?]
  | declared | external => simp [Slot.namespaceModule?]

/-- The modules of which something gives the exports as an object in the first place. -/
def namespaceRoots (g : ModuleGraph) (imports : List (List (BindingId × Slot)))
    (entryExports : ExportList) : List Nat :=
  (imports.flatMap fun slots => slots.filterMap fun e => e.2.namespaceModule?) ++
    (g.modules.toList.flatMap fun m => m.dynamicImports.filterMap Dependency.module?) ++
    namespaceModules entryExports

theorem mem_namespaceRoots {imports : List (List (BindingId × Slot))} {entryExports : ExportList}
    {index : Nat} : index ∈ namespaceRoots g imports entryExports ↔
      (∃ slots ∈ imports, ∃ e ∈ slots, e.2 = .namespaceOf index) ∨
        (∃ m ∈ g.modules, .module index ∈ m.dynamicImports) ∨
        ∃ e ∈ entryExports, e.2 = .namespaceOf index := by
  have hmodule : ∀ dependency : Dependency,
      dependency.module? = some index ↔ dependency = .module index := by
    intro dependency
    cases dependency <;> simp [Dependency.module?]
  simp only [namespaceRoots, List.mem_append, List.mem_flatMap, List.mem_filterMap,
    namespaceModule?_eq_some, hmodule, mem_namespaceModules, Array.mem_toList_iff, or_assoc,
    exists_eq_right]

theorem namespaceRoots_linked (hg : g.WellFormed) {imports : List (List (BindingId × Slot))}
    {entryExports : ExportList} (himports : ∀ slots ∈ imports, ∀ e ∈ slots, e.2.IsOf g)
    (hentry : ∀ e ∈ entryExports, e.2.IsOf g) :
    NamespacesLinked g (namespaceRoots g imports entryExports) [] := by
  refine ⟨List.nodup_nil, fun i hi => ?_, fun _ h => (nomatch h), fun _ h => nomatch h⟩
  rw [List.map_nil, List.append_nil] at hi
  rcases mem_namespaceRoots.mp hi with ⟨slots, hslots, e, he, heq⟩ | ⟨m, hm, hmem⟩ | ⟨e, he, heq⟩
  · have hof := himports slots hslots e he
    rwa [heq] at hof
  · exact (hg.modules m hm).dynamicImports i hmem
  · have hof := hentry e he
    rwa [heq] at hof

theorem links_linkModules (hg : g.WellFormed) :
    Links g (linkModules g) fun l => l.WellFormed g := by
  refine (links_mapM fun m hm => links_linkImports hg (Array.mem_toList_iff.mp hm)).bind
    fun imports himports => ?_
  refine (links_resolvedExports hg 0).bind fun entryExports hentry => ?_
  have hisOf : ∀ slots ∈ imports, ∀ entry ∈ slots, entry.2.IsOf g := by
    intro slots hslots
    obtain ⟨m, -, hentries⟩ := exists_of_forall₂ himports hslots
    exact fun entry hmem => (hentries entry hmem).1
  have hstart := namespaceRoots_linked hg hisOf hentry
  refine (links_linkNamespaces hg hstart (Nat.lt_succ_self _)).bind
    fun namespaces ⟨hlinked, hroots⟩ => links_pure ?_
  have hkeys : ∀ i, i ∈ (namespaces.mergeSort fun a b => a.1 ≤ b.1).map Prod.fst ↔
      i ∈ namespaces.map Prod.fst := fun i =>
    ((List.mergeSort_perm namespaces _).map Prod.fst).mem_iff
  refine ⟨fun index m slots hm hslots entry hmem => ?_, fun m hm index hindex => ?_, fun e he => ?_,
    fun entry hmem e he => ?_, fun index hindex => ?_, ?_⟩
  · rw [List.getElem?_toArray] at hslots
    rw [← Array.getElem?_toList] at hm
    have hpair : (m, slots) ∈ g.modules.toList.zip imports :=
      List.mem_of_getElem? (List.getElem?_zip_eq_some.mpr ⟨hm, hslots⟩)
    obtain ⟨hof, himport⟩ := List.forall₂_zip himports hpair entry hmem
    refine ⟨⟨hof, fun i hi => (hkeys i).mpr (hroots i ?_)⟩, himport⟩
    refine List.mem_append_left _ (mem_namespaceRoots.mpr (.inl ⟨slots, ?_, entry, hmem, hi⟩))
    exact List.mem_of_getElem? hslots
  · refine (hkeys index).mpr (hroots index (List.mem_append_left _ ?_))
    exact mem_namespaceRoots.mpr (.inr (.inl ⟨m, hm, hindex⟩))
  · refine ⟨hentry e he, fun i hi => (hkeys i).mpr (hroots i (List.mem_append_left _ ?_))⟩
    exact mem_namespaceRoots.mpr (.inr (.inr ⟨e, he, hi⟩))
  · have hmem := List.mem_mergeSort.mp hmem
    refine ⟨hlinked.isOf entry hmem e he, fun i hi => (hkeys i).mpr ?_⟩
    have hclosed := hlinked.closed entry hmem i (mem_namespaceModules.mpr ⟨e, he, hi⟩)
    rwa [List.nil_append] at hclosed
  · exact hlinked.bound index ((hkeys index).mp hindex)
  · exact ((List.mergeSort_perm namespaces _).map Prod.fst).nodup_iff.mpr hlinked.nodup

/-- **Linking finds an object for every namespace.** -/
theorem link_wellFormed (hg : g.WellFormed) {l : Linkage} (h : link g = .ok l) :
    l.WellFormed g := by
  obtain ⟨_, -, h⟩ := bind_eq_ok.mp h
  obtain ⟨⟨linkage, cache⟩, hrun, h⟩ := bind_eq_ok.mp h
  cases h
  have hempty : CacheIsOf g [] := fun _ _ h => nomatch h
  exact (links_linkModules hg hempty hrun).2

/-- A graph that is discovered and linked, and that passes a check. -/
theorem exists_linked_of_any {provider : ModuleProvider} {cancelled : List ModuleId → Bool}
    {rounds : Nat} {check : ModuleGraph → Linkage → Bool}
    (h : ((discover provider cancelled rounds).any fun logged =>
      logged.result.toOption.any fun g => (link g).toOption.any (check g)) = true) :
    ∃ loads g l, discover provider cancelled rounds = some ⟨loads, .ok g⟩ ∧ link g = .ok l ∧
      check g l = true := by
  obtain ⟨⟨loads, result⟩, hdiscover, h⟩ := (Option.any_eq_true _ _).mp h
  cases result with
  | error => cases h
  | ok g =>
    change (link g).toOption.any (check g) = true at h
    cases hlink : link g with
    | error =>
      rw [hlink] at h
      cases h
    | ok l =>
      rw [hlink] at h
      exact ⟨loads, g, l, hdiscover, hlink, h⟩

end ModuleBundler
