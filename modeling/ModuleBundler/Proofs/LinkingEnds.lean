import ModuleBundler.Proofs.Linked
import ModuleBundler.Proofs.LookupsEnd

/-!
# Linking ends

* `LookupCall` : the calls by which linking finds what exports and imports stand for;
* `NamespacesEnd` : the modules of which a namespace object may be needed are gone through one after
  another from the top of a stack, without a bound on their number;
* `NamespacesEnd.unique`, `NamespacesEnd.nodup` : this goes one way only, and no module is processed
  twice;
* `exists_namespacesEnd` : it ends, with what `linkNamespaces` gives;
* `maintains_linkImports`, `maintains_resolvedExports` : all namespaces that come up in a graph are
  of its modules;
* `linking_ends` : so all of linking ends, on every graph.
-/

namespace ModuleBundler

variable {g : ModuleGraph} {names : List String} {visiting : List ExportKey} {cache : ExportCache}

/-! ## Calls -/

/-- A call by which linking finds a slot. -/
inductive LookupCall where
  /-- For an export of a module. -/
  | ofExport (key : ExportKey)
  /-- For what a module takes from another by a request. -/
  | ofRequest (m : SourceModule) (request : Nat) (imported : Imported) (span : Span)
  /-- For what a module imports under a name. -/
  | ofImport (m : SourceModule) (name : String)

/-- What a module imports under a name stands for. -/
def SourceModule.importStep (m : SourceModule) (name : String) : ExportStep :=
  match m.importOf name with
  | .error e => .settled (.error e)
  | .ok (request, s) => m.requestStep request s.imported s.span

namespace LookupCall

/-- What the call gives, once the exports `visiting` have led to it. -/
def answer (g : ModuleGraph) (cache : ExportCache) (visiting : List ExportKey) :
    LookupCall → Except CompileError (Option Slot)
  | .ofExport key => resolveExport g cache g.lookupDepth visiting key
  | .ofRequest m request imported span =>
    some <$> resolveRequest g (resolveExport g cache g.lookupDepth) visiting m request imported span
  | .ofImport m name =>
    some <$> resolveImport g (resolveExport g cache g.lookupDepth) visiting m name

/-- What the call has to do. -/
def task : LookupCall → LookupTask
  | .ofExport key => .lookup key
  | .ofRequest m request imported span => .step "" (m.requestStep request imported span)
  | .ofImport m name => .step name (m.importStep name)

/-- The call can come up in a graph, where the exports `visiting` have led to it. -/
def Within (g : ModuleGraph) (names : List String) (visiting : List ExportKey) : LookupCall → Prop
  | .ofExport key => key ∉ visiting ∧ key.1 < g.size ∧ key.2 ∈ names
  | .ofRequest m _ imported _ => m ∈ g.modules ∧ ∀ name, imported.single? = some name → name ∈ names
  | .ofImport m _ => m ∈ g.modules

theorem requestStep_ne_stars (m : SourceModule) (request : Nat) (imported : Imported) (span : Span)
    (entries : List (String × Dependency)) :
    m.requestStep request imported span ≠ .stars entries := by
  unfold SourceModule.requestStep
  split <;> exact nofun

theorem importStep_ne_stars (m : SourceModule) (name : String)
    (entries : List (String × Dependency)) : m.importStep name ≠ .stars entries := by
  unfold SourceModule.importStep
  split
  · exact nofun
  · exact requestStep_ne_stars _ _ _ _ _

theorem importStep_run (g : ModuleGraph) (lookup : ExportLookup) (visiting : List ExportKey)
    (m : SourceModule) (name : String) : (m.importStep name).run g lookup visiting name =
      some <$> resolveImport g lookup visiting m name := by
  unfold SourceModule.importStep resolveImport
  cases m.importOf name with
  | error e => rfl
  | ok entry => exact requestStep_run ..

theorem importStep_within (hg : g.Closed) (hnames : CoversNames g names) {m : SourceModule}
    (hm : m ∈ g.modules) (name : String) : (m.importStep name).Within g names := by
  unfold SourceModule.importStep
  split
  · exact nofun
  · rename_i request s hs
    refine requestStep_within hg hm request (fun taken htaken => hnames m hm taken ?_) s.span
    have hmem := (mem_importSpecifiers_of_importOf hs).1
    exact List.mem_append_right _ (List.mem_filterMap.mpr ⟨_, hmem, htaken⟩)

/-- What the call gives is the answer of its task. -/
theorem answer_eq (call : LookupCall) (g : ModuleGraph) (cache : ExportCache)
    (visiting : List ExportKey) : call.answer g cache visiting =
      call.task.answer g (resolveExport g cache g.lookupDepth) visiting := by
  cases call with
  | ofExport key => rfl
  | ofRequest m request imported span => exact (requestStep_run ..).symm
  | ofImport m name => exact (importStep_run ..).symm

theorem Within.task (hg : g.Closed) (hnames : CoversNames g names) {call : LookupCall}
    (h : call.Within g names visiting) : call.task.Within g names visiting := by
  cases call with
  | ofExport key => exact h
  | ofRequest m request imported span =>
    exact ⟨requestStep_within hg h.1 request h.2 span,
      fun entries heq => absurd heq (requestStep_ne_stars m request imported span entries)⟩
  | ofImport m name =>
    exact ⟨importStep_within hg hnames h name,
      fun entries heq => absurd heq (importStep_ne_stars m name entries)⟩

end LookupCall

/-- What a module imports is found by a call that no other has led to, as is what one exports. -/
theorem importedSlot_run (g : ModuleGraph) (m : SourceModule) (name : String)
    (cache : ExportCache) : ((importedSlot g m name).run cache).map (fun r => some r.1) =
      (LookupCall.ofImport m name).answer g cache [] := by
  change _ = some <$> resolveImport g (resolveExport g cache g.lookupDepth) [] m name
  unfold importedSlot resolveImport resolveRequest
  rw [liftBind_run]
  cases m.importOf name with
  | error e => rfl
  | ok entry =>
    obtain ⟨request, s⟩ := entry
    change Except.map _ (StateT.run (liftM (m.requestTarget request s.imported) >>= _) cache) = _
    rw [liftBind_run]
    change _ = some <$> ((m.requestTarget request s.imported).bind _)
    cases m.requestTarget request s.imported with
    | error e => rfl
    | ok target =>
      cases target with
      | inl slot => rfl
      | inr key =>
        change Except.map _ ((exportedSlot g key).run cache >>= fun r =>
            (liftM (g.orMissing m key s.span r.1) : Linking Slot).run r.2) =
          some <$> (if key ∈ ([] : List ExportKey) then
              .error (m.error (.link (.circularReexport key.2)) s.span)
            else resolveExport g cache g.lookupDepth [] key >>= g.orMissing m key s.span)
        rw [exportedSlot_run, if_neg List.not_mem_nil]
        cases resolveExport g cache g.lookupDepth [] key with
        | error e => rfl
        | ok found =>
          change Except.map _ ((liftM (g.orMissing m key s.span found) : Linking Slot).run _) =
            some <$> g.orMissing m key s.span found
          cases g.orMissing m key s.span found with
          | error e => rfl
          | ok slot => rfl

/-! ## Namespaces -/

/-- The modules on a stack are gone through from the top. What `done` has is left out, the exports
of the others are linked, and those of them that hold a namespace put its module on the stack.
`processed` are the modules whose exports were linked, in turn. -/
inductive NamespacesEnd (g : ModuleGraph) : List Nat → List (Nat × ExportList) → ExportCache →
    List Nat → Except CompileError (List (Nat × ExportList) × ExportCache) → Prop where
  | finished {done : List (Nat × ExportList)} {cache : ExportCache} :
      NamespacesEnd g [] done cache [] (.ok (done, cache))
  | skip {index : Nat} {rest : List Nat} {done : List (Nat × ExportList)} {cache : ExportCache}
      {processed : List Nat} {outcome : Except CompileError (List (Nat × ExportList) × ExportCache)}
      (known : index ∈ done.map Prod.fst) (ends : NamespacesEnd g rest done cache processed outcome) :
      NamespacesEnd g (index :: rest) done cache processed outcome
  | fails {index : Nat} {rest : List Nat} {done : List (Nat × ExportList)} {cache : ExportCache}
      {e : CompileError} (isNew : index ∉ done.map Prod.fst)
      (exports : (resolvedExports g index).run cache = .error e) :
      NamespacesEnd g (index :: rest) done cache [index] (.error e)
  | next {index : Nat} {rest : List Nat} {done : List (Nat × ExportList)}
      {cache cache' : ExportCache} {exports : ExportList} {processed : List Nat}
      {outcome : Except CompileError (List (Nat × ExportList) × ExportCache)}
      (isNew : index ∉ done.map Prod.fst)
      (linked : (resolvedExports g index).run cache = .ok (exports, cache'))
      (ends : NamespacesEnd g ((namespaceModules (sortExports exports)).reverse ++ rest)
        ((index, sortExports exports) :: done) cache' processed outcome) :
      NamespacesEnd g (index :: rest) done cache (index :: processed) outcome

/-- Modules are processed in one way only. -/
theorem NamespacesEnd.unique {pending processed processed' : List Nat}
    {done : List (Nat × ExportList)}
    {outcome outcome' : Except CompileError (List (Nat × ExportList) × ExportCache)}
    (h : NamespacesEnd g pending done cache processed outcome)
    (h' : NamespacesEnd g pending done cache processed' outcome') :
    processed' = processed ∧ outcome' = outcome := by
  induction h generalizing processed' outcome' with
  | finished =>
    cases h'
    exact ⟨rfl, rfl⟩
  | skip known _ ih =>
    cases h' with
    | skip _ ends => exact ih ends
    | fails isNew _ | next isNew _ _ => exact absurd known isNew
  | fails isNew failed =>
    cases h' with
    | skip known _ => exact absurd known isNew
    | fails _ failed' =>
      cases failed.symm.trans failed'
      exact ⟨rfl, rfl⟩
    | next _ linked _ => cases failed.symm.trans linked
  | next isNew linked _ ih =>
    cases h' with
    | skip known _ => exact absurd known isNew
    | fails _ failed => cases linked.symm.trans failed
    | next _ linked' ends =>
      cases linked.symm.trans linked'
      obtain ⟨rfl, rfl⟩ := ih ends
      exact ⟨rfl, rfl⟩

/-- No module is processed twice, and none that was done before. -/
theorem NamespacesEnd.nodup {pending processed : List Nat} {done : List (Nat × ExportList)}
    {outcome : Except CompileError (List (Nat × ExportList) × ExportCache)}
    (h : NamespacesEnd g pending done cache processed outcome) :
    processed.Nodup ∧ ∀ index ∈ processed, index ∉ done.map Prod.fst := by
  induction h with
  | finished => exact ⟨.nil, nofun⟩
  | skip _ _ ih => exact ih
  | fails isNew _ => exact ⟨List.pairwise_singleton _ _, List.forall_mem_singleton.mpr isNew⟩
  | next isNew _ _ ih =>
    refine ⟨List.nodup_cons.mpr ⟨fun hmem => ih.2 _ hmem List.mem_cons_self, ih.1⟩,
      List.forall_mem_cons.mpr ⟨isNew, fun other hother hdone => ?_⟩⟩
    exact ih.2 other hother (List.mem_cons_of_mem _ hdone)

/-! ## What comes up in a graph -/

/-- The answers so far hold no namespace but those of modules of the graph. -/
def KeptWithin (g : ModuleGraph) (cache : ExportCache) : Prop :=
  ∀ key slot, cache.lookup key = some slot → NamespaceWithin g slot

theorem maintains_exportedSlot (hg : g.Closed) (key : ExportKey) :
    Maintains (KeptWithin g) (exportedSlot g key) (NamespaceWithin g) := by
  intro cache found cache' hcache h
  change (exportedSlot g key).run cache = _ at h
  rw [exportedSlot_run] at h
  obtain ⟨answer, hanswer, heq⟩ := map_eq_ok.mp h
  cases heq
  obtain ⟨passed, hends⟩ := exists_lookupEnds g cache [] (.lookup key)
  have hfound : NamespaceWithin g found := hends.namespaceWithin hg hcache trivial found hanswer
  refine ⟨?_, hfound⟩
  split
  · exact hcache
  · intro other slot hother
    rw [List.lookup_cons] at hother
    split at hother
    · cases hother
      exact hfound
    · exact hcache other slot hother

theorem maintains_resolvedExports (hg : g.Closed) (index : Nat) :
    Maintains (KeptWithin g) (resolvedExports g index) fun exports =>
      ∀ e ∈ exports, NamespaceWithin g (some e.2) := by
  have hslots : ∀ name ∈ exportNames g index, Maintains (KeptWithin g) (do
      let slot ← exportedSlot g (index, name)
      pure (slot.map fun slot => (name, slot)))
      fun found => ∀ e, found = some e → NamespaceWithin g (some e.2) := by
    refine fun name _ => (maintains_exportedSlot hg (index, name)).bind fun found hfound => ?_
    refine maintains_pure fun e he => ?_
    obtain ⟨slot, rfl, rfl⟩ := Option.map_eq_some_iff.mp he
    exact hfound
  refine (maintains_mapM_all hslots).bind fun slots hall => maintains_pure fun e he => ?_
  obtain ⟨found, hfound, heq⟩ := List.mem_filterMap.mp he
  exact hall found hfound e heq

theorem maintains_importedSlot (hg : g.Closed) {m : SourceModule} (hm : m ∈ g.modules)
    (name : String) :
    Maintains (KeptWithin g) (importedSlot g m name) fun slot => NamespaceWithin g (some slot) := by
  refine maintains_liftBind fun (request, s) _ => maintains_liftBind fun target htarget => ?_
  cases target with
  | inl slot =>
    have hwithin : (m.requestStep request s.imported s.span).Within g s.imported.single?.toList :=
      requestStep_within hg hm request (fun name hname => Option.mem_toList.mpr hname) s.span
    unfold SourceModule.requestStep at hwithin
    rw [htarget] at hwithin
    exact maintains_pure fun index heq => hwithin index (congrArg Except.ok heq)
  | inr key =>
    refine (maintains_exportedSlot hg key).bind fun found hfound => maintains_liftM fun slot hslot =>
      ?_
    exact orMissing_eq_ok.mp hslot ▸ hfound

theorem maintains_linkImports (hg : g.Closed) {m : SourceModule} (hm : m ∈ g.modules) :
    Maintains (KeptWithin g) (linkImports g m) fun entries =>
      ∀ entry ∈ entries, NamespaceWithin g (some entry.2) := by
  refine maintains_mapM_all fun s _ => (maintains_importedSlot hg hm _).bind fun slot hslot => ?_
  split
  · exact maintains_pure hslot
  · exact fun _ _ _ _ h => nomatch h

/-! ## Processing ends -/

theorem namespaceModules_lt {exports : ExportList}
    (h : ∀ e ∈ exports, NamespaceWithin g (some e.2)) :
    ∀ index ∈ namespaceModules exports, index < g.size := by
  intro index hindex
  obtain ⟨e, he, heq⟩ := mem_namespaceModules.mp hindex
  exact h e he index (congrArg some heq)

/-- What is done at the top of a stack is passed over. -/
theorem exists_skip {pending : List Nat} {done : List (Nat × ExportList)} {processed : List Nat}
    {outcome : Except CompileError (List (Nat × ExportList) × ExportCache)}
    (h : NamespacesEnd g (pending.dropWhile fun i => (done.lookup i).isSome) done cache processed
      outcome) : NamespacesEnd g pending done cache processed outcome := by
  induction pending with
  | nil => exact h
  | cons index rest ih =>
    rw [List.dropWhile_cons] at h
    split at h
    · rename_i hdone
      exact .skip (isSome_lookup_iff.mp hdone) (ih h)
    · exact h

/-- Processing ends, with what `linkNamespaces` gives. Each module that is processed was not done
before, so that there are no more of them than modules in the graph. -/
theorem exists_namespacesEnd (hg : g.Closed) {count : Nat} {pending : List Nat}
    {done : List (Nat × ExportList)} (hcache : KeptWithin g cache)
    (hpending : ∀ index ∈ pending, index < g.size) (hnodup : (done.map Prod.fst).Nodup)
    (hdone : ∀ index ∈ done.map Prod.fst, index < g.size) (hcount : g.size < count + done.length) :
    ∃ processed, NamespacesEnd g pending.reverse done cache processed
        ((linkNamespaces g count pending done).run cache) ∧
      ∀ index ∈ processed, index < g.size := by
  induction count generalizing pending done cache with
  | zero =>
    have hsub : done.map Prod.fst ⊆ List.range g.size := fun i hi => List.mem_range.mpr (hdone i hi)
    have hle := (List.subperm_of_subset hnodup hsub).length_le
    rw [List.length_map, List.length_range] at hle
    omega
  | succ count ih =>
    unfold linkNamespaces
    cases hrest : pending.reverse.dropWhile fun i => (done.lookup i).isSome with
    | nil =>
      refine ⟨[], exists_skip ?_, fun _ hi => absurd hi List.not_mem_nil⟩
      rw [hrest]
      exact .finished
    | cons index rest =>
      obtain ⟨hindex, hmem, hnew, -⟩ := pending_cases hrest
      have hlt := hpending index hindex
      have hrun : ((do
          let exports ← resolvedExports g index
          linkNamespaces g count (rest.reverse ++ namespaceModules (sortExports exports))
            ((index, sortExports exports) :: done) : Linking (List (Nat × ExportList))).run cache) =
          (resolvedExports g index).run cache >>= fun r =>
            (linkNamespaces g count (rest.reverse ++ namespaceModules (sortExports r.1))
              ((index, sortExports r.1) :: done)).run r.2 := rfl
      cases hexports : (resolvedExports g index).run cache with
      | error e =>
        rw [hexports] at hrun
        refine ⟨[index], exists_skip ?_, List.forall_mem_singleton.mpr hlt⟩
        rw [hrest]
        exact hrun ▸ .fails hnew hexports
      | ok linked =>
        obtain ⟨exports, cache'⟩ := linked
        obtain ⟨hcache', hwithin⟩ := maintains_resolvedExports hg index hcache hexports
        have hsorted : ∀ e ∈ sortExports exports, NamespaceWithin g (some e.2) := fun e he =>
          hwithin e (List.mem_mergeSort.mp he)
        obtain ⟨processed, hends, hprocessed⟩ :=
          @ih cache' (rest.reverse ++ namespaceModules (sortExports exports))
            ((index, sortExports exports) :: done) hcache'
            (List.forall_mem_append.mpr
              ⟨fun i hi => hpending i (hmem i (List.mem_reverse.mp hi)), namespaceModules_lt hsorted⟩)
            (List.nodup_cons.mpr ⟨hnew, hnodup⟩) (List.forall_mem_cons.mpr ⟨hlt, hdone⟩)
            (by rw [List.length_cons]; omega)
        rw [hexports] at hrun
        rw [List.reverse_append, List.reverse_reverse] at hends
        refine ⟨index :: processed, exists_skip ?_, List.forall_mem_cons.mpr ⟨hlt, hprocessed⟩⟩
        rw [hrest]
        exact hrun ▸ .next hnew hexports hends

/-- **Linking ends on every graph.**

Every call for what an export or an import stands for ends, whatever exports have led to it and
whatever answers are kept from before: there is one way to the answer that is given. In a graph
whose modules lead to modules of it, all stacks on that way are sound if the first one is. Linking
makes such calls, to which no others have led.

The modules of which a namespace object may be needed are gone through in one way, too. None is
processed twice, and all are modules of the graph. -/
theorem linking_ends (g : ModuleGraph) :
    (∀ cache visiting (call : LookupCall), ∃ passed,
      LookupEnds g cache visiting call.task passed (call.answer g cache visiting) ∧
      (∀ passed' answer', LookupEnds g cache visiting call.task passed' answer' →
        passed' = passed ∧ answer' = call.answer g cache visiting) ∧
      ∀ names, g.Closed → CoversNames g names → call.Within g names visiting →
        SoundStack g names visiting → ∀ stack ∈ passed, SoundStack g names stack) ∧
    (∀ cache key, ((exportedSlot g key).run cache).map Prod.fst =
      (LookupCall.ofExport key).answer g cache []) ∧
    (∀ cache m name, ((importedSlot g m name).run cache).map (fun r => some r.1) =
      (LookupCall.ofImport m name).answer g cache []) ∧
    (g.Closed → ∀ imports entryExports cache cache',
      (g.modules.toList.mapM (linkImports g)).run [] = .ok (imports, cache) →
      (resolvedExports g 0).run cache = .ok (entryExports, cache') →
      ∃ processed,
        (∀ processed' outcome',
          NamespacesEnd g (namespaceRoots g imports entryExports).reverse [] cache' processed'
            outcome' ↔
          processed' = processed ∧ outcome' = (linkNamespaces g (g.size + 1)
            (namespaceRoots g imports entryExports) []).run cache') ∧
        processed.Nodup ∧ ∀ index ∈ processed, index < g.size) := by
  refine ⟨fun cache visiting call => ?_, fun cache key => ?_, fun cache m name =>
    importedSlot_run g m name cache, fun hg imports entryExports cache cache' himports hentry => ?_⟩
  · obtain ⟨passed, hends⟩ := exists_lookupEnds g cache visiting call.task
    rw [← call.answer_eq] at hends
    exact ⟨passed, hends, fun _ _ => hends.unique, fun names hg hnames hcall hvisiting =>
      hends.sound hg hnames hvisiting (hcall.task hg hnames)⟩
  · rw [exportedSlot_run]
    change _ = resolveExport g cache g.lookupDepth [] key
    cases resolveExport g cache g.lookupDepth [] key with
    | error e => rfl
    | ok slot => rfl
  · have hempty : KeptWithin g [] := fun _ _ h => nomatch h
    obtain ⟨hcache, hslots⟩ := maintains_mapM_all
      (fun m hm => maintains_linkImports hg (Array.mem_toList_iff.mp hm)) hempty himports
    obtain ⟨hcache', hexports⟩ := maintains_resolvedExports hg 0 hcache hentry
    have hroots : ∀ index ∈ namespaceRoots g imports entryExports, index < g.size := by
      intro index hindex
      rcases mem_namespaceRoots.mp hindex with ⟨slots, hmem, e, he, heq⟩ | ⟨m, hm, hdynamic⟩ |
        ⟨e, he, heq⟩
      · exact hslots slots hmem e he index (congrArg some heq)
      · exact hg m hm index (.inr hdynamic)
      · exact hexports e he index (congrArg some heq)
    obtain ⟨processed, hends, hlt⟩ := @exists_namespacesEnd g cache' hg (g.size + 1)
      (namespaceRoots g imports entryExports) [] hcache' hroots .nil nofun (Nat.lt_succ_self _)
    refine ⟨processed, fun processed' outcome' => ⟨hends.unique, ?_⟩, hends.nodup.1, hlt⟩
    rintro ⟨rfl, rfl⟩
    exact hends

theorem ModuleGraph.WellFormed.closed (hg : g.WellFormed) : g.Closed := fun m hm index h =>
  h.elim ((hg.modules m hm).requests index) ((hg.modules m hm).dynamicImports index)

/-- Two modules that take over the exports of each other. One also exports its own namespace. -/
def mutualReexports : ModuleProvider where
  resolve specifier _ := .ok (.module (.file specifier))
  load
    | .file "/index.js" => .text
      "import { a } from \"./a.js\";\nimport * as all from \"./a.js\";\nconsole.log(a, all);\n"
    | .file "./a.js" => .text
      "export { c as a } from \"./b.js\";\nexport * from \"./b.js\";\nexport * as self from \"./a.js\";\n"
    | .file "./b.js" => .text "export let c = 1;\nexport * from \"./a.js\";\n"
    | id => .failed (.missing id.text)

/-- The lookup of an export that neither of the modules has goes from one to the other and ends.
The namespace that one of them exports of itself is processed once. -/
theorem mutualReexports_linking_ends : ∃ loads g,
    discover mutualReexports (fun _ => false) 5 = some ⟨loads, .ok g⟩ ∧ g.Closed ∧
      (∃ passed, LookupEnds g [] [] (.lookup (1, "d")) passed (.ok none) ∧
        ∀ stack ∈ passed, SoundStack g ["a", "c", "d"] stack) ∧
      ∃ imports entryExports cache cache',
        (g.modules.toList.mapM (linkImports g)).run [] = .ok (imports, cache) ∧
        (resolvedExports g 0).run cache = .ok (entryExports, cache') ∧
        ∃ processed, NamespacesEnd g (namespaceRoots g imports entryExports).reverse [] cache'
            processed ((linkNamespaces g (g.size + 1) (namespaceRoots g imports entryExports)
              []).run cache') ∧ processed.Nodup := by
  have hrun : ((discover mutualReexports (fun _ => false) 5).any fun logged =>
      logged.result.toOption.any fun g => 1 < g.size ∧
        (∀ m ∈ g.modules.toList, ∀ name ∈ m.takenNames, name ∈ ["a", "c", "d"]) ∧
        resolveExport g [] g.lookupDepth [] (1, "d") = .ok none ∧
        (((g.modules.toList.mapM (linkImports g)).run []).toOption.any fun linked =>
          ((resolvedExports g 0).run linked.2).toOption.isSome) = true) = true := by
    decide +kernel
  obtain ⟨⟨loads, result⟩, hdiscover, hrun⟩ := (Option.any_eq_true _ _).mp hrun
  cases result with
  | error => cases hrun
  | ok g =>
    obtain ⟨hsize, hnames, hlacks, hlinked⟩ := of_decide_eq_true hrun
    have hclosed := (discover_wellFormed hdiscover).closed
    obtain ⟨hcalls, -, -, hnamespaces⟩ := linking_ends g
    refine ⟨loads, g, hdiscover, hclosed, ?_, ?_⟩
    · obtain ⟨passed, hends, -, hsound⟩ := hcalls [] [] (.ofExport (1, "d"))
      refine ⟨passed, hlacks ▸ hends, hsound ["a", "c", "d"] hclosed
        (fun m hm => hnames m (Array.mem_toList_iff.mpr hm)) ⟨nofun, hsize, by decide⟩
        ⟨.nil, nofun⟩⟩
    · cases himports : (g.modules.toList.mapM (linkImports g)).run [] with
      | error e =>
        rw [himports] at hlinked
        cases hlinked
      | ok linked =>
        rw [himports] at hlinked
        change ((resolvedExports g 0).run linked.2).toOption.isSome = true at hlinked
        cases hentry : (resolvedExports g 0).run linked.2 with
        | error e =>
          rw [hentry] at hlinked
          cases hlinked
        | ok exports =>
          obtain ⟨processed, hends, hnodup, -⟩ := hnamespaces hclosed _ _ _ _ himports hentry
          exact ⟨_, _, _, _, rfl, hentry, processed, (hends _ _).mpr ⟨rfl, rfl⟩, hnodup⟩

end ModuleBundler
