import Mathlib.Data.List.Perm.Subperm
import ModuleBundler.Link.Export
import ModuleBundler.Proofs.Outcome

/-!
# Export lookups, step by step

* `exportStep` : what the lookup of an export does first: it has an answer, goes on to the export of
  another module, or tries the modules that exports are taken over from;
* `resolveExport_succ` : a lookup is its first step, unless there is an answer from before;
* `freshAnswer` : the answer about an export that others led to, without answers from before;
* `LookupPasses` : the exports that a lookup without such answers comes to;
* `LookupRoom`, `LookupPasses.room` : the depth of a lookup is never used up.
-/

namespace ModuleBundler

/-! ## Steps -/

/-- The first step of the lookup of an export. -/
inductive ExportStep where
  /-- There is an answer. -/
  | settled (answer : Except CompileError (Option Slot))
  /-- A module takes what it exports from the export of another one, at a place in its text. -/
  | forward (m : SourceModule) (next : ExportKey) (span : Span)
  /-- A module may take the export over from one of others. -/
  | stars (entries : List (String × Dependency))

/-- What a module takes for an export by a request, with the place that says so. -/
def SourceModule.requestStep (m : SourceModule) (request : Nat) (imported : Imported)
    (span : Span) : ExportStep :=
  match m.requestTarget request imported with
  | .error e => .settled (.error e)
  | .ok (.inl slot) => .settled (.ok (some slot))
  | .ok (.inr next) => .forward m next span

/-- What an export that a module has by name stands for. -/
def SourceModule.ownStep (m : SourceModule) (index : Nat) (e : ExportSpecifier) : ExportStep :=
  match e.target with
  | .reexport request imported => m.requestStep request imported e.span
  | .binding name =>
    match m.record.scopes.moduleBinding? name with
    | none => .settled (.error (m.error (.link (.undeclaredExport name)) e.span))
    | some binding =>
      if m.record.scopes.bindingKind? binding = some .imported then
        match m.importOf name with
        | .error e => .settled (.error e)
        | .ok (request, s) => m.requestStep request s.imported s.span
      else .settled (.ok (some (.declared index binding)))

/-- What the lookup of an export does first. -/
def exportStep (g : ModuleGraph) (key : ExportKey) : ExportStep :=
  match g.modules[key.1]? with
  | none => .settled (.error (.internal .outOfRange))
  | some m =>
    match m.export? key.2 with
    | some e => m.ownStep key.1 e
    | none => if key.2 = "default" then .settled (.ok none) else .stars m.stars

/-- A step and what it leads to, for the export of a name, once `visiting` have led to it. -/
def ExportStep.run (g : ModuleGraph) (lookup : ExportLookup) (visiting : List ExportKey)
    (name : String) : ExportStep → Except CompileError (Option Slot)
  | .settled answer => answer
  | .forward m next span =>
    if next ∈ visiting then .error (m.error (.link (.circularReexport next.2)) span)
    else do
      let slot ← lookup visiting next
      some <$> g.orMissing m next span slot
  | .stars entries => resolveStars lookup visiting name none entries

theorem requestStep_run (g : ModuleGraph) (lookup : ExportLookup) (visiting : List ExportKey)
    (name : String) (m : SourceModule) (request : Nat) (imported : Imported) (span : Span) :
    (m.requestStep request imported span).run g lookup visiting name =
      some <$> resolveRequest g lookup visiting m request imported span := by
  unfold SourceModule.requestStep resolveRequest
  cases m.requestTarget request imported with
  | error e => rfl
  | ok target =>
    cases target with
    | inl slot => rfl
    | inr next =>
      change (if next ∈ visiting then _ else _) = some <$> (if next ∈ visiting then _ else _)
      split
      · rfl
      · cases lookup visiting next with
        | error e => rfl
        | ok slot => rfl

theorem ownStep_run (g : ModuleGraph) (lookup : ExportLookup) (visiting : List ExportKey)
    (name : String) (m : SourceModule) (index : Nat) (e : ExportSpecifier) :
    (m.ownStep index e).run g lookup visiting name =
      some <$> resolveOwnExport g lookup visiting m index e := by
  unfold SourceModule.ownStep resolveOwnExport
  cases e.target with
  | reexport request imported => exact requestStep_run ..
  | binding local_ =>
    dsimp only
    cases m.record.scopes.moduleBinding? local_ with
    | none => rfl
    | some binding =>
      dsimp only
      split
      · unfold resolveImport
        cases m.importOf local_ with
        | error e => rfl
        | ok source => exact requestStep_run ..
      · rfl

/-- A lookup is its first step, unless there is an answer from before. -/
theorem resolveExport_succ (g : ModuleGraph) (cache : ExportCache) (depth : Nat)
    (visiting : List ExportKey) (key : ExportKey) :
    resolveExport g cache (depth + 1) visiting key =
      match cache.lookup key with
      | some slot => .ok slot
      | none => (exportStep g key).run g (resolveExport g cache depth) (key :: visiting) key.2 := by
  rw [resolveExport]
  cases cache.lookup key with
  | some slot => rfl
  | none =>
    obtain ⟨index, name⟩ := key
    dsimp only [exportStep, ModuleGraph.getModule]
    cases g.modules[index]? with
    | none => rfl
    | some m =>
      change (match m.export? name with
        | some e => some <$> _
        | none => _) = _
      dsimp only
      cases m.export? name with
      | some e => exact (ownStep_run ..).symm
      | none =>
        dsimp only
        split
        · rfl
        · rfl

/-- A query is a lookup whose answer is kept. -/
theorem exportedSlot_run (g : ModuleGraph) (cache : ExportCache) (key : ExportKey) :
    (exportedSlot g key).run cache = (resolveExport g cache g.lookupDepth [] key).map fun slot =>
      (slot, if (cache.lookup key).isSome then cache else (key, slot) :: cache) := by
  change (resolveExport g cache g.lookupDepth [] key >>= fun slot => _).bind _ = _
  cases resolveExport g cache g.lookupDepth [] key with
  | error e => rfl
  | ok slot => rfl

theorem orMissing_eq_ok {g : ModuleGraph} {m : SourceModule} {key : ExportKey} {span : Span} {found : Option Slot}
    {slot : Slot} : g.orMissing m key span found = .ok slot ↔ found = some slot := by
  cases found with
  | some other =>
    change Except.ok other = .ok slot ↔ _
    rw [Except.ok.injEq, Option.some.injEq]
  | none =>
    refine ⟨fun h => ?_, fun h => nomatch h⟩
    obtain ⟨_, -, h⟩ := bind_eq_ok.mp h
    cases h

/-! ## Lookups without answers from before -/

/-- The answer about an export once the exports `visiting` have led to it, without answers from
before. -/
def freshAnswer (g : ModuleGraph) (visiting : List ExportKey) (key : ExportKey) :
    Except CompileError (Option Slot) :=
  resolveExport g [] (g.lookupDepth - visiting.length) visiting key

/-- A module that an export is to be taken over from does not have it: it led to the lookup itself,
or was asked and has no such export. -/
def StarFails (g : ModuleGraph) (visiting : List ExportKey) (name : String) :
    String × Dependency → Prop
  | (_, .external) => True
  | (_, .module target) =>
    (target, name) ∈ visiting ∨ freshAnswer g visiting (target, name) = .ok none

/-- The exports that the lookup of an export comes to, each with those that led there, when there
are no answers from before. -/
inductive LookupPasses (g : ModuleGraph) (asked : ExportKey) :
    List ExportKey → ExportKey → Prop where
  | asked : LookupPasses g asked [] asked
  | forward {visiting : List ExportKey} {key next : ExportKey} {m : SourceModule} {span : Span}
      (passes : LookupPasses g asked visiting key) (step : exportStep g key = .forward m next span)
      (isNew : next ∉ key :: visiting) : LookupPasses g asked (key :: visiting) next
  | star {visiting : List ExportKey} {key : ExportKey} {specifier : String} {target : Nat}
      {before after : List (String × Dependency)} (passes : LookupPasses g asked visiting key)
      (step : exportStep g key = .stars (before ++ (specifier, .module target) :: after))
      (fails : ∀ entry ∈ before, StarFails g (key :: visiting) key.2 entry)
      (isNew : (target, key.2) ∉ key :: visiting) :
      LookupPasses g asked (key :: visiting) (target, key.2)

/-! ## The depth of lookups -/

/-- The name of an export, if a single one is taken. -/
def Imported.single? : Imported → Option String
  | .name single => some single
  | .all => none

/-- What an export takes from another module. -/
def ExportTarget.imported? : ExportTarget → Option Imported
  | .reexport _ imported => some imported
  | .binding _ => none

/-- The names under which a module takes something from others. -/
def SourceModule.takenNames (m : SourceModule) : List String :=
  (m.record.exports.toList.filterMap fun e => e.target.imported?.bind Imported.single?) ++
    m.importSpecifiers.filterMap fun entry => entry.2.imported.single?

/-- The names that the lookup of an export can come to. -/
def lookupNames (g : ModuleGraph) (asked : ExportKey) : List String :=
  asked.2 :: g.modules.toList.flatMap SourceModule.takenNames

theorem length_takenNames_le (m : SourceModule) :
    m.takenNames.length ≤ m.record.exports.size + m.importSpecifiers.length := by
  rw [SourceModule.takenNames, List.length_append, ← Array.length_toList]
  exact Nat.add_le_add (List.length_filterMap_le ..) (List.length_filterMap_le ..)

theorem length_lookupNames_le (g : ModuleGraph) (asked : ExportKey) :
    (lookupNames g asked).length ≤ g.nameCount + 1 := by
  rw [lookupNames, List.length_cons, List.length_flatMap, ModuleGraph.nameCount]
  refine Nat.succ_le_succ ?_
  induction g.modules.toList with
  | nil => exact Nat.le_refl _
  | cons m rest ih =>
    simp only [List.map_cons, List.sum_cons, List.foldr_cons]
    have := length_takenNames_le m
    omega

theorem requestTarget_eq_inr {m : SourceModule} {request : Nat} {imported : Imported}
    {next : ExportKey} (h : m.requestTarget request imported = .ok (.inr next)) :
    imported = .name next.2 := by
  unfold SourceModule.requestTarget at h
  split at h
  · cases h
  · cases h
  · cases h
  · cases h
    rfl

theorem requestStep_eq_forward {m m' : SourceModule} {request : Nat} {imported : Imported}
    {span span' : Span} {next : ExportKey}
    (h : m.requestStep request imported span = .forward m' next span') :
    imported = .name next.2 := by
  unfold SourceModule.requestStep at h
  split at h
  · cases h
  · cases h
  · rename_i heq
    cases h
    exact requestTarget_eq_inr heq

theorem mem_importSpecifiers_of_importOf {m : SourceModule} {name : String}
    {entry : Nat × ImportSpecifier} (h : m.importOf name = .ok entry) :
    entry ∈ m.importSpecifiers ∧ entry.2.localName = name := by
  unfold SourceModule.importOf at h
  split at h
  · rename_i heq
    cases h
    exact ⟨List.mem_of_find?_eq_some heq, by simpa using List.find?_some heq⟩
  · cases h

theorem ownStep_eq_forward {m m' : SourceModule} {index : Nat} {e : ExportSpecifier}
    {next : ExportKey} {span : Span} (he : e ∈ m.record.exports.toList)
    (h : m.ownStep index e = .forward m' next span) : next.2 ∈ m.takenNames := by
  unfold SourceModule.ownStep at h
  split at h
  · rename_i request imported heq
    have := requestStep_eq_forward h
    subst this
    refine List.mem_append_left _ (List.mem_filterMap.mpr ⟨e, he, ?_⟩)
    simp [heq, ExportTarget.imported?, Imported.single?]
  · split at h
    · cases h
    · split at h
      · split at h
        · cases h
        · rename_i request s hs
          have := requestStep_eq_forward h
          have hmem := (mem_importSpecifiers_of_importOf hs).1
          refine List.mem_append_right _ (List.mem_filterMap.mpr ⟨_, hmem, ?_⟩)
          simp [this, Imported.single?]
      · cases h

/-- A step that goes on is one of a module of the graph. -/
theorem exportStep_eq_forward {g : ModuleGraph} {key next : ExportKey} {m : SourceModule}
    {span : Span} (h : exportStep g key = .forward m next span) :
    key.1 < g.size ∧ ∀ asked, next.2 ∈ lookupNames g asked := by
  unfold exportStep at h
  split at h
  · cases h
  · rename_i m' hm
    obtain ⟨hlt, rfl⟩ := Array.getElem?_eq_some_iff.mp hm
    refine ⟨hlt, fun asked => ?_⟩
    split at h
    · rename_i e he
      have := ownStep_eq_forward (List.mem_of_find?_eq_some he) h
      refine List.mem_cons_of_mem _ (List.mem_flatMap.mpr ⟨_, ?_, this⟩)
      exact Array.mem_toList_iff.mpr (Array.getElem_mem hlt)
    · split at h
      · cases h
      · cases h

theorem exportStep_eq_stars {g : ModuleGraph} {key : ExportKey}
    {entries : List (String × Dependency)} (h : exportStep g key = .stars entries) :
    key.1 < g.size := by
  unfold exportStep at h
  split at h
  · cases h
  · rename_i m hm
    exact (Array.getElem?_eq_some_iff.mp hm).1

/-- A lookup has not been at an export before, and those that led there are exports of modules of
the graph under names that it can come to. -/
structure LookupRoom (g : ModuleGraph) (names : List String) (visiting : List ExportKey)
    (key : ExportKey) : Prop where
  nodup : (key :: visiting).Nodup
  known : ∀ k ∈ visiting, k.1 < g.size ∧ k.2 ∈ names
  name : key.2 ∈ names

/-- A lookup has room to go on from a module of the graph. -/
theorem LookupRoom.next {g : ModuleGraph} {names : List String} {visiting : List ExportKey}
    {key next : ExportKey} (h : LookupRoom g names visiting key) (hkey : key.1 < g.size)
    (hname : next.2 ∈ names) (isNew : next ∉ key :: visiting) :
    LookupRoom g names (key :: visiting) next := by
  refine ⟨List.nodup_cons.mpr ⟨isNew, h.nodup⟩, fun k hk => ?_, hname⟩
  rcases List.mem_cons.mp hk with rfl | hk
  · exact ⟨hkey, h.name⟩
  · exact h.known k hk

/-- No lookup leads through more exports than its depth admits. -/
theorem LookupRoom.length_lt {g : ModuleGraph} {asked : ExportKey} {visiting : List ExportKey}
    {key : ExportKey} (h : LookupRoom g (lookupNames g asked) visiting key) :
    visiting.length < g.lookupDepth := by
  let keys := (List.range g.size).flatMap fun index =>
    (lookupNames g asked).map fun name => (index, name)
  have hsub : ∀ k ∈ visiting, k ∈ keys := by
    intro k hk
    obtain ⟨hindex, hname⟩ := h.known k hk
    exact List.mem_flatMap.mpr ⟨k.1, List.mem_range.mpr hindex, List.mem_map.mpr ⟨k.2, hname, rfl⟩⟩
  have hlen : keys.length = g.size * (lookupNames g asked).length := by
    simp [keys, List.length_flatMap]
  have hle := (List.subperm_of_subset (List.nodup_cons.mp h.nodup).2 hsub).length_le
  have hmul := Nat.mul_le_mul_left g.size (length_lookupNames_le g asked)
  rw [ModuleGraph.lookupDepth]
  omega

theorem LookupRoom.depth_eq {g : ModuleGraph} {asked : ExportKey} {visiting : List ExportKey}
    {key : ExportKey} (h : LookupRoom g (lookupNames g asked) visiting key) :
    g.lookupDepth - visiting.length = g.lookupDepth - (visiting.length + 1) + 1 := by
  have := h.length_lt
  omega

/-- All that a lookup comes to is within its depth. -/
theorem LookupPasses.room {g : ModuleGraph} {asked key : ExportKey} {visiting : List ExportKey}
    (h : LookupPasses g asked visiting key) :
    LookupRoom g (lookupNames g asked) visiting key := by
  induction h with
  | asked => exact ⟨by simp, fun k hk => absurd hk List.not_mem_nil, List.mem_cons_self⟩
  | forward passes step isNew ih =>
    obtain ⟨hkey, hname⟩ := exportStep_eq_forward step
    exact ih.next hkey (hname asked) isNew
  | star passes step fails isNew ih => exact ih.next (exportStep_eq_stars step) ih.name isNew

end ModuleBundler
