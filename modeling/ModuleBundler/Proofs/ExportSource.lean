import ModuleBundler.Proofs.ExportHistory

/-!
# Where the answers about exports are from

* `FoundSlot` : a slot, with whether a module outside is only said to have it by `export *`;
* `findExport` : lookups that keep this with their answers, `foundAfter` one after earlier ones;
* `findExport_slots`, `foundAfter_slots` : apart from it the answers are those of lookups.

An export that a module has by name is that module's, whatever it stands for. Only a module that
finds an export neither among its own nor in those it takes over from modules of the graph says
that a module outside has it.
-/

namespace ModuleBundler

/-! ## Lookups -/

/-- The slot behind an export, with where it is from. -/
inductive FoundSlot where
  /-- A module of the graph has the export by name. -/
  | own (slot : Slot)
  /-- The module of a specifier, which is outside, is said to have an export of the name. -/
  | outside (specifier name : String)
  deriving DecidableEq

def FoundSlot.isOutside : FoundSlot → Bool
  | own _ => false
  | outside .. => true

def FoundSlot.slot : FoundSlot → Slot
  | own slot => slot
  | outside specifier name => .external specifier (.name name)

/-- The answers so far, with where they are from. -/
abbrev FoundCache := List (ExportKey × Option FoundSlot)

/-- The answers alone. -/
def FoundCache.slots (cache : FoundCache) : ExportCache :=
  cache.map fun entry => (entry.1, entry.2.map FoundSlot.slot)

/-- The slot behind an export with where it is from, once the exports `visiting` have led to it. -/
abbrev SlotSearch := List ExportKey → ExportKey → Except CompileError (Option FoundSlot)

/-- The slot for an export that a module takes over, with where it is from. `outside` is the
specifier of the first module outside of the graph that may have it. -/
def findStars (search : SlotSearch) (visiting : List ExportKey) (name : String) :
    Option String → List (String × Dependency) → Except CompileError (Option FoundSlot)
  | outside, [] => .ok (outside.map fun specifier => .outside specifier name)
  | outside, (specifier, .external) :: rest =>
    findStars search visiting name (outside.or (some specifier)) rest
  | outside, (_, .module target) :: rest =>
    if (target, name) ∈ visiting then findStars search visiting name outside rest
    else do
      match ← search visiting (target, name) with
      | some found => pure (some found)
      | none => findStars search visiting name outside rest

/-- A step and what it leads to, with where the slot is from. -/
def ExportStep.find (g : ModuleGraph) (search : SlotSearch) (visiting : List ExportKey)
    (name : String) : ExportStep → Except CompileError (Option FoundSlot)
  | .settled answer => answer.map (Option.map FoundSlot.own)
  | .forward m next span =>
    if next ∈ visiting then .error (m.error (.link (.circularReexport next.2)) span)
    else do
      let found ← search visiting next
      let slot ← g.orMissing m next span (found.map FoundSlot.slot)
      pure (some (.own slot))
  | .stars entries => findStars search visiting name none entries

/-- The slot behind an export with where it is from, with the answers so far, through no more than
`depth` other exports. -/
def findExport (g : ModuleGraph) (cache : FoundCache) : Nat → SlotSearch
  | 0, _, _ => .error (.internal .endlessExports)
  | depth + 1, visiting, key =>
    match cache.lookup key with
    | some found => .ok found
    | none => (exportStep g key).find g (findExport g cache depth) (key :: visiting) key.2

theorem lookup_slots (cache : FoundCache) (key : ExportKey) :
    cache.slots.lookup key = (cache.lookup key).map (Option.map FoundSlot.slot) := by
  induction cache with
  | nil => rfl
  | cons entry rest ih =>
    obtain ⟨known, found⟩ := entry
    change ((known, found.map FoundSlot.slot) :: FoundCache.slots rest).lookup key = _
    rw [List.lookup_cons, List.lookup_cons, ih]
    cases key == known with
    | true => rfl
    | false => rfl

theorem findStars_slots {search : SlotSearch} {lookup : ExportLookup} {visiting : List ExportKey}
    (hsearch : ∀ next,
      (search visiting next).map (Option.map FoundSlot.slot) = lookup visiting next)
    (name : String) (outside : Option String) (entries : List (String × Dependency)) :
    (findStars search visiting name outside entries).map (Option.map FoundSlot.slot) =
      resolveStars lookup visiting name
        (outside.map fun specifier => .external specifier (.name name)) entries := by
  induction entries generalizing outside with
  | nil => cases outside <;> rfl
  | cons entry rest ih =>
    obtain ⟨specifier, dependency⟩ := entry
    cases dependency with
    | external =>
      refine (ih _).trans ?_
      cases outside <;> rfl
    | module target =>
      rw [findStars, resolveStars]
      split
      · exact ih outside
      · rw [← hsearch]
        cases search visiting (target, name) with
        | error e => rfl
        | ok found =>
          cases found with
          | none => exact ih outside
          | some found => rfl

theorem find_slots {g : ModuleGraph} {search : SlotSearch} {lookup : ExportLookup}
    {visiting : List ExportKey}
    (hsearch : ∀ next,
      (search visiting next).map (Option.map FoundSlot.slot) = lookup visiting next)
    (name : String) (step : ExportStep) :
    (step.find g search visiting name).map (Option.map FoundSlot.slot) =
      step.run g lookup visiting name := by
  cases step with
  | settled answer =>
    rcases answer with e | (_ | slot)
    · rfl
    · rfl
    · rfl
  | forward m next span =>
    change (if next ∈ visiting then _ else _ : Except _ _).map _ = if next ∈ visiting then _ else _
    split
    · rfl
    · rw [← hsearch]
      cases search visiting next with
      | error e => rfl
      | ok found =>
        change (g.orMissing m next span (found.map FoundSlot.slot) >>= _).map _ = some <$> _
        cases g.orMissing m next span (found.map FoundSlot.slot) with
        | error e => rfl
        | ok slot => rfl
  | stars entries => exact findStars_slots hsearch name none entries

/-- Apart from where slots are from, searches are lookups. -/
theorem findExport_slots (g : ModuleGraph) (cache : FoundCache) (depth : Nat)
    (visiting : List ExportKey) (key : ExportKey) :
    (findExport g cache depth visiting key).map (Option.map FoundSlot.slot) =
      resolveExport g cache.slots depth visiting key := by
  induction depth generalizing visiting key with
  | zero => rfl
  | succ depth ih =>
    rw [resolveExport_succ, findExport, lookup_slots]
    cases cache.lookup key with
    | some found => rfl
    | none => exact find_slots (fun next => ih _ next) key.2 _

theorem findExport_eq_none_iff {g : ModuleGraph} {cache : FoundCache} {depth : Nat}
    {visiting : List ExportKey} {key : ExportKey} :
    findExport g cache depth visiting key = .ok none ↔
      resolveExport g cache.slots depth visiting key = .ok none := by
  rw [← findExport_slots]
  rcases findExport g cache depth visiting key with e | (_ | found)
  · exact ⟨(nomatch ·), (nomatch ·)⟩
  · exact ⟨fun _ => rfl, fun _ => rfl⟩
  · exact ⟨(nomatch ·), (nomatch ·)⟩

/-! ## Searches after earlier ones -/

/-- The answers that are kept after a search. One that fails adds none. -/
def foundCacheAfterQuery (g : ModuleGraph) (cache : FoundCache) (key : ExportKey) : FoundCache :=
  match findExport g cache g.lookupDepth [] key with
  | .ok found => if (cache.lookup key).isSome then cache else (key, found) :: cache
  | .error _ => cache

/-- The answers that are kept after searches in a row. -/
def foundCacheAfter (g : ModuleGraph) (history : List ExportKey) : FoundCache :=
  history.foldl (foundCacheAfterQuery g) []

/-- The answer about an export after those about `history`, with where it is from. -/
def foundAfter (g : ModuleGraph) (history : List ExportKey) (key : ExportKey) :
    Except CompileError (Option FoundSlot) :=
  findExport g (foundCacheAfter g history) g.lookupDepth [] key

theorem foundCacheAfterQuery_slots (g : ModuleGraph) (cache : FoundCache) (key : ExportKey) :
    (foundCacheAfterQuery g cache key).slots = cacheAfterQuery g cache.slots key := by
  rw [cacheAfterQuery, exportedSlot_run, ← findExport_slots, foundCacheAfterQuery, lookup_slots]
  cases findExport g cache g.lookupDepth [] key with
  | error e => rfl
  | ok found =>
    change (if (cache.lookup key).isSome then cache else (key, found) :: cache).slots =
      if ((cache.lookup key).map _).isSome then cache.slots else (key, found.map _) :: cache.slots
    rw [Option.isSome_map]
    split
    · rfl
    · rfl

theorem foundCacheAfter_slots (g : ModuleGraph) (history : List ExportKey) :
    (foundCacheAfter g history).slots = cacheAfter g history := by
  have hrun : ∀ cache : FoundCache, (history.foldl (foundCacheAfterQuery g) cache).slots =
      history.foldl (cacheAfterQuery g) cache.slots := by
    induction history with
    | nil => exact fun cache => rfl
    | cons key rest ih =>
      intro cache
      rw [List.foldl_cons, List.foldl_cons, ih, foundCacheAfterQuery_slots]
  exact hrun []

/-- Apart from where slots are from, answers after earlier ones are those of queries. -/
theorem foundAfter_slots (g : ModuleGraph) (history : List ExportKey) (key : ExportKey) :
    (foundAfter g history key).map (Option.map FoundSlot.slot) = answerAfter g history key := by
  rw [foundAfter, findExport_slots, foundCacheAfter_slots, answerAfter_eq]

end ModuleBundler
