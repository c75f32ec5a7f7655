import ModuleBundler.Graph.Discovery
import ModuleBundler.Link.Linkage
import ModuleBundler.Proofs.ExportLookup

/-!
# Export lookups after earlier ones

* `cacheAfter` : the answers that are kept after a run of queries;
* `answerAfter`, `importAfter` : the answers about an export and an import after such a run;
* `StarsAgree` : what one export stands for, all lookups that come to it answer;
* `answersFixed_iff` : answers depend on no queries before, if and only if `StarsAgree` holds.

A lookup that comes to an export in a circle of stars may find it to have no answer, although it has
one when asked for on its own. Once that answer is kept, the same lookup ends with it.
-/

namespace ModuleBundler

/-! ## Runs of queries -/

/-- The answers that are kept after a query. One that fails adds none. -/
def cacheAfterQuery (g : ModuleGraph) (cache : ExportCache) (key : ExportKey) : ExportCache :=
  match (exportedSlot g key).run cache with
  | .ok (_, cache) => cache
  | .error _ => cache

/-- The answers that are kept after queries in a row. -/
def cacheAfter (g : ModuleGraph) (history : List ExportKey) : ExportCache :=
  history.foldl (cacheAfterQuery g) []

/-- The answer about an export after the queries `history`. -/
def answerAfter (g : ModuleGraph) (history : List ExportKey) (key : ExportKey) :
    Except CompileError (Option Slot) :=
  ((exportedSlot g key).run (cacheAfter g history)).map Prod.fst

/-- What a module imports under a name, after the queries `history`. -/
def importAfter (g : ModuleGraph) (history : List ExportKey) (m : SourceModule) (name : String) :
    Except CompileError Slot :=
  ((importedSlot g m name).run (cacheAfter g history)).map Prod.fst

/-- All lookups that come to an export which has an answer of its own have the same answer. -/
def StarsAgree (g : ModuleGraph) : Prop :=
  ∀ asked visiting passed slot, LookupPasses g asked visiting passed →
    freshAnswer g [] passed = .ok (some slot) → freshAnswer g [] asked = .ok (some slot)

/-- An entry that is found is the one in front, or was found before. -/
theorem lookup_cons_cases {α β : Type} [BEq α] [LawfulBEq α] {entries : List (α × β)}
    {key other : α} {value answer : β} (h : ((key, value) :: entries).lookup other = some answer) :
    entries.lookup other = some answer ∨ (other = key ∧ value = answer) := by
  rw [List.lookup_cons] at h
  by_cases hother : other = key
  · rw [hother, beq_self_eq_true] at h
    exact .inr ⟨hother, Option.some.inj h⟩
  · rw [beq_false_of_ne hother] at h
    exact .inl h

/-- An answer that is kept after a query was kept before, or is that of the query. -/
theorem lookup_cacheAfterQuery_cases {g : ModuleGraph} {cache : ExportCache} {key other : ExportKey}
    {answer : Option Slot} (h : (cacheAfterQuery g cache key).lookup other = some answer) :
    cache.lookup other = some answer ∨
      (other = key ∧ resolveExport g cache g.lookupDepth [] key = .ok answer) := by
  rw [cacheAfterQuery, exportedSlot_run] at h
  cases hanswer : resolveExport g cache g.lookupDepth [] key with
  | error e =>
    rw [hanswer] at h
    exact .inl h
  | ok slot =>
    rw [hanswer] at h
    change (if (cache.lookup key).isSome then cache else (key, slot) :: cache).lookup other = _ at h
    split at h
    · exact .inl h
    · rcases lookup_cons_cases h with hbefore | ⟨hother, rfl⟩
      · exact .inl hbefore
      · exact .inr ⟨hother, rfl⟩

theorem answerAfter_eq (g : ModuleGraph) (history : List ExportKey) (key : ExportKey) :
    answerAfter g history key =
      resolveExport g (cacheAfter g history) g.lookupDepth [] key := by
  rw [answerAfter, exportedSlot_run]
  cases resolveExport g (cacheAfter g history) g.lookupDepth [] key with
  | error e => rfl
  | ok slot => rfl

theorem answerAfter_nil (g : ModuleGraph) (key : ExportKey) :
    answerAfter g [] key = freshAnswer g [] key := answerAfter_eq g [] key

/-- What a module takes from an export, after the queries `history`. -/
theorem exportedSlot_orMissing_run (g : ModuleGraph) (history : List ExportKey) (m : SourceModule)
    (key : ExportKey) (span : Span) :
    ((exportedSlot g key >>= fun slot => liftM (g.orMissing m key span slot) :
      Linking Slot).run (cacheAfter g history)).map Prod.fst =
      (answerAfter g history key).bind (g.orMissing m key span) := by
  rw [answerAfter, StateT.run_bind]
  cases (exportedSlot g key).run (cacheAfter g history) with
  | error e => rfl
  | ok r =>
    change ((liftM (g.orMissing m key span r.1) : Linking Slot).run r.2).map Prod.fst =
      g.orMissing m key span r.1
    cases g.orMissing m key span r.1 with
    | error e => rfl
    | ok slot => rfl

/-- What is imported depends on the answers about exports alone. -/
theorem importAfter_congr {g : ModuleGraph} {history other : List ExportKey}
    (h : ∀ key, answerAfter g history key = answerAfter g other key) (m : SourceModule)
    (name : String) : importAfter g history m name = importAfter g other m name := by
  unfold importAfter importedSlot
  rw [liftBind_run, liftBind_run]
  cases m.importOf name with
  | error e => rfl
  | ok entry =>
    dsimp only [Except.bind]
    rw [liftBind_run, liftBind_run]
    cases m.requestTarget entry.1 entry.2.imported with
    | error e => rfl
    | ok target =>
      cases target with
      | inl slot => rfl
      | inr key =>
        refine (exportedSlot_orMissing_run g history m key entry.2.span).trans ?_
        rw [h key]
        exact (exportedSlot_orMissing_run g other m key entry.2.span).symm

/-! ## Lookups through stars -/

/-- Stars give no answer if and only if each of them leads to a module of the graph that was met
before or has no answer. -/
theorem resolveStars_eq_none_iff {lookup : ExportLookup} {visiting : List ExportKey}
    {name : String} {entries : List (String × Dependency)} {outside : Option Slot} :
    resolveStars lookup visiting name outside entries = .ok none ↔
      outside = none ∧ ∀ entry ∈ entries, ∃ target, entry.2 = .module target ∧
        ((target, name) ∈ visiting ∨ lookup visiting (target, name) = .ok none) := by
  induction entries generalizing outside with
  | nil => simp [resolveStars]
  | cons entry rest ih =>
    obtain ⟨specifier, dependency⟩ := entry
    rw [List.forall_mem_cons]
    cases dependency with
    | external =>
      rw [resolveStars, ih]
      cases outside <;> simp
    | module target =>
      rw [resolveStars]
      by_cases hmem : (target, name) ∈ visiting
      · rw [if_pos hmem, ih]
        simp [hmem]
      · rw [if_neg hmem, bind_eq_ok]
        constructor
        · rintro ⟨answer, hanswer, h⟩
          cases answer with
          | some slot => cases h
          | none => exact ⟨(ih.mp h).1, ⟨target, rfl, .inr hanswer⟩, (ih.mp h).2⟩
        · rintro ⟨hout, ⟨target', htarget, hfails⟩, hrest⟩
          cases htarget
          exact ⟨none, hfails.resolve_left hmem, ih.mpr ⟨hout, hrest⟩⟩

/-- A slot that the first of some stars to have an answer gives is the answer, whatever may be had
from outside. -/
theorem resolveStars_append {lookup : ExportLookup} {visiting : List ExportKey} {name : String}
    {before after : List (String × Dependency)} {specifier : String} {target : Nat} {slot : Slot}
    (hbefore : ∀ entry ∈ before, ∀ other, entry.2 = .module other → (other, name) ∈ visiting ∨
      lookup visiting (other, name) = .ok none ∨ lookup visiting (other, name) = .ok (some slot))
    (isNew : (target, name) ∉ visiting) (h : lookup visiting (target, name) = .ok (some slot))
    (outside : Option Slot) :
    resolveStars lookup visiting name outside
      (before ++ (specifier, .module target) :: after) = .ok (some slot) := by
  induction before generalizing outside with
  | nil =>
    rw [List.nil_append, resolveStars, if_neg isNew, h]
    rfl
  | cons entry rest ih =>
    obtain ⟨hentry, hrest⟩ := List.forall_mem_cons.mp hbefore
    obtain ⟨other, dependency⟩ := entry
    cases dependency with
    | external => exact ih hrest _
    | module index =>
      rw [List.cons_append, resolveStars]
      by_cases hmem : (index, name) ∈ visiting
      · rw [if_pos hmem]
        exact ih hrest outside
      · rw [if_neg hmem]
        rcases (hentry index rfl).resolve_left hmem with hnone | hsome
        · rw [hnone]
          exact ih hrest outside
        · rw [hsome]
          rfl

/-- Stars of which each fails or gives one and the same slot fail or give that slot. -/
theorem resolveStars_none_or {lookup : ExportLookup} {visiting : List ExportKey} {name : String}
    {entries : List (String × Dependency)} {slot : Slot}
    (h : ∀ entry ∈ entries, ∃ target, entry.2 = .module target ∧
      ((target, name) ∈ visiting ∨ lookup visiting (target, name) = .ok none ∨
        lookup visiting (target, name) = .ok (some slot))) :
    resolveStars lookup visiting name none entries = .ok none ∨
      resolveStars lookup visiting name none entries = .ok (some slot) := by
  induction entries with
  | nil => exact .inl rfl
  | cons entry rest ih =>
    obtain ⟨⟨target, htarget, hentry⟩, hrest⟩ := List.forall_mem_cons.mp h
    obtain ⟨specifier, dependency⟩ := entry
    cases htarget
    rw [resolveStars]
    by_cases hmem : (target, name) ∈ visiting
    · rw [if_pos hmem]
      exact ih hrest
    · rw [if_neg hmem]
      rcases hentry.resolve_left hmem with hnone | hsome
      · rw [hnone]
        exact ih hrest
      · rw [hsome]
        exact .inr rfl

/-! ## Lookups without an answer -/

theorem freshAnswer_eq {g : ModuleGraph} {asked key : ExportKey} {visiting : List ExportKey}
    (room : LookupRoom g (lookupNames g asked) visiting key) :
    freshAnswer g visiting key =
      (exportStep g key).run g (resolveExport g [] (g.lookupDepth - (visiting.length + 1)))
        (key :: visiting) key.2 := by
  rw [freshAnswer, room.depth_eq, resolveExport_succ]
  rfl

/-- A step with no answer is settled or through stars. -/
theorem ExportStep.run_eq_none {g : ModuleGraph} {lookup : ExportLookup}
    {visiting : List ExportKey} {name : String} {step : ExportStep}
    (h : step.run g lookup visiting name = .ok none) :
    step = .settled (.ok none) ∨ ∃ entries, step = .stars entries := by
  cases step with
  | settled answer => exact .inl (congrArg _ h)
  | forward m next span =>
    rw [ExportStep.run] at h
    split at h
    · cases h
    · obtain ⟨answer, -, h⟩ := bind_eq_ok.mp h
      obtain ⟨slot, -, h⟩ := map_eq_ok.mp h
      cases h
  | stars entries => exact .inr ⟨entries, rfl⟩

/-- A lookup that has no answer has none either once more exports have led to it. -/
theorem freshAnswer_eq_none {g : ModuleGraph} {asked : ExportKey} {depth : Nat}
    {visiting more : List ExportKey} {key : ExportKey}
    (room : LookupRoom g (lookupNames g asked) more key) (hsub : visiting ⊆ more)
    (h : resolveExport g [] depth visiting key = .ok none) :
    freshAnswer g more key = .ok none := by
  induction depth generalizing visiting more key with
  | zero => cases h
  | succ depth ih =>
    rw [resolveExport_succ] at h
    rw [freshAnswer_eq room]
    rcases ExportStep.run_eq_none h with hstep | ⟨entries, hstep⟩
    · rw [hstep]
      rfl
    · have hkey := exportStep_eq_stars hstep
      rw [hstep] at h ⊢
      obtain ⟨-, hentries⟩ := resolveStars_eq_none_iff.mp h
      refine resolveStars_eq_none_iff.mpr ⟨rfl, fun entry hentry => ?_⟩
      obtain ⟨target, htarget, hfails⟩ := hentries entry hentry
      have hcons := List.cons_subset_cons key hsub
      refine ⟨target, htarget, ?_⟩
      by_cases hmem : (target, key.2) ∈ key :: more
      · exact .inl hmem
      · have hnone := hfails.resolve_left fun hvisited => hmem (hcons hvisited)
        have hroom := room.next hkey (show (target, key.2).2 ∈ _ from room.name) hmem
        exact .inr (ih hroom hcons hnone)

/-! ## One answer from before -/

theorem lookup_single (known key : ExportKey) (slot : Option Slot) :
    ([(known, slot)] : ExportCache).lookup key = if key = known then some slot else none := by
  rw [List.lookup_cons]
  by_cases h : key = known
  · rw [if_pos h, h, beq_self_eq_true]
  · rw [if_neg h, beq_false_of_ne h]
    rfl

/-- With one answer from before, a lookup that had none has none still, or has that one. -/
theorem resolveExport_single {g : ModuleGraph} (known : ExportKey) (slot : Slot) {depth : Nat}
    {visiting : List ExportKey} {key : ExportKey}
    (h : resolveExport g [] depth visiting key = .ok none) :
    resolveExport g [(known, some slot)] depth visiting key = .ok none ∨
      resolveExport g [(known, some slot)] depth visiting key = .ok (some slot) := by
  induction depth generalizing visiting key with
  | zero => cases h
  | succ depth ih =>
    rw [resolveExport_succ] at h
    rw [resolveExport_succ, lookup_single]
    by_cases hknown : key = known
    · rw [if_pos hknown]
      exact .inr rfl
    · rw [if_neg hknown]
      rcases ExportStep.run_eq_none h with hstep | ⟨entries, hstep⟩
      · rw [hstep]
        exact .inl rfl
      · rw [hstep] at h ⊢
        obtain ⟨-, hentries⟩ := resolveStars_eq_none_iff.mp h
        refine resolveStars_none_or fun entry hentry => ?_
        obtain ⟨target, htarget, hfails⟩ := hentries entry hentry
        exact ⟨target, htarget, hfails.imp_right ih⟩

/-- A lookup that comes to the export of which the answer is known has that answer. -/
theorem LookupPasses.single {g : ModuleGraph} {asked known : ExportKey} {slot : Slot}
    {visiting : List ExportKey} {key : ExportKey} (passes : LookupPasses g asked visiting key)
    (h : resolveExport g [(known, some slot)] (g.lookupDepth - visiting.length) visiting key =
      .ok (some slot)) :
    resolveExport g [(known, some slot)] g.lookupDepth [] asked = .ok (some slot) := by
  -- The answer goes back along the way on which the lookup came.
  induction passes with
  | asked => exact h
  | @forward visiting key next m span passes step isNew ih =>
    apply ih
    rw [passes.room.depth_eq, resolveExport_succ, lookup_single]
    by_cases hknown : key = known
    · rw [if_pos hknown]
    · rw [if_neg hknown, step]
      change (if next ∈ key :: visiting then _ else _) = _
      rw [List.length_cons] at h
      rw [if_neg isNew, h]
      rfl
  | @star visiting key specifier target before after passes step fails isNew ih =>
    apply ih
    rw [passes.room.depth_eq, resolveExport_succ, lookup_single]
    by_cases hknown : key = known
    · rw [if_pos hknown]
    · rw [if_neg hknown, step]
      refine resolveStars_append (fun entry hentry other hother => ?_) isNew h none
      obtain ⟨specifier', dependency⟩ := entry
      cases hother
      exact (fails _ hentry).imp_right (resolveExport_single known slot)

/-! ## Answers that agree -/

/-- The answers from before are those that the lookups would have without any. -/
def CacheIsFresh (g : ModuleGraph) (cache : ExportCache) : Prop :=
  ∀ key slot, cache.lookup key = some slot → freshAnswer g [] key = .ok slot

/-- Two outcomes of what the lookup of an export comes to: they are the same, or the second is the
answer for the export that was asked for. -/
def SameOrFinal (g : ModuleGraph) (asked : ExportKey)
    (fresh other : Except CompileError (Option Slot)) : Prop :=
  other = fresh ∨ ∃ slot, freshAnswer g [] asked = .ok (some slot) ∧ other = .ok (some slot)

/-- Lookups through stars agree if those of the modules that they come to do. -/
theorem resolveStars_sameOrFinal {g : ModuleGraph} {asked key : ExportKey}
    {visiting : List ExportKey} {lookup other : ExportLookup}
    (passes : LookupPasses g asked visiting key)
    (hlookup : ∀ next, lookup (key :: visiting) next = freshAnswer g (key :: visiting) next)
    (hsame : ∀ next, LookupPasses g asked (key :: visiting) next →
      SameOrFinal g asked (lookup (key :: visiting) next) (other (key :: visiting) next))
    {before entries : List (String × Dependency)}
    (step : exportStep g key = .stars (before ++ entries))
    (fails : ∀ entry ∈ before, StarFails g (key :: visiting) key.2 entry)
    (outside : Option Slot) :
    SameOrFinal g asked (resolveStars lookup (key :: visiting) key.2 outside entries)
      (resolveStars other (key :: visiting) key.2 outside entries) := by
  -- The entries that were gone through move to those that failed.
  induction entries generalizing before outside with
  | nil => exact .inl rfl
  | cons entry rest ih =>
    have next : StarFails g (key :: visiting) key.2 entry → ∀ outside,
        SameOrFinal g asked (resolveStars lookup (key :: visiting) key.2 outside rest)
          (resolveStars other (key :: visiting) key.2 outside rest) := by
      intro hfails
      have hstep : exportStep g key = .stars ((before ++ [entry]) ++ rest) := by
        rw [step, List.append_assoc]
        rfl
      refine ih hstep ?_
      rw [List.forall_mem_append, List.forall_mem_singleton]
      exact ⟨fails, hfails⟩
    obtain ⟨specifier, dependency⟩ := entry
    cases dependency with
    | external => exact next trivial _
    | module target =>
      rw [resolveStars, resolveStars]
      by_cases hmem : (target, key.2) ∈ key :: visiting
      · rw [if_pos hmem, if_pos hmem]
        exact next (.inl hmem) outside
      · rw [if_neg hmem, if_neg hmem]
        rcases hsame _ (.star passes step fails hmem) with heq | ⟨slot, hasked, hother⟩
        · rw [heq]
          cases hanswer : lookup (key :: visiting) (target, key.2) with
          | error e => exact .inl rfl
          | ok answer =>
            cases answer with
            | some slot => exact .inl rfl
            | none => exact next (.inr ((hlookup _).symm.trans hanswer)) outside
        · rw [hother]
          exact .inr ⟨slot, hasked, rfl⟩

/-- With answers from before, what a lookup comes to has the same answer as without them, unless
that is the answer of the lookup as a whole. -/
theorem resolveExport_sameOrFinal {g : ModuleGraph} (agree : StarsAgree g) {cache : ExportCache}
    (hcache : CacheIsFresh g cache) {asked key : ExportKey} {visiting : List ExportKey}
    (passes : LookupPasses g asked visiting key) {depth : Nat}
    (hdepth : g.lookupDepth - visiting.length = depth) :
    SameOrFinal g asked (freshAnswer g visiting key) (resolveExport g cache depth visiting key) := by
  induction depth generalizing visiting key with
  | zero =>
    have := passes.room.length_lt
    omega
  | succ depth ih =>
    have hnext : g.lookupDepth - (key :: visiting).length = depth := by
      rw [List.length_cons]
      omega
    rw [resolveExport_succ]
    cases hlookup : cache.lookup key with
    | some answer =>
      have hfresh := hcache key answer hlookup
      cases answer with
      | none =>
        exact .inl (freshAnswer_eq_none passes.room (List.nil_subset _) hfresh).symm
      | some slot => exact .inr ⟨slot, agree asked visiting key slot passes hfresh, rfl⟩
    | none =>
      rw [freshAnswer_eq passes.room, ← List.length_cons (a := key), hnext]
      have hsame : ∀ next, LookupPasses g asked (key :: visiting) next →
          SameOrFinal g asked (resolveExport g [] depth (key :: visiting) next)
            (resolveExport g cache depth (key :: visiting) next) := by
        intro next hpasses
        have := ih hpasses hnext
        rwa [freshAnswer, hnext] at this
      cases step : exportStep g key with
      | settled answer => exact .inl rfl
      | forward m next span =>
        change SameOrFinal g asked (if next ∈ key :: visiting then _ else _)
          (if next ∈ key :: visiting then _ else _)
        by_cases hmem : next ∈ key :: visiting
        · rw [if_pos hmem, if_pos hmem]
          exact .inl rfl
        · rw [if_neg hmem, if_neg hmem]
          rcases hsame next (.forward passes step hmem) with heq | ⟨slot, hasked, hother⟩
          · rw [heq]
            exact .inl rfl
          · rw [hother]
            exact .inr ⟨slot, hasked, rfl⟩
      | stars entries =>
        have hstep : exportStep g key = .stars ([] ++ entries) := step
        refine resolveStars_sameOrFinal passes (fun next => ?_) hsame hstep
          (fun entry hentry => absurd hentry List.not_mem_nil) none
        rw [freshAnswer, hnext]

theorem resolveExport_eq_freshAnswer {g : ModuleGraph} (agree : StarsAgree g)
    {cache : ExportCache} (hcache : CacheIsFresh g cache) (key : ExportKey) :
    resolveExport g cache g.lookupDepth [] key = freshAnswer g [] key := by
  have hasked : LookupPasses g key [] key := .asked
  rcases resolveExport_sameOrFinal agree hcache hasked rfl with heq | ⟨slot, hasked, hother⟩
  · exact heq
  · exact hother.trans hasked.symm

/-- A query keeps answers as they would be without any. -/
theorem CacheIsFresh.query {g : ModuleGraph} (agree : StarsAgree g) {cache : ExportCache}
    (hcache : CacheIsFresh g cache) (key : ExportKey) :
    CacheIsFresh g (cacheAfterQuery g cache key) := by
  intro other answer h
  rcases lookup_cacheAfterQuery_cases h with hbefore | ⟨rfl, hanswer⟩
  · exact hcache other answer hbefore
  · rw [← hanswer, resolveExport_eq_freshAnswer agree hcache]

theorem cacheAfter_isFresh {g : ModuleGraph} (agree : StarsAgree g) (history : List ExportKey) :
    CacheIsFresh g (cacheAfter g history) :=
  List.foldlRecOn history (cacheAfterQuery g) (fun _ _ h => nomatch h)
    fun _ hcache key _ => hcache.query agree key

/-- The answer about an export, once that about one that its lookup comes to is kept. -/
theorem LookupPasses.answerAfter_single {g : ModuleGraph} {asked passed : ExportKey} {slot : Slot}
    {visiting : List ExportKey} (passes : LookupPasses g asked visiting passed)
    (h : freshAnswer g [] passed = .ok (some slot)) :
    answerAfter g [passed] asked = .ok (some slot) := by
  have hcache : cacheAfter g [passed] = [(passed, some slot)] := by
    change cacheAfterQuery g [] passed = _
    have hanswer : resolveExport g [] g.lookupDepth [] passed = .ok (some slot) := h
    rw [cacheAfterQuery, exportedSlot_run, hanswer]
    rfl
  rw [answerAfter_eq, hcache]
  refine passes.single ?_
  rw [passes.room.depth_eq, resolveExport_succ, lookup_single, if_pos rfl]

/-- **Answers depend on no queries before**, about exports and about imports, if and only if all
lookups that come to an export which has an answer of its own have the same answer. -/
theorem answersFixed_iff (g : ModuleGraph) :
    ((∀ history key, answerAfter g history key = answerAfter g [] key) ∧
      ∀ history m name, importAfter g history m name = importAfter g [] m name) ↔
    StarsAgree g := by
  constructor
  · rintro ⟨hanswers, -⟩ asked visiting passed slot passes h
    rw [← answerAfter_nil, ← hanswers [passed] asked]
    exact passes.answerAfter_single h
  · intro agree
    have hanswers : ∀ history key, answerAfter g history key = answerAfter g [] key := by
      intro history key
      rw [answerAfter_nil, answerAfter_eq]
      exact resolveExport_eq_freshAnswer agree (cacheAfter_isFresh agree history) key
    exact ⟨hanswers, fun history m name => importAfter_congr (hanswers history) m name⟩

/-! ## Crossed stars -/

/-- Two modules that take over each other's exports, and each those of one that has an export `x`.
The entry imports that from both. -/
def crossedStars : ModuleProvider where
  resolve specifier _ := .ok (.module (.file specifier))
  load
    | .file "/index.js" => .text
      "import { x as p } from \"./b.js\";\nimport { x as q } from \"./a.js\";\nconsole.log(p, q);\n"
    | .file "./a.js" => .text "export * from \"./b.js\";\nexport * from \"./c.js\";\n"
    | .file "./b.js" => .text "export * from \"./a.js\";\nexport * from \"./d.js\";\n"
    | .file "./c.js" => .text "export const x = \"c\";\n"
    | .file "./d.js" => .text "export const x = \"d\";\n"
    | id => .failed (.missing id.text)

/-- The graph of the entry of crossed stars, which `./b.js`, `./a.js`, `./d.js` and `./c.js`
follow. -/
def crossedGraph : Option ModuleGraph :=
  (discover crossedStars (fun _ => false) 5).bind fun logged => logged.result.toOption

/-- On its own `x` of `./a.js` is that of `./d.js`. After `x` of `./b.js` was asked for it is that of
`./c.js`, although the graph has no duplicate exports. -/
theorem crossedGraph_answers_differ :
    ∃ g, crossedGraph = some g ∧ g.checkExports.toOption = some () ∧
      (answerAfter g [] (2, "x")).toOption = some (some (.declared 3 0)) ∧
      (answerAfter g [(1, "x")] (2, "x")).toOption = some (some (.declared 4 0)) ∧
      answerAfter g [(1, "x")] (2, "x") ≠ answerAfter g [] (2, "x") := by
  have hgraph : (crossedGraph.any fun g =>
      g.checkExports.toOption = some () ∧
      (answerAfter g [] (2, "x")).toOption = some (some (.declared 3 0)) ∧
      (answerAfter g [(1, "x")] (2, "x")).toOption = some (some (.declared 4 0))) = true := by
    decide +kernel
  obtain ⟨g, hg, h⟩ := (Option.any_eq_true _ _).mp hgraph
  obtain ⟨hexports, hfresh, hafter⟩ := of_decide_eq_true h
  refine ⟨g, hg, hexports, hfresh, hafter, fun heq => ?_⟩
  rw [heq, hfresh] at hafter
  cases hafter

end ModuleBundler
