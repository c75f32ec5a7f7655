import ModuleBundler.Proofs.ExportHistory
import ModuleBundler.Proofs.Linked
import ModuleBundler.Proofs.StarWalks

/-!
# Answers that linking keeps

* `NonesRight` : an export that is kept to have no slot is one that the module does not have, after
  any queries (`cacheAfter_nonesRight`);
* `AskedSince` : answers after more queries, among which are all from before;
* `Settles` : what work with the answers gives agrees with all that are kept later;
* `Answered`, `Linkage.Answered` : exports are listed, and imports linked, as they are answered;
* `link_answered` : what links lead to are the answers that are kept in the end.
-/

namespace ModuleBundler

variable {g : ModuleGraph} {cache cache' : ExportCache} {key other : ExportKey}

/-! ## Answers that there is no such export -/

/-- The answers from before that there is no such export are right. -/
structure NonesRight (g : ModuleGraph) (cache : ExportCache) : Prop where
  lacks : NonesHold g cache
  own : ∀ key, cache.lookup key = some none → ¬ HasOwnExport g key

theorem NonesRight.not_exports (h : NonesRight g cache) (hlookup : cache.lookup key = some none) :
    ¬ Exports g key := by
  rintro (hown | ⟨hname, target, reach, hown⟩)
  · exact h.own key hlookup hown
  · obtain ⟨modules, without, htarget⟩ := (h.lacks key hname hlookup).of_reach reach
    exact without.own target htarget hown

theorem exportStep_of_own (h : HasOwnExport g key) : (exportStep g key).IsOwn := by
  obtain ⟨m, e, hm, he⟩ := h
  unfold exportStep
  rw [hm]
  dsimp only
  rw [he]
  exact ownStep_isOwn m key.1 e

/-- A lookup finds an export that a module has by name, or fails. -/
theorem NonesRight.not_own (h : NonesRight g cache) {depth : Nat} {visiting : List ExportKey}
    (hnone : resolveExport g cache depth visiting key = .ok none) : ¬ HasOwnExport g key := by
  intro hown
  cases depth with
  | zero => cases hnone
  | succ depth =>
    rw [resolveExport_succ] at hnone
    cases hlookup : cache.lookup key with
    | some answer =>
      rw [hlookup] at hnone
      cases hnone
      exact h.own key hlookup hown
    | none =>
      rw [hlookup] at hnone
      have hstep := exportStep_of_own hown
      rcases ExportStep.run_eq_none hnone with heq | ⟨entries, heq⟩
      · rw [heq] at hstep
        exact hstep rfl
      · rw [heq] at hstep
        exact hstep

/-- A query keeps such answers right. -/
theorem NonesRight.query (h : NonesRight g cache) (key : ExportKey) :
    NonesRight g (cacheAfterQuery g cache key) where
  lacks := h.lacks.query key
  own other hlookup := by
    rcases lookup_cacheAfterQuery_cases hlookup with hbefore | ⟨rfl, hnone⟩
    · exact h.own other hbefore
    · exact h.not_own hnone

theorem cacheAfter_nonesRight (g : ModuleGraph) (history : List ExportKey) :
    NonesRight g (cacheAfter g history) :=
  List.foldlRecOn history (cacheAfterQuery g) ⟨nonesHold_nil g, fun _ h => nomatch h⟩
    fun _ h key _ => h.query key

/-! ## Answers that are kept -/

/-- The second answers are those that are kept after queries with the help of the first. -/
def AskedSince (g : ModuleGraph) (cache cache' : ExportCache) : Prop :=
  ∃ history : List ExportKey, history.foldl (cacheAfterQuery g) cache = cache'

theorem AskedSince.refl (g : ModuleGraph) (cache : ExportCache) : AskedSince g cache cache :=
  ⟨[], rfl⟩

theorem AskedSince.trans {cache'' : ExportCache} (h : AskedSince g cache cache')
    (h' : AskedSince g cache' cache'') : AskedSince g cache cache'' := by
  obtain ⟨history, rfl⟩ := h
  obtain ⟨history', rfl⟩ := h'
  exact ⟨history ++ history', List.foldl_append⟩

theorem lookup_cacheAfterQuery {answer : Option Slot} (h : cache.lookup key = some answer)
    (other : ExportKey) : (cacheAfterQuery g cache other).lookup key = some answer := by
  rw [cacheAfterQuery, exportedSlot_run]
  cases resolveExport g cache g.lookupDepth [] other with
  | error e => exact h
  | ok slot =>
    change (if (cache.lookup other).isSome then cache else (other, slot) :: cache).lookup key = _
    split
    · exact h
    · rename_i hnew
      have hne : key ≠ other := by
        rintro rfl
        rw [h] at hnew
        exact hnew rfl
      rw [List.lookup_cons, beq_false_of_ne hne]
      exact h

/-- Answers stay. -/
theorem AskedSince.lookup (h : AskedSince g cache cache') {answer : Option Slot}
    (hanswer : cache.lookup key = some answer) : cache'.lookup key = some answer := by
  obtain ⟨history, rfl⟩ := h
  induction history generalizing cache with
  | nil => exact hanswer
  | cons other rest ih => exact ih (lookup_cacheAfterQuery hanswer other)

/-- The answer of a query is kept. -/
theorem lookup_of_exportedSlot {found : Option Slot}
    (h : exportedSlot g key cache = .ok (found, cache')) : cache'.lookup key = some found := by
  change (exportedSlot g key).run cache = _ at h
  rw [exportedSlot_run] at h
  obtain ⟨answer, hanswer, heq⟩ := map_eq_ok.mp h
  cases heq
  cases hlookup : cache.lookup key with
  | none =>
    change ((key, found) :: cache).lookup key = _
    rw [List.lookup_cons, beq_self_eq_true]
  | some before =>
    rw [ModuleGraph.lookupDepth, resolveExport_succ, hlookup] at hanswer
    cases hanswer
    exact hlookup

/-! ## Work that relies on answers -/

/-- What the work gives has a property with regard to all answers that are kept from then on. As the
answers are those in the end, all parts of the work speak of the same ones. -/
def Settles (g : ModuleGraph) {α : Type} (work : Linking α) (property : ExportCache → α → Prop) :
    Prop :=
  ∀ ⦃cache a cache'⦄, work cache = .ok (a, cache') →
    AskedSince g cache cache' ∧ ∀ final, AskedSince g cache' final → property final a

variable {α β : Type}

theorem Settles.bind {work : Linking α} {next : α → Linking β} {first : ExportCache → α → Prop}
    {property : ExportCache → β → Prop} (hwork : Settles g work first)
    (hnext : ∀ a, Settles g (next a) fun final b => first final a → property final b) :
    Settles g (work >>= next) property := by
  intro cache b cache'' h
  obtain ⟨a, cache', hfirst, h⟩ := stateBind_eq_ok.mp h
  obtain ⟨hasked, ha⟩ := hwork hfirst
  obtain ⟨hasked', hb⟩ := hnext a h
  refine ⟨hasked.trans hasked', fun final hfinal => ?_⟩
  exact hb final hfinal (ha final (hasked'.trans hfinal))

theorem settles_pure {a : α} {property : ExportCache → α → Prop} (h : ∀ final, property final a) :
    Settles g (pure a : Linking α) property := by
  intro cache a' cache' heq
  cases heq
  exact ⟨.refl g cache, fun final _ => h final⟩

theorem settles_liftM {work : Except CompileError α} {property : ExportCache → α → Prop}
    (h : ∀ a, work = .ok a → ∀ final, property final a) :
    Settles g (liftM work : Linking α) property := by
  intro cache a cache' heq
  cases work with
  | error e => cases heq
  | ok a =>
    cases heq
    exact ⟨.refl g cache, fun final _ => h a rfl final⟩

theorem settles_liftBind {work : Except CompileError α} {next : α → Linking β}
    {property : ExportCache → β → Prop}
    (h : ∀ a, work = .ok a → Settles g (next a) property) :
    Settles g (liftM work >>= next) property := by
  intro cache b cache' heq
  cases work with
  | error e => cases heq
  | ok a => exact h a rfl heq

theorem settles_mapM {work : α → Linking β} {property : α → ExportCache → β → Prop} {as : List α}
    (h : ∀ a ∈ as, Settles g (work a) (property a)) :
    Settles g (as.mapM work) fun final bs =>
      List.Forall₂ (fun a b => property a final b) as bs := by
  induction as with
  | nil => exact settles_pure fun _ => .nil
  | cons a as ih =>
    rw [List.mapM_cons]
    obtain ⟨hfirst, hrest⟩ := List.forall_mem_cons.mp h
    exact hfirst.bind fun b => (ih hrest).bind fun bs =>
      settles_pure fun _ hbs hb => .cons hb hbs

theorem settles_exportedSlot (g : ModuleGraph) (key : ExportKey) :
    Settles g (exportedSlot g key) fun final found => final.lookup key = some found := by
  intro cache found cache' h
  have hquery : cacheAfterQuery g cache key = cache' := by
    unfold cacheAfterQuery
    rw [show (exportedSlot g key).run cache = _ from h]
  exact ⟨⟨[key], hquery⟩, fun final hfinal => hfinal.lookup (lookup_of_exportedSlot h)⟩

/-! ## Imports -/

/-- What a module imports under a name from an export of another module is the answer about that. -/
def ImportAnswered (m : SourceModule) (answers : ExportCache) (name : String) (slot : Slot) :
    Prop :=
  ∀ request s key, m.importOf name = .ok (request, s) →
    m.requestTarget request s.imported = .ok (.inr key) → answers.lookup key = some (some slot)

theorem settles_importedSlot (g : ModuleGraph) (m : SourceModule) (name : String) :
    Settles g (importedSlot g m name) fun final slot => ImportAnswered m final name slot := by
  refine settles_liftBind fun (request, s) hs => settles_liftBind fun target htarget => ?_
  cases target with
  | inl slot =>
    refine settles_pure fun final request' s' key hs' htarget' => ?_
    cases hs.symm.trans hs'
    cases htarget.symm.trans htarget'
  | inr key =>
    refine (settles_exportedSlot g key).bind fun found => settles_liftM fun slot hslot final => ?_
    intro hanswer request' s' key' hs' htarget'
    cases hs.symm.trans hs'
    cases htarget.symm.trans htarget'
    rw [hanswer, orMissing_eq_ok.mp hslot]

/-- The slot of an import is listed under its variable. -/
def ImportListed (m : SourceModule) (answers : ExportCache) (entry : Nat × ImportSpecifier)
    (linked : BindingId × Slot) : Prop :=
  m.record.scopes.moduleBinding? entry.2.localName = some linked.1 ∧
    ImportAnswered m answers entry.2.localName linked.2

theorem settles_linkImports (g : ModuleGraph) (m : SourceModule) :
    Settles g (linkImports g m) fun final entries =>
      List.Forall₂ (ImportListed m final) m.importSpecifiers entries := by
  refine settles_mapM fun entry _ => ?_
  refine (settles_importedSlot g m entry.2.localName).bind fun slot => ?_
  split
  · rename_i binding hbinding
    exact settles_pure fun final hslot => ⟨hbinding, hslot⟩
  · exact fun _ _ _ h => nomatch h

/-! ## Exports -/

/-- Exports of a module are listed as they are answered: under every name that the module exports, in
order, with the slot that is the answer. -/
def Answered (g : ModuleGraph) (answers : ExportCache) (index : Nat) (exports : ExportList) : Prop :=
  List.Forall₂ (fun name e => e.1 = name ∧ answers.lookup (index, name) = some (some e.2))
    (exportNames g index) exports

/-- Exports that are found under names, if all of them are. -/
theorem forall₂_filterMap_id {related : α → β → Prop} {as : List α} {found : List (Option β)}
    (h : List.Forall₂ (fun a b? => ∃ b, b? = some b ∧ related a b) as found) :
    List.Forall₂ related as (found.filterMap id) := by
  induction h with
  | nil => exact .nil
  | cons hfirst _ ih =>
    obtain ⟨b, rfl, hrelated⟩ := hfirst
    exact .cons hrelated ih

/-- The answer about an export that a module has is a slot. -/
theorem NonesRight.exists_slot (h : NonesRight g cache) (hexports : Exports g key)
    {answer : Option Slot} (hanswer : cache.lookup key = some answer) :
    ∃ slot, answer = some slot := by
  cases answer with
  | some slot => exact ⟨slot, rfl⟩
  | none => exact absurd hexports (h.not_exports hanswer)

/-- No export of a module is left out for lack of a slot. -/
theorem settles_resolvedExports (hg : g.WellFormed) (index : Nat) :
    Settles g (resolvedExports g index) fun final exports =>
      NonesRight g final → Answered g final index exports := by
  have hslots : ∀ name ∈ exportNames g index, Settles g (do
      let slot ← exportedSlot g (index, name)
      pure (slot.map fun slot => (name, slot))) fun final found =>
        NonesRight g final → ∃ e, found = some e ∧ e.1 = name ∧
          final.lookup (index, name) = some (some e.2) := by
    intro name hname
    refine (settles_exportedSlot g (index, name)).bind fun answer => ?_
    refine settles_pure fun final hanswer hnones => ?_
    obtain ⟨slot, rfl⟩ := hnones.exists_slot ((mem_exportNames hg).mp hname) hanswer
    exact ⟨(name, slot), rfl, rfl, hanswer⟩
  refine (settles_mapM hslots).bind fun found => settles_pure fun final hfound hnones => ?_
  exact forall₂_filterMap_id (hfound.imp fun name b? h => h hnones)

/-- The exports of a namespace are those of its module, sorted. -/
def NamespaceAnswered (g : ModuleGraph) (answers : ExportCache) (entry : Nat × ExportList) : Prop :=
  ∃ exports, Answered g answers entry.1 exports ∧ entry.2 = sortExports exports

theorem settles_linkNamespaces (hg : g.WellFormed) (count : Nat) (pending : List Nat)
    (done : List (Nat × ExportList)) :
    Settles g (linkNamespaces g count pending done) fun final result =>
      NonesRight g final → ∀ entry ∈ result, entry ∈ done ∨ NamespaceAnswered g final entry := by
  induction count generalizing pending done with
  | zero => exact settles_pure fun _ _ entry hentry => .inl hentry
  | succ count ih =>
    unfold linkNamespaces
    split
    · exact settles_pure fun _ _ entry hentry => .inl hentry
    · rename_i index rest _
      refine (settles_resolvedExports hg index).bind fun exports => ?_
      -- What was listed before stands in `done`, which the rest of the work carries on.
      intro cache result cache' h
      obtain ⟨hasked, hresult⟩ := ih _ _ h
      refine ⟨hasked, fun final hfinal hexports hnones entry hentry => ?_⟩
      rcases hresult final hfinal hnones entry hentry with hdone | hentry
      · rcases List.mem_cons.mp hdone with rfl | hdone
        · exact .inr ⟨exports, hexports hnones, rfl⟩
        · exact .inl hdone
      · exact .inr hentry

/-! ## Linkages -/

/-- All imports are linked and all exports listed as they are answered. -/
structure Linkage.Answered (l : Linkage) (g : ModuleGraph) (answers : ExportCache) : Prop where
  imports : List.Forall₂ (fun m entries => List.Forall₂ (ImportListed m answers)
    m.importSpecifiers entries) g.modules.toList l.imports.toList
  entryExports : ModuleBundler.Answered g answers 0 l.entryExports
  namespaces : ∀ entry ∈ l.namespaces, NamespaceAnswered g answers entry

theorem settles_linkModules (hg : g.WellFormed) :
    Settles g (linkModules g) fun final l => NonesRight g final → l.Answered g final := by
  refine (settles_mapM fun m _ => settles_linkImports g m).bind fun imports => ?_
  refine (settles_resolvedExports hg 0).bind fun entryExports => ?_
  refine (settles_linkNamespaces hg _ _ _).bind fun namespaces => settles_pure ?_
  intro final hnamespaces hentry himports hnones
  refine ⟨himports, hentry hnones, fun entry hmem => ?_⟩
  exact (hnamespaces hnones entry (List.mem_mergeSort.mp hmem)).resolve_left List.not_mem_nil

/-- **What links lead to are the answers that are kept in the end.** -/
theorem link_answered (hg : g.WellFormed) {l : Linkage} (h : link g = .ok l) :
    ∃ history, l.Answered g (cacheAfter g history) := by
  obtain ⟨_, -, h⟩ := bind_eq_ok.mp h
  obtain ⟨⟨linkage, cache⟩, hrun, h⟩ := bind_eq_ok.mp h
  cases h
  obtain ⟨⟨history, hasked⟩, hlinked⟩ := settles_linkModules hg hrun
  rw [← show cacheAfter g history = cache from hasked] at hlinked
  exact ⟨history, hlinked _ (.refl g _) (cacheAfter_nonesRight g history)⟩

end ModuleBundler
