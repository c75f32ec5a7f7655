import ModuleBundler.Proofs.BoundNames
import ModuleBundler.Proofs.Reachability
import ModuleBundler.Shake

/-!
# The needs of a bundle are the least that suffice

* `ModuleGraph.ItemAt` : where the items of a graph are;
* `Suffices g l dropUnused kept live` : kept items and live slots lack nothing that a bundle needs;
* `suffices_iff_closedUnder` : the same as a set that no step from a need to its needs leaves;
* `shake_searches` : the needs are found before the count of `shake` is used up;
* `shake_least` : they are the least that suffice, in whatever order they are looked for.
-/

namespace ModuleBundler

/-- The item of a graph at the indices of a module and of an item in it. -/
def ModuleGraph.ItemAt (g : ModuleGraph) (module index : Nat) (m : SourceModule)
    (item : ModuleItem) : Prop :=
  g.modules[module]? = some m ∧ m.record.items[index]? = some item

/-- Kept items and live slots that lack nothing that a bundle needs. -/
structure Suffices (g : ModuleGraph) (l : Linkage) (dropUnused : Bool) (kept : Nat → Nat → Prop)
    (live : Slot → Prop) : Prop where
  entryExport : ∀ e ∈ l.entryExports, live e.2
  root : ∀ module index m item, g.ItemAt module index m item →
    dropUnused = false ∨ m.id = .file entryPath ∨ item.kind.isDeclaration = false ∨
      item.hasSideEffects = true → kept module index
  reference : ∀ module index m item, g.ItemAt module index m item → kept module index →
    ∀ r, item.references.start ≤ r → r < item.references.stop →
      ∀ slot, l.referenceSlot m module r = some slot → live slot
  dynamicImport : ∀ module index m item, g.ItemAt module index m item → kept module index →
    ∀ (d : Nat) dynamic dependency, m.record.dynamicImports[d]? = some dynamic →
      m.dynamicImports[d]? = some dependency → item.span.contains dynamic.span.start →
      ∀ slot, dependency.dynamicSlot? = some slot → live slot
  declaration : ∀ module index m item, g.ItemAt module index m item →
    ∀ binding ∈ m.record.itemBindings item, live (.declared module binding) → kept module index
  namespaceExport : ∀ module exports, l.namespaces.lookup module = some exports →
    live (.namespaceOf module) → ∀ e ∈ exports, live e.2

/-! ## Members of the lists -/

theorem SourceModule.mem_dynamicSlots {m : SourceModule} {dynamic : DynamicImport} {slot : Slot} :
    (dynamic, slot) ∈ m.dynamicSlots ↔
      ∃ (d : Nat) (dependency : Dependency), m.record.dynamicImports[d]? = some dynamic ∧
        m.dynamicImports[d]? = some dependency ∧ dependency.dynamicSlot? = some slot := by
  have hzip : ∀ dependency : Dependency,
      (dynamic, dependency) ∈ m.record.dynamicImports.toList.zip m.dynamicImports ↔
        ∃ d : Nat, m.record.dynamicImports[d]? = some dynamic ∧
          m.dynamicImports[d]? = some dependency := by
    intro dependency
    simp only [List.mem_iff_getElem?, List.getElem?_zip_eq_some, Array.getElem?_toList]
  simp only [dynamicSlots, List.mem_filterMap, Option.map_eq_some_iff, Prod.mk.injEq, Prod.exists]
  constructor
  · rintro ⟨_, dependency, hmem, _, hs, rfl, rfl⟩
    obtain ⟨d, hd, hdep⟩ := (hzip dependency).mp hmem
    exact ⟨d, dependency, hd, hdep, hs⟩
  · rintro ⟨d, dependency, hd, hdep, hs⟩
    exact ⟨dynamic, dependency, (hzip dependency).mpr ⟨d, hd, hdep⟩, slot, hs, rfl, rfl⟩

theorem SourceModule.mem_itemSlots {m : SourceModule} {l : Linkage} {index : Nat}
    {item : ModuleItem} {slot : Slot} :
    slot ∈ m.itemSlots l index item ↔
      (∃ r, (item.references.start ≤ r ∧ r < item.references.stop) ∧
        l.referenceSlot m index r = some slot) ∨
      ∃ dynamic, (dynamic, slot) ∈ m.dynamicSlots ∧ item.span.contains dynamic.span.start := by
  simp [itemSlots, IndexRange.mem_toList]

theorem SourceModule.mem_declaringItems {m : SourceModule} {binding : BindingId} {index : Nat} :
    index ∈ m.declaringItems binding ↔
      ∃ item, m.record.items[index]? = some item ∧ binding ∈ m.record.itemBindings item := by
  simp [declaringItems, List.mk_mem_zipIdx_iff_getElem?]

theorem ModuleGraph.mem_allItems {g : ModuleGraph} {need : Need} :
    need ∈ g.allItems ↔ ∃ module index m item, g.ItemAt module index m item ∧
      need = .item module index := by
  simp only [allItems, List.mem_flatMap, List.mem_map, List.mem_range, Prod.exists,
    List.mk_mem_zipIdx_iff_getElem?, Array.getElem?_toList, ItemAt]
  constructor
  · rintro ⟨m, module, hm, index, hi, rfl⟩
    exact ⟨module, index, m, m.record.items[index], ⟨hm, Array.getElem?_eq_getElem hi⟩, rfl⟩
  · rintro ⟨module, index, m, item, ⟨hm, hi⟩, rfl⟩
    exact ⟨m, module, hm, index, (Array.getElem?_eq_some_iff.mp hi).1, rfl⟩

theorem Needs.mem_keptItems {needs : Needs} {m : SourceModule} {module : Nat} {item : ModuleItem} :
    item ∈ needs.keptItems m module ↔
      ∃ index, m.record.items[index]? = some item ∧ needs.keeps module index = true := by
  simp only [keptItems, List.mem_filterMap, Prod.exists, List.mk_mem_zipIdx_iff_getElem?,
    Array.getElem?_toList, Option.ite_none_right_eq_some, Option.some.injEq]
  constructor
  · rintro ⟨_, index, hi, hk, rfl⟩
    exact ⟨index, hi, hk⟩
  · rintro ⟨index, hi, hk⟩
    exact ⟨item, index, hi, hk, rfl⟩

theorem SourceModule.isRoot_iff {m : SourceModule} {item : ModuleItem} :
    m.isRoot item = true ↔ m.id = .file entryPath ∨ item.kind.isDeclaration = false ∨
      item.hasSideEffects = true := by
  simp [isRoot, or_assoc]

theorem mem_roots {g : ModuleGraph} {l : Linkage} {dropUnused : Bool} {need : Need} :
    need ∈ roots g l dropUnused ↔ (∃ e ∈ l.entryExports, need = .slot e.2) ∨
      ∃ module index m item, g.ItemAt module index m item ∧
        (dropUnused = false ∨ m.id = .file entryPath ∨ item.kind.isDeclaration = false ∨
          item.hasSideEffects = true) ∧ need = .item module index := by
  simp only [roots, List.mem_append, List.mem_map, List.mem_flatMap, List.mem_filterMap,
    Prod.exists, List.mk_mem_zipIdx_iff_getElem?, Array.getElem?_toList, Bool.or_eq_true,
    Bool.not_eq_true', Option.ite_none_right_eq_some, Option.some.injEq, SourceModule.isRoot_iff,
    ModuleGraph.ItemAt]
  refine or_congr ⟨?_, ?_⟩ ⟨?_, ?_⟩
  · rintro ⟨name, slot, he, rfl⟩
    exact ⟨name, slot, he, rfl⟩
  · rintro ⟨name, slot, he, rfl⟩
    exact ⟨name, slot, he, rfl⟩
  · rintro ⟨m, module, hm, item, index, hi, hroot, rfl⟩
    exact ⟨module, index, m, item, ⟨hm, hi⟩, hroot, rfl⟩
  · rintro ⟨module, index, m, item, ⟨hm, hi⟩, hroot, rfl⟩
    exact ⟨m, module, hm, item, index, hi, hroot, rfl⟩

/-! ## Steps from needs to needs -/

/-- What kept items and live slots are together. -/
def NeedSet (kept : Nat → Nat → Prop) (live : Slot → Prop) : Need → Prop
  | .item module index => kept module index
  | .slot slot => live slot

theorem Need.mem_next_item {g : ModuleGraph} {l : Linkage} {module index : Nat} {need : Need} :
    need ∈ Need.next g l (.item module index) ↔ ∃ m item slot, g.ItemAt module index m item ∧
      slot ∈ m.itemSlots l module item ∧ need = .slot slot := by
  cases hm : g.modules[module]? with
  | none => simp [Need.next, ModuleGraph.ItemAt, hm]
  | some m =>
    cases hi : m.record.items[index]? with
    | none => simp [Need.next, ModuleGraph.ItemAt, hm, hi]
    | some item => simp [Need.next, ModuleGraph.ItemAt, hm, hi, eq_comm]

theorem Need.mem_next_declared {g : ModuleGraph} {l : Linkage} {module : Nat}
    {binding : BindingId} {need : Need} :
    need ∈ Need.next g l (.slot (.declared module binding)) ↔
      ∃ index m item, g.ItemAt module index m item ∧ binding ∈ m.record.itemBindings item ∧
        need = .item module index := by
  cases hm : g.modules[module]? with
  | none => simp [Need.next, ModuleGraph.ItemAt, hm]
  | some m =>
    simp only [Need.next, ModuleGraph.ItemAt, hm, List.mem_map, SourceModule.mem_declaringItems,
      Option.some.injEq]
    constructor
    · rintro ⟨index, ⟨item, hi, hb⟩, rfl⟩
      exact ⟨index, m, item, ⟨rfl, hi⟩, hb, rfl⟩
    · rintro ⟨index, _, item, ⟨rfl, hi⟩, hb, rfl⟩
      exact ⟨index, ⟨item, hi, hb⟩, rfl⟩

theorem Need.mem_next_namespaceOf {g : ModuleGraph} {l : Linkage} {module : Nat} {need : Need} :
    need ∈ Need.next g l (.slot (.namespaceOf module)) ↔
      ∃ exports e, l.namespaces.lookup module = some exports ∧ e ∈ exports ∧
        need = .slot e.2 := by
  cases h : l.namespaces.lookup module with
  | none => simp [Need.next, Linkage.namespaceExports, h]
  | some exports => simp [Need.next, Linkage.namespaceExports, h, eq_comm]

/-- To lack nothing is to be left by no step. -/
theorem suffices_iff_closedUnder {g : ModuleGraph} {l : Linkage} {dropUnused : Bool}
    {kept : Nat → Nat → Prop} {live : Slot → Prop} :
    Suffices g l dropUnused kept live ↔
      ClosedUnder (Need.next g l) (roots g l dropUnused) (NeedSet kept live) := by
  constructor
  · intro h
    refine ⟨fun need hneed => ?_, fun need hS next hnext => ?_⟩
    · rcases mem_roots.mp hneed with ⟨e, he, rfl⟩ | ⟨module, index, m, item, hat, hroot, rfl⟩
      · exact h.entryExport e he
      · exact h.root module index m item hat hroot
    · match need with
      | .item module index =>
        obtain ⟨m, item, slot, hat, hslot, rfl⟩ := Need.mem_next_item.mp hnext
        rcases SourceModule.mem_itemSlots.mp hslot with ⟨r, hr, hrs⟩ | ⟨dynamic, hd, hin⟩
        · exact h.reference module index m item hat hS r hr.1 hr.2 slot hrs
        · obtain ⟨d, dependency, hd, hdep, hs⟩ := SourceModule.mem_dynamicSlots.mp hd
          exact h.dynamicImport module index m item hat hS d dynamic dependency hd hdep hin slot hs
      | .slot (.declared module binding) =>
        obtain ⟨index, m, item, hat, hb, rfl⟩ := Need.mem_next_declared.mp hnext
        exact h.declaration module index m item hat binding hb hS
      | .slot (.namespaceOf module) =>
        obtain ⟨exports, e, hl, he, rfl⟩ := Need.mem_next_namespaceOf.mp hnext
        exact h.namespaceExport module exports hl hS e he
      | .slot (.external specifier imported) => exact absurd hnext List.not_mem_nil
  · intro h
    refine ⟨fun e he => ?_, fun module index m item hat hroot => ?_,
      fun module index m item hat hk r hr hr' slot hs => ?_,
      fun module index m item hat hk d dynamic dependency hd hdep hin slot hs => ?_,
      fun module index m item hat binding hb hlive => ?_,
      fun module exports hl hlive e he => ?_⟩
    · exact h.start _ (mem_roots.mpr (Or.inl ⟨e, he, rfl⟩))
    · exact h.start _ (mem_roots.mpr (Or.inr ⟨module, index, m, item, hat, hroot, rfl⟩))
    · have hslot := SourceModule.mem_itemSlots.mpr (Or.inl ⟨r, ⟨hr, hr'⟩, hs⟩)
      exact h.step (.item module index) hk _ (Need.mem_next_item.mpr ⟨m, item, slot, hat, hslot, rfl⟩)
    · have hd := SourceModule.mem_dynamicSlots.mpr ⟨d, dependency, hd, hdep, hs⟩
      have hslot : slot ∈ m.itemSlots l module item :=
        SourceModule.mem_itemSlots.mpr (Or.inr ⟨dynamic, hd, hin⟩)
      exact h.step (.item module index) hk _ (Need.mem_next_item.mpr ⟨m, item, slot, hat, hslot, rfl⟩)
    · exact h.step (.slot (.declared module binding)) hlive _
        (Need.mem_next_declared.mpr ⟨index, m, item, hat, hb, rfl⟩)
    · exact h.step (.slot (.namespaceOf module)) hlive _
        (Need.mem_next_namespaceOf.mpr ⟨exports, e, hl, he, rfl⟩)

/-! ## The count of the search -/

/-- All that anything may need: a list as long as the count of `shake`. -/
def allNeeds (g : ModuleGraph) (l : Linkage) : List Need :=
  (l.entryExports.map fun e => .slot e.2) ++ g.allItems ++ g.allItems.flatMap (Need.next g l) ++
    l.namespaces.flatMap fun entry => entry.2.map fun e => .slot e.2

theorem length_allNeeds (g : ModuleGraph) (l : Linkage) :
    (allNeeds g l).length = needCount g l := by
  simp [allNeeds, needCount, List.length_flatMap, Nat.add_assoc]

theorem mem_allNeeds_of_mem_roots {g : ModuleGraph} {l : Linkage} {dropUnused : Bool}
    {need : Need} (h : need ∈ roots g l dropUnused) : need ∈ allNeeds g l := by
  simp only [allNeeds, List.mem_append, or_assoc]
  rcases mem_roots.mp h with ⟨e, he, rfl⟩ | ⟨module, index, m, item, hat, -, rfl⟩
  · exact Or.inl (List.mem_map.mpr ⟨e, he, rfl⟩)
  · exact Or.inr (Or.inl (ModuleGraph.mem_allItems.mpr ⟨module, index, m, item, hat, rfl⟩))

theorem mem_allNeeds_of_mem_next {g : ModuleGraph} {l : Linkage} {need next : Need}
    (h : next ∈ Need.next g l need) : next ∈ allNeeds g l := by
  simp only [allNeeds, List.mem_append, or_assoc]
  match need with
  | .item module index =>
    obtain ⟨m, item, _, hat, _, _⟩ := Need.mem_next_item.mp h
    have hitem := ModuleGraph.mem_allItems.mpr ⟨module, index, m, item, hat, rfl⟩
    exact Or.inr (Or.inr (Or.inl (List.mem_flatMap.mpr ⟨_, hitem, h⟩)))
  | .slot (.declared module binding) =>
    obtain ⟨index, m, item, hat, -, rfl⟩ := Need.mem_next_declared.mp h
    exact Or.inr (Or.inl (ModuleGraph.mem_allItems.mpr ⟨module, index, m, item, hat, rfl⟩))
  | .slot (.namespaceOf module) =>
    obtain ⟨exports, e, hl, he, rfl⟩ := Need.mem_next_namespaceOf.mp h
    obtain ⟨before, after, heq, -⟩ := List.lookup_eq_some_iff.mp hl
    have hmem : (module, exports) ∈ l.namespaces := by simp [heq]
    exact Or.inr (Or.inr (Or.inr (List.mem_flatMap.mpr
      ⟨_, hmem, List.mem_map.mpr ⟨e, he, rfl⟩⟩)))
  | .slot (.external specifier imported) => exact absurd h List.not_mem_nil

/-- The count of `shake` is large enough to find all needs. -/
theorem shake_searches (g : ModuleGraph) (l : Linkage) (dropUnused : Bool) :
    Searches (Need.next g l) (roots g l dropUnused).eraseDups (roots g l dropUnused).eraseDups
      (shake g l dropUnused).all := by
  refine reachable_searches (Need.next g l) (allNeeds g l) (roots g l dropUnused) ?_ ?_ _ ?_
  · exact fun _ _ _ h => mem_allNeeds_of_mem_next h
  · exact fun _ h => mem_allNeeds_of_mem_roots h
  · exact Nat.le_of_eq (length_allNeeds g l)

/-! ## The least needs that suffice -/

theorem Needs.keeps_iff {needs : Needs} {module index : Nat} :
    needs.keeps module index = true ↔ Need.item module index ∈ needs.all :=
  List.contains_iff_mem

theorem Needs.isLive_iff {needs : Needs} {slot : Slot} :
    needs.isLive slot = true ↔ Need.slot slot ∈ needs.all :=
  List.contains_iff_mem

theorem Needs.needSet_iff {needs : Needs} {need : Need} :
    NeedSet (fun module index => needs.keeps module index) (fun slot => needs.isLive slot) need ↔
      need ∈ needs.all := by
  cases need with
  | item module index => exact Needs.keeps_iff
  | slot slot => exact Needs.isLive_iff

theorem shake_closedUnder (g : ModuleGraph) (l : Linkage) (dropUnused : Bool) :
    ClosedUnder (Need.next g l) (roots g l dropUnused) (· ∈ (shake g l dropUnused).all) :=
  closedUnder_eraseDups.mp ((shake_searches g l dropUnused).closed (.start _ _))

/-- What `shake` finds lacks nothing. -/
theorem shake_suffices (g : ModuleGraph) (l : Linkage) (dropUnused : Bool) :
    Suffices g l dropUnused (fun module index => (shake g l dropUnused).keeps module index)
      (fun slot => (shake g l dropUnused).isLive slot) := by
  have hset : NeedSet (fun module index => (shake g l dropUnused).keeps module index)
      (fun slot => (shake g l dropUnused).isLive slot) = (· ∈ (shake g l dropUnused).all) :=
    funext fun need => propext Needs.needSet_iff
  rw [suffices_iff_closedUnder, hset]
  exact shake_closedUnder g l dropUnused

/-- **The needs of a bundle are the least that suffice**: they lack nothing, everything that lacks
nothing has them all, and every search finds them, in whatever order it takes what is pending. -/
theorem shake_least (g : ModuleGraph) (l : Linkage) (dropUnused : Bool) :
    Suffices g l dropUnused (fun module index => (shake g l dropUnused).keeps module index)
      (fun slot => (shake g l dropUnused).isLive slot) ∧
    (∀ kept live, Suffices g l dropUnused kept live →
      (∀ module index, (shake g l dropUnused).keeps module index → kept module index) ∧
      ∀ slot, (shake g l dropUnused).isLive slot → live slot) ∧
    ∀ found, Searches (Need.next g l) (roots g l dropUnused).eraseDups
        (roots g l dropUnused).eraseDups found →
      (∀ module index, Need.item module index ∈ found ↔
        (shake g l dropUnused).keeps module index) ∧
      ∀ slot, Need.slot slot ∈ found ↔ (shake g l dropUnused).isLive slot := by
  refine ⟨shake_suffices g l dropUnused, fun kept live h => ?_, fun found h => ?_⟩
  · have hsub := (shake_searches g l dropUnused).subset (.start _ _)
      (closedUnder_eraseDups.mpr (suffices_iff_closedUnder.mp h))
    exact ⟨fun module index hk => hsub _ (Needs.keeps_iff.mp hk),
      fun slot hl => hsub _ (Needs.isLive_iff.mp hl)⟩
  · have hiff := h.mem_iff (shake_searches g l dropUnused)
    exact ⟨fun module index => (hiff _).trans Needs.keeps_iff.symm,
      fun slot => (hiff _).trans Needs.isLive_iff.symm⟩

end ModuleBundler
