import Mathlib.Data.List.Nodup
import Mathlib.Data.List.Perm.Subperm
import Std.Data.String.ToNat
import ModuleBundler.Naming
import ModuleBundler.Proofs.Enclosing
import ModuleBundler.Proofs.Needs

/-!
# Names that capture nothing

* `freeName_not_mem` : a free name is not taken, since the numbered names are all different;
* `mem_nameSlots` : what the name of a slot avoids; `nodup_nameSlots` : names are given once;
* `assignNames_captureFree` : no two slots share a name, no name is one of a global that is read,
  and no scope around a use of a slot declares the name of the slot.
-/

namespace ModuleBundler

/-! ## Free names -/

theorem numberedName_injective (base : String) : Function.Injective (numberedName base) := by
  intro i j h
  have hlen : ∀ n, n ≠ 0 → numberedName base n ≠ base := by
    intro n hn heq
    have := congrArg String.length heq
    simp only [numberedName, if_neg hn, String.length_append] at this
    have hdollar : "$".length = 1 := rfl
    omega
  by_cases hi : i = 0
  · subst hi
    by_contra hj
    exact hlen j (Ne.symm hj) h.symm
  · by_cases hj : j = 0
    · subst hj
      exact absurd h (hlen i hi)
    · simp only [numberedName, if_neg hi, if_neg hj] at h
      have hlist := congrArg String.toList h
      simp only [String.toList_append, List.append_cancel_left_eq] at hlist
      exact Nat.repr_injective (String.toList_injective hlist)

/-- One of the numbered names is free, and it is the one that is chosen. -/
theorem freeName_not_mem (taken : List String) (base : String) : freeName taken base ∉ taken := by
  have hfree : ∃ name ∈ (List.range (taken.length + 1)).map (numberedName base),
      (!taken.contains name) = true := by
    by_contra hall
    have hsub : (List.range (taken.length + 1)).map (numberedName base) ⊆ taken := by
      intro name hname
      by_contra hnot
      exact hall ⟨name, hname, by simpa using hnot⟩
    have hnodup : ((List.range (taken.length + 1)).map (numberedName base)).Nodup :=
      List.nodup_range.map (numberedName_injective base)
    have := (List.subperm_of_subset hnodup hsub).length_le
    simp only [List.length_map, List.length_range] at this
    omega
  obtain ⟨name, hname⟩ := Option.isSome_iff_exists.mp (List.find?_isSome.mpr hfree)
  have hnot := List.find?_some hname
  simp only [freeName, hname, Option.getD_some]
  simpa using hnot

/-! ## Names of slots -/

section
variable {desired : Slot → String} {uses : List SlotUse}

/-- The name of a slot is not used before, and is hidden at none of the uses of the slot. -/
theorem mem_nameSlots {used : List String} {slots : List Slot} {slot : Slot} {name : String}
    (h : (slot, name) ∈ nameSlots desired uses used slots) :
    name ∉ used ∧ ∀ u ∈ uses, u.slot = slot → name ∉ u.hidden := by
  induction slots generalizing used with
  | nil => exact absurd h List.not_mem_nil
  | cons first rest ih =>
    rcases List.mem_cons.mp h with heq | hrest
    · obtain ⟨rfl, rfl⟩ := Prod.mk.inj heq
      have hfree := freeName_not_mem
        (used ++ (uses.filter fun u => u.slot = slot).flatMap SlotUse.hidden) (desired slot)
      rw [List.mem_append, not_or] at hfree
      refine ⟨hfree.1, fun u hu hslot hhid => hfree.2 ?_⟩
      exact List.mem_flatMap.mpr ⟨u, List.mem_filter.mpr ⟨hu, by simpa using hslot⟩, hhid⟩
    · obtain ⟨hused, huses⟩ := ih hrest
      exact ⟨fun hmem => hused (List.mem_cons_of_mem _ hmem), huses⟩

theorem nodup_nameSlots (desired : Slot → String) (uses : List SlotUse) (used : List String)
    (slots : List Slot) :
    ((nameSlots desired uses used slots).map Prod.snd).Nodup := by
  induction slots generalizing used with
  | nil => exact List.nodup_nil
  | cons first rest ih =>
    refine List.nodup_cons.mpr ⟨fun hmem => ?_, ih _⟩
    obtain ⟨⟨slot, name⟩, hentry, rfl⟩ := List.mem_map.mp hmem
    exact (mem_nameSlots hentry).1 List.mem_cons_self

end

theorem mem_of_lookup_eq_some {α β : Type} [DecidableEq α] {entries : List (α × β)} {key : α}
    {value : β} (h : entries.lookup key = some value) : (key, value) ∈ entries := by
  obtain ⟨before, after, heq, -⟩ := List.lookup_eq_some_iff.mp h
  simp [heq]

theorem Names.mem_of_get?_eq_some {n : Names} {slot : Slot} {name : String}
    (h : n.get? slot = some name) : (slot, name) ∈ n.names :=
  mem_of_lookup_eq_some h

/-! ## Uses of slots -/

/-- What is collected from all items that the bundle needs. -/
theorem mem_flatMap_keptItems {α : Type} {g : ModuleGraph} {needs : Needs}
    {f : SourceModule → Nat → ModuleItem → List α} {a : α} :
    (a ∈ g.modules.toList.zipIdx.flatMap fun (m, index) =>
        (needs.keptItems m index).flatMap (f m index)) ↔
      ∃ module index m item, g.ItemAt module index m item ∧ needs.keeps module index = true ∧
        a ∈ f m module item := by
  simp only [List.mem_flatMap, Prod.exists, List.mk_mem_zipIdx_iff_getElem?,
    Array.getElem?_toList, Needs.mem_keptItems, ModuleGraph.ItemAt]
  constructor
  · rintro ⟨m, module, hm, item, ⟨index, hi, hk⟩, ha⟩
    exact ⟨module, index, m, item, ⟨hm, hi⟩, hk, ha⟩
  · rintro ⟨module, index, m, item, ⟨hm, hi⟩, hk, ha⟩
    exact ⟨m, module, hm, item, ⟨index, hi, hk⟩, ha⟩

theorem mem_slotUses {g : ModuleGraph} {l : Linkage} {needs : Needs} {u : SlotUse} :
    u ∈ slotUses g l needs ↔ ∃ module index m item, g.ItemAt module index m item ∧
      needs.keeps module index = true ∧ u ∈ m.itemUses l module item :=
  mem_flatMap_keptItems (f := fun m index => m.itemUses l index)

/-- A reference in an item is one of its uses of slots. -/
theorem SourceModule.mem_itemUses_of_reference {m : SourceModule} {l : Linkage} {index r : Nat}
    {item : ModuleItem} {slot : Slot} {reference : Reference} (hr : item.references.start ≤ r)
    (hr' : r < item.references.stop) (hslot : l.referenceSlot m index r = some slot)
    (href : m.record.scopes.references[r]? = some reference) :
    ⟨slot, m.record.scopes.namesEnclosing reference.scope⟩ ∈ m.itemUses l index item := by
  refine List.mem_append_left _ (List.mem_filterMap.mpr ⟨r, ?_, ?_⟩)
  · exact IndexRange.mem_toList.mpr ⟨hr, hr'⟩
  · simp [hslot, href]

/-- A dynamic import in an item is one of its uses of slots. -/
theorem SourceModule.mem_itemUses_of_dynamicImport {m : SourceModule} {l : Linkage} {index : Nat}
    {item : ModuleItem} {slot : Slot} {dynamic : DynamicImport}
    (hd : (dynamic, slot) ∈ m.dynamicSlots)
    (hin : item.span.contains dynamic.span.start = true) :
    ⟨slot, m.record.scopes.namesEnclosing dynamic.scope⟩ ∈ m.itemUses l index item := by
  refine List.mem_append_right _ (List.mem_filterMap.mpr ⟨(dynamic, slot), hd, ?_⟩)
  simp [hin]

/-! ## The names of a bundle -/

/-- The name of a slot that is used in a kept item is declared nowhere around the use. -/
theorem not_declares_of_mem_slotUses {g : ModuleGraph} {l : Linkage} {needs : Needs} {slot : Slot}
    {name : String} {tree : ScopeTree} {place scope : ScopeId}
    (hname : (assignNames g l needs).get? slot = some name)
    (huse : ⟨slot, tree.namesEnclosing place⟩ ∈ slotUses g l needs)
    (hinside : tree.Inside place scope) : ¬ tree.Declares scope name :=
  hinside.not_declares
    ((mem_nameSlots (Names.mem_of_get?_eq_some hname)).2 _ huse rfl)

/-- **Names capture nothing.** Two slots never share a name; no name is that of a global which a
module or the bundle reads; and the name of a slot is declared in no scope between the module scope
and a reference or a dynamic import in a kept item that stands for the slot. -/
theorem assignNames_captureFree (g : ModuleGraph) (l : Linkage) (dropUnused : Bool) :
    (∀ slot slot' name, (assignNames g l (shake g l dropUnused)).get? slot = some name →
      (assignNames g l (shake g l dropUnused)).get? slot' = some name → slot = slot') ∧
    (∀ slot name, (assignNames g l (shake g l dropUnused)).get? slot = some name →
      (name ≠ "Object" ∧ name ≠ "Promise" ∧ name ≠ "Symbol") ∧
        ∀ m ∈ g.modules, name ∉ m.record.scopes.freeNames) ∧
    ∀ module index m item, g.ItemAt module index m item →
      (shake g l dropUnused).keeps module index = true →
      (∀ r reference slot name scope, item.references.start ≤ r → r < item.references.stop →
        m.record.scopes.references[r]? = some reference →
        l.referenceSlot m module r = some slot →
        (assignNames g l (shake g l dropUnused)).get? slot = some name →
        m.record.scopes.Inside reference.scope scope → ¬ m.record.scopes.Declares scope name) ∧
      ∀ (d : Nat) dynamic dependency slot name scope, m.record.dynamicImports[d]? = some dynamic →
        m.dynamicImports[d]? = some dependency → dependency.dynamicSlot? = some slot →
        item.span.contains dynamic.span.start = true →
        (assignNames g l (shake g l dropUnused)).get? slot = some name →
        m.record.scopes.Inside dynamic.scope scope → ¬ m.record.scopes.Declares scope name := by
  refine ⟨fun slot slot' name h h' => ?_, fun slot name h => ?_,
    fun module index m item hat hk => ⟨fun r reference slot name scope hr hr' href hslot h => ?_,
      fun d dynamic dependency slot name scope hd hdep hs hin h => ?_⟩⟩
  · have hnodup := nodup_nameSlots (desiredName g (importAliases g l))
      (slotUses g l (shake g l dropUnused)) (globalNames g) (namedSlots g l (shake g l dropUnused))
    have := List.inj_on_of_nodup_map hnodup (Names.mem_of_get?_eq_some h)
      (Names.mem_of_get?_eq_some h') rfl
    exact congrArg Prod.fst this
  · have hglobal := (mem_nameSlots (Names.mem_of_get?_eq_some h)).1
    rw [globalNames, List.mem_append, not_or] at hglobal
    refine ⟨by simpa [bundleGlobals] using hglobal.1, fun m hm hfree => hglobal.2 ?_⟩
    exact List.mem_flatMap.mpr ⟨m, Array.mem_toList_iff.mpr hm, hfree⟩
  · refine not_declares_of_mem_slotUses h (mem_slotUses.mpr ⟨module, index, m, item, hat, hk, ?_⟩)
    exact SourceModule.mem_itemUses_of_reference hr hr' hslot href
  · refine not_declares_of_mem_slotUses h (mem_slotUses.mpr ⟨module, index, m, item, hat, hk, ?_⟩)
    have hd := SourceModule.mem_dynamicSlots.mpr ⟨d, dependency, hd, hdep, hs⟩
    exact SourceModule.mem_itemUses_of_dynamicImport hd hin

end ModuleBundler
