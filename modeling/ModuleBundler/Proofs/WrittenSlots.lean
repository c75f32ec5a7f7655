import ModuleBundler.Proofs.BundlePieces
import ModuleBundler.Proofs.EvaluationOrder
import ModuleBundler.Proofs.Linked
import ModuleBundler.Proofs.Naming

/-!
# The slots of which a bundle has the names

* `Emitted` : an item whose code the bundle has;
* `Written` : the slots whose names are written in a bundle, `Declared` : those that are declared;
* `Written.declares_or_lives` : what is written is declared by an item, or live;
* `Written.declared`, `Written.named` : what is written is declared and has a name.
-/

namespace ModuleBundler

variable {g : ModuleGraph} {l : Linkage}

/-! ## What is written and declared -/

/-- The code of an item is part of the bundle. -/
structure Emitted (g : ModuleGraph) (needs : Needs) (module index : Nat) (m : SourceModule)
    (item : ModuleItem) : Prop where
  itemAt : g.ItemAt module index m item
  kept : needs.keeps module index = true
  hasCode : item.kind.isModuleSyntax = false

/-- The name of the slot is written in the bundle. -/
def Written (g : ModuleGraph) (l : Linkage) (needs : Needs) (n : Names) (slot : Slot) : Prop :=
  ∃ piece ∈ bundlePieces g l needs n, piece.Writes g l n slot

/-- The slot is declared in the bundle. A variable of a module is by items, all of those that
declare it if it is live. The exports of a module are by one object, and what comes from outside is
by one import. -/
def Declared (g : ModuleGraph) (l : Linkage) (needs : Needs) (n : Names) : Slot → Prop
  | .declared module binding =>
    (∃ piece ∈ bundlePieces g l needs n, piece.Declares g n (.declared module binding)) ∧
      (needs.isLive (.declared module binding) = true →
        ∀ index m item, g.ItemAt module index m item → binding ∈ m.record.itemBindings item →
          .item module item ∈ bundlePieces g l needs n)
  | .namespaceOf module => (bundlePieces g l needs n).countP (Piece.isObjectOf module) = 1
  | .external specifier imported =>
    (bundlePieces g l needs n).count (.imports specifier) = 1 ∧
      n.externals.count (.external specifier imported) = 1

/-! ## Items that declare variables -/

/-- What ties modules together declares no variable of a module. -/
theorem hasCode_of_mem_itemBindings (hg : g.WellFormed) {module index : Nat} {m : SourceModule}
    {item : ModuleItem} (hat : g.ItemAt module index m item) {binding : BindingId}
    (h : binding ∈ m.record.itemBindings item) : item.kind.isModuleSyntax = false := by
  have hm := hg.modules m (Array.mem_of_getElem? hat.1)
  obtain ⟨tokens, hread⟩ := hm.recordRead
  obtain ⟨last, hitem⟩ := hread.items item (Array.mem_of_getElem? hat.2)
  obtain ⟨⟨d, hd, hd', hbinding⟩, -, hkind⟩ := ModuleRecord.mem_itemBindings.mp h
  obtain ⟨declaration, hget, -, himport⟩ := hitem.declaration d hd hd'
  obtain ⟨id, b, hid, hb, hiff⟩ := hm.bound.binding d declaration hget
  rw [hbinding] at hid
  cases hid
  refine Bool.eq_false_iff.mpr fun hsyntax => hkind ?_
  unfold ScopeTree.bindingKind?
  rw [hb, Option.map_some, hiff.mpr (himport hsyntax)]

theorem ScopeTree.exists_of_isModuleBinding {tree : ScopeTree} {binding : BindingId}
    (h : tree.isModuleBinding binding = true) : ∃ b, tree.bindings[binding]? = some b := by
  unfold ScopeTree.isModuleBinding at h
  cases hb : tree.bindings[binding]? with
  | some b => exact ⟨b, rfl⟩
  | none =>
    rw [hb] at h
    cases h

/-- A variable that a module declares is declared by an item of it. -/
theorem exists_item_of_declares (hg : g.WellFormed) {module : Nat} {m : SourceModule}
    (hm : g.modules[module]? = some m) {binding : BindingId} (h : m.Declares binding) :
    ∃ index item, g.ItemAt module index m item ∧ binding ∈ m.record.itemBindings item := by
  have hwell := hg.modules m (Array.mem_of_getElem? hm)
  obtain ⟨b, hb⟩ := ScopeTree.exists_of_isModuleBinding h.1
  obtain ⟨d, hd, hbinding⟩ := hwell.bound.declared binding b hb
  obtain ⟨tokens, hread⟩ := hwell.recordRead
  obtain ⟨item, hitem, hrange⟩ := hread.declared d hd
  obtain ⟨index, hindex⟩ := Array.getElem?_of_mem hitem
  refine ⟨index, item, ⟨hm, hindex⟩, ModuleRecord.mem_itemBindings.mpr ⟨?_, h⟩⟩
  exact ⟨d, hrange.1, hrange.2, hbinding⟩

/-- The items that declare a live variable have their code in the bundle. -/
theorem emitted_of_live (hg : g.WellFormed) {dropUnused : Bool} {module index : Nat}
    {m : SourceModule} {item : ModuleItem} (hat : g.ItemAt module index m item)
    {binding : BindingId} (h : binding ∈ m.record.itemBindings item)
    (hlive : (shake g l dropUnused).isLive (.declared module binding) = true) :
    Emitted g (shake g l dropUnused) module index m item where
  itemAt := hat
  kept := (shake_suffices g l dropUnused).declaration module index m item hat binding h hlive
  hasCode := hasCode_of_mem_itemBindings hg hat h

/-! ## Modules in order -/

theorem successors_lt (hg : g.WellFormed) : ∀ index, ∀ i ∈ g.successors index, i < g.size := by
  intro index i hi
  unfold ModuleGraph.successors at hi
  cases hm : g.modules[index]? with
  | none =>
    rw [hm] at hi
    cases hi
  | some m =>
    rw [hm] at hi
    obtain ⟨dependency, hdependency, heq⟩ := List.mem_filterMap.mp hi
    cases dependency with
    | external => cases heq
    | module target =>
      cases heq
      exact (hg.modules m (Array.mem_of_getElem? hm)).requests i hdependency

theorem mem_order (hg : g.WellFormed) {index : Nat} : index ∈ g.order ↔ index < g.size :=
  (ModuleGraph.order_holds (successors_lt hg)).2 index

theorem mem_entryFirst (hg : g.WellFormed) {index : Nat} (h : index < g.size) :
    index ∈ g.entryFirst := by
  unfold ModuleGraph.entryFirst
  by_cases hzero : index = 0
  · exact hzero ▸ List.mem_cons_self
  · refine List.mem_cons_of_mem _ (List.mem_filter.mpr ⟨(mem_order hg).mpr h, ?_⟩)
    exact decide_eq_true hzero

/-! ## Pieces -/

/-- The items among the pieces are those that are emitted. -/
theorem mem_bundlePieces_item (hg : g.WellFormed) {needs : Needs} {n : Names} {module : Nat}
    {item : ModuleItem} : .item module item ∈ bundlePieces g l needs n ↔
      ∃ index m, Emitted g needs module index m item := by
  rw [mem_bundlePieces]
  constructor
  · rintro (⟨_, _, heq⟩ | h | ⟨_, _, h⟩ | heq)
    · cases heq
    · obtain ⟨_, _, heq⟩ := List.mem_map.mp h
      cases heq
    · obtain ⟨index, m, _, hat, hkeeps, hcode, heq⟩ := mem_modulePieces.mp h
      cases heq
      exact ⟨index, m, hat, hkeeps, hcode⟩
    · cases heq
  · rintro ⟨index, m, hat, hkeeps, hcode⟩
    have hlt := (Array.getElem?_eq_some_iff.mp hat.1).1
    refine .inr (.inr (.inl ⟨module, (mem_order hg).mpr hlt, ?_⟩))
    exact mem_modulePieces.mpr ⟨index, m, item, hat, hkeeps, hcode, rfl⟩

/-- The objects with exports among the pieces are those that are live. -/
theorem mem_bundlePieces_namespaceObject {needs : Needs} {n : Names} {module : Nat}
    {exports : ExportList} : .namespaceObject module exports ∈ bundlePieces g l needs n ↔
      (module, exports) ∈ l.namespaces ∧ needs.isLive (.namespaceOf module) = true := by
  rw [mem_bundlePieces]
  constructor
  · rintro (⟨_, _, heq⟩ | h | ⟨_, _, h⟩ | heq)
    · cases heq
    · obtain ⟨entry, hentry, heq⟩ := List.mem_map.mp h
      cases heq
      exact List.mem_filter.mp hentry
    · obtain ⟨_, _, _, _, _, _, heq⟩ := mem_modulePieces.mp h
      cases heq
    · cases heq
  · rintro h
    exact .inr (.inl (List.mem_map.mpr ⟨(module, exports), List.mem_filter.mpr h, rfl⟩))

/-! ## The slots of references and imports -/

/-- The names by which modules import a slot. -/
theorem mem_importAliases (hg : g.WellFormed) {index : Nat} {m : SourceModule}
    (hm : g.modules[index]? = some m) {s : Nat × ImportSpecifier} (hs : s ∈ m.importSpecifiers)
    {binding : BindingId} {slot : Slot}
    (hbinding : m.record.scopes.moduleBinding? s.2.localName = some binding)
    (hslot : l.bindingSlot m index binding = some slot) :
    slot ∈ (importAliases g l).map Prod.fst := by
  refine List.mem_map.mpr ⟨(slot, s.2.localName), List.mem_flatMap.mpr ⟨index, ?_, ?_⟩, rfl⟩
  · exact mem_entryFirst hg (Array.getElem?_eq_some_iff.mp hm).1
  · rw [hm]
    exact List.mem_filterMap.mpr ⟨s, hs, by simp [hbinding, hslot]⟩

/-- A variable of a module stands for a slot of the bundle, which is an import if it is from
outside. -/
theorem bindingSlot_has (hg : g.WellFormed) (hl : l.WellFormed g) {index : Nat} {m : SourceModule}
    (hm : g.modules[index]? = some m) {binding : BindingId} {slot : Slot}
    (h : l.bindingSlot m index binding = some slot) : l.Has g slot ∧
      (slot.isExternal = true → slot ∈ (importAliases g l).map Prod.fst) := by
  have hslot := h
  unfold Linkage.bindingSlot at h
  split at h
  · rename_i hmodule
    split at h
    · obtain ⟨imports, himports, hlookup⟩ := Option.bind_eq_some_iff.mp h
      obtain ⟨hhas, s, hs, hbinding⟩ :=
        hl.imports index m imports hm himports _ (mem_of_lookup_eq_some hlookup)
      exact ⟨hhas, fun _ => mem_importAliases hg hm hs hbinding hslot⟩
    · rename_i hkind
      cases h
      exact ⟨⟨⟨m, hm, hmodule, hkind⟩, fun _ h => nomatch h⟩, fun h => nomatch h⟩
  · cases h

theorem referenceSlot_has (hg : g.WellFormed) (hl : l.WellFormed g) {index r : Nat}
    {m : SourceModule} (hm : g.modules[index]? = some m) {slot : Slot}
    (h : l.referenceSlot m index r = some slot) : l.Has g slot ∧
      (slot.isExternal = true → slot ∈ (importAliases g l).map Prod.fst) := by
  unfold Linkage.referenceSlot at h
  obtain ⟨reference, -, h⟩ := Option.bind_eq_some_iff.mp h
  obtain ⟨binding, -, h⟩ := Option.bind_eq_some_iff.mp h
  exact bindingSlot_has hg hl hm h

/-- A dynamic import gives an object of the bundle. -/
theorem dynamicSlot_has (hl : l.WellFormed g) {m : SourceModule} (hm : m ∈ g.modules)
    {dynamic : DynamicImport} {slot : Slot} (h : (dynamic, slot) ∈ m.dynamicSlots) :
    ∃ index, slot = .namespaceOf index ∧ l.Has g slot := by
  obtain ⟨d, dependency, -, hdependency, hslot⟩ := SourceModule.mem_dynamicSlots.mp h
  cases dependency with
  | external => cases hslot
  | module index =>
    cases hslot
    have hkey := hl.dynamicImports m hm index (List.mem_of_getElem? hdependency)
    refine ⟨index, rfl, hl.bound index hkey, fun other heq => ?_⟩
    cases heq
    exact hkey

/-! ## What is written is declared by an item, or live -/

theorem mem_externalSlots {needs : Needs} {slot : Slot} : slot ∈ externalSlots g l needs ↔
    (slot ∈ (importAliases g l).map Prod.fst ∨ (∃ e ∈ l.entryExports, e.2 = slot) ∨
      ∃ entry ∈ l.namespaces, needs.isLive (.namespaceOf entry.1) = true ∧
        ∃ e ∈ entry.2, e.2 = slot) ∧
      slot.isExternal = true ∧ needs.isLive slot = true := by
  unfold externalSlots
  dsimp only
  rw [List.mem_eraseDups, List.mem_filter, List.mem_append, List.mem_append,
    List.mem_map (f := Prod.snd), List.mem_flatMap, Bool.and_eq_true, or_assoc]
  refine and_congr_left fun _ => or_congr_right (or_congr_right ?_)
  refine exists_congr fun entry => and_congr_right fun _ => ?_
  split
  · rename_i hlive
    rw [List.mem_map]
    exact ⟨fun h => ⟨hlive, h⟩, And.right⟩
  · rename_i hdead
    exact ⟨fun h => (nomatch h), fun h => absurd h.1 hdead⟩

/-- A slot that is live, that the bundle has, and that is imported if it is from outside. -/
structure Linkage.Lives (l : Linkage) (g : ModuleGraph) (needs : Needs) (slot : Slot) : Prop where
  live : needs.isLive slot = true
  has : l.Has g slot
  external : slot.isExternal = true → slot ∈ externalSlots g l needs

variable {dropUnused : Bool}

theorem lookup_eq_of_mem {α β : Type} [DecidableEq α] {entries : List (α × β)} {entry : α × β}
    (hnodup : (entries.map Prod.fst).Nodup) (h : entry ∈ entries) :
    entries.lookup entry.1 = some entry.2 := by
  obtain ⟨value, hvalue⟩ :=
    Option.isSome_iff_exists.mp (isSome_lookup_iff.mpr (List.mem_map_of_mem h))
  rw [hvalue, ← List.inj_on_of_nodup_map hnodup (mem_of_lookup_eq_some hvalue) h rfl]

/-- The exports of an object with exports that is live are live. -/
theorem getter_lives (hl : l.WellFormed g) {entry : Nat × ExportList} (h : entry ∈ l.namespaces)
    (hlive : (shake g l dropUnused).isLive (.namespaceOf entry.1) = true) {e : String × Slot}
    (he : e ∈ entry.2) : l.Lives g (shake g l dropUnused) e.2 := by
  have hlookup : l.namespaces.lookup entry.1 = some entry.2 := lookup_eq_of_mem hl.nodup h
  have hlive' := (shake_suffices g l dropUnused).namespaceExport entry.1 entry.2 hlookup hlive e he
  refine ⟨hlive', hl.namespaces entry h e he, fun hexternal => ?_⟩
  exact mem_externalSlots.mpr ⟨.inr (.inr ⟨entry, h, hlive, e, he, rfl⟩), hexternal, hlive'⟩

/-- What is written in the code of an item is declared by the item, or live. -/
theorem itemWrites_lives (hg : g.WellFormed) (hl : l.WellFormed g) {module index : Nat}
    {m : SourceModule} {item : ModuleItem}
    (hemitted : Emitted g (shake g l dropUnused) module index m item) {slot : Slot}
    (h : m.ItemWrites l module item slot) :
    (∃ binding ∈ m.record.itemBindings item, slot = .declared module binding) ∨
      l.Lives g (shake g l dropUnused) slot := by
  have hsuffices := shake_suffices g l dropUnused
  have hat := hemitted.itemAt
  cases h with
  | declaration h => exact .inl ⟨_, h, rfl⟩
  | reference hstart hstop h =>
    obtain ⟨hhas, hexternal⟩ := referenceSlot_has hg hl hat.1 h
    have hlive := hsuffices.reference module index m item hat hemitted.kept _ hstart hstop _ h
    exact .inr ⟨hlive, hhas, fun h => mem_externalSlots.mpr ⟨.inl (hexternal h), h, hlive⟩⟩
  | dynamicImport h hin =>
    obtain ⟨d, dependency, hd, hdependency, hslot⟩ := SourceModule.mem_dynamicSlots.mp h
    obtain ⟨target, heq, hhas⟩ := dynamicSlot_has hl (Array.mem_of_getElem? hat.1) h
    have hlive := hsuffices.dynamicImport module index m item hat hemitted.kept d _ _ hd
      hdependency hin _ hslot
    refine .inr ⟨hlive, hhas, fun hexternal => ?_⟩
    rw [heq] at hexternal
    cases hexternal

/-- What is written in the bundle is declared by an item, or live. -/
theorem Written.declares_or_lives (hg : g.WellFormed) (hl : l.WellFormed g) {slot : Slot}
    (h : Written g l (shake g l dropUnused) (assignNames g l (shake g l dropUnused)) slot) :
    (∃ module index m item, Emitted g (shake g l dropUnused) module index m item ∧
      ∃ binding ∈ m.record.itemBindings item, slot = .declared module binding) ∨
      l.Lives g (shake g l dropUnused) slot := by
  obtain ⟨piece, hpiece, hwrites⟩ := h
  cases piece with
  | imports specifier =>
    obtain ⟨hslot, imported, rfl⟩ := hwrites
    obtain ⟨-, -, hlive⟩ := mem_externalSlots.mp hslot
    exact .inr ⟨hlive, ⟨trivial, fun _ h => nomatch h⟩, fun _ => hslot⟩
  | namespaceObject module exports =>
    obtain ⟨hentry, hlive⟩ := mem_bundlePieces_namespaceObject.mp hpiece
    rcases hwrites with rfl | ⟨e, he, rfl⟩
    · have hkey : module ∈ l.namespaces.map Prod.fst := List.mem_map.mpr ⟨_, hentry, rfl⟩
      refine .inr ⟨hlive, ⟨hl.bound _ hkey, fun index heq => ?_⟩, fun h => nomatch h⟩
      cases heq
      exact hkey
    · exact .inr (getter_lives hl hentry hlive he)
  | item module item =>
    obtain ⟨index, m, hemitted⟩ := (mem_bundlePieces_item hg).mp hpiece
    obtain ⟨m', hm, hwrites⟩ := hwrites
    obtain rfl : m = m' := Option.some.inj (hemitted.itemAt.1.symm.trans hm)
    exact (itemWrites_lives hg hl hemitted hwrites).imp_left fun h => ⟨_, _, _, _, hemitted, h⟩
  | entryExports =>
    obtain ⟨e, he, rfl⟩ := hwrites
    have hlive := (shake_suffices g l dropUnused).entryExport e he
    refine .inr ⟨hlive, hl.entryExports e he, fun hexternal => ?_⟩
    exact mem_externalSlots.mpr ⟨.inr (.inl ⟨e, he, rfl⟩), hexternal, hlive⟩

/-! ## What is written is declared -/

/-- What an emitted item declares is declared in the bundle. -/
theorem declared_of_item (hg : g.WellFormed) {n : Names} {module index : Nat} {m : SourceModule}
    {item : ModuleItem} (hemitted : Emitted g (shake g l dropUnused) module index m item)
    {binding : BindingId} (h : binding ∈ m.record.itemBindings item) :
    Declared g l (shake g l dropUnused) n (.declared module binding) := by
  refine ⟨⟨.item module item, ?_, m, hemitted.itemAt.1, binding, h, rfl⟩, ?_⟩
  · exact (mem_bundlePieces_item hg).mpr ⟨index, m, hemitted⟩
  · intro hlive index m item hat hmem
    exact (mem_bundlePieces_item hg).mpr ⟨index, m, emitted_of_live hg hat hmem hlive⟩

/-- An object with exports that is live is in the bundle once. -/
theorem declared_of_namespace (hl : l.WellFormed g) {n : Names} {needs : Needs} {module : Nat}
    (hkey : module ∈ l.namespaces.map Prod.fst)
    (hlive : needs.isLive (.namespaceOf module) = true) :
    Declared g l needs n (.namespaceOf module) := by
  have hcount := List.count_eq_one_of_mem hl.nodup hkey
  rw [List.count, List.countP_map] at hcount
  change List.countP _ _ = 1
  rw [countP_isObjectOf, namespacePieces, List.countP_map, List.countP_filter, ← hcount]
  refine List.countP_congr fun entry _ => ?_
  simp only [Function.comp_apply, Piece.isObjectOf, Bool.and_eq_true, decide_eq_true_eq,
    beq_iff_eq]
  exact ⟨And.left, fun heq => ⟨heq, heq ▸ hlive⟩⟩

/-- A specifier from which the bundle imports something is one of those of its imports. -/
theorem mem_outsideSpecifiers {n : Names} {specifier : String} {imported : Imported}
    (h : .external specifier imported ∈ n.externals) : specifier ∈ outsideSpecifiers g n := by
  unfold outsideSpecifiers
  dsimp only
  rw [List.mem_eraseDups, List.mem_append]
  exact .inr (List.mem_filterMap.mpr ⟨_, h, rfl⟩)

/-- What the bundle imports is imported once. -/
theorem declared_of_external {needs : Needs} {specifier : String} {imported : Imported}
    (h : .external specifier imported ∈ externalSlots g l needs) :
    Declared g l needs (assignNames g l needs) (.external specifier imported) := by
  refine ⟨?_, ?_⟩
  · rw [count_imports]
    exact List.count_eq_one_of_mem (nodup_eraseDups _) (mem_outsideSpecifiers h)
  · exact List.count_eq_one_of_mem (nodup_eraseDups _) h

theorem Linkage.Lives.declared (hg : g.WellFormed) (hl : l.WellFormed g) {slot : Slot}
    (h : l.Lives g (shake g l dropUnused) slot) :
    Declared g l (shake g l dropUnused) (assignNames g l (shake g l dropUnused)) slot := by
  cases slot with
  | declared module binding =>
    obtain ⟨m, hm, hdeclares⟩ := h.has.1
    obtain ⟨index, item, hat, hmem⟩ := exists_item_of_declares hg hm hdeclares
    exact declared_of_item hg (emitted_of_live hg hat hmem h.live) hmem
  | namespaceOf module => exact declared_of_namespace hl (h.has.2 module rfl) h.live
  | external specifier imported => exact declared_of_external (h.external rfl)

/-- **What is written is declared.** -/
theorem Written.declared (hg : g.WellFormed) (hl : l.WellFormed g) {slot : Slot}
    (h : Written g l (shake g l dropUnused) (assignNames g l (shake g l dropUnused)) slot) :
    Declared g l (shake g l dropUnused) (assignNames g l (shake g l dropUnused)) slot := by
  rcases h.declares_or_lives hg hl with ⟨_, _, _, _, hemitted, _, hmem, rfl⟩ | hlives
  · exact declared_of_item hg hemitted hmem
  · exact hlives.declared hg hl

/-! ## What is written has a name -/

theorem map_fst_nameSlots (desired : Slot → String) (uses : List SlotUse) (used : List String)
    (slots : List Slot) : (nameSlots desired uses used slots).map Prod.fst = slots := by
  induction slots generalizing used with
  | nil => rfl
  | cons slot slots ih => exact congrArg (slot :: ·) (ih _)

theorem exists_name {needs : Needs} {slot : Slot} (h : slot ∈ namedSlots g l needs) :
    ∃ name, (assignNames g l needs).get? slot = some name := by
  refine Option.isSome_iff_exists.mp (isSome_lookup_iff.mpr ?_)
  unfold assignNames
  rw [map_fst_nameSlots]
  exact h

/-- What a kept item declares is among the variables that get names. -/
theorem mem_namedSlots_of_item (hg : g.WellFormed) {needs : Needs} {module index : Nat}
    {m : SourceModule} {item : ModuleItem} (hemitted : Emitted g needs module index m item)
    {binding : BindingId} (h : binding ∈ m.record.itemBindings item) :
    .declared module binding ∈ namedSlots g l needs := by
  have hm := hemitted.itemAt.1
  have hdeclared : .declared module binding ∈ declaredSlots g needs module := by
    unfold declaredSlots
    rw [hm]
    obtain ⟨-, hmodule, hkind⟩ := ModuleRecord.mem_itemBindings.mp h
    obtain ⟨b, hb⟩ := ScopeTree.exists_of_isModuleBinding hmodule
    have hlt := (Array.getElem?_eq_some_iff.mp hb).1
    have hkept := Needs.mem_keptItems.mpr ⟨index, hemitted.itemAt.2, hemitted.kept⟩
    refine List.mem_map_of_mem (List.mem_filter.mpr ⟨?_, ?_⟩)
    · exact List.mem_filter.mpr ⟨List.mem_range.mpr hlt, hmodule⟩
    · rw [Bool.and_eq_true, decide_eq_true_eq, List.contains_iff_mem]
      exact ⟨hkind, List.mem_flatMap.mpr ⟨item, hkept, h⟩⟩
  unfold namedSlots
  have hfirst := mem_entryFirst hg (Array.getElem?_eq_some_iff.mp hm).1
  refine List.mem_append_left _ (List.mem_append_left _ ?_)
  exact List.mem_flatMap.mpr ⟨module, hfirst, hdeclared⟩

/-- What is live is among the variables that get names. -/
theorem Linkage.Lives.mem_namedSlots (hg : g.WellFormed) {slot : Slot}
    (h : l.Lives g (shake g l dropUnused) slot) : slot ∈ namedSlots g l (shake g l dropUnused) := by
  cases slot with
  | declared module binding =>
    obtain ⟨m, hm, hdeclares⟩ := h.has.1
    obtain ⟨index, item, hat, hmem⟩ := exists_item_of_declares hg hm hdeclares
    exact mem_namedSlots_of_item hg (emitted_of_live hg hat hmem h.live) hmem
  | namespaceOf module =>
    obtain ⟨entry, hentry, rfl⟩ := List.mem_map.mp (h.has.2 module rfl)
    refine List.mem_append_left _ (List.mem_append_right _ (List.mem_filter.mpr ⟨?_, h.live⟩))
    exact List.mem_map.mpr ⟨entry, hentry, rfl⟩
  | external specifier imported => exact List.mem_append_right _ (h.external rfl)

/-- **What is written has a name.** -/
theorem Written.named (hg : g.WellFormed) (hl : l.WellFormed g) {slot : Slot}
    (h : Written g l (shake g l dropUnused) (assignNames g l (shake g l dropUnused)) slot) :
    ∃ name, (assignNames g l (shake g l dropUnused)).get? slot = some name := by
  refine exists_name ?_
  rcases h.declares_or_lives hg hl with ⟨_, _, _, _, hemitted, _, hmem, rfl⟩ | hlives
  · exact mem_namedSlots_of_item hg hemitted hmem
  · exact hlives.mem_namedSlots hg

end ModuleBundler
