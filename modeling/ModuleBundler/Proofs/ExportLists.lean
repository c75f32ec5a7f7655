import Mathlib.Data.List.Lex
import Mathlib.Data.List.Nodup
import ModuleBundler.Proofs.KeptAnswers
import ModuleBundler.Proofs.ModuleIndices

/-!
# Lists of exports

* `ListsExports` : a list has the names that a module exports, each once, with the slots that
  imports from there are linked to;
* `sortExports_sorted` : the exports of a namespace are in the order of their code units;
* `NamespaceUsed` : something stands for the exports of a module as an object;
* `exportLists_agree` : all this holds of the exports that links lead to, and there is a namespace
  for every module of which one is used.
-/

namespace ModuleBundler

variable {g : ModuleGraph} {l : Linkage} {count : Nat} {m : SourceModule}

/-! ## Imports -/

/-- A specifier of a module asks for an export by a request that leads to its module. -/
def SourceModule.Requests (m : SourceModule) (s : ImportSpecifier) (key : ExportKey) : Prop :=
  ∃ request specifier, (request, s) ∈ m.importSpecifiers ∧
    m.request? request = some (specifier, .module key.1) ∧ s.imported = .name key.2

/-- The variables of imports are listed once each. -/
theorem nodup_linked (h : m.WellFormed count) {answers : ExportCache}
    {entries : List (BindingId × Slot)}
    (hlisted : List.Forall₂ (ImportListed m answers) m.importSpecifiers entries) :
    (entries.map Prod.fst).Nodup := by
  have hbindings : (m.importSpecifiers.map fun entry => entry.2.localName).map
      m.record.scopes.moduleBinding? = (entries.map Prod.fst).map some := by
    rw [List.map_map, List.map_map, ← List.forall₂_eq_eq_eq, List.forall₂_map_left_iff,
      List.forall₂_map_right_iff]
    exact hlisted.imp fun _ _ hlinked => hlinked.1
  refine List.Nodup.of_map some ?_
  rw [← hbindings]
  refine List.Nodup.map_on (fun name hname other hother heq => ?_) h.nodup_importNames
  obtain ⟨entry, hentry, rfl⟩ := List.mem_map.mp hname
  obtain ⟨binding, hbinding, -⟩ := h.imported hentry
  exact h.scopesIndexed.moduleBinding_injective hbinding (heq ▸ hbinding)

/-- What is imported from an export is linked to the answer about it. -/
theorem Linkage.Answered.bindingSlot {answers : ExportCache} (hl : l.Answered g answers)
    (hg : g.WellFormed) {importer : Nat} (hm : g.modules[importer]? = some m)
    {s : ImportSpecifier} {key : ExportKey} (hs : m.Requests s key) :
    ∃ binding slot, m.record.scopes.moduleBinding? s.localName = some binding ∧
      answers.lookup key = some (some slot) ∧ l.bindingSlot m importer binding = some slot := by
  obtain ⟨request, specifier, hmem, hrequest, himported⟩ := hs
  have hwell := hg.modules m (Array.mem_of_getElem? hm)
  obtain ⟨entries, hentries, hlisted⟩ : ∃ entries, l.imports[importer]? = some entries ∧
      List.Forall₂ (ImportListed m answers) m.importSpecifiers entries := by
    rw [← Array.getElem?_toList] at hm
    obtain ⟨hlt, rfl⟩ := List.getElem?_eq_some_iff.mp hm
    have hlt' : importer < l.imports.toList.length := hl.imports.length_eq ▸ hlt
    refine ⟨l.imports.toList[importer], ?_, hl.imports.get hlt hlt'⟩
    rw [← Array.getElem?_toList, List.getElem?_eq_getElem hlt']
  obtain ⟨⟨binding, slot⟩, hlinked, hbinding, hanswer⟩ := exists_of_forall₂ hlisted.flip hmem
  have hkind : m.record.scopes.bindingKind? binding = some .imported := by
    obtain ⟨other, hother, hkind⟩ := hwell.imported hmem
    cases hbinding.symm.trans hother
    exact hkind
  have htarget : m.requestTarget request s.imported = .ok (.inr key) := by
    unfold SourceModule.requestTarget
    rw [hrequest, himported]
  refine ⟨binding, slot, hbinding, hanswer _ _ _ (hwell.importOf_eq hmem) htarget, ?_⟩
  unfold Linkage.bindingSlot
  rw [if_pos (hwell.bound.isModuleBinding _ _ hbinding), if_pos hkind, hentries, Option.bind_some]
  exact lookup_eq_of_mem (nodup_linked hwell hlisted) hlinked

/-! ## Exports -/

/-- A list has the names that a module exports, each once. The slot under a name is the one that
imports which ask the module for it are linked to. -/
structure ListsExports (g : ModuleGraph) (l : Linkage) (index : Nat) (exports : ExportList) :
    Prop where
  nodup : (exports.map Prod.fst).Nodup
  names : ∀ name, name ∈ exports.map Prod.fst ↔ Exports g (index, name)
  slots : ∀ e ∈ exports, ∀ (importer : Nat) m s, g.modules[importer]? = some m →
    m.Requests s (index, e.1) → ∃ binding,
      m.record.scopes.moduleBinding? s.localName = some binding ∧
        l.bindingSlot m importer binding = some e.2

/-- The order of the list does not matter. -/
theorem ListsExports.perm {index : Nat} {exports exports' : ExportList}
    (h : ListsExports g l index exports) (hperm : exports'.Perm exports) :
    ListsExports g l index exports' where
  nodup := (hperm.map Prod.fst).nodup_iff.mpr h.nodup
  names name := ((hperm.map Prod.fst).mem_iff).trans (h.names name)
  slots e he := h.slots e (hperm.mem_iff.mp he)

/-- Exports that are listed as they are answered are those of the module. -/
theorem Linkage.Answered.listsExports {answers : ExportCache} (hl : l.Answered g answers)
    (hg : g.WellFormed) {index : Nat} {exports : ExportList}
    (h : ModuleBundler.Answered g answers index exports) : ListsExports g l index exports := by
  have hnames : exports.map Prod.fst = exportNames g index := by
    rw [eq_comm, ← List.forall₂_eq_eq_eq, List.forall₂_map_right_iff]
    exact h.imp fun _ _ hlisted => hlisted.1.symm
  refine ⟨?_, fun name => ?_, fun e he importer m s hm hs => ?_⟩
  · rw [hnames]
    exact nodup_eraseDups _
  · rw [hnames]
    exact mem_exportNames hg
  · obtain ⟨name, -, rfl, hanswer⟩ := exists_of_forall₂ h he
    obtain ⟨binding, slot, hbinding, hanswer', hslot⟩ := hl.bindingSlot hg hm hs
    cases hanswer.symm.trans hanswer'
    exact ⟨binding, hbinding, hslot⟩

/-! ## Order -/

/-- The UTF-16 code units of a text. -/
def codeUnits (text : String) : List Nat := text.toList.flatMap utf16Units

theorem utf16Before_iff {a b : String} : utf16Before a b = true ↔ codeUnits a ≤ codeUnits b := by
  unfold utf16Before
  rw [decide_eq_true_eq, ne_eq, compareOfLessAndEq_eq_gt le_antisymm le_total not_le]
  exact not_lt

/-- The exports of a namespace are in the order of the code units of their names. -/
theorem sortExports_sorted (exports : ExportList) :
    (sortExports exports).Pairwise fun a b => codeUnits a.1 ≤ codeUnits b.1 := by
  have htrans : ∀ a b c : String × Slot, utf16Before a.1 b.1 = true →
      utf16Before b.1 c.1 = true → utf16Before a.1 c.1 = true := by
    intro a b c hab hbc
    rw [utf16Before_iff] at hab hbc ⊢
    exact le_trans hab hbc
  have htotal : ∀ a b : String × Slot, (utf16Before a.1 b.1 || utf16Before b.1 a.1) = true := by
    intro a b
    rw [Bool.or_eq_true, utf16Before_iff, utf16Before_iff]
    exact le_total _ _
  exact (List.pairwise_mergeSort htrans htotal exports).imp utf16Before_iff.mp

/-! ## Linkages -/

/-- An import, a dynamic import, an export of the entry or one of another namespace stands for the
exports of a module as an object. -/
inductive NamespaceUsed (g : ModuleGraph) (l : Linkage) (index : Nat) : Prop where
  | imported {slots : List (BindingId × Slot)} {entry : BindingId × Slot} (linked : slots ∈ l.imports)
      (mem : entry ∈ slots) (slot : entry.2 = .namespaceOf index)
  | dynamic {m : SourceModule} {dependency : Dependency} (known : m ∈ g.modules)
      (mem : dependency ∈ m.dynamicImports) (slot : dependency.dynamicSlot? = some (.namespaceOf index))
  | exported {e : String × Slot} (mem : e ∈ l.entryExports) (slot : e.2 = .namespaceOf index)
  | nested {entry : Nat × ExportList} {e : String × Slot} (linked : entry ∈ l.namespaces)
      (mem : e ∈ entry.2) (slot : e.2 = .namespaceOf index)

/-- There is a namespace wherever one is used. -/
theorem NamespaceUsed.mem_namespaces (hg : g.WellFormed) (h : link g = .ok l) {index : Nat}
    (hused : NamespaceUsed g l index) : index ∈ l.namespaces.map Prod.fst := by
  have hl := link_wellFormed hg h
  cases hused with
  | @imported slots entry linked mem slot =>
    obtain ⟨importer, himporter⟩ := Array.getElem?_of_mem linked
    have hlt : importer < g.size := by
      rw [← size_imports_of_link hg h]
      exact (Array.getElem?_eq_some_iff.mp himporter).1
    obtain ⟨hhas, -⟩ :=
      hl.imports importer _ slots (Array.getElem?_eq_getElem hlt) himporter entry mem
    exact hhas.2 index slot
  | @dynamic m dependency known mem slot =>
    cases dependency with
    | external => cases slot
    | module target =>
      cases slot
      exact hl.dynamicImports m known index mem
  | exported mem slot => exact (hl.entryExports _ mem).2 index slot
  | nested linked mem slot => exact (hl.namespaces _ linked _ mem).2 index slot

/-- **Lists of exports agree with the lookup of exports.** The exports of the entry, and those of every
namespace, have the names that the module exports, each once, with the slots that imports from
there are linked to. Those of a namespace are sorted by code units. There is a namespace for every
module of which one is used. -/
theorem exportLists_agree (hg : g.WellFormed) (h : link g = .ok l) :
    ListsExports g l 0 l.entryExports ∧
      (∀ entry ∈ l.namespaces, ListsExports g l entry.1 entry.2 ∧
        entry.2.Pairwise fun a b => codeUnits a.1 ≤ codeUnits b.1) ∧
      ∀ index, NamespaceUsed g l index → index ∈ l.namespaces.map Prod.fst := by
  obtain ⟨history, hanswered⟩ := link_answered hg h
  refine ⟨hanswered.listsExports hg hanswered.entryExports, fun entry hentry => ?_,
    fun index hused => hused.mem_namespaces hg h⟩
  obtain ⟨exports, hexports, hsorted⟩ := hanswered.namespaces entry hentry
  rw [hsorted]
  refine ⟨?_, sortExports_sorted exports⟩
  exact (hanswered.listsExports hg hexports).perm (List.mergeSort_perm exports _)

/-- Two modules that take over each other's exports. The entry takes over those of the first, which it
has as an object too, and imports the one of the second. -/
def mutualStars : ModuleProvider where
  resolve specifier _ := .ok (.module (.file specifier))
  load
    | .file "/index.js" => .text
      "import * as a from \"./a.js\";\nimport { x } from \"./b.js\";\nexport * from \"./a.js\";\n"
    | .file "./a.js" => .text "export * from \"./b.js\";\n"
    | .file "./b.js" => .text "export * from \"./a.js\";\nexport const x = 1;\nexport default x;\n"
    | id => .failed (.missing id.text)

/-- The object with the exports of `./a.js` has `x` alone, and so have the exports of the entry. -/
theorem mutualStars_lists_agree : ∃ loads g l,
    discover mutualStars (fun _ => false) 5 = some ⟨loads, .ok g⟩ ∧ link g = .ok l ∧
      l.entryExports.map Prod.fst = ["x"] ∧
      l.namespaces.map (fun entry => (entry.1, entry.2.map Prod.fst)) = [(1, ["x"])] ∧
      ListsExports g l 0 l.entryExports ∧
      ∀ entry ∈ l.namespaces, ListsExports g l entry.1 entry.2 := by
  have hlinked : ((discover mutualStars (fun _ => false) 5).any fun logged =>
      logged.result.toOption.any fun g => (link g).toOption.any fun l =>
        l.entryExports.map Prod.fst = ["x"] ∧
          l.namespaces.map (fun entry => (entry.1, entry.2.map Prod.fst)) = [(1, ["x"])]) = true := by
    decide +kernel
  obtain ⟨loads, g, l, hdiscover, hlink, hlists⟩ := exists_linked_of_any hlinked
  obtain ⟨hentry, hnamespaces⟩ := of_decide_eq_true hlists
  obtain ⟨hlists, hall, -⟩ := exportLists_agree (discover_wellFormed hdiscover) hlink
  exact ⟨loads, g, l, hdiscover, hlink, hentry, hnamespaces, hlists,
    fun entry hmem => (hall entry hmem).1⟩

end ModuleBundler
