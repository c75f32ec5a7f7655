import ModuleBundler.Proofs.DiscoverySteps
import ModuleBundler.Proofs.ScopeIndices
import ModuleBundler.Proofs.WrittenSlots

/-!
# The indices and places in a module graph

* `Span.IsOf` : a span from one place of a text to another;
* `SourceModule.Indexed` : all places in a module are places of its text, and all its indices lead
  to something;
* `SourceModule.WellFormed.nodup_importNames` : no module imports a name twice;
* `discover_indexed` : the modules of every graph that is discovered are such;
* `Linkage.Indexed`, `Need.IsOf` : the same for what a graph links to and what its bundle needs.
-/

namespace ModuleBundler

open Cursor (Leads)

/-! ## Places in a text -/

/-- The span goes from one place of the text to another. -/
def Span.IsOf (text : String) (span : Span) : Prop :=
  ∃ last : Cursor, span.Between (.ofString text) last

/-- The exporting part of an item has its places in the text. -/
def ItemKind.IsOf (text : String) : ItemKind → Prop
  | .exportDeclaration strip | .exportDefaultExpression strip _ => strip.IsOf text
  | .exportDefaultDeclaration strip nameAt =>
    strip.IsOf text ∧ ∀ offset, nameAt = some offset → IsPlace text offset
  | .importDeclaration | .exportList | .exportFrom | .declaration | .statement => True

theorem KindRead.isOf {text : String} {tokens : List BufferedToken} {last : Cursor}
    {declarations : Array Declaration} {range : IndexRange} {kind : ItemKind}
    (h : KindRead tokens (.ofString text) last declarations range kind) : kind.IsOf text := by
  cases kind with
  | exportDeclaration strip => exact ⟨last, h.1⟩
  | exportDefaultExpression strip expr => exact ⟨last, h.1⟩
  | exportDefaultDeclaration strip nameAt =>
    refine ⟨⟨last, h.1⟩, fun offset hoffset => ?_⟩
    obtain ⟨place, hplace, heq, -⟩ := (h.2.2 offset hoffset).1
    exact ⟨place, hplace, heq⟩
  | importDeclaration | exportList | exportFrom | declaration | statement => trivial

/-! ## Modules -/

/-- All places in a module are places of its text, and all indices in it lead to something, those of
modules to some of the first `count`. -/
structure SourceModule.Indexed (count : Nat) (m : SourceModule) : Prop where
  tokenStarts : ∀ offset ∈ m.record.tokenStarts, IsPlace m.source offset
  items : ∀ item ∈ m.record.items, item.span.IsOf m.source ∧ item.kind.IsOf m.source
  itemDeclarations : ∀ item ∈ m.record.items, ∀ d, item.declarations.start ≤ d →
    d < item.declarations.stop → d < m.record.scopes.declarations.size
  itemReferences : ∀ item ∈ m.record.items, ∀ r, item.references.start ≤ r →
    r < item.references.stop → r < m.record.scopes.references.size
  declarations : ∀ d ∈ m.record.scopes.declarations, d.span.IsOf m.source
  references : ∀ r ∈ m.record.scopes.references, r.span.IsOf m.source
  dynamicImports : ∀ d ∈ m.record.dynamicImports, d.span.IsOf m.source ∧
    d.scope < m.record.scopes.scopes.size
  scopes : m.record.scopes.Indexed
  /-- Every request leads somewhere, and so does every dynamic import. -/
  dependencies : m.requests.length = m.record.requests.size ∧
    m.dynamicImports.length = m.record.dynamicImports.size
  modules : ∀ index, .module index ∈ m.requests ∨ .module index ∈ m.dynamicImports → index < count
  importRequests : ∀ d ∈ m.record.imports, d.request < m.record.requests.size
  exportRequests : ∀ e ∈ m.record.exports, e.target.Requested m.record.requests.size
  starRequests : ∀ request ∈ m.record.starExports, request < m.record.requests.size
  /-- What is imported is a variable of the module. -/
  imported : ∀ entry ∈ m.importSpecifiers,
    ∃ binding, m.record.scopes.moduleBinding? entry.2.localName = some binding
  /-- A variable that is an import is imported. -/
  importing : ∀ name binding, m.record.scopes.moduleBinding? name = some binding →
    m.record.scopes.bindingKind? binding = some .imported →
      ∃ entry ∈ m.importSpecifiers, entry.2.localName = name

/-- Every request of a module, and every dynamic import, was followed. -/
def SourceModule.Followed (m : SourceModule) : Prop :=
  m.requests.length = m.record.requests.size ∧
    m.dynamicImports.length = m.record.dynamicImports.size

theorem SourceModule.mem_importSpecifiers {m : SourceModule} {entry : Nat × ImportSpecifier} :
    entry ∈ m.importSpecifiers ↔
      ∃ decl ∈ m.record.imports, entry.1 = decl.request ∧ entry.2 ∈ decl.specifiers := by
  obtain ⟨request, specifier⟩ := entry
  simp only [SourceModule.importSpecifiers, List.mem_flatMap, List.mem_map, Array.mem_toList_iff,
    Prod.mk.injEq]
  constructor
  · rintro ⟨decl, hdecl, _, hspecifier, rfl, rfl⟩
    exact ⟨decl, hdecl, rfl, hspecifier⟩
  · rintro ⟨decl, hdecl, rfl, hspecifier⟩
    exact ⟨decl, hdecl, specifier, hspecifier, rfl, rfl⟩

theorem SourceModule.WellFormed.scopesIndexed {count : Nat} {m : SourceModule}
    (h : m.WellFormed count) : m.record.scopes.Indexed := by
  obtain ⟨tokens, hread⟩ := h.recordRead
  obtain ⟨declarations, references, hbuild⟩ := hread.scopes
  obtain ⟨-, hdeclarations, hreferences⟩ := records_of_build hbuild
  refine ScopeTree.indexed_of_build hread.nested (fun d hd => ?_) (fun r hr => ?_) hbuild
  · exact (hread.declarations d (hdeclarations ▸ hd)).2
  · exact (hread.references r (hreferences ▸ hr)).2

/-- What is imported is a variable of the module of that kind. -/
theorem SourceModule.WellFormed.imported {count : Nat} {m : SourceModule} (h : m.WellFormed count)
    {entry : Nat × ImportSpecifier} (hentry : entry ∈ m.importSpecifiers) :
    ∃ binding, m.record.scopes.moduleBinding? entry.2.localName = some binding ∧
      m.record.scopes.bindingKind? binding = some .imported := by
  obtain ⟨tokens, hread⟩ := h.recordRead
  obtain ⟨decl, hdecl, -, hspecifier⟩ := SourceModule.mem_importSpecifiers.mp hentry
  obtain ⟨d, hd, hname, hscope, hkind⟩ := hread.imports.declared hdecl hspecifier
  obtain ⟨i, hi⟩ := Array.getElem?_of_mem hd
  obtain ⟨id, b, hid, hb, himported⟩ := h.bound.binding i d hi
  have hhoists : d.kind.hoists = false := by
    rw [hkind]
    rfl
  refine ⟨id, ?_, ?_⟩
  · rw [← hname, h.bound.moduleBinding i d hi hscope hhoists, hid]
  · rw [ScopeTree.bindingKind?, hb, Option.map_some, himported.mpr hkind]

/-- No name is imported twice. -/
theorem SourceModule.WellFormed.nodup_importNames {count : Nat} {m : SourceModule}
    (h : m.WellFormed count) : (m.importSpecifiers.map fun entry => entry.2.localName).Nodup := by
  obtain ⟨tokens, hread⟩ := h.recordRead
  have hnames : (m.importSpecifiers.map fun entry => entry.2.localName) =
      specifiedNames m.record.imports := by
    simp [SourceModule.importSpecifiers, specifiedNames, List.map_flatMap, Function.comp_def]
  rw [hnames, ← hread.imports.names, importedNames, List.Nodup, List.pairwise_map,
    List.pairwise_filter, List.pairwise_iff_getElem]
  intro i j hi hj hlt himported himported' hname
  rw [Array.length_toList] at hi hj
  simp only [Array.getElem_toList, decide_eq_true_eq] at himported himported' hname
  have hscope := hread.imports.scope _ (Array.getElem_mem hi) himported
  have hscope' := hread.imports.scope _ (Array.getElem_mem hj) himported'
  have heq := h.bound.imported i j _ _ (Array.getElem?_eq_getElem hi) (Array.getElem?_eq_getElem hj)
    himported himported' hscope hscope' hname
  omega

/-- An import is found under its name. -/
theorem SourceModule.WellFormed.importOf_eq {count : Nat} {m : SourceModule}
    (h : m.WellFormed count) {entry : Nat × ImportSpecifier} (hentry : entry ∈ m.importSpecifiers) :
    m.importOf entry.2.localName = .ok entry := by
  unfold SourceModule.importOf
  split
  · rename_i found hfound
    have hname := List.find?_some hfound
    have hmem := List.mem_of_find?_eq_some hfound
    rw [List.inj_on_of_nodup_map h.nodup_importNames hmem hentry (of_decide_eq_true hname)]
  · rename_i hnone
    have hne := List.find?_eq_none.mp hnone entry hentry
    exact absurd (decide_eq_true rfl) hne

/-- A module whose record is that of its text, and whose requests were followed to modules of the
graph, has no index that leads nowhere. -/
theorem SourceModule.WellFormed.indexed {count : Nat} {m : SourceModule} (h : m.WellFormed count)
    (hfollowed : m.Followed) : m.Indexed count := by
  obtain ⟨tokens, hread⟩ := h.recordRead
  have hscopes := h.scopesIndexed
  exact {
    tokenStarts offset hoffset := by
      obtain ⟨place, hplace, rfl⟩ := hread.starts offset hoffset
      exact ⟨place, hplace, rfl⟩
    items item hitem := by
      obtain ⟨last, hitem⟩ := hread.items item hitem
      obtain ⟨first, hfirst, hlast, hspan⟩ := hitem.span
      exact ⟨⟨last, first, last, hfirst, hlast, .refl _, hspan⟩, hitem.kind.isOf⟩
    itemDeclarations item hitem d hstart hstop := by
      obtain ⟨last, hitem⟩ := hread.items item hitem
      obtain ⟨declaration, hget, -⟩ := hitem.declaration d hstart hstop
      exact (Array.getElem?_eq_some_iff.mp hget).1
    itemReferences item hitem r hstart hstop := by
      obtain ⟨last, hitem⟩ := hread.items item hitem
      obtain ⟨reference, hget, -⟩ := hitem.reference r hstart hstop
      exact (Array.getElem?_eq_some_iff.mp hget).1
    declarations declaration hdeclaration := by
      obtain ⟨d, hd, rfl⟩ := Array.getElem_of_mem hdeclaration
      obtain ⟨item, hitem, hstart, hstop⟩ := hread.declared d hd
      obtain ⟨last, hitem⟩ := hread.items item hitem
      obtain ⟨declaration, hget, hbetween, -⟩ := hitem.declaration d hstart hstop
      rw [Array.getElem?_eq_getElem hd] at hget
      cases hget
      exact ⟨last, hbetween⟩
    references r hr := by
      obtain ⟨⟨b, hb, hspan, -⟩, -⟩ := hread.references r hr
      rw [← hspan]
      exact ⟨_, hread.chain.between b (List.mem_reverse.mpr hb)⟩
    dynamicImports d hd := by
      obtain ⟨hspan, -, hscope⟩ := hread.dynamicImports d hd
      exact ⟨hspan, hscope⟩
    scopes := hscopes
    dependencies := hfollowed
    modules index hindex := hindex.elim (h.requests index) (h.dynamicImports index)
    importRequests := hread.importRequests
    exportRequests := hread.exportRequests
    starRequests := hread.starRequests
    imported entry hentry := by
      obtain ⟨binding, hbinding, -⟩ := h.imported hentry
      exact ⟨binding, hbinding⟩
    importing name binding hbinding hkind := by
      obtain ⟨d, hd, rfl, himported⟩ := hscopes.exists_import hbinding hkind
      obtain ⟨decl, hdecl, specifier, hspecifier, hname⟩ := hread.imports.specifier hd himported
      refine ⟨(decl.request, specifier), ?_, hname⟩
      exact SourceModule.mem_importSpecifiers.mpr ⟨decl, hdecl, rfl, hspecifier⟩ }

/-! ## Graphs -/

/-- A graph with an entry in which all indices lead to something. -/
structure ModuleGraph.Indexed (g : ModuleGraph) : Prop where
  entry : 0 < g.size
  modules : ∀ m ∈ g.modules, m.Indexed g.size
  order : ∀ index, index ∈ g.order ↔ index < g.size

theorem Discovery.add_followed {provider : ModuleProvider} {d d' : Discovery}
    {entry : LoadedModule} (h : ∀ m ∈ d.modules, m.Followed)
    (hadd : d.add provider entry = .ok d') : ∀ m ∈ d'.modules, m.Followed := by
  obtain ⟨id, loaded⟩ := entry
  cases loaded with
  | failed | crashed => cases hadd
  | text source =>
    unfold Discovery.add at hadd
    dsimp only at hadd
    split at hadd
    · cases hadd
    · obtain ⟨⟨requests, known⟩, hrequests, hadd⟩ := bind_eq_ok.mp hadd
      obtain ⟨⟨dynamicImports, known'⟩, hdynamic, hadd⟩ := bind_eq_ok.mp hadd
      cases hadd
      intro m hm
      rcases Array.mem_push.mp hm with hm | rfl
      · exact h m hm
      · have hlength := length_dependenciesOf hrequests
        have hlength' := length_dependenciesOf hdynamic
        simp only [Array.length_toList, List.length_map] at hlength hlength'
        exact ⟨hlength, hlength'⟩

theorem Discovery.run_followed {provider : ModuleProvider} {cancelled : List ModuleId → Bool}
    {rounds : Nat} {loads loads' : List ModuleId} {d : Discovery} {g : ModuleGraph}
    (h : ∀ m ∈ d.modules, m.Followed)
    (hrun : d.run provider cancelled rounds loads = some ⟨loads', .ok g⟩) :
    ∀ m ∈ g.modules, m.Followed := by
  induction rounds generalizing loads d with
  | zero => cases hrun
  | succ rounds ih =>
    rw [Discovery.run] at hrun
    split at hrun
    · cases hrun
      exact h
    split at hrun
    · cases hrun
    dsimp only at hrun
    split at hrun
    · cases hrun
    · rename_i d' hall
      refine ih ?_ hrun
      unfold Discovery.addAll at hall
      split at hall
      · cases hall
      · exact foldlM_invariant (fun _ _ _ h hadd => Discovery.add_followed h hadd) h hall

/-- **Discovered graphs have no index that leads nowhere.** -/
theorem discover_indexed {provider : ModuleProvider} {cancelled : List ModuleId → Bool}
    {rounds : Nat} {loads : List ModuleId} {g : ModuleGraph}
    (h : discover provider cancelled rounds = some ⟨loads, .ok g⟩) : g.Indexed := by
  have hg := discover_wellFormed h
  have hfollowed := Discovery.run_followed (fun _ hm => (Array.not_mem_empty _ hm).elim) h
  exact ⟨hg.entry, fun m hm => (hg.modules m hm).indexed (hfollowed m hm), fun _ => mem_order hg⟩

/-! ## Linkages -/

variable {g : ModuleGraph} {l : Linkage}

/-- The imports of every module are linked, and all links lead to slots that the graph can have. -/
structure Linkage.Indexed (l : Linkage) (g : ModuleGraph) : Prop where
  size : l.imports.size = g.size
  imports : ∀ entries ∈ l.imports, ∀ entry ∈ entries, entry.2.IsOf g
  namespaces : ∀ entry ∈ l.namespaces, entry.1 < g.size ∧ ∀ e ∈ entry.2, e.2.IsOf g
  entryExports : ∀ e ∈ l.entryExports, e.2.IsOf g

/-- There are imports for every module of a graph that is linked. -/
theorem size_imports_of_link (hg : g.WellFormed) (h : link g = .ok l) :
    l.imports.size = g.size := by
  obtain ⟨_, -, h⟩ := bind_eq_ok.mp h
  obtain ⟨⟨linkage, cache⟩, hrun, h⟩ := bind_eq_ok.mp h
  cases h
  obtain ⟨imports, _, himports, hrun⟩ := stateBind_eq_ok.mp hrun
  obtain ⟨_, _, -, hrun⟩ := stateBind_eq_ok.mp hrun
  obtain ⟨_, _, -, hrun⟩ := stateBind_eq_ok.mp hrun
  cases hrun
  have hempty : CacheIsOf g [] := fun _ _ h => nomatch h
  have hall := links_mapM (fun m hm => links_linkImports hg (Array.mem_toList_iff.mp hm))
  have hlength := (hall hempty himports).2.length_eq
  rw [Array.length_toList] at hlength
  exact hlength.symm

/-- **Linkages have no index that leads nowhere.** -/
theorem link_indexed (hg : g.WellFormed) (h : link g = .ok l) : l.Indexed g := by
  have hl := link_wellFormed hg h
  have hsize := size_imports_of_link hg h
  refine ⟨hsize, fun entries hentries entry hentry => ?_, fun entry hentry => ⟨?_, ?_⟩, ?_⟩
  · obtain ⟨index, hindex⟩ := Array.getElem?_of_mem hentries
    have hlt := (Array.getElem?_eq_some_iff.mp hindex).1
    rw [hsize] at hlt
    have hm : g.modules[index]? = some g.modules[index] := Array.getElem?_eq_getElem hlt
    exact (hl.imports index _ entries hm hindex entry hentry).1.1
  · exact hl.bound entry.1 (List.mem_map_of_mem hentry)
  · exact fun e he => (hl.namespaces entry hentry e he).1
  · exact fun e he => (hl.entryExports e he).1

/-! ## Needs -/

/-- Something that the bundle of a graph can need: an item of a module, or a slot that the graph can
have. -/
def Need.IsOf (g : ModuleGraph) : Need → Prop
  | .item module index => ∃ m item, g.ItemAt module index m item
  | .slot needed => needed.IsOf g

/-- What something of a graph needs is of the graph, too. -/
theorem Need.IsOf.next (hg : g.WellFormed) (hl : l.WellFormed g) {need : Need}
    (h : need.IsOf g) : ∀ other ∈ need.next g l, other.IsOf g := by
  intro other hother
  cases need with
  | item module index =>
    obtain ⟨m, item, slot, hat, hslot, rfl⟩ := Need.mem_next_item.mp hother
    rcases SourceModule.mem_itemSlots.mp hslot with ⟨r, -, hr⟩ | ⟨dynamic, hdynamic, -⟩
    · exact (referenceSlot_has hg hl hat.1 hr).1.1
    · obtain ⟨_, -, hhas⟩ := dynamicSlot_has hl (Array.mem_of_getElem? hat.1) hdynamic
      exact hhas.1
  | slot slot =>
    cases slot with
    | declared module binding =>
      obtain ⟨index, m, item, hat, -, rfl⟩ := Need.mem_next_declared.mp hother
      exact ⟨m, item, hat⟩
    | namespaceOf module =>
      obtain ⟨exports, e, hexports, he, rfl⟩ := Need.mem_next_namespaceOf.mp hother
      exact (hl.namespaces _ (mem_of_lookup_eq_some hexports) e he).1
    | external specifier imported => cases hother

/-- **A bundle needs nothing that is not there.** -/
theorem shake_isOf (hg : g.WellFormed) (hl : l.WellFormed g) (dropUnused : Bool) :
    ∀ need ∈ (shake g l dropUnused).all, need.IsOf g := by
  have hclosed : ClosedUnder (Need.next g l) (roots g l dropUnused) (Need.IsOf g) := by
    refine ⟨fun need hneed => ?_, fun need hneed => hneed.next hg hl⟩
    rcases mem_roots.mp hneed with ⟨e, he, rfl⟩ | ⟨module, index, m, item, hat, -, rfl⟩
    · exact (hl.entryExports e he).1
    · exact ⟨m, item, hat⟩
  exact (shake_searches g l dropUnused).subset (.start _ _) (closedUnder_eraseDups.mpr hclosed)

end ModuleBundler
