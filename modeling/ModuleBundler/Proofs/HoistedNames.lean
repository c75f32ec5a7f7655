import ModuleBundler.Proofs.ClosedBundle
import ModuleBundler.Proofs.MadeUpNames

/-!
# Names of variables that are hoisted

* `freeName_eq_numberedName_iff`, `freeName_eq_of_subset_iff` : which of the numbered names is free,
  and when it stays so while more names are taken;
* `nameSlots_append_iff` : more uses of slots leave all names as they are unless one of these is
  hidden there;
* `nodup_namedSlots` : every variable gets its name once;
* `hoistedUses` : the declarations of the variables of modules, as places where another name of the
  variable would be hidden;
* `hoisted_uncaptured_iff` : the names are hidden at none of them if and only if heeding them along
  with the uses would give the same names.
-/

namespace ModuleBundler

/-! ## Free names -/

/-- The free name is the first of the numbered names that is not taken. -/
theorem freeName_eq_numberedName_iff {taken : List String} {base : String} {n : Nat} :
    freeName taken base = numberedName base n ↔
      numberedName base n ∉ taken ∧ ∀ k < n, numberedName base k ∈ taken := by
  have hfirst : ∃ n, freeName taken base = numberedName base n ∧
      ∀ k < n, numberedName base k ∈ taken := by
    unfold freeName
    dsimp only
    rw [List.find?_map]
    cases hfind : (List.range (taken.length + 1)).find?
        ((fun name => !taken.contains name) ∘ numberedName base) with
    | none => exact ⟨0, rfl, fun _ hk => absurd hk (Nat.not_lt_zero _)⟩
    | some n =>
      refine ⟨n, rfl, fun k hk => ?_⟩
      simpa using (List.find?_range_eq_some.mp hfind).2.2 k hk
  obtain ⟨m, hm, hbefore⟩ := hfirst
  have hfree := freeName_not_mem taken base
  rw [hm] at hfree ⊢
  constructor
  · intro heq
    obtain rfl := numberedName_injective base heq
    exact ⟨hfree, hbefore⟩
  · rintro ⟨hn, hbefore'⟩
    rcases Nat.lt_trichotomy m n with hlt | rfl | hlt
    · exact absurd (hbefore' m hlt) hfree
    · rfl
    · exact absurd (hbefore n hlt) hn

/-- A free name stays the first one that is free unless it is taken. -/
theorem freeName_eq_of_subset_iff {taken taken' : List String} (h : taken ⊆ taken')
    (base : String) : freeName taken' base = freeName taken base ↔
      freeName taken base ∉ taken' := by
  constructor
  · intro heq
    rw [← heq]
    exact freeName_not_mem taken' base
  · intro hfree
    obtain ⟨n, hn⟩ := freeName_eq_numberedName taken base
    rw [hn] at hfree ⊢
    exact freeName_eq_numberedName_iff.mpr
      ⟨hfree, fun k hk => h ((freeName_eq_numberedName_iff.mp hn).2 k hk)⟩

/-! ## More uses -/

/-- More uses leave all names as they are unless one of these is hidden there. -/
theorem nameSlots_append_iff {desired : Slot → String} {uses more : List SlotUse}
    {used : List String} {slots : List Slot} :
    nameSlots desired (uses ++ more) used slots = nameSlots desired uses used slots ↔
      ∀ entry ∈ nameSlots desired uses used slots, ∀ u ∈ more, u.slot = entry.1 →
        entry.2 ∉ u.hidden := by
  induction slots generalizing used with
  | nil => exact iff_of_true rfl fun _ h => nomatch h
  | cons slot rest ih =>
    have hsub : used ++ (uses.filter fun u => u.slot = slot).flatMap SlotUse.hidden ⊆
        used ++ ((uses ++ more).filter fun u => u.slot = slot).flatMap SlotUse.hidden := by
      rw [List.filter_append, List.flatMap_append, ← List.append_assoc]
      exact List.subset_append_left _ _
    have hfree := freeName_not_mem
      (used ++ (uses.filter fun u => u.slot = slot).flatMap SlotUse.hidden) (desired slot)
    have hname := freeName_eq_of_subset_iff hsub (desired slot)
    unfold nameSlots
    dsimp only
    rw [List.cons_eq_cons, Prod.mk.injEq, and_iff_right rfl, List.forall_mem_cons]
    generalize freeName (used ++ (uses.filter fun u => u.slot = slot).flatMap SlotUse.hidden)
      (desired slot) = name at hfree hname ⊢
    have hhidden : name ∉ used ++
        ((uses ++ more).filter fun u => u.slot = slot).flatMap SlotUse.hidden ↔
          ∀ u ∈ more, u.slot = slot → name ∉ u.hidden := by
      rw [List.filter_append, List.flatMap_append, ← List.append_assoc, List.mem_append,
        or_iff_right hfree, List.mem_flatMap]
      simp only [List.mem_filter, decide_eq_true_eq, not_exists, not_and, and_imp]
    rw [hname, hhidden]
    -- The names after it see the same names used, once this one is the same.
    refine and_congr_right fun huses => ?_
    rw [hname.mpr (hhidden.mpr huses)]
    exact ih

/-! ## The variables of a bundle -/

section
variable {g : ModuleGraph} {l : Linkage}

theorem nodup_entryFirst (hg : g.WellFormed) : g.entryFirst.Nodup :=
  List.nodup_cons.mpr ⟨fun h => of_decide_eq_true (List.mem_filter.mp h).2 rfl,
    (ModuleGraph.order_holds (successors_lt hg)).1.filter _⟩

theorem declared_of_mem_declaredSlots {needs : Needs} {index : Nat} {slot : Slot}
    (h : slot ∈ declaredSlots g needs index) : ∃ binding, slot = .declared index binding := by
  unfold declaredSlots at h
  split at h
  · cases h
  · obtain ⟨binding, -, rfl⟩ := List.mem_map.mp h
    exact ⟨binding, rfl⟩

theorem nodup_declaredSlots (needs : Needs) (index : Nat) :
    (declaredSlots g needs index).Nodup := by
  unfold declaredSlots
  split
  · exact List.nodup_nil
  · refine ((List.nodup_range.filter _).filter _).map fun a b heq => ?_
    cases heq
    rfl

/-- Every variable gets its name once. -/
theorem nodup_namedSlots (hg : g.WellFormed) (hl : l.WellFormed g) (needs : Needs) :
    (namedSlots g l needs).Nodup := by
  have hdeclared : (g.entryFirst.flatMap (declaredSlots g needs)).Nodup := by
    refine List.nodup_flatMap.mpr ⟨fun index _ => nodup_declaredSlots needs index, ?_⟩
    refine (nodup_entryFirst hg).imp fun hne => ?_
    intro slot hslot hslot'
    obtain ⟨binding, rfl⟩ := declared_of_mem_declaredSlots hslot
    obtain ⟨binding', heq⟩ := declared_of_mem_declaredSlots hslot'
    cases heq
    exact hne rfl
  have hnamespaces : (l.namespaces.map fun entry => Slot.namespaceOf entry.1).Nodup := by
    have hinjective : Function.Injective Slot.namespaceOf := fun a b heq => by
      cases heq
      rfl
    have hnodup := hl.nodup.map hinjective
    rwa [List.map_map] at hnodup
  have hexternal : ∀ slot ∈ externalSlots g l needs, slot.isExternal = true := by
    intro slot hslot
    unfold externalSlots at hslot
    dsimp only at hslot
    rw [List.mem_eraseDups, List.mem_filter, Bool.and_eq_true] at hslot
    exact hslot.2.1
  refine List.nodup_append.mpr ⟨List.nodup_append.mpr ⟨hdeclared, hnamespaces.filter _, ?_⟩,
    nodup_eraseDups _, ?_⟩
  · intro slot hslot slot' hslot'
    obtain ⟨index, -, hslot⟩ := List.mem_flatMap.mp hslot
    obtain ⟨binding, rfl⟩ := declared_of_mem_declaredSlots hslot
    obtain ⟨entry, -, rfl⟩ := List.mem_map.mp (List.mem_filter.mp hslot').1
    exact nofun
  · intro slot hslot slot' hslot' heq
    have hext := hexternal slot' hslot'
    rw [← heq] at hext
    rcases List.mem_append.mp hslot with hslot | hslot
    · obtain ⟨index, -, hslot⟩ := List.mem_flatMap.mp hslot
      obtain ⟨binding, rfl⟩ := declared_of_mem_declaredSlots hslot
      cases hext
    · obtain ⟨entry, -, rfl⟩ := List.mem_map.mp (List.mem_filter.mp hslot).1
      cases hext

/-- The name of a slot is the one that it was given. -/
theorem get?_assignNames_iff (hg : g.WellFormed) (hl : l.WellFormed g) {needs : Needs}
    {slot : Slot} {name : String} : (assignNames g l needs).get? slot = some name ↔
      (slot, name) ∈ (assignNames g l needs).names := by
  refine ⟨Names.mem_of_get?_eq_some, fun hmem => ?_⟩
  have hslots : (assignNames g l needs).names.map Prod.fst = namedSlots g l needs :=
    map_fst_nameSlots ..
  have hslot : slot ∈ namedSlots g l needs := hslots ▸ List.mem_map_of_mem hmem
  obtain ⟨name', hname'⟩ := exists_name (l := l) hslot
  have hnodup : ((assignNames g l needs).names.map Prod.fst).Nodup :=
    hslots ▸ nodup_namedSlots hg hl needs
  cases List.inj_on_of_nodup_map hnodup (Names.mem_of_get?_eq_some hname') hmem rfl
  exact hname'

end

/-! ## Hoisted declarations -/

/-- The declarations of module variables in an item, each with the names around it that another
name of the variable must not be. -/
def SourceModule.hoistedUses (m : SourceModule) (l : Linkage) (index : Nat) (item : ModuleItem) :
    List SlotUse :=
  let scopes := m.record.scopes
  item.declarations.toList.filterMap fun i => do
    let d ← scopes.declarations[i]?
    let slot ← l.bindingSlot m index (← scopes.ofDeclaration[i]?)
    pure ⟨slot, (scopes.namesEnclosing d.scope).filter (· ≠ d.name)⟩

/-- The declarations of module variables in all that the bundle needs. -/
def hoistedUses (g : ModuleGraph) (l : Linkage) (needs : Needs) : List SlotUse :=
  g.modules.toList.zipIdx.flatMap fun (m, index) =>
    (needs.keptItems m index).flatMap (m.hoistedUses l index)

theorem mem_hoistedUses {g : ModuleGraph} {l : Linkage} {needs : Needs} {u : SlotUse} :
    u ∈ hoistedUses g l needs ↔ ∃ module index m item, g.ItemAt module index m item ∧
      needs.keeps module index = true ∧ u ∈ m.hoistedUses l module item :=
  mem_flatMap_keptItems (f := fun m index => m.hoistedUses l index)

theorem SourceModule.mem_hoistedUses {m : SourceModule} {l : Linkage} {index : Nat}
    {item : ModuleItem} {u : SlotUse} : u ∈ m.hoistedUses l index item ↔
      ∃ i d binding slot, item.declarations.start ≤ i ∧ i < item.declarations.stop ∧
        m.record.scopes.declarations[i]? = some d ∧
        m.record.scopes.ofDeclaration[i]? = some binding ∧
        l.bindingSlot m index binding = some slot ∧
        u = ⟨slot, (m.record.scopes.namesEnclosing d.scope).filter (· ≠ d.name)⟩ := by
  unfold hoistedUses
  simp only [List.mem_filterMap, IndexRange.mem_toList, Option.bind_eq_bind,
    Option.bind_eq_some_iff, Option.pure_def, Option.some.injEq]
  constructor
  · rintro ⟨i, ⟨hstart, hstop⟩, d, hd, binding, hbinding, slot, hslot, rfl⟩
    exact ⟨i, d, binding, slot, hstart, hstop, hd, hbinding, hslot, rfl⟩
  · rintro ⟨i, d, binding, slot, hstart, hstop, hd, hbinding, hslot, rfl⟩
    exact ⟨i, ⟨hstart, hstop⟩, d, hd, binding, hbinding, slot, hslot, rfl⟩

/-- **When a new name is hidden where the variable is declared.** In the items that are kept, no
scope around a declaration of a module variable declares the new name of the variable if and only if
heeding those scopes, as those around the uses are heeded, gives the same names. -/
theorem hoisted_uncaptured_iff {provider : ModuleProvider} {cancelled : List ModuleId → Bool}
    {rounds : Nat} {loads : List ModuleId} {g : ModuleGraph} {l : Linkage}
    (hdiscover : discover provider cancelled rounds = some ⟨loads, .ok g⟩) (hlink : link g = .ok l)
    (dropUnused : Bool) :
    (∀ module index m item, g.ItemAt module index m item →
      (shake g l dropUnused).keeps module index = true →
      ∀ i d binding slot name scope, item.declarations.start ≤ i → i < item.declarations.stop →
        m.record.scopes.declarations[i]? = some d →
        m.record.scopes.ofDeclaration[i]? = some binding →
        l.bindingSlot m module binding = some slot →
        (assignNames g l (shake g l dropUnused)).get? slot = some name → name ≠ d.name →
        m.record.scopes.Inside d.scope scope → ¬ m.record.scopes.Declares scope name) ↔
      nameSlots (desiredName g (importAliases g l))
          (slotUses g l (shake g l dropUnused) ++ hoistedUses g l (shake g l dropUnused))
          (globalNames g) (namedSlots g l (shake g l dropUnused)) =
        (assignNames g l (shake g l dropUnused)).names := by
  have hg := discover_wellFormed hdiscover
  have hl := link_wellFormed hg hlink
  refine Iff.trans ⟨fun h entry hentry u hu hslot hhidden => ?_,
    fun h module index m item hat hkept i d binding slot name scope hstart hstop hd hbinding hslot
      hname hne hinside hdeclares => ?_⟩ nameSlots_append_iff.symm
  · obtain ⟨module, index, m, item, hat, hkept, hu⟩ := mem_hoistedUses.mp hu
    obtain ⟨i, d, binding, slot, hstart, hstop, hd, hbinding, hbindingSlot, rfl⟩ :=
      SourceModule.mem_hoistedUses.mp hu
    obtain ⟨hnames, hne⟩ := List.mem_filter.mp hhidden
    obtain ⟨scope, hinside, hdeclares⟩ := ScopeTree.mem_namesEnclosing.mp hnames
    have hname := (get?_assignNames_iff hg hl).mpr hentry
    change slot = entry.1 at hslot
    rw [← hslot] at hname
    exact h module index m item hat hkept i d binding slot entry.2 scope hstart hstop hd hbinding
      hbindingSlot hname (of_decide_eq_true hne) hinside hdeclares
  · have hentry := (get?_assignNames_iff hg hl).mp hname
    have huse : ⟨slot, (m.record.scopes.namesEnclosing d.scope).filter (· ≠ d.name)⟩ ∈
        hoistedUses g l (shake g l dropUnused) :=
      mem_hoistedUses.mpr ⟨module, index, m, item, hat, hkept,
        SourceModule.mem_hoistedUses.mpr
          ⟨i, d, binding, slot, hstart, hstop, hd, hbinding, hslot, rfl⟩⟩
    refine h (slot, name) hentry _ huse rfl (List.mem_filter.mpr ⟨?_, decide_eq_true hne⟩)
    exact ScopeTree.mem_namesEnclosing.mpr ⟨scope, hinside, hdeclares⟩

/-- Two modules that declare a variable of one name, one of them in a block. -/
def blockVar : ModuleProvider where
  resolve specifier _ := .ok (.module (.file specifier))
  load
    | .file "/index.js" => .text "import \"./a.js\";\nvar x = 1;\nf(x);\n"
    | .file "./a.js" => .text "\x7b\n  let y = 2;\n  var x = y;\n  f(x);\n\x7d\n"
    | id => .failed (.missing id.text)

/-- Nothing in the block has the new name of the variable. -/
theorem blockVar_uncaptured : ∃ loads g l m d scope,
    discover blockVar (fun _ => false) 5 = some ⟨loads, .ok g⟩ ∧ link g = .ok l ∧
      g.modules[1]? = some m ∧ m.record.scopes.declarations[1]? = some d ∧ d.name = "x" ∧
      (assignNames g l (shake g l true)).get? (.declared 1 1) = some "x$1" ∧
      m.record.scopes.Inside d.scope scope ∧ ¬ m.record.scopes.Declares scope "x$1" := by
  have hlinked : ((discover blockVar (fun _ => false) 5).any fun logged =>
      logged.result.toOption.any fun g => (link g).toOption.any fun l =>
        g.modules[1]?.any fun m => m.record.items[0]?.any fun item =>
          m.record.scopes.declarations[1]?.any fun d =>
            item.declarations.start ≤ 1 ∧ 1 < item.declarations.stop ∧
            m.record.scopes.ofDeclaration[1]? = some 1 ∧
            l.bindingSlot m 1 1 = some (.declared 1 1) ∧ d.name = "x" ∧ d.scope ≠ moduleScope ∧
            (shake g l true).keeps 1 0 ∧
            (assignNames g l (shake g l true)).get? (.declared 1 1) = some "x$1" ∧
            nameSlots (desiredName g (importAliases g l))
              (slotUses g l (shake g l true) ++ hoistedUses g l (shake g l true))
              (globalNames g) (namedSlots g l (shake g l true)) =
                (assignNames g l (shake g l true)).names) = true := by
    decide +kernel
  obtain ⟨loads, g, l, hdiscover, hlink, h⟩ := exists_linked_of_any hlinked
  obtain ⟨m, hm, h⟩ := (Option.any_eq_true _ _).mp h
  obtain ⟨item, hitem, h⟩ := (Option.any_eq_true _ _).mp h
  obtain ⟨d, hd, h⟩ := (Option.any_eq_true _ _).mp h
  obtain ⟨hstart, hstop, hbinding, hslot, hname, hscope, hkept, hnew, hsame⟩ := of_decide_eq_true h
  have hinside : m.record.scopes.Inside d.scope d.scope := .self hscope
  refine ⟨loads, g, l, m, d, d.scope, hdiscover, hlink, hm, hd, hname, hnew, hinside, ?_⟩
  refine (hoisted_uncaptured_iff hdiscover hlink true).mpr hsame 1 0 m item ⟨hm, hitem⟩ hkept 1 d 1
    (.declared 1 1) "x$1" d.scope hstart hstop hd hbinding hslot hnew ?_ hinside
  rw [hname]
  decide

/-- The same, but for a variable of the block that has the name which is free for the other one
elsewhere. -/
def capturedVar : ModuleProvider where
  resolve specifier _ := .ok (.module (.file specifier))
  load
    | .file "/index.js" => .text "import \"./a.js\";\nvar x = 1;\nf(x);\n"
    | .file "./a.js" => .text "\x7b\n  let x$1 = 2;\n  var x = 3;\n  f(x$1);\n\x7d\n"
    | id => .failed (.missing id.text)

/-- The block of the bundle declares one name twice. -/
theorem capturedVar_captured : ∃ loads bundle g l m item d scope,
    compile capturedVar .default (fun _ => false) 5 = some ⟨loads, .ok bundle⟩ ∧
      bundle.code = "\x7b\n  let x$1 = 2;\n  var x$1 = 3;\n  f(x$1);\n\x7d\nvar x = 1;\nf(x);\n" ∧
      discover capturedVar (fun _ => false) 5 = some ⟨loads, .ok g⟩ ∧ link g = .ok l ∧
      g.ItemAt 1 0 m item ∧ (shake g l true).keeps 1 0 = true ∧ item.declarations.start ≤ 1 ∧
      1 < item.declarations.stop ∧ m.record.scopes.declarations[1]? = some d ∧ d.name = "x" ∧
      m.record.scopes.ofDeclaration[1]? = some 1 ∧
      l.bindingSlot m 1 1 = some (.declared 1 1) ∧
      (assignNames g l (shake g l true)).get? (.declared 1 1) = some "x$1" ∧
      m.record.scopes.Inside d.scope scope ∧ m.record.scopes.Declares scope "x$1" := by
  have hcompiled : ((compile capturedVar .default (fun _ => false) 5).any fun logged =>
      logged.result.toOption.any fun bundle => bundle.code =
        "\x7b\n  let x$1 = 2;\n  var x$1 = 3;\n  f(x$1);\n\x7d\nvar x = 1;\nf(x);\n") = true := by
    decide +kernel
  have hlinked : ((discover capturedVar (fun _ => false) 5).any fun logged =>
      logged.result.toOption.any fun g => (link g).toOption.any fun l =>
        g.modules[1]?.any fun m => m.record.items[0]?.any fun item =>
          m.record.scopes.declarations[1]?.any fun d =>
            (shake g l true).keeps 1 0 ∧ item.declarations.start ≤ 1 ∧
            1 < item.declarations.stop ∧ d.name = "x" ∧
            m.record.scopes.ofDeclaration[1]? = some 1 ∧
            l.bindingSlot m 1 1 = some (.declared 1 1) ∧
            (assignNames g l (shake g l true)).get? (.declared 1 1) = some "x$1" ∧
            "x$1" ∈ m.record.scopes.namesEnclosing d.scope) = true := by
    decide +kernel
  obtain ⟨⟨loads, result⟩, hcompile, hbundle⟩ := (Option.any_eq_true _ _).mp hcompiled
  obtain ⟨loads', g, l, hdiscover, hlink, h⟩ := exists_linked_of_any hlinked
  obtain ⟨m, hm, h⟩ := (Option.any_eq_true _ _).mp h
  obtain ⟨item, hitem, h⟩ := (Option.any_eq_true _ _).mp h
  obtain ⟨d, hd, h⟩ := (Option.any_eq_true _ _).mp h
  obtain ⟨hkept, hstart, hstop, hname, hbinding, hslot, hnew, hmem⟩ := of_decide_eq_true h
  obtain ⟨scope, hinside, hdeclares⟩ := ScopeTree.mem_namesEnclosing.mp hmem
  cases result with
  | error => cases hbundle
  | ok bundle =>
    obtain ⟨g', l', output, hdiscover', -, -, -⟩ := compile_eq_ok hcompile
    cases hdiscover.symm.trans hdiscover'
    exact ⟨loads, bundle, g, l, m, item, d, scope, hcompile, of_decide_eq_true hbundle, hdiscover,
      hlink, ⟨hm, hitem⟩, hkept, hstart, hstop, hd, hname, hbinding, hslot, hnew, hinside,
      hdeclares⟩

end ModuleBundler
