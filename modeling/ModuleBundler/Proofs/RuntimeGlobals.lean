import ModuleBundler.Proofs.ClosedBundle

/-!
# Globals that the bundle reads

* `GlobalAt` : at a place in a module a name means the global in the bundle;
* `bundleGlobals_free` : no variable of a bundle has the name of a global that the bundle reads;
* `itemEdits_dynamic` : what takes the place of a dynamic import of a module of the bundle;
* `promise_global_iff` : the `Promise` in it is the global, unless a scope around it declares that
  name.
-/

namespace ModuleBundler

variable {g : ModuleGraph} {l : Linkage} {needs : Needs} {n : Names}

/-- At a place in a module a name means the global in the bundle: no scope around the place declares
it, and no variable of the bundle has it. -/
def GlobalAt (tree : ScopeTree) (n : Names) (place : ScopeId) (name : String) : Prop :=
  (∀ scope, tree.Inside place scope → ¬ tree.Declares scope name) ∧
    ∀ slot, n.get? slot ≠ some name

/-- No variable of a bundle has the name of a global that the bundle reads. -/
theorem bundleGlobals_free {name : String} (h : name ∈ bundleGlobals) (slot : Slot) :
    (assignNames g l needs).get? slot ≠ some name := by
  intro hname
  refine (mem_nameSlots (Names.mem_of_get?_eq_some hname)).1 ?_
  exact List.mem_append_left _ h

/-- So such a name means the global unless a scope around the place declares it. -/
theorem globalAt_iff {tree : ScopeTree} {place : ScopeId} {name : String}
    (h : name ∈ bundleGlobals) :
    GlobalAt tree (assignNames g l needs) place name ↔ name ∉ tree.namesEnclosing place := by
  rw [ScopeTree.mem_namesEnclosing, GlobalAt]
  push Not
  exact ⟨And.left, fun hscopes => ⟨hscopes, bundleGlobals_free h⟩⟩

/-- What takes the place of a dynamic import of a module of the bundle. -/
theorem itemEdits_dynamic {m : SourceModule} {module : Nat} {item : ModuleItem} {edits : List Edit}
    (h : itemEdits l n m module item = .ok edits) {dynamic : DynamicImport} {slot : Slot}
    (hdynamic : (dynamic, slot) ∈ m.dynamicSlots)
    (hin : item.span.contains dynamic.span.start = true) : ∃ name, n.get? slot = some name ∧
      ⟨dynamic.span, "Promise.resolve().then(() => " ++ name ++ ")", none⟩ ∈ edits := by
  obtain ⟨references, -, h⟩ := bind_eq_ok.mp h
  obtain ⟨declarations, -, h⟩ := bind_eq_ok.mp h
  obtain ⟨exports, -, h⟩ := bind_eq_ok.mp h
  obtain ⟨dynamics, hdynamics, h⟩ := bind_eq_ok.mp h
  obtain rfl := pure_eq_ok.mp h
  obtain ⟨edit, hedit, heq⟩ := exists_of_forall₂ (mapM_eq_ok.mp hdynamics).flip
    (List.mem_filter.mpr ⟨hdynamic, hin⟩)
  obtain ⟨name, hname, heq⟩ := bind_eq_ok.mp heq
  obtain rfl := pure_eq_ok.mp heq
  refine ⟨name, ?_, List.mem_append_right _ hedit⟩
  unfold Names.nameOf at hname
  split at hname
  · rename_i hget
    cases hname
    exact hget
  · cases hname

/-- The edits of the items of a bundle. -/
theorem exists_itemEdits (hg : g.WellFormed) {output : Output} (h : emit g l needs n = .ok output)
    {module index : Nat} {m : SourceModule} {item : ModuleItem}
    (hitem : Emitted g needs module index m item) :
    ∃ edits, itemEdits l n m module item = .ok edits := by
  obtain ⟨texts, hpieces, -⟩ := emit_code h
  obtain ⟨text, -, htext⟩ := exists_of_forall₂ hpieces.flip
    ((mem_bundlePieces_item hg).mpr ⟨index, m, hitem⟩)
  obtain ⟨m', hm, htext⟩ := bind_eq_ok.mp htext
  obtain ⟨edits, hedits, -⟩ := bind_eq_ok.mp htext
  obtain rfl : m = m' := Option.some.inj (hitem.itemAt.1.symm.trans (getModule_eq_ok hm))
  exact ⟨edits, hedits⟩

/-- **Where `Promise` is the global.** No variable of a bundle has the name of one of the globals that
the bundle reads itself, so that `Object` and `Symbol` in the objects that hold exports are those. A
dynamic import of a module of the bundle is replaced by a use of `Promise` and of such an object. The
object's name is declared by no scope around it. `Promise` is the global there if and only if none of
these scopes declares it either. -/
theorem promise_global_iff {provider : ModuleProvider} {options : CompileOptions}
    {cancelled : List ModuleId → Bool} {rounds : Nat} {loads : List ModuleId} {bundle : Bundle}
    (h : compile provider options cancelled rounds = some ⟨loads, .ok bundle⟩) :
    ∃ g l needs n output, discover provider cancelled rounds = some ⟨loads, .ok g⟩ ∧
      link g = .ok l ∧ needs = shake g l options.dropUnused ∧ n = assignNames g l needs ∧
      emit g l needs n = .ok output ∧ bundle.code = output.code ∧
      (∀ name ∈ ["Object", "Promise", "Symbol"], ∀ slot, n.get? slot ≠ some name) ∧
      ∀ module index m item, Emitted g needs module index m item →
        ∀ dynamic slot, (dynamic, slot) ∈ m.dynamicSlots →
          item.span.contains dynamic.span.start = true →
          ∃ edits name, itemEdits l n m module item = .ok edits ∧ n.get? slot = some name ∧
            ⟨dynamic.span, "Promise.resolve().then(() => " ++ name ++ ")", none⟩ ∈ edits ∧
            (∀ scope, m.record.scopes.Inside dynamic.scope scope →
              ¬ m.record.scopes.Declares scope name) ∧
            (GlobalAt m.record.scopes n dynamic.scope "Promise" ↔
              "Promise" ∉ m.record.scopes.namesEnclosing dynamic.scope) := by
  obtain ⟨g, l, output, hdiscover, hlink, hemit, rfl⟩ := compile_eq_ok h
  have hg := discover_wellFormed hdiscover
  refine ⟨g, l, _, _, output, hdiscover, hlink, rfl, rfl, hemit, rfl, ?_, ?_⟩
  · intro name hname
    exact bundleGlobals_free hname
  · intro module index m item hitem dynamic slot hdynamic hin
    obtain ⟨edits, hedits⟩ := exists_itemEdits hg hemit hitem
    obtain ⟨name, hname, hedit⟩ := itemEdits_dynamic hedits hdynamic hin
    refine ⟨edits, name, hedits, hname, hedit, fun scope => ?_, globalAt_iff (by decide)⟩
    refine not_declares_of_mem_slotUses hname (mem_slotUses.mpr ⟨module, index, m, item,
      hitem.itemAt, hitem.kept, SourceModule.mem_itemUses_of_dynamicImport hdynamic hin⟩)

/-- A function that loads a module, next to one with a parameter `Promise`. -/
def besidePromise : ModuleProvider where
  resolve specifier _ := .ok (.module (.file specifier))
  load
    | .file "/index.js" => .text "f(() => import(\"./a.js\"), (Promise) => 0);\n"
    | .file "./a.js" => .text ""
    | id => .failed (.missing id.text)

/-- `Promise` is the global where the module is loaded. -/
theorem besidePromise_global : ∃ loads bundle g n m dynamic,
    compile besidePromise .default (fun _ => false) 5 = some ⟨loads, .ok bundle⟩ ∧
      discover besidePromise (fun _ => false) 5 = some ⟨loads, .ok g⟩ ∧ g.modules[0]? = some m ∧
      m.dynamicSlots = [(dynamic, .namespaceOf 1)] ∧
      GlobalAt m.record.scopes n dynamic.scope "Promise" := by
  have hcompiled : ((compile besidePromise .default (fun _ => false) 5).any fun logged =>
      logged.result.toOption.isSome) = true := by
    decide +kernel
  obtain ⟨⟨loads, result⟩, hcompile, hok⟩ := (Option.any_eq_true _ _).mp hcompiled
  cases result with
  | error => cases hok
  | ok bundle =>
    obtain ⟨g, l, needs, n, output, hdiscover, hlink, rfl, rfl, -, -, -, hall⟩ :=
      promise_global_iff hcompile
    have hread : ((discover besidePromise (fun _ => false) 5).all fun logged =>
        logged.result.toOption.all fun g => (link g).toOption.all fun l =>
          g.modules[0]?.any fun m => m.record.items[0]?.any fun item =>
            m.dynamicSlots.head?.any fun entry =>
              m.dynamicSlots = [(entry.1, .namespaceOf 1)] ∧
              item.kind.isModuleSyntax = false ∧ (shake g l true).keeps 0 0 ∧
                item.span.contains entry.1.span.start ∧
                "Promise" ∉ m.record.scopes.namesEnclosing entry.1.scope) = true := by
      decide +kernel
    rw [hdiscover] at hread
    change ((link g).toOption.all _) = true at hread
    rw [hlink] at hread
    obtain ⟨m, hm, hread⟩ := (Option.any_eq_true _ g.modules[0]?).mp hread
    obtain ⟨item, hitem, hread⟩ := (Option.any_eq_true _ _).mp hread
    obtain ⟨⟨dynamic, slot⟩, -, hread⟩ := (Option.any_eq_true _ _).mp hread
    obtain ⟨hslots, hcode, hkept, hin, hfree⟩ := of_decide_eq_true hread
    obtain ⟨edits, name, -, -, -, -, hglobal⟩ :=
      hall 0 0 m item ⟨⟨hm, hitem⟩, hkept, hcode⟩ dynamic (.namespaceOf 1) (by simp [hslots]) hin
    exact ⟨loads, bundle, g, _, m, dynamic, hcompile, hdiscover, hm, hslots, hglobal.mpr hfree⟩

/-- A function that loads a module, with a parameter `Promise` of its own. -/
def insidePromise : ModuleProvider where
  resolve specifier _ := .ok (.module (.file specifier))
  load
    | .file "/index.js" => .text "const f = (Promise) => import(\"./a.js\");\nf(0);\n"
    | .file "./a.js" => .text ""
    | id => .failed (.missing id.text)

/-- The parameter takes the place of the global. -/
theorem insidePromise_captured : ∃ loads bundle g m dynamic scope,
    compile insidePromise .default (fun _ => false) 5 = some ⟨loads, .ok bundle⟩ ∧
      bundle.code = "const a_ns = Object.freeze(\x7b\n  __proto__: null,\n" ++
        "  [Symbol.toStringTag]: \"Module\",\n\x7d);\n" ++
        "const f = (Promise) => Promise.resolve().then(() => a_ns);\nf(0);\n" ∧
      discover insidePromise (fun _ => false) 5 = some ⟨loads, .ok g⟩ ∧ g.modules[0]? = some m ∧
      m.dynamicSlots = [(dynamic, .namespaceOf 1)] ∧
      m.record.scopes.Inside dynamic.scope scope ∧ m.record.scopes.Declares scope "Promise" := by
  have hcompiled : ((compile insidePromise .default (fun _ => false) 5).any fun logged =>
      logged.result.toOption.any fun bundle =>
        bundle.code = "const a_ns = Object.freeze(\x7b\n  __proto__: null,\n" ++
          "  [Symbol.toStringTag]: \"Module\",\n\x7d);\n" ++
          "const f = (Promise) => Promise.resolve().then(() => a_ns);\nf(0);\n") = true := by
    decide +kernel
  have hread : ((discover insidePromise (fun _ => false) 5).all fun logged =>
      logged.result.toOption.all fun g => g.modules[0]?.any fun m =>
        m.dynamicSlots.head?.any fun entry =>
          m.dynamicSlots = [(entry.1, .namespaceOf 1)] ∧
            "Promise" ∈ m.record.scopes.namesEnclosing entry.1.scope) = true := by
    decide +kernel
  obtain ⟨⟨loads, result⟩, hcompile, hbundle⟩ := (Option.any_eq_true _ _).mp hcompiled
  cases result with
  | error => cases hbundle
  | ok bundle =>
    obtain ⟨g, l, output, hdiscover, -, -, -⟩ := compile_eq_ok hcompile
    rw [hdiscover] at hread
    obtain ⟨m, hm, hread⟩ := (Option.any_eq_true _ g.modules[0]?).mp hread
    obtain ⟨⟨dynamic, slot⟩, -, hread⟩ := (Option.any_eq_true _ _).mp hread
    obtain ⟨hslots, hmem⟩ := of_decide_eq_true hread
    obtain ⟨scope, hinside, hdeclares⟩ := ScopeTree.mem_namesEnclosing.mp hmem
    exact ⟨loads, bundle, g, m, dynamic, scope, hcompile, of_decide_eq_true hbundle, hdiscover, hm,
      hslots, hinside, hdeclares⟩

end ModuleBundler
