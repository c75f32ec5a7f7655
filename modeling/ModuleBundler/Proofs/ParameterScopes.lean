import ModuleBundler.Proofs.ClosedBundle
import ModuleBundler.Proofs.ResolvedNames
import ModuleBundler.Proofs.Syntax.Readings
import ModuleBundler.Proofs.Syntax.Sites

/-!
# Names in the parameters of functions

* `ModuleRecord.Means` : a reference stands for what its name means in some scope, and bundles need
  that with the item around the reference;
* `RecordOutlined.functionScope` : a function has a scope, from which a way leads to whatever stands
  in its parameters;
* `parameters_outside_iff` : a name in the parameters of a function means what it means outside if
  and only if the function, which has one scope for parameters and body, does not declare it.
-/

namespace ModuleBundler

/-! ## References -/

/-- A reference stands for what its name means in some scope: it is bound to that, and a bundle that
has the item around it has the variable too. -/
structure ModuleRecord.Means (record : ModuleRecord) (i : Nat) (name : String)
    (scope : ScopeId) : Prop where
  bound : record.scopes.ofReference[i]? = some (record.scopes.resolve scope name)
  live : ∀ g l dropUnused (module index : Nat) m item, g.ItemAt module index m item →
    m.record = record → (shake g l dropUnused).keeps module index = true →
    item.references.start ≤ i → i < item.references.stop →
    ∀ binding slot, record.scopes.resolve scope name = some binding →
      l.bindingSlot m module binding = some slot → (shake g l dropUnused).isLive slot = true

/-- A bundle needs what its items refer to. -/
theorem ModuleRecord.means_iff {record : ModuleRecord} {i : Nat} {name : String}
    {scope : ScopeId} : record.Means i name scope ↔
      record.scopes.ofReference[i]? = some (record.scopes.resolve scope name) := by
  refine ⟨Means.bound, fun hbound => ⟨hbound, ?_⟩⟩
  intro g l dropUnused module index m item hat hrecord hkept hstart hstop binding slot hbinding
    hslot
  have hneeds := (shake_suffices g l dropUnused).reference module index m item hat hkept
  refine hneeds i hstart hstop slot ?_
  unfold Linkage.referenceSlot
  rw [hrecord, hbound, hbinding]
  exact hslot

/-! ## Functions -/

namespace RecordOutlined

variable {source : String} {record : ModuleRecord} {o : Outline}

theorem scopesFrom (h : RecordOutlined source record o) :
    ScopesFrom record.scopes.scopes 1 (o.scopes moduleScope 1) := by
  intro i scope hi
  rw [← Array.getElem?_toList, h.scopes, Nat.add_comm, List.getElem?_cons_succ]
  exact hi

/-- A function has a scope. -/
theorem functionScope (h : RecordOutlined source record o) {F : Outline.Site}
    (hF : F ∈ o.sites moduleScope 1) (hfunction : F.kind.isFunction = true) :
    F.kind.scopeType? = some .function ∧
      record.scopes.scopes[F.next]? = some ⟨some F.outer, .function⟩ := by
  have htype : F.kind.scopeType? = some .function := by
    cases hkind : F.kind with
    | function | arrow => rfl
    | scope | parameters | body | instanceField =>
      rw [hkind] at hfunction
      cases hfunction
  have hopened := (Outline.scopesFrom_of_mem_sites h.scopesFrom hF).1
  unfold NodeKind.opened at hopened
  rw [htype] at hopened
  exact ⟨htype, hopened 0 _ rfl⟩

/-- What stands in the parameters of a function stands in its scope, or in one from which a way
leads there. -/
theorem parameter_reference (h : RecordOutlined source record o) {F : Outline.Site}
    (hF : F ∈ o.sites moduleScope 1) (hfunction : F.kind.isFunction = true)
    {parameters rest : Outline} (hinner : F.inner = .node .parameters parameters rest)
    {r : Reference} (hr : r ∈ parameters.references F.next (F.next + 1)) :
    ∃ (i : Nat) (way : List ScopeId), record.scopes.references[i]? = some r ∧
      record.scopes.Climb r.scope way F.next := by
  obtain ⟨htype, -⟩ := h.functionScope hF hfunction
  have hinside : F.kind.inside F.outer F.next = F.next := by
    unfold NodeKind.inside
    rw [htype]
    rfl
  have hcount : F.kind.scopeCount = 1 := by
    unfold NodeKind.scopeCount
    rw [htype]
    rfl
  have hleaves := Outline.leaves_of_mem_sites hF
  have hscopes := (Outline.scopesFrom_of_mem_sites h.scopesFrom hF).2
  rw [hinside, hcount, hinner] at hleaves hscopes
  obtain ⟨⟨own, l⟩, hl, href⟩ := List.mem_filterMap.mp hr
  have hmem : r ∈ record.scopes.references.toList := by
    rw [h.references]
    exact List.mem_filterMap.mpr ⟨_, hleaves (List.mem_append_left _ hl), href⟩
  obtain ⟨i, hi⟩ := List.mem_iff_getElem?.mp hmem
  have hnext : 0 < F.next + 1 := Nat.succ_pos _
  obtain ⟨way, hway⟩ :=
    Outline.climb_of_mem_leaves (Outline.scopesFrom_node hscopes).2.1 hnext hl
  rw [Array.getElem?_toList] at hi
  obtain ⟨b, _, -, rfl⟩ := Leaf.eq_of_reference? href
  exact ⟨i, way, hi, hway⟩

end RecordOutlined

/-- **What names in parameters mean.** Take the scope of a function in a module, and a name in its
parameters that nothing on the way to that scope declares. It means what it means just outside the
function if and only if the function declares it neither as a parameter nor in its body. -/
theorem parameters_outside_iff {source : String} {record : ModuleRecord}
    (h : parseModule source = .ok record) :
    ∃ o, RecordOutlined source record o ∧
      ∀ F ∈ o.sites moduleScope 1, F.kind.isFunction = true →
        record.scopes.scopes[F.next]? = some ⟨some F.outer, .function⟩ ∧
        ∃ parameters rest, F.inner = .node .parameters parameters rest ∧
          ∀ r ∈ parameters.references F.next (F.next + 1), ∃ (i : Nat) (way : List ScopeId),
            record.scopes.references[i]? = some r ∧ record.scopes.Climb r.scope way F.next ∧
              ((∀ scope ∈ way, ¬ record.scopes.Declares scope r.name) →
                (record.Means i r.name F.outer ↔ ¬ record.scopes.Declares F.next r.name)) := by
  obtain ⟨o, ho⟩ := parseModule_outlined h
  obtain ⟨tokens, hread⟩ := parseModule_read h
  refine ⟨o, ho, fun F hF hfunction => ?_⟩
  obtain ⟨-, hscope⟩ := ho.functionScope hF hfunction
  obtain ⟨parameters, rest, hinner⟩ := ho.items.functions_split moduleScope 1 F hF hfunction
  refine ⟨hscope, parameters, rest, hinner, fun r hr => ?_⟩
  obtain ⟨i, way, hi, hclimb⟩ := ho.parameter_reference hF hfunction hinner hr
  refine ⟨i, way, hi, hclimb, fun hway => ?_⟩
  have hbound : record.scopes.ofReference[i]? = some (record.scopes.resolve r.scope r.name) := by
    rw [ScopeTree.ofReference_of_build ho.built, Array.getElem?_map, hi]
    rfl
  have hparent : (record.scopes.scopes[F.next]?).bind Scope.parent = some F.outer := by
    rw [hscope]
    rfl
  have hold := ScopeTree.tablesHold_of_build ho.built
  rw [ModuleRecord.means_iff, hbound, Option.some_inj, hclimb.resolve_eq hread.nested hway]
  exact ScopeTree.resolve_eq_parent_iff hread.nested hold hparent

/-- A function with a default value that its module declares. -/
def outerDefault : String := "const x = 1;\nfunction f(a = x) \x7b return a; \x7d\n"

/-- The default value is the variable of the module. -/
theorem outerDefault_outside : ∃ record o, parseModule outerDefault = .ok record ∧
    RecordOutlined outerDefault record o ∧ ∀ F ∈ o.sites moduleScope 1,
      F.kind.isFunction = true → ∃ parameters rest, F.inner = .node .parameters parameters rest ∧
        ∀ r ∈ parameters.references F.next (F.next + 1), r.name = "x" →
          ∃ (i : Nat), record.scopes.references[i]? = some r ∧ record.Means i "x" F.outer := by
  have hread : ((parseModule outerDefault).toOption.any fun record =>
      record.scopes.names.toList.tail.all fun names => (names.lookup "x").isNone) = true := by
    decide +kernel
  cases hrecord : parseModule outerDefault with
  | error e =>
    rw [hrecord] at hread
    cases hread
  | ok record =>
    rw [hrecord] at hread
    have hfree : ∀ scope ≠ moduleScope, ¬ record.scopes.Declares scope "x" := by
      intro scope hscope hdeclares
      obtain ⟨k, rfl⟩ := Nat.exists_eq_succ_of_ne_zero hscope
      unfold ScopeTree.Declares ScopeTables.lookup at hdeclares
      change ((record.scopes.names[k + 1]?.getD []).lookup "x").isSome at hdeclares
      rw [← Array.getElem?_toList, ← List.getElem?_tail] at hdeclares
      cases hnames : record.scopes.names.toList.tail[k]? with
      | none =>
        rw [hnames] at hdeclares
        cases hdeclares
      | some names =>
        have hnone := List.all_eq_true.mp hread names (List.mem_of_getElem? hnames)
        rw [hnames, Option.getD_some, Option.isNone_iff_eq_none.mp hnone] at hdeclares
        cases hdeclares
    obtain ⟨o, ho, hsites⟩ := parameters_outside_iff hrecord
    refine ⟨record, o, rfl, ho, fun F hF hfunction => ?_⟩
    obtain ⟨-, parameters, rest, hinner, hreferences⟩ := hsites F hF hfunction
    refine ⟨parameters, rest, hinner, fun r hr hname => ?_⟩
    obtain ⟨i, way, hi, hclimb, hiff⟩ := hreferences r hr
    rw [hname] at hiff
    have hnext : F.next ≠ moduleScope := Nat.ne_of_gt (Outline.next_le_of_mem_sites hF)
    exact ⟨i, hi, (hiff fun scope hscope => hfree scope (hclimb.ne_moduleScope scope hscope)).mpr
      (hfree F.next hnext)⟩

/-- A module that declares one name twice: itself and in the body of a function, in the parameters
of which it is used. -/
def bodyVar : ModuleProvider where
  resolve specifier _ := .ok (.module (.file specifier))
  load
    | .file "/index.js" => .text "import \x7b f \x7d from \"./a.js\";\ng(f());\n"
    | .file "./a.js" => .text
      "const x = 1;\nexport function f(a = x) \x7b var x = 2; return a; \x7d\n"
    | id => .failed (.missing id.text)

/-- The name in the parameters is bound to the variable of the body, and the one of the module is
dropped. -/
theorem bodyVar_bound : ∃ loads bundle g m o P r binding,
    compile bodyVar .default (fun _ => false) 5 = some ⟨loads, .ok bundle⟩ ∧
      bundle.code = "function f(a = x) \x7b var x = 2; return a; \x7d\ng(f());\n" ∧
      discover bodyVar (fun _ => false) 5 = some ⟨loads, .ok g⟩ ∧ g.modules[1]? = some m ∧
      Derives syntaxRules (.row [Phrase.moduleItem, Phrase.moduleItem]) o ∧
      ReadFrom (.ofString m.source) o.tokens ∧
      m.record.tokenStarts = o.tokens.map (fun b => b.token.span.start) ∧
      m.record.scopes.references.toList = o.references moduleScope 1 ∧
      P ∈ o.sites moduleScope 1 ∧ P.kind = .parameters ∧
      m.record.scopes.scopes[P.outer]? = some ⟨some 1, .function⟩ ∧
      r ∈ P.inner.references P.outer P.next ∧ r.name = "x" ∧ r.scope = P.outer ∧
      m.record.scopes.references[0]? = some r ∧
      m.record.scopes.ofReference[0]? = some (some 3) ∧
      m.record.scopes.bindings[3]? = some binding ∧ binding.scope = P.outer ∧
      binding.kind = .var ∧ m.record.scopes.resolve 1 "x" = some 0 := by
  have hcompiled : ((compile bodyVar .default (fun _ => false) 5).any fun logged =>
      logged.result.toOption.any fun bundle => bundle.code =
        "function f(a = x) \x7b var x = 2; return a; \x7d\ng(f());\n") = true := by
    decide +kernel
  have hread : ((discover bodyVar (fun _ => false) 5).all fun logged =>
      logged.result.toOption.all fun g => g.modules[1]?.any fun m =>
        m.record.scopes.bindings[3]?.any fun binding =>
          ((Phrase.row [Phrase.moduleItem, Phrase.moduleItem]).readings
            (readingsWithin syntaxRules 5) 5 (standardTokens 25 (.ofString m.source))).any
              fun read => read.2.isEmpty && decide (
                m.record.tokenStarts = read.1.tokens.map (fun b => b.token.span.start) ∧
                m.record.scopes.references.toList = read.1.references moduleScope 1 ∧
                m.record.scopes.ofReference[0]? = some (some 3) ∧ binding.kind = .var ∧
                m.record.scopes.resolve 1 "x" = some 0 ∧
                ∃ P ∈ read.1.sites moduleScope 1, P.kind = .parameters ∧
                  m.record.scopes.scopes[P.outer]? = some ⟨some 1, .function⟩ ∧
                  binding.scope = P.outer ∧
                  ∃ r ∈ P.inner.references P.outer P.next, r.name = "x" ∧ r.scope = P.outer ∧
                    m.record.scopes.references[0]? = some r)) = true := by
    decide +kernel
  obtain ⟨⟨loads, result⟩, hcompile, hbundle⟩ := (Option.any_eq_true _ _).mp hcompiled
  cases result with
  | error => cases hbundle
  | ok bundle =>
    obtain ⟨g, l, output, hdiscover, -, -, -⟩ := compile_eq_ok hcompile
    rw [hdiscover] at hread
    obtain ⟨m, hm, hread⟩ := (Option.any_eq_true _ g.modules[1]?).mp hread
    obtain ⟨binding, hbinding, hread⟩ := (Option.any_eq_true _ _).mp hread
    obtain ⟨⟨o, rest⟩, hmem, hread⟩ := List.any_eq_true.mp hread
    obtain ⟨hall, hread⟩ := Bool.and_eq_true_iff.mp hread
    obtain ⟨hderives, -, htokens⟩ := Phrase.of_mem_readings_text hmem hall
    obtain ⟨hstarts, hreferences, hbound, hkind, houter, P, hP, hparameters, hscope, hown, r, hr,
      hname, hplace, hfirst⟩ := of_decide_eq_true hread
    exact ⟨loads, bundle, g, m, o, P, r, binding, hcompile, of_decide_eq_true hbundle, hdiscover,
      hm, hderives, htokens, hstarts, hreferences, hP, hparameters, hscope, hr, hname, hplace,
      hfirst, hbound, hbinding, hown, hkind, houter⟩

end ModuleBundler
