import ModuleBundler.Proofs.Conflicts
import ModuleBundler.Proofs.Reachability

/-!
# What the scopes of a module are built to

* `Means` : a name in a scope means a binding, that of the innermost scope around which has it;
* `TablesExact.resolve_eq_some_iff`, `TablesExact.resolve_eq_none_iff` : what is found is that;
* `ScopeTree.boundTables`, `ScopeTables.complete` : the parts of `ScopeTree.build` that look at
  declarations and at references;
* `ScopeTree.Exact`, `ScopeTree.SameUpToOrder` : all names are bound as they should be, and in the
  same way whatever the order of the references;
* `ScopeTree.build_exact` : building fails at just what conflicts, and else gives that.
-/

namespace ModuleBundler

/-- A name in a scope means a binding: that of the innermost scope around which has the name. -/
def Means (scopes : Array Scope) (bindings : Array Binding) (scope : ScopeId) (name : String)
    (id : BindingId) : Prop :=
  ∃ b, bindings[id]? = some b ∧ b.name = name ∧ Within scopes scope b.scope ∧
    ∀ other ∈ bindings, other.name = name → Within scopes scope other.scope →
      ¬ StrictlyWithin scopes other.scope b.scope

variable {scopes : Array Scope} {declarations : List Declaration} {tables : ScopeTables}
  {scope : ScopeId} {name : String} {id : BindingId}

namespace TablesExact

/-- A scope does not have a name that no binding in it has. -/
theorem lookup_eq_none_iff (h : TablesExact scopes declarations tables) :
    tables.lookup scope name = none ↔
      ∀ b ∈ tables.bindings, b.name = name → b.scope ≠ scope := by
  rw [Option.eq_none_iff_forall_ne_some]
  constructor
  · intro hnone b hb hname hscope
    obtain ⟨id, hid⟩ := Array.getElem?_of_mem hb
    exact hnone id ((h.lookup scope name id).mpr ⟨b, hid, hscope, hname⟩)
  · intro hnone id hid
    obtain ⟨b, hb, hscope, hname⟩ := (h.lookup scope name id).mp hid
    exact hnone b (Array.mem_of_getElem? hb) hname hscope

theorem resolve_eq_some_iff (h : TablesExact scopes declarations tables)
    (hroot : RootedScopes scopes) :
    tables.resolve scopes scope name = some id ↔ Means scopes tables.bindings scope name id := by
  obtain ⟨way, hway⟩ := hroot.exists_wayOut scope
  unfold ScopeTables.resolve Means
  rw [hway.enclosing_eq, List.findSome?_eq_some_iff]
  constructor
  · rintro ⟨before, target, after, rfl, hid, hbefore⟩
    obtain ⟨b, hb, rfl, hname⟩ := (h.lookup _ _ _).mp hid
    refine ⟨b, hb, hname, hway.mem_iff.mp (by simp), fun other hother hname' hwithin hin => ?_⟩
    have hmem := (hway.mem_before_iff rfl).mpr ⟨hwithin, hin⟩
    exact h.lookup_eq_none_iff.mp (hbefore _ hmem) other hother hname' rfl
  · rintro ⟨b, hb, hname, hwithin, hinnermost⟩
    obtain ⟨before, after, rfl⟩ := List.append_of_mem (hway.mem_iff.mpr hwithin)
    refine ⟨before, b.scope, after, rfl, (h.lookup _ _ _).mpr ⟨b, hb, rfl, hname⟩, ?_⟩
    intro mid hmid
    obtain ⟨hmid, hin⟩ := (hway.mem_before_iff rfl).mp hmid
    refine h.lookup_eq_none_iff.mpr fun other hother hname' hscope => ?_
    cases hscope
    exact hinnermost other hother hname' hmid hin

theorem resolve_eq_none_iff (h : TablesExact scopes declarations tables)
    (hroot : RootedScopes scopes) : tables.resolve scopes scope name = none ↔
      ∀ b ∈ tables.bindings, b.name = name → ¬ Within scopes scope b.scope := by
  obtain ⟨way, hway⟩ := hroot.exists_wayOut scope
  unfold ScopeTables.resolve
  rw [hway.enclosing_eq, List.findSome?_eq_none_iff]
  constructor
  · intro hnone b hb hname hwithin
    exact h.lookup_eq_none_iff.mp (hnone b.scope (hway.mem_iff.mpr hwithin)) b hb hname rfl
  · intro hnone mid hmid
    refine h.lookup_eq_none_iff.mpr fun b hb hname hscope => ?_
    exact hnone b hb hname (hscope ▸ hway.mem_iff.mp hmid)

end TablesExact

/-! ## Declarations and references apart -/

/-- The tables of the declarations, if none of them conflict. -/
def ScopeTree.boundTables (scopes : Array Scope) (declarations : Array Declaration) :
    Except SyntaxError ScopeTables := do
  let tables ← declarations.foldlM (ScopeTables.bind scopes) ⟨#[], scopes.map fun _ => [], #[]⟩
  match declarations.toList.findSome? (hoistConflict? scopes declarations tables) with
  | some conflict => throw conflict
  | none => pure tables

/-- The tree of tables and references. -/
def ScopeTables.complete (tables : ScopeTables) (scopes : Array Scope)
    (declarations : Array Declaration) (references : Array Reference) : ScopeTree where
  scopes := scopes
  declarations := declarations
  references := references
  bindings := tables.bindings
  names := tables.names
  ofDeclaration := tables.ofDeclaration
  ofReference := references.map fun r => tables.resolve scopes r.scope r.name
  freeNames := ((references.toList.filter fun r =>
    (tables.resolve scopes r.scope r.name).isNone).map Reference.name).eraseDups

theorem filterMap_zip_map {α β γ : Type} (f : α → β) (g : α → γ) (p : β → Bool) (as : List α) :
    ((as.zip (as.map f)).filterMap fun (a, b) => if p b then some (g a) else none) =
      (as.filter fun a => p (f a)).map g := by
  induction as with
  | nil => rfl
  | cons a as ih =>
    rw [List.map_cons, List.zip_cons_cons, List.filterMap_cons, List.filter_cons, ih]
    dsimp only
    cases p (f a) <;> rfl

/-- References make no difference to what the declarations are bound to. -/
theorem ScopeTree.build_eq (scopes : Array Scope) (declarations : Array Declaration)
    (references : Array Reference) : ScopeTree.build scopes declarations references =
      (ScopeTree.boundTables scopes declarations).map
        (·.complete scopes declarations references) := by
  unfold ScopeTree.build ScopeTree.boundTables ScopeTables.complete
  cases declarations.foldlM (ScopeTables.bind scopes) ⟨#[], scopes.map fun _ => [], #[]⟩ with
  | error problem => rfl
  | ok tables =>
    dsimp only [bind, Except.bind]
    cases declarations.toList.findSome? (hoistConflict? scopes declarations tables) with
    | some conflict => rfl
    | none =>
      dsimp only
      rw [Array.toList_map, filterMap_zip_map (fun r : Reference =>
        tables.resolve scopes r.scope r.name) Reference.name Option.isNone]
      rfl

/-! ## Declarations -/

theorem Conflicting.symm {d e : Declaration} (h : Conflicting scopes d e) :
    Conflicting scopes e d := by
  obtain ⟨hname, scope, hd, he, hkinds⟩ := h
  refine ⟨hname.symm, scope, he, hd, ?_⟩
  rcases hkinds with hlexical | hlexical | ⟨hparam, hparam'⟩
  · exact .inr (.inl hlexical)
  · exact .inl hlexical
  · exact .inr (.inr ⟨hparam', hparam⟩)

/-- Two declarations conflict, or a `var` cannot be hoisted. -/
def Rejected (scopes : Array Scope) (declarations : List Declaration) : Prop :=
  (∃ (i j : Nat) (d e : Declaration), i ≠ j ∧ declarations[i]? = some d ∧
    declarations[j]? = some e ∧ Conflicting scopes d e) ∨
  ∃ d ∈ declarations, Blocked scopes declarations d

theorem pairwise_not_conflicting_iff :
    (declarations.Pairwise fun d e => ¬ Conflicting scopes d e) ↔
      ¬ ∃ (i j : Nat) (d e : Declaration), i ≠ j ∧ declarations[i]? = some d ∧
        declarations[j]? = some e ∧ Conflicting scopes d e := by
  rw [List.pairwise_iff_getElem]
  constructor
  · rintro hapart ⟨i, j, d, e, hne, hd, he, hconflict⟩
    obtain ⟨hi, rfl⟩ := List.getElem?_eq_some_iff.mp hd
    obtain ⟨hj, rfl⟩ := List.getElem?_eq_some_iff.mp he
    rcases Nat.lt_or_gt_of_ne hne with hlt | hlt
    · exact hapart i j hi hj hlt hconflict
    · exact hapart j i hj hi hlt hconflict.symm
  · intro hnone i j hi hj hlt hconflict
    exact hnone ⟨i, j, _, _, Nat.ne_of_lt hlt, List.getElem?_eq_getElem hi,
      List.getElem?_eq_getElem hj, hconflict⟩

/-- Whatever declarations are bound, it fails at a second declaration alone. -/
theorem ScopeTree.cause_of_build {scopes : Array Scope} {declarations : Array Declaration}
    {references : Array Reference} {problem : SyntaxError}
    (h : ScopeTree.build scopes declarations references = .error problem) :
    problem.cause = .duplicateDeclaration := by
  unfold ScopeTree.build at h
  rw [← Array.foldlM_toList] at h
  rcases bind_eq_error.mp h with h | ⟨tables, -, h⟩
  · obtain ⟨d, -, tables, hbind⟩ := exists_of_foldlM_error h
    unfold ScopeTables.bind at hbind
    dsimp only at hbind
    split at hbind
    · split at hbind
      · cases hbind
        rfl
      · cases hbind
    · cases hbind
  · split at h
    · rename_i conflict hconflict
      cases h
      obtain ⟨d, -, hproblem⟩ := List.exists_of_findSome?_eq_some hconflict
      exact cause_of_hoistConflict? hproblem
    · cases h

/-- Declarations are bound to exact tables just when they are not rejected. -/
theorem ScopeTree.boundTables_exact {declarations : Array Declaration}
    (hroot : RootedScopes scopes) (hin : ∀ d ∈ declarations, d.scope < scopes.size)
    (hparams : ParamsFirst scopes declarations.toList) :
    match ScopeTree.boundTables scopes declarations with
    | .ok tables => TablesExact scopes declarations.toList tables ∧
        ¬ Rejected scopes declarations.toList
    | .error problem => problem.cause = .duplicateDeclaration ∧
        Rejected scopes declarations.toList := by
  unfold ScopeTree.boundTables
  rw [← Array.foldlM_toList]
  have hin' : ∀ d ∈ declarations.toList, d.scope < scopes.size := fun d hd =>
    hin d (Array.mem_toList_iff.mp hd)
  have hrun := (tablesExact_nil scopes).foldlM hroot
    ⟨fun _ hd => absurd hd List.not_mem_nil, List.Pairwise.nil, List.Pairwise.nil⟩ hin' hparams
  rw [List.nil_append] at hrun
  cases hfold : declarations.toList.foldlM (ScopeTables.bind scopes)
      ⟨#[], scopes.map fun _ => [], #[]⟩ with
  | error problem =>
    rw [hfold] at hrun
    exact ⟨hrun.1, .inl (not_not.mp (mt pairwise_not_conflicting_iff.mpr hrun.2))⟩
  | ok tables =>
    rw [hfold] at hrun
    obtain ⟨hexact, hdecls⟩ := hrun
    have hblocked : ∀ d ∈ declarations.toList,
        ((hoistConflict? scopes declarations tables d).isSome ↔
          Blocked scopes declarations.toList d) := fun d hd =>
      hexact.hoistConflict?_isSome_iff hroot hdecls (hin' d hd) declarations
    dsimp only [bind, Except.bind]
    cases hfind : declarations.toList.findSome? (hoistConflict? scopes declarations tables) with
    | some conflict =>
      obtain ⟨d, hd, hconflict⟩ := List.exists_of_findSome?_eq_some hfind
      refine ⟨cause_of_hoistConflict? hconflict, .inr ⟨d, hd, (hblocked d hd).mp ?_⟩⟩
      rw [hconflict]
      rfl
    | none =>
      refine ⟨hexact, ?_⟩
      rintro (hconflicting | ⟨d, hd, hblock⟩)
      · exact pairwise_not_conflicting_iff.mp hdecls.apart hconflicting
      · have hsome := (hblocked d hd).mpr hblock
        rw [List.findSome?_eq_none_iff.mp hfind d hd] at hsome
        cases hsome

/-! ## The tree -/

/-- All names of a module are bound as they should be. -/
structure ScopeTree.Exact (tree : ScopeTree) : Prop where
  /-- No two bindings share a name in a scope. -/
  distinct : ∀ (id id' : Nat) b b', tree.bindings[id]? = some b → tree.bindings[id']? = some b' →
    b.scope = b'.scope → b.name = b'.name → id = id'
  /-- A name has a binding in a scope if it is declared there. -/
  declared : ∀ scope name, (∃ b ∈ tree.bindings, b.scope = scope ∧ b.name = name) ↔
    ∃ d ∈ tree.declarations, d.name = name ∧ BelongsTo tree.scopes d scope
  declarationCount : tree.ofDeclaration.size = tree.declarations.size
  /-- A declaration has the binding of its name in the scope that it belongs to. -/
  declaration : ∀ (i : Nat) d, tree.declarations[i]? = some d → ∃ id b,
    tree.ofDeclaration[i]? = some id ∧ tree.bindings[id]? = some b ∧ b.name = d.name ∧
      BelongsTo tree.scopes d b.scope
  /-- A binding knows its declarations. -/
  shared : ∀ (id : Nat) b, tree.bindings[id]? = some b → b.declarations.Nodup ∧
    ∀ i, i ∈ b.declarations ↔ tree.ofDeclaration[i]? = some id
  referenceCount : tree.ofReference.size = tree.references.size
  /-- A reference has the binding that its name means, if that means one. -/
  reference : ∀ (i : Nat) r, tree.references[i]? = some r → ∃ bound,
    tree.ofReference[i]? = some bound ∧
      (∀ id, bound = some id ↔ Means tree.scopes tree.bindings r.scope r.name id) ∧
      (bound = none ↔
        ∀ b ∈ tree.bindings, b.name = r.name → ¬ Within tree.scopes r.scope b.scope)
  /-- The free names are those of the references without a binding. -/
  free : ∀ name, name ∈ tree.freeNames ↔ ∃ (i : Nat) (r : Reference),
    tree.references[i]? = some r ∧ r.name = name ∧ tree.ofReference[i]? = some none
  freeOnce : tree.freeNames.Nodup

/-- Two trees differ in the order of their references only. -/
structure ScopeTree.SameUpToOrder (tree tree' : ScopeTree) : Prop where
  scopes : tree.scopes = tree'.scopes
  declarations : tree.declarations = tree'.declarations
  bindings : tree.bindings = tree'.bindings
  names : tree.names = tree'.names
  ofDeclaration : tree.ofDeclaration = tree'.ofDeclaration
  references : (tree.references.toList.zip tree.ofReference.toList).Perm
    (tree'.references.toList.zip tree'.ofReference.toList)
  freeNames : tree.freeNames.Perm tree'.freeNames

variable {declarations : Array Declaration} {references references' : Array Reference}

theorem TablesExact.complete (h : TablesExact scopes declarations.toList tables)
    (hroot : RootedScopes scopes) (hin : ∀ d ∈ declarations, d.scope < scopes.size)
    (references : Array Reference) : (tables.complete scopes declarations references).Exact where
  distinct id id' b b' hb hb' hscope hname := by
    have hid := (h.lookup _ _ _).mpr ⟨b, hb, hscope, hname⟩
    have hid' := (h.lookup _ _ _).mpr ⟨b', hb', rfl, rfl⟩
    exact Option.some.inj (hid.symm.trans hid')
  declared scope name := by
    constructor
    · rintro ⟨b, hb, rfl, rfl⟩
      obtain ⟨id, hid⟩ := Array.getElem?_of_mem hb
      obtain ⟨f, hf, -, hname, htarget, -⟩ := h.exists_first hid
      have hf' := Array.mem_toList_iff.mp hf
      exact ⟨f, hf', hname, (belongsTo_iff hroot (hin f hf')).mpr htarget.symm⟩
    · rintro ⟨d, hd, rfl, hbelongs⟩
      obtain ⟨i, hi⟩ := List.getElem?_of_mem (Array.mem_toList_iff.mpr hd)
      obtain ⟨id, b, -, hb, hscope, hname⟩ := h.exists_binding hi
      refine ⟨b, Array.mem_of_getElem? hb, ?_, hname⟩
      exact hscope.trans ((belongsTo_iff hroot (hin d hd)).mp hbelongs).symm
  declarationCount := h.count.trans Array.length_toList
  declaration i d hd := by
    obtain ⟨id, b, hid, hb, hscope, hname⟩ := h.exists_binding (Array.getElem?_toList ▸ hd)
    refine ⟨id, b, hid, hb, hname, ?_⟩
    exact (belongsTo_iff hroot (hin d (Array.mem_of_getElem? hd))).mpr hscope
  shared id b hb := by
    rw [h.shared id b hb]
    refine ⟨sorted_sharing.imp fun hlt => Nat.ne_of_lt hlt, fun i => mem_sharing.trans ?_⟩
    constructor
    · rintro ⟨d, hd, hname, htarget⟩
      obtain ⟨id', hid', hlookup⟩ := h.bound i d hd
      rw [htarget, hname, (h.lookup _ _ id).mpr ⟨b, hb, rfl, rfl⟩] at hlookup
      cases hlookup
      exact hid'
    · intro hid
      have hlt := (Array.getElem?_eq_some_iff.mp hid).1
      obtain ⟨id', b', hid', hb', hscope, hname⟩ := h.exists_binding
        (List.getElem?_eq_getElem (h.count ▸ hlt))
      cases hid.symm.trans hid'
      cases hb.symm.trans hb'
      exact ⟨_, List.getElem?_eq_getElem (h.count ▸ hlt), hname.symm, hscope.symm⟩
  referenceCount := Array.size_map ..
  reference i r hr := by
    refine ⟨_, ?_, fun id => h.resolve_eq_some_iff hroot, h.resolve_eq_none_iff hroot⟩
    exact (Array.getElem?_map ..).trans (congrArg _ hr)
  free name := by
    show name ∈ List.eraseDups _ ↔ _
    rw [List.mem_eraseDups, List.mem_map]
    constructor
    · rintro ⟨r, hr, hname⟩
      obtain ⟨hr, hnone⟩ := List.mem_filter.mp hr
      obtain ⟨i, hi⟩ := Array.getElem?_of_mem (Array.mem_toList_iff.mp hr)
      refine ⟨i, r, hi, hname, ?_⟩
      refine (Array.getElem?_map ..).trans ?_
      rw [hi, Option.map_some, Option.isNone_iff_eq_none.mp hnone]
    · rintro ⟨i, r, hr, hname, hnone⟩
      refine ⟨r, List.mem_filter.mpr ⟨?_, ?_⟩, hname⟩
      · exact Array.mem_toList_iff.mpr (Array.mem_of_getElem? hr)
      · have hbound := (Array.getElem?_map ..).symm.trans hnone
        rw [show references[i]? = some r from hr, Option.map_some, Option.some_inj] at hbound
        exact Option.isNone_iff_eq_none.mpr hbound
  freeOnce := nodup_eraseDups _

theorem ScopeTables.complete_sameUpToOrder (tables : ScopeTables)
    (hperm : references.Perm references') :
    (tables.complete scopes declarations references).SameUpToOrder
      (tables.complete scopes declarations references') where
  scopes := rfl
  declarations := rfl
  bindings := rfl
  names := rfl
  ofDeclaration := rfl
  references := by
    have hzip : ∀ references : Array Reference, references.toList.zip
        ((references.map fun r => tables.resolve scopes r.scope r.name).toList) =
          references.toList.map fun r => (r, tables.resolve scopes r.scope r.name) := by
      intro references
      rw [Array.toList_map, List.map_prod_left_eq_zip]
    unfold ScopeTables.complete
    rw [hzip, hzip]
    exact (Array.perm_iff_toList_perm.mp hperm).map _
  freeNames := by
    refine (List.perm_ext_iff_of_nodup (nodup_eraseDups _) (nodup_eraseDups _)).mpr fun name => ?_
    rw [List.mem_eraseDups, List.mem_eraseDups]
    exact (((Array.perm_iff_toList_perm.mp hperm).filter _).map _).mem_iff

/-- Building the scopes of a module fails just if two declarations conflict or a `var` cannot be
hoisted, and else binds all names as they should be. The order of the references makes no
difference. -/
theorem ScopeTree.build_exact (hroot : RootedScopes scopes)
    (hin : ∀ d ∈ declarations, d.scope < scopes.size)
    (hparams : ParamsFirst scopes declarations.toList) (references : Array Reference) :
    ((∃ problem, ScopeTree.build scopes declarations references = .error problem ∧
        problem.cause = .duplicateDeclaration) ↔ Rejected scopes declarations.toList) ∧
    (¬ Rejected scopes declarations.toList → ∃ tree,
      ScopeTree.build scopes declarations references = .ok tree ∧ tree.Exact ∧
        tree.scopes = scopes ∧ tree.declarations = declarations ∧ tree.references = references) ∧
    ∀ references', references.Perm references' →
      match ScopeTree.build scopes declarations references,
        ScopeTree.build scopes declarations references' with
      | .ok tree, .ok tree' => tree.SameUpToOrder tree'
      | .error problem, .error problem' => problem = problem'
      | _, _ => False := by
  have htables := ScopeTree.boundTables_exact hroot hin hparams
  rw [ScopeTree.build_eq]
  cases hbound : ScopeTree.boundTables scopes declarations with
  | error problem =>
    rw [hbound] at htables
    obtain ⟨hcause, hrejected⟩ := htables
    refine ⟨iff_of_true ⟨problem, rfl, hcause⟩ hrejected, fun h => absurd hrejected h, ?_⟩
    intro references' hperm
    rw [ScopeTree.build_eq, hbound]
    rfl
  | ok tables =>
    rw [hbound] at htables
    obtain ⟨hexact, haccepted⟩ := htables
    refine ⟨iff_of_false (fun ⟨_, h, _⟩ => nomatch h) haccepted, fun _ => ?_, ?_⟩
    · exact ⟨_, rfl, hexact.complete hroot hin references, rfl, rfl, rfl⟩
    · intro references' hperm
      rw [ScopeTree.build_eq, hbound]
      exact tables.complete_sameUpToOrder hperm

/-! ## A handler -/

/-- The scopes of `function f(x) { try {} catch (x) { var x; } }`. -/
def handlerScopes : Array Scope := #[⟨none, .module⟩, ⟨some 0, .function⟩, ⟨some 1, .block⟩]

/-- The function, its parameter, that of the handler, and the `var` in the handler. -/
def handlerDeclarations : Array Declaration :=
  #[⟨"f", ⟨9, 10⟩, 0, .function, false⟩, ⟨"x", ⟨11, 12⟩, 1, .param, false⟩,
    ⟨"x", ⟨30, 31⟩, 2, .catchParam, false⟩, ⟨"x", ⟨39, 40⟩, 2, .var, false⟩]

theorem rootedScopes_handler : RootedScopes handlerScopes := by
  have hfunction : Within handlerScopes 1 0 := .single rfl
  have hblock : Within handlerScopes 2 0 := .head rfl hfunction
  intro id hid
  refine ⟨0, ?_, rfl⟩
  match id, hid with
  | 0, _ => exact .refl
  | 1, _ => exact hfunction
  | 2, _ => exact hblock

theorem paramsFirst_handler : ParamsFirst handlerScopes handlerDeclarations.toList := by
  unfold ParamsFirst handlerDeclarations
  simp only [List.pairwise_cons, List.forall_mem_cons, reduceCtorEq, false_implies, and_true,
    implies_true, List.not_mem_nil, List.Pairwise.nil, forall_const]
  -- The function belongs to the module, not to itself.
  rintro (- | ⟨⟨⟩⟩)

/-- References to a name of the handler and to one declared nowhere. -/
def handlerReferences : Array Reference := #[⟨"x", ⟨41, 42⟩, 2, false⟩, ⟨"y", ⟨43, 44⟩, 2, false⟩]

theorem ScopeTree.build_handler : ∃ tree,
    ScopeTree.build handlerScopes handlerDeclarations handlerReferences = .ok tree ∧ tree.Exact ∧
      tree.ofDeclaration = #[0, 1, 2, 1] ∧ tree.ofReference = #[some 2, none] ∧
      tree.freeNames = ["y"] := by
  have hrun : ((ScopeTree.build handlerScopes handlerDeclarations handlerReferences).toOption.any
      fun tree => tree.ofDeclaration = #[0, 1, 2, 1] ∧ tree.ofReference = #[some 2, none] ∧
        tree.freeNames = ["y"]) = true := by
    decide +kernel
  obtain ⟨hfails, hbinds, -⟩ := ScopeTree.build_exact rootedScopes_handler (by decide)
    paramsFirst_handler handlerReferences
  cases hbuild : ScopeTree.build handlerScopes handlerDeclarations handlerReferences with
  | error problem =>
    rw [hbuild] at hrun
    cases hrun
  | ok tree =>
    rw [hbuild] at hrun hfails hbinds
    obtain ⟨tree', htree, hexact, -⟩ := hbinds fun hrejected => by
      obtain ⟨problem, hproblem, -⟩ := hfails.mpr hrejected
      cases hproblem
    cases htree
    exact ⟨tree, rfl, hexact, of_decide_eq_true hrun⟩

end ModuleBundler
