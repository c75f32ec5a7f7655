import ModuleBundler.Proofs.BoundNames
import ModuleBundler.Proofs.Productions.Module

/-!
# The indices in the scopes of a module

* `TablesIndexed` : the indices in the tables of bindings lead to scopes, bindings and declarations,
  which `TablesIndexed.bind` keeps;
* `ScopeTree.Indexed` : so do all indices in the scopes of a module;
* `ScopeTree.indexed_of_build` : the scopes that are built of a module text are such.
-/

namespace ModuleBundler

/-! ## Scopes around a scope -/

/-- A scope and all around it are among the scopes. -/
theorem NestedScopes.lt_of_mem_enclosingWithin {scopes : Array Scope} (h : NestedScopes scopes)
    {count : Nat} {scope other : ScopeId} (hscope : scope < scopes.size)
    (hother : other ∈ enclosingWithin scopes count scope) : other < scopes.size := by
  induction count generalizing scope with
  | zero =>
    rw [enclosingWithin, List.mem_singleton] at hother
    rwa [hother]
  | succ count ih =>
    unfold enclosingWithin at hother
    rcases Nat.eq_zero_or_pos scope with rfl | hpos
    · rw [h.outermost] at hother
      rw [List.mem_singleton.mp hother]
      exact hscope
    · obtain ⟨parent, hparent, hlt⟩ := h.parent scope hpos hscope
      rw [hparent] at hother
      rcases List.mem_cons.mp hother with rfl | hother
      · exact hscope
      · exact ih (Nat.lt_trans hlt hscope) hother

/-- What a declaration belongs to is a scope. -/
theorem NestedScopes.targetScope_lt {scopes : Array Scope} (h : NestedScopes scopes)
    (kind : DeclarationKind) {scope : ScopeId} (hscope : scope < scopes.size) :
    targetScope scopes kind scope < scopes.size := by
  have hall : ∀ other ∈ enclosing scopes scope, other < scopes.size := fun other hother =>
    h.lt_of_mem_enclosingWithin hscope hother
  unfold targetScope
  split
  · dsimp only
    generalize hfound : List.find? _ (enclosing scopes scope) = found
    cases found with
    | some other => exact hall other (List.mem_of_find?_eq_some hfound)
    | none =>
      cases hlast : (enclosing scopes scope).getLast? with
      | some other => exact hall other (List.mem_of_getLast? hlast)
      | none => exact hscope
  · exact hscope

/-! ## Tables -/

/-- The indices in the tables lead to scopes, bindings and declarations. -/
structure TablesIndexed (scopes : Array Scope) (declarations : List Declaration)
    (tables : ScopeTables) : Prop where
  count : tables.ofDeclaration.size = declarations.length
  /-- A name stands for a binding of that name. -/
  name : ∀ scope name id, tables.lookup scope name = some id →
    ∃ b, tables.bindings[id]? = some b ∧ b.name = name
  bound : ∀ id ∈ tables.ofDeclaration, id < tables.bindings.size
  scope : ∀ b ∈ tables.bindings, b.scope < scopes.size
  listed : ∀ b ∈ tables.bindings, ∀ i ∈ b.declarations, i < declarations.length
  /-- A binding has the name and kind of a declaration. -/
  declared : ∀ b ∈ tables.bindings, ∃ d ∈ declarations, d.name = b.name ∧ d.kind = b.kind

theorem tablesIndexed_nil (scopes : Array Scope) :
    TablesIndexed scopes [] ⟨#[], scopes.map fun _ => [], #[]⟩ where
  count := rfl
  name scope name id h := by
    obtain ⟨b, hb, -⟩ := (tablesHold_nil scopes).scope scope name id h
    cases hb
  bound _ h := (Array.not_mem_empty _ h).elim
  scope _ h := (Array.not_mem_empty _ h).elim
  listed _ h := (Array.not_mem_empty _ h).elim
  declared _ h := (Array.not_mem_empty _ h).elim

/-- A binding after one more declaration is one before with perhaps that declaration. -/
theorem exists_of_mem_modify {bindings : Array Binding} {id : BindingId} {index : Nat}
    {b' : Binding} (h : b' ∈ bindings.modify id fun b =>
      { b with declarations := b.declarations ++ [index] }) :
    ∃ b ∈ bindings, b'.name = b.name ∧ b'.scope = b.scope ∧ b'.kind = b.kind ∧
      ∀ i ∈ b'.declarations, i ∈ b.declarations ∨ i = index := by
  obtain ⟨j, hj⟩ := Array.getElem?_of_mem h
  rw [Array.getElem?_modify] at hj
  split at hj
  · obtain ⟨b, hb, rfl⟩ := Option.map_eq_some_iff.mp hj
    refine ⟨b, Array.mem_of_getElem? hb, rfl, rfl, rfl, fun i hi => ?_⟩
    simpa using hi
  · exact ⟨b', Array.mem_of_getElem? hj, rfl, rfl, rfl, fun i hi => .inl hi⟩

variable {scopes : Array Scope} {declarations : List Declaration} {tables tables' : ScopeTables}

/-- One more declaration of a name that is bound. -/
theorem TablesIndexed.modify {d : Declaration} {id : BindingId} {b : Binding}
    (h : TablesIndexed scopes declarations tables) (hb : tables.bindings[id]? = some b) :
    TablesIndexed scopes (declarations ++ [d])
      { tables with
        bindings := tables.bindings.modify id fun b =>
          { b with declarations := b.declarations ++ [tables.ofDeclaration.size] }
        ofDeclaration := tables.ofDeclaration.push id } where
  count := by simp [h.count]
  name scope name other hother := by
    obtain ⟨b', hb', hname⟩ := h.name scope name other hother
    simp only [Array.getElem?_modify, hb']
    by_cases hsame : id = other
    · exact ⟨_, if_pos hsame, hname⟩
    · exact ⟨_, if_neg hsame, hname⟩
  bound other hother := by
    rw [Array.size_modify]
    rcases Array.mem_push.mp hother with hother | rfl
    · exact h.bound other hother
    · exact (Array.getElem?_eq_some_iff.mp hb).1
  scope b' hb' := by
    obtain ⟨before, hbefore, -, hscope, -⟩ := exists_of_mem_modify hb'
    rw [hscope]
    exact h.scope before hbefore
  listed b' hb' i hi := by
    obtain ⟨before, hbefore, -, -, -, hdeclarations⟩ := exists_of_mem_modify hb'
    rw [List.length_append, List.length_singleton]
    rcases hdeclarations i hi with hi | rfl
    · exact Nat.lt_succ_of_lt (h.listed before hbefore i hi)
    · rw [h.count]
      exact Nat.lt_succ_self _
  declared b' hb' := by
    obtain ⟨before, hbefore, hname, -, hkind, -⟩ := exists_of_mem_modify hb'
    obtain ⟨other, hother, heq⟩ := h.declared before hbefore
    rw [hname, hkind]
    exact ⟨other, List.mem_append_left _ hother, heq⟩

/-- A declaration of a name that is not bound yet. -/
theorem TablesIndexed.push {d : Declaration} {target : ScopeId}
    (h : TablesIndexed scopes declarations tables) (htarget : target < scopes.size) :
    TablesIndexed scopes (declarations ++ [d])
      { bindings := tables.bindings.push ⟨d.name, target, d.kind, [tables.ofDeclaration.size]⟩
        names := tables.names.modify target ((d.name, tables.bindings.size) :: ·)
        ofDeclaration := tables.ofDeclaration.push tables.bindings.size } where
  count := by simp [h.count]
  name scope name other hother := by
    rw [lookup_modify] at hother
    split at hother
    · rename_i hat
      cases hother
      exact ⟨_, Array.getElem?_push_size, hat.2.2.symm⟩
    · obtain ⟨b, hb, hname⟩ := h.name scope name other hother
      refine ⟨b, ?_, hname⟩
      have hlt := (Array.getElem?_eq_some_iff.mp hb).1
      rw [Array.getElem?_push_lt hlt, ← hb, Array.getElem?_eq_getElem hlt]
  bound other hother := by
    rw [Array.size_push]
    rcases Array.mem_push.mp hother with hother | rfl
    · exact Nat.lt_succ_of_lt (h.bound other hother)
    · exact Nat.lt_succ_self _
  scope b hb := by
    rcases Array.mem_push.mp hb with hb | rfl
    · exact h.scope b hb
    · exact htarget
  listed b hb i hi := by
    rw [List.length_append, List.length_singleton]
    rcases Array.mem_push.mp hb with hb | rfl
    · exact Nat.lt_succ_of_lt (h.listed b hb i hi)
    · rw [List.mem_singleton.mp hi, h.count]
      exact Nat.lt_succ_self _
  declared b hb := by
    rcases Array.mem_push.mp hb with hb | rfl
    · obtain ⟨other, hother, heq⟩ := h.declared b hb
      exact ⟨other, List.mem_append_left _ hother, heq⟩
    · exact ⟨d, List.mem_append_right _ (List.mem_singleton_self d), rfl, rfl⟩

/-- Binding one more declaration keeps what the indices lead to. -/
theorem TablesIndexed.bind {d : Declaration} (h : TablesIndexed scopes declarations tables)
    (hscopes : NestedScopes scopes) (hd : d.scope < scopes.size)
    (hbind : tables.bind scopes d = .ok tables') :
    TablesIndexed scopes (declarations ++ [d]) tables' := by
  unfold ScopeTables.bind at hbind
  dsimp only at hbind
  split at hbind
  · rename_i id hid
    split at hbind
    · cases hbind
    · cases hbind
      obtain ⟨b, hb, -⟩ := h.name _ _ _ hid
      exact h.modify hb
  · cases hbind
    exact h.push (hscopes.targetScope_lt d.kind hd)

/-- Binding declarations one after another keeps what the indices lead to. -/
theorem TablesIndexed.foldlM {added : List Declaration}
    (h : TablesIndexed scopes declarations tables) (hscopes : NestedScopes scopes)
    (hadded : ∀ d ∈ added, d.scope < scopes.size)
    (hbind : added.foldlM (ScopeTables.bind scopes) tables = .ok tables') :
    TablesIndexed scopes (declarations ++ added) tables' := by
  induction added generalizing declarations tables with
  | nil =>
    cases hbind
    rwa [List.append_nil]
  | cons d rest ih =>
    rw [List.foldlM_cons] at hbind
    obtain ⟨mid, hmid, hrest⟩ := bind_eq_ok.mp hbind
    obtain ⟨hd, hadded⟩ := List.forall_mem_cons.mp hadded
    have hall := ih (h.bind hscopes hd hmid) hadded hrest
    rwa [List.append_assoc] at hall

/-! ## Scopes of a module -/

/-- All indices in the scopes of a module lead to scopes, bindings and declarations of it. -/
structure ScopeTree.Indexed (tree : ScopeTree) : Prop where
  nested : NestedScopes tree.scopes
  /-- There are names for every scope. -/
  names : tree.names.size = tree.scopes.size
  /-- A name in a scope stands for a binding of that name. -/
  name : ∀ scope name id, tree.tables.lookup scope name = some id →
    ∃ b, tree.bindings[id]? = some b ∧ b.name = name
  declarationScope : ∀ d ∈ tree.declarations, d.scope < tree.scopes.size
  referenceScope : ∀ r ∈ tree.references, r.scope < tree.scopes.size
  /-- Every declaration has a binding. -/
  ofDeclaration : tree.ofDeclaration.size = tree.declarations.size ∧
    ∀ id ∈ tree.ofDeclaration, id < tree.bindings.size
  /-- Every reference has an entry. If that is a binding, it is one of the module. -/
  ofReference : tree.ofReference.size = tree.references.size ∧
    ∀ id, some id ∈ tree.ofReference → id < tree.bindings.size
  bindingScope : ∀ b ∈ tree.bindings, b.scope < tree.scopes.size
  bindingDeclarations : ∀ b ∈ tree.bindings, ∀ i ∈ b.declarations, i < tree.declarations.size
  /-- A binding has the name and kind of a declaration. -/
  declared : ∀ b ∈ tree.bindings, ∃ d ∈ tree.declarations, d.name = b.name ∧ d.kind = b.kind

/-- All indices in scopes that are built lead somewhere. -/
theorem ScopeTree.indexed_of_build {declarations : Array Declaration}
    {references : Array Reference} {tree : ScopeTree} (hscopes : NestedScopes scopes)
    (hdeclarations : ∀ d ∈ declarations, d.scope < scopes.size)
    (hreferences : ∀ r ∈ references, r.scope < scopes.size)
    (h : ScopeTree.build scopes declarations references = .ok tree) : tree.Indexed := by
  obtain ⟨tables, htables, h⟩ := bind_eq_ok.mp h
  rw [← Array.foldlM_toList] at htables
  have hold := (tablesHold_nil scopes).foldlM htables
  have hindexed := (tablesIndexed_nil scopes).foldlM hscopes
    (fun d hd => hdeclarations d (Array.mem_toList_iff.mp hd)) htables
  rw [List.nil_append] at hold hindexed
  split at h
  · cases h
  · cases h
    exact {
      nested := hscopes
      names := hold.names
      name := hindexed.name
      declarationScope := hdeclarations
      referenceScope := hreferences
      ofDeclaration := ⟨hindexed.count.trans declarations.length_toList, hindexed.bound⟩
      ofReference := by
        refine ⟨Array.size_map .., fun id hid => ?_⟩
        obtain ⟨r, -, hr⟩ := Array.mem_map.mp hid
        obtain ⟨scope, -, hscope⟩ := List.exists_of_findSome?_eq_some hr
        obtain ⟨b, hb, -⟩ := hindexed.name scope r.name id hscope
        exact (Array.getElem?_eq_some_iff.mp hb).1
      bindingScope := hindexed.scope
      bindingDeclarations b hb i hi := by
        have hlt := hindexed.listed b hb i hi
        rwa [Array.length_toList] at hlt
      declared b hb := by
        obtain ⟨d, hd, heq⟩ := hindexed.declared b hb
        exact ⟨d, Array.mem_toList_iff.mp hd, heq⟩ }

/-- Different names stand for different variables of a module. -/
theorem ScopeTree.Indexed.moduleBinding_injective {tree : ScopeTree} (h : tree.Indexed)
    {name other : String} {id : BindingId} (hname : tree.moduleBinding? name = some id)
    (hother : tree.moduleBinding? other = some id) : name = other := by
  obtain ⟨b, hb, rfl⟩ := h.name moduleScope name id hname
  obtain ⟨b', hb', rfl⟩ := h.name moduleScope other id hother
  cases hb.symm.trans hb'
  rfl

/-- A variable of the module that is an import has a declaration as one. -/
theorem ScopeTree.Indexed.exists_import {tree : ScopeTree} (h : tree.Indexed) {name : String}
    {id : BindingId} (hid : tree.moduleBinding? name = some id)
    (hkind : tree.bindingKind? id = some .imported) :
    ∃ d ∈ tree.declarations, d.name = name ∧ d.kind = .imported := by
  obtain ⟨b, hb, hname⟩ := h.name moduleScope name id hid
  obtain ⟨d, hd, hname', hkind'⟩ := h.declared b (Array.mem_of_getElem? hb)
  unfold ScopeTree.bindingKind? at hkind
  rw [hb, Option.map_some, Option.some_inj] at hkind
  exact ⟨d, hd, hname'.trans hname, hkind'.trans hkind⟩

end ModuleBundler
