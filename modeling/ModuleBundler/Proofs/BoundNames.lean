import ModuleBundler.ModuleRecord
import ModuleBundler.Proofs.Outcome

/-!
# Names that are bound

* `TablesHold` : what the tables of bindings hold of the declarations so far;
* `TablesHold.bind` : binding one more declaration keeps that;
* `ScopeTree.Bound`, `ScopeTree.bound_of_build` : what the scopes of a module hold once all names in
  it are bound: each declaration has a binding, and each binding a declaration.
-/

namespace ModuleBundler

/-! ## Bindings -/

/-- All bindings stay in their scopes and of their kinds. -/
def BindingsStay (bindings bindings' : Array Binding) : Prop :=
  ∀ (id : Nat) b, bindings[id]? = some b →
    ∃ b', bindings'[id]? = some b' ∧ b'.kind = b.kind ∧ b'.scope = b.scope

theorem bindingsStay_push (bindings : Array Binding) (binding : Binding) :
    BindingsStay bindings (bindings.push binding) := by
  intro id b hb
  refine ⟨b, ?_, rfl, rfl⟩
  rw [Array.getElem?_push_lt (Array.getElem?_eq_some_iff.mp hb).1]
  exact congrArg some (Array.getElem?_eq_some_iff.mp hb).2

theorem bindingsStay_modify (bindings : Array Binding) (id : BindingId) (more : List Nat) :
    BindingsStay bindings (bindings.modify id fun b =>
      { b with declarations := b.declarations ++ more }) := by
  intro other b hb
  rw [Array.getElem?_modify, hb]
  by_cases h : id = other
  · exact ⟨_, if_pos h, rfl, rfl⟩
  · exact ⟨_, if_neg h, rfl, rfl⟩

/-! ## Names -/

/-- A name added to a scope is found there, and other names as before. -/
theorem lookup_modify (tables : ScopeTables) (target : ScopeId) (name : String) (id : BindingId)
    (bindings : Array Binding) (ofDeclaration : Array BindingId) (scope : ScopeId)
    (other : String) :
    (ScopeTables.mk bindings (tables.names.modify target ((name, id) :: ·)) ofDeclaration).lookup
        scope other =
      if target = scope ∧ scope < tables.names.size ∧ other = name then some id
      else tables.lookup scope other := by
  unfold ScopeTables.lookup
  dsimp only
  rw [Array.getElem?_modify]
  by_cases hscope : target = scope
  · rw [if_pos hscope]
    by_cases hlt : scope < tables.names.size
    · rw [Array.getElem?_eq_getElem hlt, Option.map_some, Option.getD_some, Option.getD_some,
        List.lookup_cons]
      by_cases hname : other = name
      · rw [if_pos ⟨hscope, hlt, hname⟩, hname, beq_self_eq_true]
      · rw [if_neg fun h => hname h.2.2, beq_false_of_ne hname]
    · rw [Array.getElem?_eq_none (Nat.le_of_not_lt hlt), if_neg fun h => hlt h.2.1]
      rfl
  · rw [if_neg hscope, if_neg fun h => hscope h.1]

/-! ## Declarations -/

/-- What the tables hold once declarations are bound. -/
structure TablesHold (scopes : Array Scope) (declarations : List Declaration)
    (tables : ScopeTables) : Prop where
  count : tables.ofDeclaration.size = declarations.length
  names : tables.names.size = scopes.size
  /-- A name in a scope stands for a binding of the scope. -/
  scope : ∀ scope name id, tables.lookup scope name = some id →
    ∃ b, tables.bindings[id]? = some b ∧ b.scope = scope
  /-- A declaration has a binding, which is an import if the declaration is one. -/
  binding : ∀ (i : Nat) d, declarations[i]? = some d → ∃ id b,
    tables.ofDeclaration[i]? = some id ∧ tables.bindings[id]? = some b ∧
      (b.kind = .imported ↔ d.kind = .imported)
  /-- A declaration is found by its name in the scope that it belongs to. -/
  found : ∀ (i : Nat) d, declarations[i]? = some d →
    targetScope scopes d.kind d.scope < scopes.size →
      tables.lookup (targetScope scopes d.kind d.scope) d.name = tables.ofDeclaration[i]?
  /-- A binding has a declaration. -/
  declared : ∀ id < tables.bindings.size, ∃ i : Nat, tables.ofDeclaration[i]? = some id
  /-- An import shares its name in a scope with no other declaration. -/
  alone : ∀ (i j : Nat) d e, declarations[i]? = some d → declarations[j]? = some e →
    d.kind = .imported → targetScope scopes d.kind d.scope < scopes.size →
      targetScope scopes e.kind e.scope = targetScope scopes d.kind d.scope → e.name = d.name →
        i = j

theorem tablesHold_nil (scopes : Array Scope) :
    TablesHold scopes [] ⟨#[], scopes.map fun _ => [], #[]⟩ where
  count := rfl
  names := Array.size_map ..
  scope scope name id h := by
    unfold ScopeTables.lookup at h
    rw [Array.getElem?_map] at h
    cases hscope : scopes[scope]? with
    | none => rw [hscope] at h; cases h
    | some _ => rw [hscope] at h; cases h
  binding _ _ h := by cases h
  found _ _ h := by cases h
  declared _ h := absurd h (Nat.not_lt_zero _)
  alone _ _ _ _ h := by cases h

/-- Declarations that do not conflict are no imports. -/
theorem ne_imported_of_not_conflicts {type : ScopeType} {existing added : DeclarationKind}
    (h : ¬ conflicts type existing added = true) : existing ≠ .imported ∧ added ≠ .imported := by
  constructor
  · rintro rfl
    exact h rfl
  · rintro rfl
    refine h ?_
    unfold conflicts
    rw [show DeclarationKind.imported.isLexical type = true from rfl, Bool.or_true, Bool.true_or]

variable {scopes : Array Scope} {declarations : List Declaration} {tables tables' : ScopeTables}

/-- What binding a declaration does to the tables. -/
structure DeclarationBound (scopes : Array Scope) (tables : ScopeTables) (d : Declaration)
    (id : BindingId) (tables' : ScopeTables) : Prop where
  count : tables'.ofDeclaration = tables.ofDeclaration.push id
  names : tables'.names.size = tables.names.size
  stay : BindingsStay tables.bindings tables'.bindings
  bindings : ∀ other < tables'.bindings.size, other < tables.bindings.size ∨ other = id
  binding : ∃ b, tables'.bindings[id]? = some b ∧ (b.kind = .imported ↔ d.kind = .imported)
  scope : ∀ scope name other, tables'.lookup scope name = some other →
    tables.lookup scope name = some other ∨
      ∃ b, tables'.bindings[other]? = some b ∧ b.scope = scope
  kept : ∀ scope name other, tables.lookup scope name = some other →
    tables'.lookup scope name = some other
  found : targetScope scopes d.kind d.scope < tables.names.size →
    tables'.lookup (targetScope scopes d.kind d.scope) d.name = some id
  /-- If the name was bound before, no import is involved. -/
  alone : ∀ other b, tables.lookup (targetScope scopes d.kind d.scope) d.name = some other →
    tables.bindings[other]? = some b → b.kind ≠ .imported ∧ d.kind ≠ .imported

/-- A declaration of a name that is bound already is one more of its binding. -/
theorem declarationBound_modify {d : Declaration} {id : BindingId} {b : Binding}
    (hid : tables.lookup (targetScope scopes d.kind d.scope) d.name = some id)
    (hb : tables.bindings[id]? = some b) (hkinds : b.kind ≠ .imported ∧ d.kind ≠ .imported)
    (more : List Nat) :
    DeclarationBound scopes tables d id
      { tables with
        bindings := tables.bindings.modify id fun b =>
          { b with declarations := b.declarations ++ more }
        ofDeclaration := tables.ofDeclaration.push id } where
  count := rfl
  names := rfl
  stay := bindingsStay_modify tables.bindings id more
  bindings other hother := by
    rw [Array.size_modify] at hother
    exact .inl hother
  binding := by
    obtain ⟨b', hb', hkind, -⟩ := bindingsStay_modify tables.bindings id more id b hb
    refine ⟨b', hb', ?_⟩
    rw [hkind]
    exact iff_of_false hkinds.1 hkinds.2
  scope _ _ _ h := .inl h
  kept _ _ _ h := h
  found _ := hid
  alone other b' hother hb' := by
    cases hid.symm.trans hother
    cases hb.symm.trans hb'
    exact hkinds

/-- A declaration of a name that is not bound yet gets a binding. -/
theorem declarationBound_push {d : Declaration} {more : List Nat}
    (hnone : tables.lookup (targetScope scopes d.kind d.scope) d.name = none) :
    DeclarationBound scopes tables d tables.bindings.size
      { bindings :=
          tables.bindings.push ⟨d.name, targetScope scopes d.kind d.scope, d.kind, more⟩
        names := tables.names.modify (targetScope scopes d.kind d.scope)
          ((d.name, tables.bindings.size) :: ·)
        ofDeclaration := tables.ofDeclaration.push tables.bindings.size } where
  count := rfl
  names := Array.size_modify ..
  stay := bindingsStay_push _ _
  bindings other hother := by
    rw [Array.size_push] at hother
    omega
  binding := ⟨_, Array.getElem?_push_size, Iff.rfl⟩
  scope scope name other hother := by
    rw [lookup_modify] at hother
    split at hother
    · rename_i hat
      cases hother
      exact .inr ⟨_, Array.getElem?_push_size, hat.1⟩
    · exact .inl hother
  kept scope name other hother := by
    rw [lookup_modify, if_neg]
    · exact hother
    · rintro ⟨rfl, -, rfl⟩
      rw [hnone] at hother
      cases hother
  found hlt := by rw [lookup_modify, if_pos ⟨rfl, hlt, rfl⟩]
  alone other b hother := by
    rw [hnone] at hother
    cases hother

/-- A declaration is bound to the binding of its name, or to a new one. -/
theorem declarationBound_of_bind {d : Declaration} (h : TablesHold scopes declarations tables)
    (hbind : tables.bind scopes d = .ok tables') :
    ∃ id, DeclarationBound scopes tables d id tables' := by
  unfold ScopeTables.bind at hbind
  dsimp only at hbind
  split at hbind
  · rename_i id hid
    split at hbind
    · cases hbind
    · rename_i hconflicts
      cases hbind
      obtain ⟨b, hb, -⟩ := h.scope _ _ _ hid
      rw [hb] at hconflicts
      exact ⟨id, declarationBound_modify hid hb (ne_imported_of_not_conflicts hconflicts) _⟩
  · rename_i hnone
    cases hbind
    exact ⟨_, declarationBound_push hnone⟩

theorem getElem?_concat_cases {α : Type} {as : List α} {a b : α} {i : Nat}
    (h : (as ++ [a])[i]? = some b) :
    (as[i]? = some b ∧ i < as.length) ∨ (i = as.length ∧ b = a) := by
  rcases Nat.lt_or_ge i as.length with hlt | hge
  · rw [List.getElem?_append_left hlt] at h
    exact .inl ⟨h, hlt⟩
  · have hlt := (List.getElem?_eq_some_iff.mp h).1
    rw [List.length_append, List.length_singleton] at hlt
    have hi : i = as.length := by omega
    rw [hi, List.getElem?_concat_length] at h
    cases h
    exact .inr ⟨hi, rfl⟩

/-- If the name of a declaration was declared before in its scope, no import is involved. -/
theorem TablesHold.ne_imported {d e : Declaration} {id : BindingId} {i : Nat}
    (h : TablesHold scopes declarations tables) (hbound : DeclarationBound scopes tables d id tables')
    (he : declarations[i]? = some e)
    (hscope : targetScope scopes e.kind e.scope = targetScope scopes d.kind d.scope)
    (hlt : targetScope scopes d.kind d.scope < scopes.size) (hname : e.name = d.name) :
    e.kind ≠ .imported ∧ d.kind ≠ .imported := by
  obtain ⟨other, b, hother, hb, hkind⟩ := h.binding i e he
  have hfound := h.found i e he (hscope ▸ hlt)
  rw [hother, hscope, hname] at hfound
  exact (hbound.alone other b hfound hb).imp_left fun hne heq => hne (hkind.mpr heq)

/-- Binding one more declaration keeps what the tables hold of those before. -/
theorem TablesHold.bind {d : Declaration} (h : TablesHold scopes declarations tables)
    (hbind : tables.bind scopes d = .ok tables') :
    TablesHold scopes (declarations ++ [d]) tables' := by
  obtain ⟨id, hbound⟩ := declarationBound_of_bind h hbind
  have hcount : tables'.ofDeclaration[declarations.length]? = some id := by
    rw [hbound.count, ← h.count]
    exact Array.getElem?_push_size
  have hbefore : ∀ i < declarations.length,
      tables'.ofDeclaration[i]? = tables.ofDeclaration[i]? := by
    intro i hi
    rw [← h.count] at hi
    rw [hbound.count, Array.getElem?_push_lt hi, Array.getElem?_eq_getElem hi]
  refine ⟨?_, hbound.names.trans h.names, fun scope name other hother => ?_, fun i e he => ?_,
    fun i e he hlt => ?_, fun other hother => ?_, fun i j e f he hf hkind hlt hscope hname => ?_⟩
  · rw [hbound.count, Array.size_push, h.count, List.length_append, List.length_singleton]
  · rcases hbound.scope scope name other hother with hold | hnew
    · obtain ⟨b, hb, hscope⟩ := h.scope scope name other hold
      obtain ⟨b', hb', -, hscope'⟩ := hbound.stay other b hb
      exact ⟨b', hb', hscope'.trans hscope⟩
    · exact hnew
  · rcases getElem?_concat_cases he with ⟨he, hi⟩ | ⟨rfl, rfl⟩
    · obtain ⟨other, b, hother, hb, hkind⟩ := h.binding i e he
      obtain ⟨b', hb', hkind', -⟩ := hbound.stay other b hb
      exact ⟨other, b', (hbefore i hi).trans hother, hb', hkind' ▸ hkind⟩
    · obtain ⟨b, hb, hkind⟩ := hbound.binding
      exact ⟨id, b, hcount, hb, hkind⟩
  · rcases getElem?_concat_cases he with ⟨he, hi⟩ | ⟨rfl, rfl⟩
    · obtain ⟨other, b, hother, -⟩ := h.binding i e he
      have hfound := h.found i e he hlt
      rw [hother] at hfound
      rw [hbefore i hi, hother]
      exact hbound.kept _ _ _ hfound
    · rw [hcount]
      exact hbound.found (h.names ▸ hlt)
  · rcases hbound.bindings other hother with hold | rfl
    · obtain ⟨i, hi⟩ := h.declared other hold
      have hlt := (Array.getElem?_eq_some_iff.mp hi).1
      exact ⟨i, (hbefore i (h.count ▸ hlt)).trans hi⟩
    · exact ⟨_, hcount⟩
  · rcases getElem?_concat_cases he with ⟨hold, -⟩ | ⟨rfl, rfl⟩
    · rcases getElem?_concat_cases hf with ⟨hold', -⟩ | ⟨rfl, rfl⟩
      · exact h.alone i j e f hold hold' hkind hlt hscope hname
      · exact absurd hkind (h.ne_imported hbound hold hscope.symm (hscope ▸ hlt) hname.symm).1
    · rcases getElem?_concat_cases hf with ⟨hold, -⟩ | ⟨rfl, rfl⟩
      · exact absurd hkind (h.ne_imported hbound hold hscope hlt hname).2
      · rfl

/-- Binding declarations one after another keeps what the tables hold. -/
theorem TablesHold.foldlM {added : List Declaration} (h : TablesHold scopes declarations tables)
    (hbind : added.foldlM (ScopeTables.bind scopes) tables = .ok tables') :
    TablesHold scopes (declarations ++ added) tables' := by
  induction added generalizing declarations tables with
  | nil =>
    cases hbind
    rwa [List.append_nil]
  | cons d rest ih =>
    rw [List.foldlM_cons] at hbind
    obtain ⟨mid, hmid, hrest⟩ := bind_eq_ok.mp hbind
    have := ih (h.bind hmid) hrest
    rwa [List.append_assoc] at this

/-! ## Scopes of a module -/

/-- What the scopes of a module hold once all names are bound. -/
structure ScopeTree.Bound (tree : ScopeTree) : Prop where
  references : tree.ofReference.size = tree.references.size
  /-- A declaration has a binding, which is an import if the declaration is one. -/
  binding : ∀ (i : Nat) d, tree.declarations[i]? = some d → ∃ id b,
    tree.ofDeclaration[i]? = some id ∧ tree.bindings[id]? = some b ∧
      (b.kind = .imported ↔ d.kind = .imported)
  /-- A binding has a declaration. -/
  declared : ∀ (id : Nat) b, tree.bindings[id]? = some b →
    ∃ i < tree.declarations.size, tree.ofDeclaration[i]? = some id
  /-- A name in the module scope stands for a binding of that scope. -/
  isModuleBinding : ∀ name id, tree.moduleBinding? name = some id → tree.isModuleBinding id = true
  /-- A declaration in the module scope is found there by its name. -/
  moduleBinding : ∀ (i : Nat) d, tree.declarations[i]? = some d → d.scope = moduleScope →
    d.kind.hoists = false → tree.moduleBinding? d.name = tree.ofDeclaration[i]?
  /-- No two imports in the module scope have one name. -/
  imported : ∀ (i j : Nat) d e, tree.declarations[i]? = some d → tree.declarations[j]? = some e →
    d.kind = .imported → e.kind = .imported → d.scope = moduleScope → e.scope = moduleScope →
      d.name = e.name → i = j

/-- All names in a module are bound if there is a module scope. -/
theorem ScopeTree.bound_of_build {references : Array Reference} {declarations : Array Declaration}
    {tree : ScopeTree} (hscopes : 0 < scopes.size)
    (h : ScopeTree.build scopes declarations references = .ok tree) : tree.Bound := by
  obtain ⟨tables, htables, h⟩ := bind_eq_ok.mp h
  rw [← Array.foldlM_toList] at htables
  have hold := (tablesHold_nil scopes).foldlM htables
  rw [List.nil_append] at hold
  split at h
  · cases h
  · cases h
    refine ⟨Array.size_map .., fun i d hd => ?_, fun id b hb => ?_, fun name id hid => ?_,
      fun i d hd hscope hhoists => ?_, fun i j d e hd he hkind hkind' hscope hscope' hname => ?_⟩
    · exact hold.binding i d (Array.getElem?_toList ▸ hd)
    · obtain ⟨i, hi⟩ := hold.declared id (Array.getElem?_eq_some_iff.mp hb).1
      have hlt := (Array.getElem?_eq_some_iff.mp hi).1
      exact ⟨i, Array.length_toList ▸ hold.count ▸ hlt, hi⟩
    · obtain ⟨b, hb, hscope⟩ := hold.scope _ _ _ hid
      unfold ScopeTree.isModuleBinding
      dsimp only
      rw [hb, Option.any_some]
      exact decide_eq_true hscope
    · have htarget : targetScope scopes d.kind d.scope = moduleScope := by
        rw [targetScope, hhoists, hscope]
        rfl
      have := hold.found i d (Array.getElem?_toList ▸ hd) (htarget ▸ hscopes)
      rwa [htarget] at this
    · have htarget : ∀ d : Declaration, d.kind = .imported → d.scope = moduleScope →
          targetScope scopes d.kind d.scope = moduleScope := by
        intro d hkind hscope
        rw [hkind, hscope]
        rfl
      refine hold.alone i j d e (Array.getElem?_toList ▸ hd) (Array.getElem?_toList ▸ he) hkind ?_ ?_
        hname.symm
      · rw [htarget d hkind hscope]
        exact hscopes
      · rw [htarget d hkind hscope, htarget e hkind' hscope']

/-! ## The variables of items -/

theorem IndexRange.mem_toList {r : IndexRange} {i : Nat} :
    i ∈ r.toList ↔ r.start ≤ i ∧ i < r.stop := by
  rw [IndexRange.toList, List.mem_range'_1]
  omega

/-- The variables of an item are those of the module that its declarations are bound to and that are
no imports. -/
theorem ModuleRecord.mem_itemBindings {record : ModuleRecord} {item : ModuleItem}
    {binding : BindingId} : binding ∈ record.itemBindings item ↔
      (∃ d, item.declarations.start ≤ d ∧ d < item.declarations.stop ∧
        record.scopes.ofDeclaration[d]? = some binding) ∧
      record.scopes.isModuleBinding binding = true ∧
      record.scopes.bindingKind? binding ≠ some .imported := by
  unfold ModuleRecord.itemBindings
  rw [List.mem_eraseDups, List.mem_filterMap]
  constructor
  · rintro ⟨d, hd, h⟩
    rw [IndexRange.mem_toList] at hd
    split at h
    · rename_i id hid
      split at h
      · rename_i hown
        cases h
        exact ⟨⟨d, hd.1, hd.2, hid⟩, hown⟩
      · cases h
    · cases h
  · rintro ⟨⟨d, hd, hd', hbinding⟩, hown⟩
    refine ⟨d, IndexRange.mem_toList.mpr ⟨hd, hd'⟩, ?_⟩
    rw [hbinding]
    exact if_pos hown

/-- An own declaration in an item that is bound in the module scope is one of the item's variables. -/
theorem ScopeTree.Bound.mem_itemBindings {record : ModuleRecord} (h : record.scopes.Bound)
    {item : ModuleItem} {d : Nat} {declaration : Declaration} {binding : BindingId}
    (hd : item.declarations.start ≤ d) (hd' : d < item.declarations.stop)
    (hget : record.scopes.declarations[d]? = some declaration)
    (hbinding : record.scopes.ofDeclaration[d]? = some binding)
    (hmodule : record.scopes.isModuleBinding binding = true)
    (hkind : declaration.kind ≠ .imported) : binding ∈ record.itemBindings item := by
  refine ModuleRecord.mem_itemBindings.mpr ⟨⟨d, hd, hd', hbinding⟩, hmodule, ?_⟩
  obtain ⟨id, b, hid, hb, hiff⟩ := h.binding d declaration hget
  rw [hbinding] at hid
  cases hid
  unfold ScopeTree.bindingKind?
  rw [hb, Option.map_some]
  intro heq
  exact hkind (hiff.mp (Option.some_inj.mp heq))

end ModuleBundler
