import ModuleBundler.Proofs.BoundNames
import ModuleBundler.Proofs.WaysOut

/-!
# Conflicting declarations

* `Conflicting`, `Blocked` : two declarations conflict, and a `var` cannot be hoisted;
* `ParamsFirst` : the parameters of a scope come before its other declarations;
* `sharing` : the declarations that share a name in a scope;
* `TablesExact` : there is one binding for each name in a scope, shared by all its declarations;
* `TablesExact.bind`, `TablesExact.foldlM` : binding declarations keeps that and fails exactly at
  those that conflict with an earlier one;
* `TablesExact.hoistConflict?_isSome_iff` : what fails later is what is blocked.
-/

namespace ModuleBundler

/-- Two declarations of one name belong to one scope, and one of them is lexical there or both are
parameters. -/
def Conflicting (scopes : Array Scope) (d e : Declaration) : Prop :=
  d.name = e.name ∧ ∃ scope, BelongsTo scopes d scope ∧ BelongsTo scopes e scope ∧
    (d.kind.isLexical (scopeType scopes scope) = true ∨
      e.kind.isLexical (scopeType scopes scope) = true ∨ (d.kind = .param ∧ e.kind = .param))

/-- A `var` passes a scope on the way from its own to the one it belongs to that has its name for
anything but the parameter of a `catch`. -/
def Blocked (scopes : Array Scope) (declarations : List Declaration) (d : Declaration) : Prop :=
  d.kind = .var ∧ ∃ scope target, BelongsTo scopes d target ∧ Within scopes d.scope scope ∧
    StrictlyWithin scopes scope target ∧
    ∃ e ∈ declarations, e.name = d.name ∧ e.kind ≠ .catchParam ∧ BelongsTo scopes e scope

/-- The parameters of a scope come before all else that belongs to it. -/
def ParamsFirst (scopes : Array Scope) (declarations : List Declaration) : Prop :=
  declarations.Pairwise fun d e => e.kind = .param → BelongsTo scopes d e.scope → d.kind = .param

/-- The declarations of a name that belong to a scope, by index. -/
def sharing (scopes : Array Scope) (declarations : List Declaration) (scope : ScopeId)
    (name : String) : List Nat :=
  (List.range declarations.length).filter fun i => declarations[i]?.any fun d =>
    d.name = name ∧ targetScope scopes d.kind d.scope = scope

variable {scopes : Array Scope} {declarations : List Declaration} {tables tables' : ScopeTables}
  {d e : Declaration} {scope : ScopeId} {name : String} {i : Nat}

/-! ## Declarations that share a name -/

theorem mem_sharing : i ∈ sharing scopes declarations scope name ↔
    ∃ d, declarations[i]? = some d ∧ d.name = name ∧ targetScope scopes d.kind d.scope = scope := by
  unfold sharing
  rw [List.mem_filter, List.mem_range, Option.any_eq_true]
  simp only [decide_eq_true_eq]
  refine and_iff_right_of_imp ?_
  rintro ⟨d, hd, -⟩
  exact (List.getElem?_eq_some_iff.mp hd).1

theorem sorted_sharing : (sharing scopes declarations scope name).Pairwise (· < ·) :=
  List.pairwise_lt_range.filter _

theorem sharing_concat : sharing scopes (declarations ++ [d]) scope name =
    if d.name = name ∧ targetScope scopes d.kind d.scope = scope then
      sharing scopes declarations scope name ++ [declarations.length]
    else sharing scopes declarations scope name := by
  unfold sharing
  rw [List.length_append, List.length_singleton, List.range_succ, List.filter_append]
  have hbefore : ((List.range declarations.length).filter fun i =>
      (declarations ++ [d])[i]?.any fun d =>
        d.name = name ∧ targetScope scopes d.kind d.scope = scope) =
      (List.range declarations.length).filter fun i => declarations[i]?.any fun d =>
        d.name = name ∧ targetScope scopes d.kind d.scope = scope := by
    refine List.filter_congr fun i hi => ?_
    rw [List.getElem?_append_left (List.mem_range.mp hi)]
  rw [hbefore, List.filter_singleton, List.getElem?_concat_length, Option.any_some]
  by_cases hsame : d.name = name ∧ targetScope scopes d.kind d.scope = scope
  · rw [decide_eq_true hsame, if_pos hsame]
    rfl
  · rw [decide_eq_false hsame, if_neg hsame]
    exact List.append_nil _

/-! ## Tables -/

/-- There is one binding for each name that is declared in a scope. All its declarations share it,
and it has the kind of the first of them. -/
structure TablesExact (scopes : Array Scope) (declarations : List Declaration)
    (tables : ScopeTables) : Prop where
  count : tables.ofDeclaration.size = declarations.length
  names : tables.names.size = scopes.size
  lookup : ∀ scope name id, tables.lookup scope name = some id ↔
    ∃ b, tables.bindings[id]? = some b ∧ b.scope = scope ∧ b.name = name
  bound : ∀ (i : Nat) d, declarations[i]? = some d → ∃ id, tables.ofDeclaration[i]? = some id ∧
    tables.lookup (targetScope scopes d.kind d.scope) d.name = some id
  shared : ∀ (id : Nat) b, tables.bindings[id]? = some b →
    b.declarations = sharing scopes declarations b.scope b.name
  kind : ∀ (id : Nat) b, tables.bindings[id]? = some b → ∃ (first : Nat) (d : Declaration),
    b.declarations.head? = some first ∧ declarations[first]? = some d ∧ d.kind = b.kind

theorem tablesExact_nil (scopes : Array Scope) :
    TablesExact scopes [] ⟨#[], scopes.map fun _ => [], #[]⟩ where
  count := rfl
  names := Array.size_map ..
  lookup scope name id := by
    refine iff_of_false (fun h => ?_) (fun ⟨_, hb, _⟩ => nomatch hb)
    obtain ⟨b, hb, -⟩ := (tablesHold_nil scopes).scope scope name id h
    cases hb
  bound _ _ h := nomatch h
  shared _ _ h := nomatch h
  kind _ _ h := nomatch h

namespace TablesExact

/-- The binding of a declaration has its name and belongs to its scope. -/
theorem exists_binding (h : TablesExact scopes declarations tables)
    (hd : declarations[i]? = some d) : ∃ id b, tables.ofDeclaration[i]? = some id ∧
      tables.bindings[id]? = some b ∧ b.scope = targetScope scopes d.kind d.scope ∧
      b.name = d.name := by
  obtain ⟨id, hid, hlookup⟩ := h.bound i d hd
  obtain ⟨b, hb, hscope, hname⟩ := (h.lookup _ _ _).mp hlookup
  exact ⟨id, b, hid, hb, hscope, hname⟩

/-- The first declaration of a binding comes before all others that share it. -/
theorem exists_first (h : TablesExact scopes declarations tables) {id : BindingId} {b : Binding}
    (hb : tables.bindings[id]? = some b) : ∃ f ∈ declarations,
      f.kind = b.kind ∧ f.name = b.name ∧ targetScope scopes f.kind f.scope = b.scope ∧
      ∀ e ∈ declarations, e.name = b.name → targetScope scopes e.kind e.scope = b.scope →
        e = f ∨ [f, e].Sublist declarations := by
  obtain ⟨first, f, hhead, hf, hkind⟩ := h.kind id b hb
  obtain ⟨rest, hrest⟩ := List.head?_eq_some_iff.mp hhead
  rw [h.shared id b hb] at hrest
  have hmem : first ∈ sharing scopes declarations b.scope b.name := by
    rw [hrest]
    exact List.mem_cons_self
  obtain ⟨f', hf', hname, htarget⟩ := mem_sharing.mp hmem
  cases hf.symm.trans hf'
  refine ⟨f, List.mem_of_getElem? hf, hkind, hname, htarget, fun e he hename hetarget => ?_⟩
  obtain ⟨i, hi⟩ := List.getElem?_of_mem he
  have hsorted : (sharing scopes declarations b.scope b.name).Pairwise (· < ·) := sorted_sharing
  have hshared := mem_sharing.mpr ⟨e, hi, hename, hetarget⟩
  rw [hrest] at hshared hsorted
  rcases List.mem_cons.mp hshared with rfl | hlater
  · exact .inl (Option.some.inj (hi.symm.trans hf))
  · have hlt := List.rel_of_pairwise_cons hsorted hlater
    have hordered : declarations.Pairwise fun f e => [f, e].Sublist declarations :=
      List.pairwise_iff_forall_sublist.mpr fun hsub => hsub
    obtain ⟨hfirst, rfl⟩ := List.getElem?_eq_some_iff.mp hf
    obtain ⟨hlast, rfl⟩ := List.getElem?_eq_some_iff.mp hi
    exact .inr (List.pairwise_iff_getElem.mp hordered first i hfirst hlast hlt)

/-- The bindings that declarations belong to stay, and one more declaration gets one. -/
theorem bound_concat (h : TablesExact scopes declarations tables) (own : BindingId) {i : Nat}
    {e : Declaration} (he : (declarations ++ [d])[i]? = some e) :
    (∃ id, (tables.ofDeclaration.push own)[i]? = some id ∧
      tables.lookup (targetScope scopes e.kind e.scope) e.name = some id) ∨
    (e = d ∧ (tables.ofDeclaration.push own)[i]? = some own) := by
  rcases getElem?_concat_cases he with ⟨he, hi⟩ | ⟨rfl, rfl⟩
  · obtain ⟨id, hid, hlookup⟩ := h.bound i e he
    refine .inl ⟨id, ?_, hlookup⟩
    rw [Array.getElem?_push_lt (h.count ▸ hi), ← Array.getElem?_eq_getElem (h.count ▸ hi), hid]
  · refine .inr ⟨rfl, ?_⟩
    rw [← h.count]
    exact Array.getElem?_push_size

/-- One more declaration is none of a binding of another name or scope. -/
theorem shared_concat_of_ne (h : TablesExact scopes declarations tables) {id : BindingId}
    {b : Binding} (hb : tables.bindings[id]? = some b)
    (hne : tables.lookup (targetScope scopes d.kind d.scope) d.name ≠ some id) :
    b.declarations = sharing scopes (declarations ++ [d]) b.scope b.name := by
  rw [sharing_concat, if_neg]
  · exact h.shared id b hb
  · rintro ⟨hname, htarget⟩
    have hid := (h.lookup b.scope b.name id).mpr ⟨b, hb, rfl, rfl⟩
    rw [← hname, ← htarget] at hid
    exact hne hid

/-- A declaration of a name that is not bound yet gets a binding of its own. -/
theorem push (h : TablesExact scopes declarations tables)
    (hlt : targetScope scopes d.kind d.scope < scopes.size)
    (hnone : tables.lookup (targetScope scopes d.kind d.scope) d.name = none) :
    TablesExact scopes (declarations ++ [d])
      { bindings := tables.bindings.push
          ⟨d.name, targetScope scopes d.kind d.scope, d.kind, [tables.ofDeclaration.size]⟩
        names := tables.names.modify (targetScope scopes d.kind d.scope)
          ((d.name, tables.bindings.size) :: ·)
        ofDeclaration := tables.ofDeclaration.push tables.bindings.size } := by
  have hother : ∀ {scope name id}, tables.lookup scope name = some id →
      ¬ (targetScope scopes d.kind d.scope = scope ∧ scope < tables.names.size ∧
        name = d.name) := by
    rintro scope name id hid ⟨rfl, -, rfl⟩
    rw [hnone] at hid
    cases hid
  refine ⟨?_, (Array.size_modify ..).trans h.names, fun scope name id => ?_, fun i e he => ?_,
    fun id b hb => ?_, fun id b hb => ?_⟩
  · rw [Array.size_push, h.count, List.length_append, List.length_singleton]
  · rw [lookup_modify, Array.getElem?_push]
    constructor
    · intro hid
      split at hid
      · rename_i hat
        cases hid
        exact ⟨_, if_pos rfl, hat.1, hat.2.2.symm⟩
      · obtain ⟨b, hb, hbinding⟩ := (h.lookup scope name id).mp hid
        refine ⟨b, ?_, hbinding⟩
        rw [if_neg (Nat.ne_of_lt (Array.getElem?_eq_some_iff.mp hb).1)]
        exact hb
    · rintro ⟨b, hb, hscope, hname⟩
      split at hb
      · rename_i hid
        cases hb
        rw [if_pos ⟨hscope, hscope ▸ h.names ▸ hlt, hname.symm⟩, hid]
      · have hid := (h.lookup scope name id).mpr ⟨b, hb, hscope, hname⟩
        rw [if_neg (hother hid), hid]
  · rw [lookup_modify]
    rcases h.bound_concat tables.bindings.size he with ⟨id, hid, hlookup⟩ | ⟨rfl, hid⟩
    · refine ⟨id, hid, ?_⟩
      rw [if_neg (hother hlookup), hlookup]
    · exact ⟨_, hid, if_pos ⟨rfl, h.names ▸ hlt, rfl⟩⟩
  · rw [Array.getElem?_push] at hb
    split at hb
    · cases hb
      have hnew : sharing scopes declarations (targetScope scopes d.kind d.scope) d.name = [] := by
        refine List.eq_nil_iff_forall_not_mem.mpr fun i hi => ?_
        obtain ⟨e, he, hname, htarget⟩ := mem_sharing.mp hi
        obtain ⟨id, -, hid⟩ := h.bound i e he
        rw [htarget, hname, hnone] at hid
        cases hid
      rw [sharing_concat, if_pos ⟨rfl, rfl⟩, hnew, List.nil_append, h.count]
    · exact h.shared_concat_of_ne hb (hnone ▸ nofun)
  · rw [Array.getElem?_push] at hb
    split at hb
    · cases hb
      refine ⟨_, d, rfl, ?_, rfl⟩
      rw [h.count]
      exact List.getElem?_concat_length
    · obtain ⟨first, f, hfirst, hf, hkind⟩ := h.kind id b hb
      refine ⟨first, f, hfirst, ?_, hkind⟩
      rw [List.getElem?_append_left (List.getElem?_eq_some_iff.mp hf).1, hf]

/-- A declaration of a name that is bound already is one more of its binding. -/
theorem modify (h : TablesExact scopes declarations tables) {id : BindingId}
    (hid : tables.lookup (targetScope scopes d.kind d.scope) d.name = some id) :
    TablesExact scopes (declarations ++ [d])
      { tables with
        bindings := tables.bindings.modify id fun b =>
          { b with declarations := b.declarations ++ [tables.ofDeclaration.size] }
        ofDeclaration := tables.ofDeclaration.push id } := by
  have hmodify : ∀ {other b'}, (tables.bindings.modify id fun b =>
      { b with declarations := b.declarations ++ [tables.ofDeclaration.size] })[other]? = some b' →
      ∃ b, tables.bindings[other]? = some b ∧ b' = if id = other then
        { b with declarations := b.declarations ++ [tables.ofDeclaration.size] } else b := by
    intro other b' hb'
    rw [Array.getElem?_modify] at hb'
    split at hb'
    · rename_i heq
      obtain ⟨b, hb, rfl⟩ := Option.map_eq_some_iff.mp hb'
      exact ⟨b, hb, (if_pos heq).symm⟩
    · rename_i hne
      exact ⟨b', hb', (if_neg hne).symm⟩
  refine ⟨?_, h.names, fun scope name other => ?_, fun i e he => ?_, fun other b' hb' => ?_,
    fun other b' hb' => ?_⟩
  · rw [Array.size_push, h.count, List.length_append, List.length_singleton]
  · refine (h.lookup scope name other).trans ?_
    rw [Array.getElem?_modify]
    split
    · simp
    · exact Iff.rfl
  · rcases h.bound_concat id he with bound | ⟨rfl, hown⟩
    · exact bound
    · exact ⟨id, hown, hid⟩
  · obtain ⟨b, hb, rfl⟩ := hmodify hb'
    obtain ⟨own, hown, hscope, hname⟩ := (h.lookup _ _ _).mp hid
    by_cases heq : id = other
    · subst heq
      cases hown.symm.trans hb
      rw [sharing_concat, if_pos rfl, if_pos ⟨hname.symm, hscope.symm⟩, ← h.shared id b hb, h.count]
    · rw [if_neg heq]
      exact h.shared_concat_of_ne hb fun hother => heq (Option.some.inj (hid.symm.trans hother))
  · obtain ⟨b, hb, rfl⟩ := hmodify hb'
    obtain ⟨first, f, hfirst, hf, hkind⟩ := h.kind other b hb
    refine ⟨first, f, ?_, ?_, ?_⟩
    · split
      · rw [List.head?_append, hfirst]
        rfl
      · exact hfirst
    · rw [List.getElem?_append_left (List.getElem?_eq_some_iff.mp hf).1, hf]
    · split <;> exact hkind

end TablesExact

/-! ## Conflicts -/

/-- The scope that a declaration belongs to is one of those that there are. -/
theorem BelongsTo.lt (hbelongs : BelongsTo scopes d scope) (h : RootedScopes scopes)
    (hd : d.scope < scopes.size) : scope < scopes.size := by
  rcases hbelongs with - | ⟨-, hwithin, -, -⟩
  · exact hd
  · exact h.lt_of_within hd hwithin

theorem conflicting_iff (h : RootedScopes scopes) (hd : d.scope < scopes.size)
    (he : e.scope < scopes.size) : Conflicting scopes d e ↔ d.name = e.name ∧
      targetScope scopes d.kind d.scope = targetScope scopes e.kind e.scope ∧
      conflicts (scopeType scopes (targetScope scopes e.kind e.scope)) d.kind e.kind = true := by
  unfold Conflicting conflicts
  simp only [belongsTo_iff h hd, belongsTo_iff h he, Bool.or_eq_true, Bool.and_eq_true,
    decide_eq_true_eq, or_assoc]
  constructor
  · rintro ⟨hname, scope, hscope, rfl, hkinds⟩
    exact ⟨hname, hscope.symm, hkinds⟩
  · rintro ⟨hname, htarget, hkinds⟩
    exact ⟨hname, _, htarget.symm, rfl, hkinds⟩

/-- The declarations that are made in scopes that there are, the parameters of each scope first, and
do not conflict. -/
structure Compatible (scopes : Array Scope) (declarations : List Declaration) : Prop where
  inRange : ∀ d ∈ declarations, d.scope < scopes.size
  paramsFirst : ParamsFirst scopes declarations
  apart : declarations.Pairwise fun d e => ¬ Conflicting scopes d e

/-- Of two declarations that share a binding without a conflict, the first is a parameter if the
other is one, and neither is lexical. -/
theorem Compatible.kinds (h : Compatible scopes declarations) (hroot : RootedScopes scopes)
    (hsub : [d, e].Sublist declarations) (hname : d.name = e.name)
    (htarget : targetScope scopes d.kind d.scope = targetScope scopes e.kind e.scope) :
    e.kind ≠ .param ∧
      e.kind.isLexical (scopeType scopes (targetScope scopes e.kind e.scope)) = false := by
  have hd := h.inRange d (hsub.subset List.mem_cons_self)
  have he := h.inRange e (hsub.subset (List.mem_cons_of_mem _ List.mem_cons_self))
  have hapart := List.pairwise_iff_forall_sublist.mp h.apart hsub
  rw [conflicting_iff hroot hd he] at hapart
  have hkinds : ¬ conflicts (scopeType scopes (targetScope scopes e.kind e.scope)) d.kind e.kind =
      true := fun hkinds => hapart ⟨hname, htarget, hkinds⟩
  unfold conflicts at hkinds
  simp only [Bool.or_eq_true, Bool.and_eq_true, decide_eq_true_eq, not_or, not_and,
    Bool.not_eq_true] at hkinds
  refine ⟨fun hparam => ?_, hkinds.1.2⟩
  have hbelongs : BelongsTo scopes d e.scope := by
    rw [belongsTo_iff hroot hd, htarget, targetScope_of_ne_var (by simp [hparam])]
  have hfirst := List.pairwise_iff_forall_sublist.mp h.paramsFirst hsub hparam hbelongs
  exact hkinds.2 hfirst hparam

namespace TablesExact

/-- A declaration conflicts with an earlier one just when it does with the first of its binding. -/
theorem exists_conflicting_iff (h : TablesExact scopes declarations tables)
    (hroot : RootedScopes scopes) (hdecls : Compatible scopes declarations)
    (hd : d.scope < scopes.size) {id : BindingId} {b : Binding}
    (hid : tables.lookup (targetScope scopes d.kind d.scope) d.name = some id)
    (hb : tables.bindings[id]? = some b) : (∃ e ∈ declarations, Conflicting scopes e d) ↔
      conflicts (scopeType scopes (targetScope scopes d.kind d.scope)) b.kind d.kind = true := by
  obtain ⟨own, hown, hscope, hname⟩ := (h.lookup _ _ _).mp hid
  cases hown.symm.trans hb
  obtain ⟨f, hf, hkind, hfname, hftarget, hfirst⟩ := h.exists_first hb
  constructor
  · rintro ⟨e, he, hconflict⟩
    obtain ⟨hename, hetarget, hkinds⟩ :=
      (conflicting_iff hroot (hdecls.inRange e he) hd).mp hconflict
    rcases hfirst e he (hename.trans hname.symm) (hetarget.trans hscope.symm) with rfl | hsub
    · exact hkind ▸ hkinds
    · -- A later one of the binding is neither lexical nor a parameter, so `d` is lexical.
      obtain ⟨hparam, hlexical⟩ := hdecls.kinds hroot hsub (hfname.trans (hname.trans hename.symm))
        (hftarget.trans (hscope.trans hetarget.symm))
      rw [hetarget] at hlexical
      unfold conflicts at hkinds ⊢
      simp only [hlexical, hparam, decide_false, Bool.false_or, Bool.false_and, Bool.or_false]
        at hkinds
      rw [hkinds, Bool.or_true, Bool.true_or]
  · intro hkinds
    refine ⟨f, hf, (conflicting_iff hroot (hdecls.inRange f hf) hd).mpr ?_⟩
    exact ⟨hfname.trans hname, hftarget.trans hscope, hkind ▸ hkinds⟩

/-- Binding the next declaration fails just when it conflicts with one before it, and else keeps the
tables exact. -/
theorem bind (h : TablesExact scopes declarations tables) (hroot : RootedScopes scopes)
    (hdecls : Compatible scopes declarations) (hd : d.scope < scopes.size) :
    match tables.bind scopes d with
    | .ok tables' => TablesExact scopes (declarations ++ [d]) tables' ∧
        ∀ e ∈ declarations, ¬ Conflicting scopes e d
    | .error problem => problem.cause = .duplicateDeclaration ∧
        ∃ e ∈ declarations, Conflicting scopes e d := by
  unfold ScopeTables.bind
  dsimp only
  cases hid : tables.lookup (targetScope scopes d.kind d.scope) d.name with
  | some id =>
    obtain ⟨b, hb, -⟩ := (h.lookup _ _ _).mp hid
    have hconflict := h.exists_conflicting_iff hroot hdecls hd hid hb
    simp only [hb, Option.map_some, Option.getD_some]
    by_cases hkinds : conflicts (scopeType scopes (targetScope scopes d.kind d.scope)) b.kind d.kind
    · rw [if_pos hkinds]
      exact ⟨rfl, hconflict.mpr hkinds⟩
    · rw [if_neg hkinds]
      exact ⟨h.modify hid, fun e he hconflicting => hkinds (hconflict.mp ⟨e, he, hconflicting⟩)⟩
  | none =>
    have hlt := ((belongsTo_iff hroot hd).mpr rfl).lt hroot hd
    refine ⟨h.push hlt hid, fun e he hconflicting => ?_⟩
    obtain ⟨hname, htarget, -⟩ := (conflicting_iff hroot (hdecls.inRange e he) hd).mp hconflicting
    obtain ⟨i, hi⟩ := List.getElem?_of_mem he
    obtain ⟨id, -, hlookup⟩ := h.bound i e hi
    rw [htarget, hname, hid] at hlookup
    cases hlookup

/-- Binding declarations one after another fails just when two of them conflict. -/
theorem foldlM (h : TablesExact scopes declarations tables) (hroot : RootedScopes scopes)
    (hdecls : Compatible scopes declarations) {added : List Declaration}
    (hin : ∀ d ∈ added, d.scope < scopes.size)
    (hparams : ParamsFirst scopes (declarations ++ added)) :
    match added.foldlM (ScopeTables.bind scopes) tables with
    | .ok tables' => TablesExact scopes (declarations ++ added) tables' ∧
        Compatible scopes (declarations ++ added)
    | .error problem => problem.cause = .duplicateDeclaration ∧
        ¬ (declarations ++ added).Pairwise fun d e => ¬ Conflicting scopes d e := by
  induction added generalizing declarations tables with
  | nil =>
    rw [List.append_nil]
    exact ⟨h, hdecls⟩
  | cons d rest ih =>
    rw [List.foldlM_cons]
    have hstep := h.bind hroot hdecls (hin d List.mem_cons_self)
    have hsplit : declarations ++ d :: rest = (declarations ++ [d]) ++ rest := by
      rw [List.append_assoc, List.singleton_append]
    cases hbind : tables.bind scopes d with
    | error problem =>
      rw [hbind] at hstep
      obtain ⟨hcause, e, he, hconflict⟩ := hstep
      refine ⟨hcause, fun hapart => ?_⟩
      exact (List.pairwise_append.mp hapart).2.2 e he d List.mem_cons_self hconflict
    | ok tables' =>
      rw [hbind] at hstep
      obtain ⟨hexact, hapart⟩ := hstep
      rw [hsplit] at hparams ⊢
      refine ih hexact ⟨?_, (List.pairwise_append.mp hparams).1, ?_⟩
        (fun e he => hin e (List.mem_cons_of_mem _ he)) hparams
      · intro e he
        rcases List.mem_append.mp he with he | he
        · exact hdecls.inRange e he
        · exact hin e (List.mem_singleton.mp he ▸ List.mem_cons_self)
      · refine List.pairwise_append.mpr ⟨hdecls.apart, List.pairwise_singleton _ _, ?_⟩
        intro e he d' hd'
        cases List.mem_singleton.mp hd'
        exact hapart e he

/-- A scope that keeps no `var` has a name for something else than the parameter of a `catch` just
when such a declaration of the name belongs to it. -/
theorem exists_not_catchParam_iff (h : TablesExact scopes declarations tables)
    (hroot : RootedScopes scopes) (hdecls : Compatible scopes declarations)
    (hscope : scope < scopes.size) (hpass : ¬ StopsVars scopes scope) :
    (∃ id b, tables.lookup scope name = some id ∧ tables.bindings[id]? = some b ∧
      b.kind ≠ .catchParam) ↔
      ∃ e ∈ declarations, e.name = name ∧ e.kind ≠ .catchParam ∧ BelongsTo scopes e scope := by
  constructor
  · rintro ⟨id, b, hid, hb, hkind⟩
    obtain ⟨own, hown, rfl, rfl⟩ := (h.lookup _ _ _).mp hid
    cases hown.symm.trans hb
    obtain ⟨f, hf, hfkind, hname, htarget, -⟩ := h.exists_first hb
    refine ⟨f, hf, hname, hfkind ▸ hkind, ?_⟩
    exact (belongsTo_iff hroot (hdecls.inRange f hf)).mpr htarget.symm
  · rintro ⟨e, he, rfl, hkind, hbelongs⟩
    have htarget := (belongsTo_iff hroot (hdecls.inRange e he)).mp hbelongs
    obtain ⟨i, hi⟩ := List.getElem?_of_mem he
    obtain ⟨id, -, hid⟩ := h.bound i e hi
    obtain ⟨b, hb, hbscope, hbname⟩ := (h.lookup _ _ _).mp hid
    refine ⟨id, b, htarget ▸ hid, hb, fun hcatch => ?_⟩
    obtain ⟨f, hf, hfkind, hfname, hftarget, hfirst⟩ := h.exists_first hb
    rcases hfirst e he hbname.symm hbscope.symm with rfl | hsub
    · exact hkind (hfkind.trans hcatch)
    · -- A later one is no parameter and not lexical, hence a `var`, which does not stay here.
      obtain ⟨hparam, hlexical⟩ := hdecls.kinds hroot hsub (hfname.trans hbname)
        (hftarget.trans hbscope)
      have htype : scopeType scopes scope ≠ .function := fun htype =>
        hpass ⟨scopes[scope], Array.getElem?_eq_getElem hscope, .inl (by
          rwa [scopeType, Array.getElem?_eq_getElem hscope] at htype)⟩
      rw [← htarget] at hlexical
      have hvar : e.kind = .var := by
        cases hk : e.kind <;> simp_all [DeclarationKind.isLexical]
      rcases hbelongs with hstays | ⟨-, -, hstops, -⟩
      · exact hstays hvar
      · exact hpass hstops

/-- What cannot be hoisted is what passes a scope that has its name. -/
theorem hoistConflict?_isSome_iff (h : TablesExact scopes declarations tables)
    (hroot : RootedScopes scopes) (hdecls : Compatible scopes declarations)
    (hd : d.scope < scopes.size) (order : Array Declaration) :
    (hoistConflict? scopes order tables d).isSome ↔ Blocked scopes declarations d := by
  unfold hoistConflict? Blocked
  by_cases hvar : d.kind = .var
  · rw [if_pos (DeclarationKind.hoists_iff.mpr hvar), List.findSome?_isSome_iff]
    obtain ⟨way, hway⟩ := hroot.exists_wayOut d.scope
    have hbelongs := (belongsTo_iff hroot hd).mpr rfl
    have hscope : ∀ {mid}, Within scopes d.scope mid →
        StrictlyWithin scopes mid (targetScope scopes d.kind d.scope) →
        ((∃ id b, tables.lookup mid d.name = some id ∧ tables.bindings[id]? = some b ∧
          b.kind ≠ .catchParam) ↔
          ∃ e ∈ declarations, e.name = d.name ∧ e.kind ≠ .catchParam ∧ BelongsTo scopes e mid) :=
      fun hwithin hpassed => h.exists_not_catchParam_iff hroot hdecls
        (hroot.lt_of_within hd hwithin) (hbelongs.not_stopsVars hvar hwithin hpassed)
    constructor
    · rintro ⟨mid, hmid, hsome⟩
      rw [hway.enclosing_eq, hway.mem_takeWhile_iff hbelongs.within] at hmid
      refine ⟨hvar, mid, _, hbelongs, hmid.1, hmid.2, (hscope hmid.1 hmid.2).mp ?_⟩
      obtain ⟨problem, hproblem⟩ := Option.isSome_iff_exists.mp hsome
      obtain ⟨id, hid, hproblem⟩ := Option.bind_eq_some_iff.mp hproblem
      obtain ⟨b, hb, hproblem⟩ := Option.bind_eq_some_iff.mp hproblem
      refine ⟨id, b, hid, hb, fun hcatch => ?_⟩
      rw [if_pos hcatch] at hproblem
      cases hproblem
    · rintro ⟨-, mid, target, htarget, hwithin, hpassed, hnamed⟩
      cases (belongsTo_iff hroot hd).mp htarget
      obtain ⟨id, b, hid, hb, hkind⟩ := (hscope hwithin hpassed).mpr hnamed
      refine ⟨mid, ?_, ?_⟩
      · rw [hway.enclosing_eq, hway.mem_takeWhile_iff hbelongs.within]
        exact ⟨hwithin, hpassed⟩
      · rw [hid, Option.bind_eq_bind, Option.bind_some, hb, Option.bind_eq_bind, Option.bind_some,
          if_neg hkind]
        rfl
  · rw [if_neg (mt DeclarationKind.hoists_iff.mp hvar)]
    exact iff_of_false (by simp) fun hblocked => hvar hblocked.1

end TablesExact

/-- What cannot be hoisted is a second declaration. -/
theorem cause_of_hoistConflict? {order : Array Declaration} {problem : SyntaxError}
    (h : hoistConflict? scopes order tables d = some problem) :
    problem.cause = .duplicateDeclaration := by
  unfold hoistConflict? at h
  split at h
  · obtain ⟨scope, -, hproblem⟩ := List.exists_of_findSome?_eq_some h
    obtain ⟨id, -, hproblem⟩ := Option.bind_eq_some_iff.mp hproblem
    obtain ⟨b, -, hproblem⟩ := Option.bind_eq_some_iff.mp hproblem
    split at hproblem
    · cases hproblem
    · cases hproblem
      rfl
  · cases h

end ModuleBundler
