import Mathlib.Data.List.Nodup
import Mathlib.Data.List.Perm.Subperm
import Mathlib.Logic.Relation
import ModuleBundler.Scope.Tree

/-!
# Ways out of scopes

* `Within`, `StrictlyWithin` : a scope lies in another one;
* `RootedScopes` : every scope lies in one of a module that lies in no other;
* `WayOut` : a scope and those around it, and `WayOut.enclosing_eq` : nothing else encloses it;
* `WayOut.mem_before_iff` : what comes before a scope on a way are the scopes strictly within it;
* `BelongsTo` : a declaration belongs to a scope, and `belongsTo_iff` : that is its target.
-/

namespace ModuleBundler

/-- A scope is another one or lies in it. -/
def Within (scopes : Array Scope) : ScopeId → ScopeId → Prop :=
  Relation.ReflTransGen fun inner outer => (scopes[inner]?).bind Scope.parent = some outer

/-- A scope lies in another one. -/
def StrictlyWithin (scopes : Array Scope) : ScopeId → ScopeId → Prop :=
  Relation.TransGen fun inner outer => (scopes[inner]?).bind Scope.parent = some outer

/-- Every scope lies in one of a module that lies in no other. -/
def RootedScopes (scopes : Array Scope) : Prop :=
  ∀ id < scopes.size, ∃ root, Within scopes id root ∧ scopes[root]? = some ⟨none, .module⟩

/-- A scope and those around it, up to one that lies in no other. -/
inductive WayOut (scopes : Array Scope) : ScopeId → List ScopeId → Prop where
  | outermost {id : ScopeId} (noParent : (scopes[id]?).bind Scope.parent = none) :
      WayOut scopes id [id]
  | inside {id parent : ScopeId} {way : List ScopeId}
      (isParent : (scopes[id]?).bind Scope.parent = some parent) (rest : WayOut scopes parent way) :
      WayOut scopes id (id :: way)

variable {scopes : Array Scope} {id inner outer mid target : ScopeId}
  {way way' before after : List ScopeId}

/-! ## Ways -/

theorem WayOut.unique (h : WayOut scopes id way) (h' : WayOut scopes id way') : way = way' := by
  induction h generalizing way' with
  | outermost noParent =>
    cases h' with
    | outermost => rfl
    | inside isParent => exact absurd (noParent.symm.trans isParent) (by simp)
  | inside isParent rest ih =>
    cases h' with
    | outermost noParent => exact absurd (noParent.symm.trans isParent) (by simp)
    | inside isParent' rest' =>
      cases isParent.symm.trans isParent'
      rw [ih rest']

theorem RootedScopes.exists_wayOut (h : RootedScopes scopes) (id : ScopeId) :
    ∃ way, WayOut scopes id way := by
  by_cases hid : id < scopes.size
  · obtain ⟨root, hwithin, hroot⟩ := h id hid
    induction hwithin using Relation.ReflTransGen.head_induction_on with
    | refl =>
      exact ⟨[root], .outermost (by rw [hroot]; rfl)⟩
    | head isParent rest ih =>
      obtain ⟨way, hway⟩ := ih (by
        rcases rest.cases_head with rfl | ⟨next, hnext, -⟩
        · exact (Array.getElem?_eq_some_iff.mp hroot).1
        · obtain ⟨scope, hscope, -⟩ := Option.bind_eq_some_iff.mp hnext
          exact (Array.getElem?_eq_some_iff.mp hscope).1)
      exact ⟨_, .inside isParent hway⟩
  · refine ⟨[id], .outermost ?_⟩
    rw [Array.getElem?_eq_none (Nat.le_of_not_lt hid)]
    rfl

/-- The way out of a scope further out is the shorter one. -/
theorem WayOut.outward (h : WayOut scopes inner way) (hwithin : Within scopes inner outer) :
    ∃ way', WayOut scopes outer way' ∧ way' <:+ way := by
  induction hwithin using Relation.ReflTransGen.head_induction_on generalizing way with
  | refl => exact ⟨way, h, List.suffix_refl _⟩
  | head isParent rest ih =>
    cases h with
    | outermost noParent => exact absurd (noParent.symm.trans isParent) (by simp)
    | inside isParent' hrest =>
      cases isParent.symm.trans isParent'
      obtain ⟨way', hway', hsuffix⟩ := ih hrest
      exact ⟨way', hway', hsuffix.trans (List.suffix_cons _ _)⟩

theorem WayOut.length_lt (h : WayOut scopes inner way) (h' : WayOut scopes outer way')
    (hwithin : StrictlyWithin scopes inner outer) : way'.length < way.length := by
  obtain ⟨parent, isParent, hrest⟩ := Relation.TransGen.head'_iff.mp hwithin
  cases h with
  | outermost noParent => exact absurd (noParent.symm.trans isParent) (by simp)
  | inside isParent' rest =>
    cases isParent.symm.trans isParent'
    obtain ⟨way'', hway'', hsuffix⟩ := rest.outward hrest
    rw [h'.unique hway'', List.length_cons]
    exact Nat.lt_succ_of_le hsuffix.length_le

/-- No scope lies in itself. -/
theorem WayOut.not_strictlyWithin (h : WayOut scopes id way) : ¬ StrictlyWithin scopes id id :=
  fun hwithin => Nat.lt_irrefl _ (h.length_lt h hwithin)

/-- On the way are the scopes that the first lies in. -/
theorem WayOut.mem_iff (h : WayOut scopes id way) : outer ∈ way ↔ Within scopes id outer := by
  induction h with
  | outermost noParent =>
    rw [List.mem_singleton]
    constructor
    · rintro rfl
      exact .refl
    · intro hwithin
      rcases hwithin.cases_head with rfl | ⟨parent, isParent, -⟩
      · rfl
      · exact absurd (noParent.symm.trans isParent) (by simp)
  | inside isParent rest ih =>
    rw [List.mem_cons, ih]
    constructor
    · rintro (rfl | hwithin)
      · exact .refl
      · exact .head isParent hwithin
    · intro hwithin
      rcases hwithin.cases_head with rfl | ⟨parent, isParent', hrest⟩
      · exact .inl rfl
      · cases isParent.symm.trans isParent'
        exact .inr hrest

theorem WayOut.nodup (h : WayOut scopes id way) : way.Nodup := by
  induction h with
  | outermost => exact List.nodup_singleton _
  | inside isParent rest ih =>
    refine List.nodup_cons.mpr ⟨fun hmem => ?_, ih⟩
    exact (WayOut.inside isParent rest).not_strictlyWithin (.head' isParent (rest.mem_iff.mp hmem))

/-- What comes before a scope on a way are the scopes that lie in it. -/
theorem WayOut.mem_before_iff (h : WayOut scopes id way) (hway : way = before ++ target :: after) :
    mid ∈ before ↔ Within scopes id mid ∧ StrictlyWithin scopes mid target := by
  have hnone : ∀ {id way}, WayOut scopes id way →
      ¬ (Within scopes id mid ∧ StrictlyWithin scopes mid id) := fun hout ⟨hwithin, hstrictly⟩ =>
    hout.not_strictlyWithin (hstrictly.trans_right hwithin)
  induction h generalizing before with
  | outermost noParent =>
    cases before with
    | nil =>
      cases hway
      exact iff_of_false List.not_mem_nil (hnone (.outermost noParent))
    | cons first before => simp at hway
  | @inside id parent way isParent rest ih =>
    cases before with
    | nil =>
      cases hway
      exact iff_of_false List.not_mem_nil (hnone (.inside isParent rest))
    | cons first before =>
      obtain ⟨rfl, hrest⟩ := List.cons.inj hway
      have hmem : target ∈ way := by
        rw [hrest]
        exact List.mem_append_right _ List.mem_cons_self
      have htarget := rest.mem_iff.mp hmem
      rw [List.mem_cons]
      constructor
      · rintro (rfl | hmid)
        · exact ⟨.refl, .head' isParent htarget⟩
        · exact ((ih hrest).mp hmid).imp_left (.head isParent)
      · rintro ⟨hwithin, hstrictly⟩
        rcases hwithin.cases_head with rfl | ⟨parent', isParent', hwithin⟩
        · exact .inl rfl
        · cases isParent.symm.trans isParent'
          exact .inr ((ih hrest).mpr ⟨hwithin, hstrictly⟩)

theorem WayOut.mem_takeWhile_iff (h : WayOut scopes id way) (htarget : Within scopes id target) :
    mid ∈ way.takeWhile (· ≠ target) ↔ Within scopes id mid ∧ StrictlyWithin scopes mid target := by
  obtain ⟨before, after, rfl⟩ := List.append_of_mem (h.mem_iff.mpr htarget)
  have hnew : ∀ other ∈ before, decide (other ≠ target) = true := fun other hother =>
    decide_eq_true ((List.nodup_append.mp h.nodup).2.2 other hother target List.mem_cons_self)
  rw [List.takeWhile_append_of_pos hnew, List.takeWhile_cons_of_neg (by simp), List.append_nil]
  exact h.mem_before_iff rfl

/-- What is found first on a way lies in all else that could be. -/
theorem WayOut.find?_eq_some_iff (h : WayOut scopes id way) {p : ScopeId → Bool} :
    way.find? p = some target ↔ Within scopes id target ∧ p target = true ∧
      ∀ mid, Within scopes id mid → StrictlyWithin scopes mid target → p mid = false := by
  rw [List.find?_eq_some_iff_append]
  constructor
  · rintro ⟨htarget, before, after, rfl, hbefore⟩
    refine ⟨h.mem_iff.mp (by simp), htarget, fun mid hwithin hstrictly => ?_⟩
    simpa using hbefore mid ((h.mem_before_iff rfl).mpr ⟨hwithin, hstrictly⟩)
  · rintro ⟨hwithin, htarget, hbefore⟩
    obtain ⟨before, after, rfl⟩ := List.append_of_mem (h.mem_iff.mpr hwithin)
    refine ⟨htarget, before, after, rfl, fun mid hmid => ?_⟩
    obtain ⟨hmid, hstrictly⟩ := (h.mem_before_iff rfl).mp hmid
    rw [hbefore mid hmid hstrictly]
    rfl

/-! ## Enclosing scopes -/

/-- All but the last scope of a way have a parent. -/
theorem WayOut.lt_of_mem_dropLast (h : WayOut scopes id way) :
    ∀ mid ∈ way.dropLast, mid < scopes.size := by
  induction h with
  | outermost => exact fun _ hmid => nomatch hmid
  | @inside id parent way isParent rest ih =>
    have hne : way ≠ [] := by cases rest <;> simp
    rw [List.dropLast_cons_of_ne_nil hne]
    obtain ⟨scope, hscope, -⟩ := Option.bind_eq_some_iff.mp isParent
    exact List.forall_mem_cons.mpr ⟨(Array.getElem?_eq_some_iff.mp hscope).1, ih⟩

theorem WayOut.enclosingWithin_eq (h : WayOut scopes id way) {count : Nat}
    (hcount : way.length ≤ count + 1) : enclosingWithin scopes count id = way := by
  induction h generalizing count with
  | outermost noParent =>
    cases count with
    | zero => rfl
    | succ count => rw [enclosingWithin, noParent]
  | inside isParent rest ih =>
    rw [List.length_cons] at hcount
    cases count with
    | zero =>
      have := Nat.le_of_succ_le_succ hcount
      cases rest <;> simp at this
    | succ count =>
      rw [enclosingWithin, isParent]
      exact congrArg (_ :: ·) (ih (Nat.le_of_succ_le_succ hcount))

/-- The scopes of a way are those that enclose its first one. -/
theorem WayOut.enclosing_eq (h : WayOut scopes id way) : enclosing scopes id = way := by
  refine h.enclosingWithin_eq ?_
  have hsub : way.dropLast ⊆ List.range scopes.size := fun mid hmid =>
    List.mem_range.mpr (h.lt_of_mem_dropLast mid hmid)
  have hle := (List.subperm_of_subset (h.nodup.sublist (List.dropLast_sublist _)) hsub).length_le
  rw [List.length_dropLast, List.length_range] at hle
  omega

/-! ## The scopes of declarations -/

/-- A function or a module keeps each `var` in it. -/
def StopsVars (scopes : Array Scope) (id : ScopeId) : Prop :=
  ∃ scope, scopes[id]? = some scope ∧ (scope.type = .function ∨ scope.type = .module)

/-- A declaration belongs to its own scope or, if it is a `var`, to the closest function or module
around that. -/
inductive BelongsTo (scopes : Array Scope) (d : Declaration) : ScopeId → Prop where
  | own (stays : d.kind ≠ .var) : BelongsTo scopes d d.scope
  | hoisted {target : ScopeId} (isVar : d.kind = .var) (within : Within scopes d.scope target)
      (stops : StopsVars scopes target)
      (closest : ∀ mid, Within scopes d.scope mid → StrictlyWithin scopes mid target →
        ¬ StopsVars scopes mid) : BelongsTo scopes d target

theorem BelongsTo.within {d : Declaration} (h : BelongsTo scopes d target) :
    Within scopes d.scope target := by
  rcases h with - | ⟨-, hwithin, -, -⟩
  · exact .refl
  · exact hwithin

/-- No scope that a declaration passes keeps a `var`. -/
theorem BelongsTo.not_stopsVars {d : Declaration} (h : BelongsTo scopes d target)
    (hvar : d.kind = .var) (hwithin : Within scopes d.scope mid)
    (hpassed : StrictlyWithin scopes mid target) : ¬ StopsVars scopes mid := by
  rcases h with hstays | ⟨-, -, -, hclosest⟩
  · exact absurd hvar hstays
  · exact hclosest mid hwithin hpassed

/-- Two scopes around one lie in each other. -/
theorem Within.within_or (h : Within scopes id inner) (h' : Within scopes id outer) :
    Within scopes inner outer ∨ Within scopes outer inner :=
  Relation.ReflTransGen.total_of_right_unique
    (fun _ _ _ hparent hparent' => Option.some.inj (hparent.symm.trans hparent')) h h'

theorem RootedScopes.lt_of_within (h : RootedScopes scopes) (hid : id < scopes.size)
    (hwithin : Within scopes id outer) : outer < scopes.size := by
  obtain ⟨root, hroot, hscope⟩ := h id hid
  have hlt : root < scopes.size := (Array.getElem?_eq_some_iff.mp hscope).1
  rcases hwithin.within_or hroot with hin | hin
  · rcases hin.cases_head with rfl | ⟨parent, isParent, -⟩
    · exact hlt
    · obtain ⟨scope, hscope, -⟩ := Option.bind_eq_some_iff.mp isParent
      exact (Array.getElem?_eq_some_iff.mp hscope).1
  · rcases hin.cases_head with rfl | ⟨parent, isParent, -⟩
    · exact hlt
    · rw [hscope] at isParent
      cases isParent

/-- Whether a scope is of a type at which a `var` stops. -/
def keepsVars (scopes : Array Scope) (id : ScopeId) : Bool :=
  match scopeType scopes id with
  | .module | .function => true
  | .block | .expressionName => false

theorem keepsVars_eq_true_iff (hid : id < scopes.size) :
    keepsVars scopes id = true ↔ StopsVars scopes id := by
  unfold StopsVars keepsVars scopeType
  rw [Array.getElem?_eq_getElem hid, Option.map_some, Option.getD_some]
  cases htype : scopes[id].type <;> simp [htype]

theorem DeclarationKind.hoists_iff {kind : DeclarationKind} : kind.hoists = true ↔ kind = .var :=
  decide_eq_true_iff

theorem targetScope_of_eq_var {kind : DeclarationKind} (hkind : kind = .var) (scope : ScopeId) :
    targetScope scopes kind scope = ((enclosing scopes scope).find? (keepsVars scopes)).getD
      ((enclosing scopes scope).getLast?.getD scope) := by
  rw [hkind]
  rfl

theorem targetScope_of_ne_var {kind : DeclarationKind} (hkind : kind ≠ .var) (scope : ScopeId) :
    targetScope scopes kind scope = scope := by
  unfold targetScope
  rw [if_neg (mt DeclarationKind.hoists_iff.mp hkind)]

/-- The scope that a declaration belongs to is its target. -/
theorem belongsTo_iff (h : RootedScopes scopes) {d : Declaration} (hd : d.scope < scopes.size) :
    BelongsTo scopes d target ↔ target = targetScope scopes d.kind d.scope := by
  by_cases hkind : d.kind = .var
  · obtain ⟨way, hway⟩ := h.exists_wayOut d.scope
    obtain ⟨root, hroot, hscope⟩ := h d.scope hd
    have hkeeps : ∀ {id}, Within scopes d.scope id →
        (keepsVars scopes id = true ↔ StopsVars scopes id) := fun hwithin =>
      keepsVars_eq_true_iff (h.lt_of_within hd hwithin)
    have hiff : BelongsTo scopes d target ↔ way.find? (keepsVars scopes) = some target := by
      rw [hway.find?_eq_some_iff]
      constructor
      · rintro (stays | ⟨-, hwithin, hstop, hclosest⟩)
        · exact absurd hkind stays
        · refine ⟨hwithin, (hkeeps hwithin).mpr hstop, fun mid hmid hstrictly => ?_⟩
          exact Bool.not_eq_true _ ▸ mt (hkeeps hmid).mp (hclosest mid hmid hstrictly)
      · rintro ⟨hwithin, hstop, hclosest⟩
        refine .hoisted hkind hwithin ((hkeeps hwithin).mp hstop) ?_
        intro mid hmid hstrictly hstops
        exact absurd ((hkeeps hmid).mpr hstops) (by simp [hclosest mid hmid hstrictly])
    have hsome : (way.find? (keepsVars scopes)).isSome := by
      rw [List.find?_isSome]
      exact ⟨root, hway.mem_iff.mpr hroot, (hkeeps hroot).mpr ⟨_, hscope, .inr rfl⟩⟩
    obtain ⟨found, hfound⟩ := Option.isSome_iff_exists.mp hsome
    rw [hiff, hfound, targetScope_of_eq_var hkind, hway.enclosing_eq, hfound, Option.getD_some,
      Option.some_inj]
    exact eq_comm
  · rw [targetScope_of_ne_var hkind]
    constructor
    · rintro (stays | ⟨isVar, -, -, -⟩)
      · rfl
      · exact absurd isVar hkind
    · rintro rfl
      exact .own hkind

end ModuleBundler
