import Mathlib.Data.List.Forall2

/-!
# Outcomes of work that may fail

* `bind_eq_ok`, `map_eq_ok` : work in steps succeeds if all its steps do;
* `bind_eq_error`, `exists_of_foldlM_error` : and it fails where one of them does;
* `stateBind_eq_ok` : the same for work on a state;
* `mapM_eq_ok` : work on each entry of a list succeeds if it does on all entries;
* `exists_of_forall₂`, `getElem?_of_isPrefix` : entries of lists that such work relates or extends;
* `foldlM_invariant` : what every step of successful work keeps holds in the end;
* `Maintains` : work on a state that maintains an invariant of it, with a property of what it gives;
* `Gives` : work that does not fail, with a property of what it gives.
-/

namespace ModuleBundler

variable {ε α β σ : Type}

theorem bind_eq_ok {x : Except ε α} {f : α → Except ε β} {b : β} :
    x >>= f = .ok b ↔ ∃ a, x = .ok a ∧ f a = .ok b := by
  cases x with
  | error e =>
    constructor
    · intro h
      cases h
    · rintro ⟨a, h, -⟩
      cases h
  | ok a =>
    constructor
    · intro h
      exact ⟨a, rfl, h⟩
    · rintro ⟨a, h, h'⟩
      cases h
      exact h'

theorem bind_eq_error {x : Except ε α} {f : α → Except ε β} {e : ε} :
    x >>= f = .error e ↔ x = .error e ∨ ∃ a, x = .ok a ∧ f a = .error e := by
  cases x with
  | error e' =>
    constructor
    · intro h
      cases h
      exact .inl rfl
    · rintro (h | ⟨a, h, -⟩)
      · cases h
        rfl
      · cases h
  | ok a =>
    constructor
    · intro h
      exact .inr ⟨a, rfl, h⟩
    · rintro (h | ⟨a, h, h'⟩)
      · cases h
      · cases h
        exact h'

theorem pure_eq_ok {a b : α} : (pure a : Except ε α) = .ok b ↔ a = b := by
  change Except.ok a = .ok b ↔ a = b
  rw [Except.ok.injEq]

theorem map_eq_ok {x : Except ε α} {f : α → β} {b : β} :
    f <$> x = .ok b ↔ ∃ a, x = .ok a ∧ f a = b := by
  rw [← bind_pure_comp, bind_eq_ok]
  simp only [pure_eq_ok]

theorem stateBind_eq_ok {x : StateT σ (Except ε) α} {f : α → StateT σ (Except ε) β} {s : σ}
    {b : β × σ} : (x >>= f) s = .ok b ↔ ∃ a s', x s = .ok (a, s') ∧ f a s' = .ok b := by
  change (x s >>= fun p => f p.1 p.2) = .ok b ↔ _
  rw [bind_eq_ok, Prod.exists]

theorem liftBind_run (x : Except ε α) (f : α → StateT σ (Except ε) β) (s : σ) :
    (liftM x >>= f).run s = x.bind fun a => (f a).run s := by
  cases x with
  | error e => rfl
  | ok a => rfl

theorem mapM_eq_ok {f : α → Except ε β} {as : List α} {bs : List β} :
    as.mapM f = .ok bs ↔ List.Forall₂ (fun a b => f a = .ok b) as bs := by
  induction as generalizing bs with
  | nil =>
    rw [List.mapM_nil, pure_eq_ok, List.forall₂_nil_left_iff]
    exact eq_comm
  | cons a as ih =>
    rw [List.mapM_cons, bind_eq_ok, List.forall₂_cons_left_iff]
    constructor
    · rintro ⟨b, hb, h⟩
      obtain ⟨bs', hbs, h⟩ := bind_eq_ok.mp h
      exact ⟨b, bs', hb, ih.mp hbs, (pure_eq_ok.mp h).symm⟩
    · rintro ⟨b, bs', hb, hbs, rfl⟩
      exact ⟨b, hb, bind_eq_ok.mpr ⟨bs', ih.mpr hbs, rfl⟩⟩

theorem exists_of_forall₂ {related : α → β → Prop} {as : List α} {bs : List β}
    (h : List.Forall₂ related as bs) {b : β} (hb : b ∈ bs) : ∃ a ∈ as, related a b := by
  induction h with
  | nil => cases hb
  | cons hab hrest ih =>
    rcases List.mem_cons.mp hb with rfl | hb
    · exact ⟨_, List.mem_cons_self, hab⟩
    · obtain ⟨a, ha, hrelated⟩ := ih hb
      exact ⟨a, List.mem_cons_of_mem _ ha, hrelated⟩

/-- What is in a list stays where it is when more follows. -/
theorem getElem?_of_isPrefix {as more : List α} (h : as <+: more) {i : Nat} {a : α}
    (ha : as[i]? = some a) : more[i]? = some a := by
  obtain ⟨hlt, rfl⟩ := List.getElem?_eq_some_iff.mp ha
  exact List.prefix_iff_getElem?.mp h i hlt

theorem foldlM_invariant {f : β → α → Except ε β} {invariant : β → Prop}
    (h : ∀ b a b', invariant b → f b a = .ok b' → invariant b') {as : List α} {b b' : β}
    (hb : invariant b) (hfold : as.foldlM f b = .ok b') : invariant b' := by
  induction as generalizing b with
  | nil =>
    cases hfold
    exact hb
  | cons a as ih =>
    rw [List.foldlM_cons] at hfold
    obtain ⟨mid, hmid, hrest⟩ := bind_eq_ok.mp hfold
    exact ih (h b a mid hb hmid) hrest

/-- Work on the entries of a list that fails does so at one of them. -/
theorem exists_of_foldlM_error {f : β → α → Except ε β} {as : List α} {b : β} {e : ε}
    (h : as.foldlM f b = .error e) : ∃ a ∈ as, ∃ mid, f mid a = .error e := by
  induction as generalizing b with
  | nil => cases h
  | cons a as ih =>
    rw [List.foldlM_cons] at h
    rcases bind_eq_error.mp h with h | ⟨mid, -, h⟩
    · exact ⟨a, List.mem_cons_self, b, h⟩
    · obtain ⟨a', ha', hfailed⟩ := ih h
      exact ⟨a', List.mem_cons_of_mem _ ha', hfailed⟩

/-! ## Work on a state -/

/-- If the work succeeds, it maintains the invariant of the state, and what it gives has the property. -/
def Maintains (invariant : σ → Prop) (work : StateT σ (Except ε) α) (property : α → Prop) : Prop :=
  ∀ ⦃s a s'⦄, invariant s → work s = .ok (a, s') → invariant s' ∧ property a

section Maintains

variable {invariant : σ → Prop}

theorem Maintains.bind {work : StateT σ (Except ε) α} {next : α → StateT σ (Except ε) β}
    {first : α → Prop} {property : β → Prop} (hwork : Maintains invariant work first)
    (hnext : ∀ a, first a → Maintains invariant (next a) property) :
    Maintains invariant (work >>= next) property := by
  intro s b s'' hs h
  obtain ⟨a, s', hfirst, h⟩ := stateBind_eq_ok.mp h
  obtain ⟨hs', ha⟩ := hwork hs hfirst
  exact hnext a ha hs' h

theorem Maintains.mono {work : StateT σ (Except ε) α} {first property : α → Prop}
    (hwork : Maintains invariant work first) (h : ∀ a, first a → property a) :
    Maintains invariant work property :=
  fun _ _ _ hs heq => ⟨(hwork hs heq).1, h _ (hwork hs heq).2⟩

theorem maintains_pure {a : α} {property : α → Prop} (h : property a) :
    Maintains invariant (pure a : StateT σ (Except ε) α) property := by
  intro s a' s' hs heq
  cases heq
  exact ⟨hs, h⟩

theorem maintains_liftM {work : Except ε α} {property : α → Prop}
    (h : ∀ a, work = .ok a → property a) :
    Maintains invariant (liftM work : StateT σ (Except ε) α) property := by
  intro s a s' hs heq
  cases work with
  | error e => cases heq
  | ok a =>
    cases heq
    exact ⟨hs, h a rfl⟩

theorem maintains_liftBind {work : Except ε α} {next : α → StateT σ (Except ε) β} {property : β → Prop}
    (h : ∀ a, work = .ok a → Maintains invariant (next a) property) :
    Maintains invariant (liftM work >>= next) property :=
  (maintains_liftM fun _ ha => ha).bind h

theorem maintains_mapM {work : α → StateT σ (Except ε) β} {property : α → β → Prop} {as : List α}
    (h : ∀ a ∈ as, Maintains invariant (work a) (property a)) :
    Maintains invariant (as.mapM work) (List.Forall₂ property as) := by
  induction as with
  | nil => exact maintains_pure .nil
  | cons a as ih =>
    rw [List.mapM_cons]
    obtain ⟨hfirst, hrest⟩ := List.forall_mem_cons.mp h
    exact hfirst.bind fun b hb => (ih hrest).bind fun bs hbs => maintains_pure (.cons hb hbs)

theorem maintains_mapM_all {work : α → StateT σ (Except ε) β} {property : β → Prop} {as : List α}
    (h : ∀ a ∈ as, Maintains invariant (work a) property) :
    Maintains invariant (as.mapM work) fun bs => ∀ b ∈ bs, property b := by
  refine (maintains_mapM h).mono fun bs hbs b hb => ?_
  obtain ⟨_, -, hproperty⟩ := exists_of_forall₂ hbs hb
  exact hproperty

end Maintains

/-! ## Work that does not fail -/

/-- The work succeeds, and what it gives has the property. -/
def Gives (x : Except ε α) (property : α → Prop) : Prop := ∃ a, x = .ok a ∧ property a

theorem gives_ok {a : α} {property : α → Prop} (h : property a) :
    Gives (.ok a : Except ε α) property := ⟨a, rfl, h⟩

theorem Gives.bind {x : Except ε α} {f : α → Except ε β} {first : α → Prop} {property : β → Prop}
    (hx : Gives x first) (hf : ∀ a, first a → Gives (f a) property) :
    Gives (x >>= f) property := by
  obtain ⟨a, rfl, ha⟩ := hx
  exact hf a ha

end ModuleBundler
