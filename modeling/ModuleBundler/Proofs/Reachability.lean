import Mathlib.Data.List.Perm.Subperm
import ModuleBundler.Graph.Reachability

/-!
# Searches find the least closed set

* `ClosedUnder next starts S` : `S` holds of the starts and of all that steps from `S` lead to;
* `Searches next pending seen found` : some search that takes what is pending in an order of its own
  ends with `found`;
* `Searches.closed`, `Searches.subset` : it finds the least closed set, `Searches.mem_iff` : so all
  find the same;
* `SearchRoom` : there are rounds left for all that a search may come to within a list;
* `explore_searches`, `reachable_searches` : the search that runs is one of them, if its count is
  that of a list which steps do not leave.
-/

namespace ModuleBundler

section
variable {α : Type}

/-- A set that has all starts and that no step leaves. -/
structure ClosedUnder (next : α → List α) (starts : List α) (S : α → Prop) : Prop where
  start : ∀ a ∈ starts, S a
  step : ∀ a, S a → ∀ b ∈ next a, S b

/-! ## Searches in any order -/

/-- Some search that takes what is `pending` in an order of its own, where `seen` was seen so far,
ends with `found`. -/
inductive Searches (next : α → List α) : List α → List α → List α → Prop where
  | done (seen : List α) : Searches next [] seen seen
  | take {pending seen found rest new : List α} {a : α} (choose : pending.Perm (a :: rest))
      (mem_new : ∀ b, b ∈ new ↔ b ∈ next a ∧ b ∉ seen) (nodup_new : new.Nodup)
      (goOn : Searches next (new ++ rest) (new ++ seen) found) : Searches next pending seen found

/-- What a search keeps: what is pending was seen, and what was seen and is no longer pending has
been followed. -/
structure SearchState (next : α → List α) (pending seen : List α) : Prop where
  pending_seen : ∀ a ∈ pending, a ∈ seen
  followed : ∀ a ∈ seen, a ∈ pending ∨ ∀ b ∈ next a, b ∈ seen

theorem SearchState.start (next : α → List α) (starts : List α) :
    SearchState next starts starts :=
  ⟨fun _ h => h, fun _ h => Or.inl h⟩

/-- Following one of the pending ones keeps the state of a search. -/
theorem SearchState.take {next : α → List α} {pending seen rest new : List α} {a : α}
    (h : SearchState next pending seen) (choose : pending.Perm (a :: rest))
    (mem_new : ∀ b, b ∈ new ↔ b ∈ next a ∧ b ∉ seen) :
    SearchState next (new ++ rest) (new ++ seen) := by
  refine ⟨fun b hb => ?_, fun b hb => ?_⟩
  · rcases List.mem_append.mp hb with hb | hb
    · exact List.mem_append_left _ hb
    · have : b ∈ pending := choose.mem_iff.mpr (List.mem_cons_of_mem _ hb)
      exact List.mem_append_right _ (h.pending_seen b this)
  · rcases List.mem_append.mp hb with hb | hb
    · exact Or.inl (List.mem_append_left _ hb)
    · rcases h.followed b hb with hp | hf
      · rcases List.mem_cons.mp (choose.mem_iff.mp hp) with rfl | hr
        · refine Or.inr fun c hc => ?_
          by_cases hs : c ∈ seen
          · exact List.mem_append_right _ hs
          · exact List.mem_append_left _ ((mem_new c).mpr ⟨hc, hs⟩)
        · exact Or.inl (List.mem_append_right _ hr)
      · exact Or.inr fun c hc => List.mem_append_right _ (hf c hc)

/-- Whatever the order, a search that ends has found a closed set. -/
theorem Searches.closed {next : α → List α} {pending seen found : List α}
    (h : Searches next pending seen found) (hs : SearchState next pending seen) :
    ClosedUnder next seen (· ∈ found) := by
  induction h with
  | done seen =>
    refine ⟨fun _ ha => ha, fun a ha b hb => ?_⟩
    rcases hs.followed a ha with hp | hf
    · exact absurd hp List.not_mem_nil
    · exact hf b hb
  | take choose mem_new nodup_new goOn ih =>
    have := ih (hs.take choose mem_new)
    exact ⟨fun a ha => this.start a (List.mem_append_right _ ha), this.step⟩

/-- Whatever the order, a search stays in every closed set. -/
theorem Searches.subset {next : α → List α} {pending seen found : List α} {S : α → Prop}
    (h : Searches next pending seen found) (hs : SearchState next pending seen)
    (hS : ClosedUnder next seen S) : ∀ a ∈ found, S a := by
  induction h with
  | done seen => exact hS.start
  | @take pending seen found rest new a choose mem_new nodup_new goOn ih =>
    refine ih (hs.take choose mem_new) ⟨fun b hb => ?_, hS.step⟩
    rcases List.mem_append.mp hb with hb | hb
    · have ha : a ∈ pending := choose.mem_iff.mpr List.mem_cons_self
      exact hS.step a (hS.start a (hs.pending_seen a ha)) b ((mem_new b).mp hb).1
    · exact hS.start b hb

/-- All searches from the same starts find the same, whatever their orders. -/
theorem Searches.mem_iff {next : α → List α} {starts found found' : List α}
    (h : Searches next starts starts found) (h' : Searches next starts starts found') (a : α) :
    a ∈ found ↔ a ∈ found' :=
  ⟨h.subset (.start next starts) (h'.closed (.start next starts)) a,
    h'.subset (.start next starts) (h.closed (.start next starts)) a⟩

/-! ## Rounds of a search -/

/-- A search that has seen only what is in a list, nothing twice, has rounds left for the rest of
the list and for all that is pending. -/
structure SearchRoom (next : α → List α) (all : List α) (count : Nat) (pending seen : List α) :
    Prop where
  state : SearchState next pending seen
  within : ∀ a ∈ seen, a ∈ all
  nodup : seen.Nodup
  room : all.length + pending.length ≤ count + seen.length

/-- Without rounds left nothing is pending. -/
theorem SearchRoom.eq_nil {next : α → List α} {all pending seen : List α}
    (h : SearchRoom next all 0 pending seen) : pending = [] := by
  have hle : seen.length ≤ all.length := (List.subperm_of_subset h.nodup h.within).length_le
  have hroom := h.room
  exact List.length_eq_zero_iff.mp (by omega)

/-- There is room for one round after another in a list that steps do not leave. -/
theorem SearchRoom.take {next : α → List α} {all pending seen new : List α} {count : Nat} {a : α}
    (h : SearchRoom next all (count + 1) (a :: pending) seen)
    (hall : ∀ a ∈ all, ∀ b ∈ next a, b ∈ all)
    (mem_new : ∀ b, b ∈ new ↔ b ∈ next a ∧ b ∉ seen) (nodup_new : new.Nodup) :
    SearchRoom next all count (new ++ pending) (new ++ seen) where
  state := h.state.take (.refl _) mem_new
  within b hb := by
    rcases List.mem_append.mp hb with hb | hb
    · have ha := h.within a (h.state.pending_seen a List.mem_cons_self)
      exact hall a ha b ((mem_new b).mp hb).1
    · exact h.within b hb
  nodup := by
    refine List.nodup_append.mpr ⟨nodup_new, h.nodup, fun b hb c hc hbc => ?_⟩
    exact ((mem_new b).mp hb).2 (hbc ▸ hc)
  room := by
    have hroom := h.room
    simp only [List.length_append, List.length_cons] at hroom ⊢
    omega

/-! ## The search of `explore` -/

variable [DecidableEq α]

theorem nodup_eraseDups : ∀ as : List α, as.eraseDups.Nodup
  | [] => List.nodup_nil
  | a :: as => by
    rw [List.eraseDups_cons, List.nodup_cons]
    refine ⟨?_, nodup_eraseDups _⟩
    rw [List.mem_eraseDups]
    simp
termination_by as => as.length
decreasing_by
  simpa using Nat.lt_succ_of_le (List.length_filter_le _ as)

/-- What a step leads to and was not seen before. -/
def fresh (next : α → List α) (seen : List α) (a : α) : List α :=
  ((next a).filter fun b => b ∉ seen).eraseDups

theorem mem_fresh {next : α → List α} {seen : List α} {a b : α} :
    b ∈ fresh next seen a ↔ b ∈ next a ∧ b ∉ seen := by
  simp [fresh]

theorem nodup_fresh (next : α → List α) (seen : List α) (a : α) : (fresh next seen a).Nodup :=
  nodup_eraseDups _

theorem explore_succ_cons (next : α → List α) (count : Nat) (a : α) (pending seen : List α) :
    explore next (count + 1) (a :: pending) seen =
      explore next count (fresh next seen a ++ pending) (fresh next seen a ++ seen) := rfl

/-- With room for all that it may come to, `explore` follows all that it meets. -/
theorem explore_searches (next : α → List α) (all : List α)
    (hall : ∀ a ∈ all, ∀ b ∈ next a, b ∈ all) (count : Nat) (pending seen : List α)
    (room : SearchRoom next all count pending seen) :
    Searches next pending seen (explore next count pending seen) := by
  induction count generalizing pending seen with
  | zero =>
    obtain rfl := room.eq_nil
    exact .done seen
  | succ count ih =>
    cases pending with
    | nil => exact .done seen
    | cons a pending =>
      have mem_new : ∀ b, b ∈ fresh next seen a ↔ b ∈ next a ∧ b ∉ seen := fun b => mem_fresh
      have nodup_new := nodup_fresh next seen a
      rw [explore_succ_cons]
      exact .take (.refl _) mem_new nodup_new (ih _ _ (room.take hall mem_new nodup_new))

/-- A search from some starts follows all that it meets. -/
theorem reachable_searches (next : α → List α) (all starts : List α)
    (hall : ∀ a ∈ all, ∀ b ∈ next a, b ∈ all) (hstarts : ∀ a ∈ starts, a ∈ all) (count : Nat)
    (hcount : all.length ≤ count) :
    Searches next starts.eraseDups starts.eraseDups (reachable next count starts) := by
  refine explore_searches next all hall count _ _ ⟨.start next _, fun a ha => ?_,
    nodup_eraseDups starts, by omega⟩
  exact hstarts a (List.mem_eraseDups.mp ha)

theorem closedUnder_eraseDups {next : α → List α} {starts : List α} {S : α → Prop} :
    ClosedUnder next starts.eraseDups S ↔ ClosedUnder next starts S := by
  refine ⟨fun h => ⟨fun a ha => ?_, h.step⟩, fun h => ⟨fun a ha => ?_, h.step⟩⟩
  · exact h.start a (List.mem_eraseDups.mpr ha)
  · exact h.start a (List.mem_eraseDups.mp ha)

end
end ModuleBundler
