import ModuleBundler.Proofs.OutputPlaces

/-!
# Lines by their ends

* `mem_lineBreaks_iff` : lines begin right after the characters that end one;
* `LineIndex.line_eq_countP` : the line of an offset is the number of lines that begin after the
  first one, at or before the offset;
* `LineIndex.line_lt_iff` : of two places the later one is on a later line exactly if a line ends
  between them.
-/

namespace ModuleBundler

open Cursor (Leads)

/-! ## Where lines begin -/

/-- Past its first character a text ends the same lines. -/
theorem exists_lineEnd_cons (offset : Nat) (c : Char) (rest : List Char) (start : Cursor) :
    (∃ before d, rest = before ++ d :: start.rest ∧
      start.offset = offset + c.utf8Size + byteLength before + d.utf8Size ∧
      isLineTerminator d = true ∧ ¬ (d = '\r' ∧ start.rest.head? = some '\n')) ↔
    ∃ before d, before ≠ [] ∧ c :: rest = before ++ d :: start.rest ∧
      start.offset = offset + byteLength before + d.utf8Size ∧
      isLineTerminator d = true ∧ ¬ (d = '\r' ∧ start.rest.head? = some '\n') := by
  constructor
  · rintro ⟨before, d, rfl, hoffset, hd⟩
    refine ⟨c :: before, d, by simp, rfl, ?_, hd⟩
    rw [byteLength_cons]
    omega
  · rintro ⟨before, d, hne, heq, hoffset, hd⟩
    obtain ⟨first, before, rfl⟩ := List.exists_cons_of_ne_nil hne
    rw [List.cons_append, List.cons.injEq] at heq
    obtain ⟨rfl, rfl⟩ := heq
    rw [byteLength_cons] at hoffset
    exact ⟨before, d, rfl, by omega, hd⟩

theorem Cursor.eq_mk {start : Cursor} {offset : Nat} {rest : List Char} (hoffset : start.offset = offset)
    (hrest : rest = start.rest) : start = ⟨offset, rest⟩ := by
  subst hoffset hrest
  rfl

/-- A line begins right after each character that ends one. A carriage return before a line feed
ends none of its own. -/
theorem mem_lineBreaks_iff {offset : Nat} {cs : List Char} {start : Cursor} :
    start ∈ lineBreaks offset cs ↔ ∃ before c, cs = before ++ c :: start.rest ∧
      start.offset = offset + byteLength before + c.utf8Size ∧ isLineTerminator c = true ∧
      ¬ (c = '\r' ∧ start.rest.head? = some '\n') := by
  fun_induction lineBreaks offset cs with
  | case1 => simp
  | case2 offset rest ih =>
    have hfeed : '\n'.utf8Size = 1 ∧ '\r'.utf8Size = 1 := by decide
    refine List.mem_cons.trans ((or_congr_right ih).trans ?_)
    constructor
    · rintro (rfl | ⟨before, c, rfl, hoffset, hc⟩)
      · exact ⟨['\r'], '\n', rfl, rfl, rfl, by simp⟩
      · refine ⟨'\r' :: '\n' :: before, c, rfl, ?_, hc⟩
        rw [byteLength_cons, byteLength_cons]
        omega
    · rintro ⟨before, c, heq, hoffset, hc⟩
      rcases before with _ | ⟨first, _ | ⟨second, before⟩⟩
      · obtain ⟨rfl, hrest⟩ := List.cons.inj heq
        exact absurd ⟨rfl, by rw [← hrest]; rfl⟩ hc.2
      · simp only [List.cons_append, List.nil_append, List.cons.injEq] at heq
        obtain ⟨rfl, rfl, hrest⟩ := heq
        exact .inl (Cursor.eq_mk hoffset hrest)
      · simp only [List.cons_append, List.cons.injEq] at heq
        obtain ⟨rfl, rfl, hrest⟩ := heq
        rw [byteLength_cons, byteLength_cons] at hoffset
        exact .inr ⟨before, c, hrest, by omega, hc⟩
  | case3 offset c rest hpair hterminator ih =>
    refine List.mem_cons.trans ((or_congr_right (ih.trans (exists_lineEnd_cons offset c rest start))).trans ?_)
    constructor
    · rintro (rfl | ⟨before, d, -, h⟩)
      · refine ⟨[], c, rfl, rfl, hterminator, ?_⟩
        rintro ⟨rfl, hfeed⟩
        obtain ⟨others, rfl⟩ := List.head?_eq_some_iff.mp hfeed
        exact hpair others rfl rfl
      · exact ⟨before, d, h⟩
    · rintro ⟨before, d, heq, hoffset, hd⟩
      by_cases hbefore : before = []
      · subst hbefore
        obtain ⟨rfl, hrest⟩ := List.cons.inj heq
        exact .inl (Cursor.eq_mk hoffset hrest)
      · exact .inr ⟨before, d, hbefore, heq, hoffset, hd⟩
  | case4 offset c rest hpair hplain ih =>
    refine (ih.trans (exists_lineEnd_cons offset c rest start)).trans ?_
    constructor
    · rintro ⟨before, d, -, h⟩
      exact ⟨before, d, h⟩
    · rintro ⟨before, d, heq, hoffset, hd⟩
      refine ⟨before, d, ?_, heq, hoffset, hd⟩
      rintro rfl
      obtain ⟨rfl, -⟩ := List.cons.inj heq
      exact hplain hd.1

/-- Lines begin in order. -/
theorem sorted_lineBreaks (offset : Nat) (cs : List Char) :
    (lineBreaks offset cs).Pairwise fun a b => a.offset < b.offset := by
  fun_induction lineBreaks offset cs with
  | case1 => exact .nil
  | case2 offset rest ih => exact List.pairwise_cons.mpr ⟨fun _ h => lt_of_mem_lineBreaks h, ih⟩
  | case3 offset c rest _ _ ih =>
    exact List.pairwise_cons.mpr ⟨fun _ h => lt_of_mem_lineBreaks h, ih⟩
  | case4 offset c rest _ _ ih => exact ih

/-! ## Lines as numbers -/

/-- Of two conditions that follow from each other the weaker one holds of more members of a list
exactly if it holds of one that the other does not hold of. -/
theorem countP_lt_countP_iff {α : Type} {l : List α} {p q : α → Bool}
    (h : ∀ a, p a = true → q a = true) :
    l.countP p < l.countP q ↔ ∃ a ∈ l, q a = true ∧ p a = false := by
  induction l with
  | nil => simp
  | cons a l ih =>
    have hle : l.countP p ≤ l.countP q := List.countP_mono_left fun a _ => h a
    cases hq : q a with
    | false =>
      have hp : p a = false := Bool.eq_false_iff.mpr fun hp => by
        rw [h a hp] at hq
        cases hq
      simpa [hp, hq] using ih
    | true =>
      cases hp : p a with
      | false => simpa [hp, hq] using Nat.lt_succ_of_le hle
      | true => simpa [hp, hq] using ih

namespace LineIndex

theorem lineAt_eq_countP {offset line : Nat} {start : Cursor} {others : List Cursor}
    (h : others.Pairwise fun a b => a.offset < b.offset) :
    (lineAt offset line start others).1 =
      line + others.countP fun other => other.offset ≤ offset := by
  induction others generalizing line start with
  | nil => rfl
  | cons next rest ih =>
    obtain ⟨hnext, hrest⟩ := List.pairwise_cons.mp h
    rw [lineAt]
    by_cases hle : next.offset ≤ offset
    · rw [if_pos hle, ih hrest, List.countP_cons_of_pos (by simpa using hle)]
      omega
    · have hnone : rest.countP (fun other => other.offset ≤ offset) = 0 := by
        rw [List.countP_eq_zero]
        intro other hother
        have := hnext other hother
        simp only [decide_eq_true_eq]
        omega
      rw [if_neg hle, List.countP_cons_of_neg (by simpa using hle), hnone, Nat.add_zero]

/-- The line of an offset is the number of lines that begin after the first one, at or before the
offset. -/
theorem line_eq_countP (text : String) (offset : Nat) :
    ((ofString text).place offset).line =
      (lineBreaks 0 text.toList).countP fun start => start.offset ≤ offset :=
  (lineAt_eq_countP (sorted_lineBreaks 0 text.toList)).trans (Nat.zero_add _)

/-- A line that begins after one place, but not after a later one, comes after a line end between
them. -/
theorem exists_lineEnd_between {text : String} {before between after : List Char}
    (htext : text.toList = before ++ (between ++ after)) {start : Cursor}
    (hstart : start ∈ lineBreaks 0 text.toList)
    (hle : start.offset ≤ byteLength before + byteLength between)
    (hlt : byteLength before < start.offset) : ∃ c ∈ between, isLineTerminator c = true := by
  obtain ⟨front, c, heq, hoffset, hc, -⟩ := mem_lineBreaks_iff.mp hstart
  have hearlier : Leads ⟨0, text.toList⟩ ⟨byteLength before, between ++ after⟩ :=
    ⟨before, htext, (Nat.zero_add _).symm⟩
  have hlater : Leads ⟨0, text.toList⟩ ⟨byteLength before + byteLength between, after⟩ := by
    refine ⟨before ++ between, by simpa using htext, ?_⟩
    simp [byteLength_append]
  have hfront : Leads ⟨0, text.toList⟩ ⟨byteLength front, c :: start.rest⟩ :=
    ⟨front, heq, (Nat.zero_add _).symm⟩
  have hstart : Leads ⟨0, text.toList⟩ start := by
    refine ⟨front ++ [c], by simpa using heq, ?_⟩
    simp [hoffset, byteLength_append, byteLength_cons, byteLength_nil]
  have hpos := c.utf8Size_pos
  by_cases hbefore : byteLength before ≤ byteLength front
  · obtain ⟨own, hown, -⟩ := hearlier.total hfront hbefore
    obtain ⟨more, hmore, -⟩ := hstart.total hlater hle
    dsimp only at hown hmore
    have hbetween : between = own ++ c :: more := by
      refine List.append_cancel_right (hown.trans ?_)
      rw [hmore]
      simp
    exact ⟨c, by simp [hbetween], hc⟩
  · -- The character that ends the line would stand before the earlier place.
    obtain ⟨own, hown, hplace⟩ := hfront.total hearlier (by dsimp only; omega)
    dsimp only at hown hplace
    cases own with
    | nil =>
      rw [byteLength_nil] at hplace
      omega
    | cons d own =>
      obtain ⟨rfl, -⟩ := List.cons.inj hown
      rw [byteLength_cons] at hplace
      omega

/-- A character that ends a line between two places begins one that is after the first and not after
the second. -/
theorem exists_lineBreak_between {text : String} {before between after : List Char}
    (htext : text.toList = before ++ (between ++ after))
    (hafter : ¬ (between.getLast? = some '\r' ∧ after.head? = some '\n')) {c : Char}
    (hc : c ∈ between) (hterminator : isLineTerminator c = true) :
    ∃ start ∈ lineBreaks 0 text.toList, start.offset ≤ byteLength before + byteLength between ∧
      byteLength before < start.offset := by
  obtain ⟨own, more, rfl⟩ := List.append_of_mem hc
  have hpos := c.utf8Size_pos
  by_cases hpair : c = '\r' ∧ (more ++ after).head? = some '\n'
  · -- The line feed ends the line, and it stands between the places as well.
    obtain ⟨rfl, hfeed⟩ := hpair
    cases more with
    | nil => exact absurd ⟨by simp, hfeed⟩ hafter
    | cons d more =>
      obtain rfl : d = '\n' := Option.some.inj hfeed
      refine ⟨⟨byteLength (before ++ (own ++ ['\r', '\n'])), more ++ after⟩,
        mem_lineBreaks_iff.mpr ⟨before ++ (own ++ ['\r']), '\n', by simp [htext], ?_, rfl,
          by simp⟩, ?_, ?_⟩ <;>
        simp only [byteLength_append, byteLength_cons, byteLength_nil] <;> omega
  · refine ⟨⟨byteLength (before ++ (own ++ [c])), more ++ after⟩,
      mem_lineBreaks_iff.mpr ⟨before ++ own, c, by simp [htext], ?_, hterminator, hpair⟩,
      ?_, ?_⟩ <;>
      simp only [byteLength_append, byteLength_cons, byteLength_nil] <;> omega

/-- Of two places the later one is on a later line exactly if a line ends between them. A line end
of two characters is taken for one between the places if the second character is. -/
theorem line_lt_iff {text : String} {before between after : List Char}
    (htext : text.toList = before ++ (between ++ after))
    (hafter : ¬ (between.getLast? = some '\r' ∧ after.head? = some '\n')) :
    ((ofString text).place (byteLength before)).line <
        ((ofString text).place (byteLength before + byteLength between)).line ↔
      ∃ c ∈ between, isLineTerminator c = true := by
  rw [line_eq_countP, line_eq_countP, countP_lt_countP_iff (fun start h => by
    simp only [decide_eq_true_eq] at h ⊢
    omega)]
  simp only [decide_eq_true_eq, decide_eq_false_iff_not, Nat.not_le]
  constructor
  · rintro ⟨start, hstart, hle, hlt⟩
    exact exists_lineEnd_between htext hstart hle hlt
  · rintro ⟨c, hc, hterminator⟩
    exact exists_lineBreak_between htext hafter hc hterminator

end LineIndex
end ModuleBundler
