import Mathlib.Data.Set.Card
import ModuleBundler.Proofs.ByteLines
import ModuleBundler.Proofs.LineCounts

/-!
# Lines by the terminators of a text

* `IsLineEnd`, `LineEndsAt` : the line terminators, and the offsets in a text at which one ends;
* `ncard_lineEnds` : the lines of a text begin where its terminators end;
* `LineIndex.unitsUpTo_spec` : the column of an offset counts the characters that end at or before it;
* `LineIndex.isGreatest_lineStart` : the line of an offset begins after the last terminator before it;
* `LineIndex.Faithful` : what lines and columns say of the places in a text;
* `LineIndex.ofString_faithful` : the lines of every text say that.
-/

namespace ModuleBundler

open Cursor (Leads)

/-! ## Terminators -/

/-- A line terminator, by what follows it: a carriage return with a line feed after it is one together
with that. -/
inductive IsLineEnd : List Char → List Char → Prop
  | feed (after : List Char) : IsLineEnd ['\n'] after
  | carriageReturn {after : List Char} : after.head? ≠ some '\n' → IsLineEnd ['\r'] after
  | pair (after : List Char) : IsLineEnd ['\r', '\n'] after
  | lineSeparator (after : List Char) : IsLineEnd ['\u2028'] after
  | paragraphSeparator (after : List Char) : IsLineEnd ['\u2029'] after

/-- A line terminator of the text ends at the offset. -/
def LineEndsAt (text : String) (stop : Nat) : Prop :=
  ∃ before terminator after, text.toList = before ++ (terminator ++ after) ∧
    IsLineEnd terminator after ∧ stop = byteLength (before ++ terminator)

/-- A line terminator is a character that ends a line, with a carriage return before it if that
belongs to it. -/
theorem IsLineEnd.last {terminator after : List Char} (h : IsLineEnd terminator after) :
    ∃ front c, terminator = front ++ [c] ∧ isLineTerminator c = true ∧
      ¬ (c = '\r' ∧ after.head? = some '\n') := by
  cases h with
  | feed => exact ⟨[], '\n', rfl, rfl, by simp⟩
  | carriageReturn hafter => exact ⟨[], '\r', rfl, rfl, by simp [hafter]⟩
  | pair => exact ⟨['\r'], '\n', rfl, rfl, by simp⟩
  | lineSeparator => exact ⟨[], '\u2028', rfl, rfl, by simp⟩
  | paragraphSeparator => exact ⟨[], '\u2029', rfl, rfl, by simp⟩

theorem isLineEnd_singleton {c : Char} {after : List Char} (h : isLineTerminator c = true)
    (hafter : ¬ (c = '\r' ∧ after.head? = some '\n')) : IsLineEnd [c] after := by
  rcases isLineTerminator_cases h with rfl | rfl | rfl | rfl
  · exact .feed after
  · exact .carriageReturn fun hfeed => hafter ⟨rfl, hfeed⟩
  · exact .lineSeparator after
  · exact .paragraphSeparator after

/-- Lines begin where terminators end. -/
theorem lineEndsAt_iff {text : String} {stop : Nat} :
    LineEndsAt text stop ↔ stop ∈ (lineBreaks 0 text.toList).map Cursor.offset := by
  rw [List.mem_map]
  constructor
  · rintro ⟨before, terminator, after, htext, hends, rfl⟩
    obtain ⟨front, c, rfl, hc, hafter⟩ := hends.last
    refine ⟨⟨byteLength (before ++ (front ++ [c])), after⟩,
      mem_lineBreaks_iff.mpr ⟨before ++ front, c, ?_, ?_, hc, hafter⟩, rfl⟩
    · simpa using htext
    · simp only [byteLength_append, byteLength_cons, byteLength_nil]
      omega
  · rintro ⟨start, hstart, rfl⟩
    obtain ⟨before, c, htext, hoffset, hc, hafter⟩ := mem_lineBreaks_iff.mp hstart
    refine ⟨before, [c], start.rest, htext, isLineEnd_singleton hc hafter, ?_⟩
    rw [hoffset, byteLength_append, byteLength_cons, byteLength_nil, Nat.zero_add, Nat.add_zero]

/-- As many members of a list without repetitions have a property as it says of the list. -/
theorem ncard_mem_and {α : Type} {l : List α} (h : l.Nodup) (p : α → Bool) :
    {a | a ∈ l ∧ p a = true}.ncard = l.countP p := by
  classical
  have hset : {a | a ∈ l ∧ p a = true} = ((l.filter p).toFinset : Set α) := by
    ext a
    simp
  rw [hset, Set.ncard_coe_finset, List.toFinset_card_of_nodup (h.filter _),
    List.countP_eq_length_filter]

/-- The number of the terminators that end at some offsets is that of the lines that begin there. -/
theorem ncard_lineEnds (text : String) (p : Nat → Bool) :
    {stop | LineEndsAt text stop ∧ p stop = true}.ncard =
      (lineBreaks 0 text.toList).countP fun start => p start.offset := by
  have hnodup : ((lineBreaks 0 text.toList).map Cursor.offset).Nodup :=
    List.pairwise_map.mpr ((sorted_lineBreaks 0 text.toList).imp Nat.ne_of_lt)
  simp only [lineEndsAt_iff]
  rw [ncard_mem_and hnodup, List.countP_map]
  rfl

/-- Up to a member of a sorted list there are as many as its index says, and the member itself. -/
theorem countP_le_getElem {l : List Cursor} (h : l.Pairwise fun a b => a.offset < b.offset) {i : Nat}
    (hi : i < l.length) : l.countP (fun a => a.offset ≤ l[i].offset) = i + 1 := by
  induction l generalizing i with
  | nil => cases hi
  | cons a l ih =>
    obtain ⟨hfirst, hrest⟩ := List.pairwise_cons.mp h
    cases i with
    | zero =>
      have hnone : l.countP (fun b => b.offset ≤ a.offset) = 0 := by
        rw [List.countP_eq_zero]
        intro b hb
        have := hfirst b hb
        simp only [decide_eq_true_eq]
        omega
      rw [List.getElem_cons_zero, List.countP_cons_of_pos (by simp), hnone]
    | succ i =>
      have hlater := hfirst _ (List.getElem_mem (Nat.lt_of_succ_lt_succ hi))
      rw [List.getElem_cons_succ, List.countP_cons_of_pos (by simp; omega), ih hrest]

/-! ## Columns -/

/-- The code units up to an offset are those of the characters that end at or before it. -/
theorem LineIndex.unitsUpTo_spec {stop offset : Nat} (h : offset ≤ stop) (cs : List Char) :
    ∃ own after, cs = own ++ after ∧ unitsUpTo stop offset cs = utf16Length own ∧
      offset + byteLength own ≤ stop ∧
      ∀ c ∈ after.head?, stop < offset + byteLength own + c.utf8Size := by
  induction cs generalizing offset with
  | nil => exact ⟨[], [], rfl, rfl, h, fun c hc => nomatch hc⟩
  | cons c cs ih =>
    rw [unitsUpTo]
    by_cases hends : offset + c.utf8Size ≤ stop
    · obtain ⟨own, after, rfl, hunits, hle, hafter⟩ := ih hends
      rw [if_pos hends, hunits]
      refine ⟨c :: own, after, rfl, rfl, ?_, fun d hd => ?_⟩
      · rw [byteLength_cons]
        omega
      · have := hafter d hd
        rw [byteLength_cons]
        omega
    · rw [if_neg hends]
      refine ⟨[], c :: cs, rfl, rfl, h, fun d hd => ?_⟩
      obtain rfl : c = d := Option.some.inj hd
      rw [byteLength_nil]
      omega

/-- The code units of a text are as many as its length says. -/
theorem length_flatMap_utf16Units (cs : List Char) :
    (cs.flatMap utf16Units).length = utf16Length cs := by
  induction cs with
  | nil => rfl
  | cons c cs ih =>
    have hone : (utf16Units c).length = utf16Size c := by
      unfold utf16Units utf16Size
      split <;> rfl
    rw [List.flatMap_cons, List.length_append, ih, hone]
    rfl

/-! ## Places -/

/-- The last place at or before an offset is the one after which the next character ends beyond
it. -/
theorem isGreatest_place {text : String} {before after : List Char} {offset : Nat}
    (htext : text.toList = before ++ after) (hle : byteLength before ≤ offset)
    (hafter : ∀ c ∈ after.head?, offset < byteLength before + c.utf8Size) :
    IsGreatest {place | IsPlace text place ∧ place ≤ offset} (byteLength before) := by
  refine ⟨⟨isPlace_iff.mpr ⟨before, after, htext, rfl⟩, hle⟩, ?_⟩
  rintro _ ⟨hplace, hother⟩
  obtain ⟨other, rest, hrest, rfl⟩ := isPlace_iff.mp hplace
  rcases List.append_eq_append_iff.mp (htext.symm.trans hrest) with ⟨more, rfl, rfl⟩ | ⟨more, rfl, -⟩
  · cases more with
    | nil => rw [List.append_nil]
    | cons c more =>
      have := hafter c rfl
      rw [byteLength_append, byteLength_cons] at hother
      omega
  · rw [byteLength_append]
    exact Nat.le_add_right _ _

namespace LineIndex

/-- What lines and columns say of the places in a text. -/
structure Faithful (text : String) (index : LineIndex) : Prop where
  /-- There is one line more than there are terminators. -/
  lineCount : index.lineCount = {stop | LineEndsAt text stop}.ncard + 1
  /-- An offset is taken for the last place at or before it. Its line is the number of the terminators
  that end there or before, its column that of the code units from the start of the line on. -/
  place : ∀ offset, ∃ before own after, text.toList = before ++ (own ++ after) ∧
    IsGreatest {place | IsPlace text place ∧ place ≤ offset} (byteLength (before ++ own)) ∧
    (index.place offset).line =
      {stop | LineEndsAt text stop ∧ stop ≤ byteLength (before ++ own)}.ncard ∧
    byteLength before = index.lineStart (index.place offset).line ∧
    (index.place offset).column = (own.flatMap utf16Units).length
  /-- Places have their order by lines and columns. -/
  increasing : ∀ a b, IsPlace text a → IsPlace text b → a < b →
    (index.place a).Before (index.place b)
  /-- A line begins with the first offset on it. -/
  lineStart : ∀ line < index.lineCount,
    IsLeast {offset | (index.place offset).line = line} (index.lineStart line)
  /-- The lines are those that a scan over the bytes finds. -/
  scanned : index.others.map Cursor.offset = byteLineStarts 0 text.toByteArray.data.toList
  /-- No number is greater than the size of the text. -/
  bounded : ∀ offset, (index.place offset).line ≤ text.utf8ByteSize ∧
    (index.place offset).column ≤ text.utf8ByteSize

variable (text : String)

theorem lineCount_eq : (ofString text).lineCount = {stop | LineEndsAt text stop}.ncard + 1 := by
  have hcount := ncard_lineEnds text fun _ => true
  simp only [and_true, List.countP_true] at hcount
  rw [hcount]
  rfl

/-- Up to an offset as many terminators end as up to the last place at or before it. -/
theorem line_eq_ncard {offset place : Nat}
    (h : IsGreatest {place | IsPlace text place ∧ place ≤ offset} place) :
    ((ofString text).place offset).line = {stop | LineEndsAt text stop ∧ stop ≤ place}.ncard := by
  have hcount := ncard_lineEnds text fun stop => decide (stop ≤ place)
  simp only [decide_eq_true_eq] at hcount
  rw [hcount, line_eq_countP]
  refine List.countP_congr fun start hstart => ?_
  have hplace : IsPlace text start.offset := ⟨start, leads_lineBreaks hstart, rfl⟩
  simp only [decide_eq_true_eq]
  constructor
  · exact fun hle => h.2 ⟨hplace, hle⟩
  · exact fun hle => Nat.le_trans hle h.1.2

/-- Every line begins at a place of the text, also those that it does not have. -/
theorem isPlace_lineStart (line : Nat) : IsPlace text ((ofString text).lineStart line) := by
  unfold lineStart
  cases hget : ((ofString text).first :: (ofString text).others)[line]? with
  | none => exact isPlace_iff.mpr ⟨text.toList, [], (List.append_nil _).symm, utf8ByteSize_eq text⟩
  | some start => exact ⟨start, leads_start (List.mem_of_getElem? hget), rfl⟩

/-- The line of an offset begins at a place of the text, from which its column is counted. -/
theorem exists_start (offset : Nat) : ∃ start : Cursor, (Cursor.ofString text).Leads start ∧
    start.offset = (ofString text).lineStart ((ofString text).place offset).line ∧
    start.offset ≤ offset ∧
    ((ofString text).place offset).column = unitsUpTo offset start.offset start.rest := by
  obtain ⟨start, hmem, rfl, -, hstart, hle⟩ := lineStart_place text offset
  exact ⟨_, leads_start hmem, hstart.symm, hle, rfl⟩

/-- The line that is found for an offset is the last one that begins at or before it. -/
theorem le_lineAt {offset line : Nat} {start : Cursor} {others : List Cursor}
    (h : (start :: others).Pairwise fun a b => a.offset < b.offset) {other : Cursor}
    (hother : other ∈ start :: others) (hle : other.offset ≤ offset) :
    other.offset ≤ (lineAt offset line start others).2.offset := by
  induction others generalizing line start other with
  | nil =>
    obtain rfl := List.mem_singleton.mp hother
    exact Nat.le_refl _
  | cons next rest ih =>
    obtain ⟨hstart, hrest⟩ := List.pairwise_cons.mp h
    unfold lineAt
    split
    · rename_i hnext
      rcases List.mem_cons.mp hother with rfl | hother
      · have hlater := hstart next List.mem_cons_self
        exact Nat.le_trans (Nat.le_of_lt hlater) (ih hrest List.mem_cons_self hnext)
      · exact ih hrest hother hle
    · rename_i hnext
      rcases List.mem_cons.mp hother with rfl | hother
      · exact Nat.le_refl _
      · rcases List.mem_cons.mp hother with rfl | hother
        · exact absurd hle hnext
        · have hlater := (List.pairwise_cons.mp hrest).1 other hother
          omega

/-- The line of an offset begins where the last terminator ends that ends at or before the offset, or
at the start of the text. -/
theorem isGreatest_lineStart (offset : Nat) :
    IsGreatest {start | (start = 0 ∨ LineEndsAt text start) ∧ start ≤ offset}
      ((ofString text).lineStart ((ofString text).place offset).line) := by
  obtain ⟨last, hmem, rfl, -, hlast, hle⟩ := lineStart_place text offset
  rw [hlast]
  refine ⟨⟨?_, hle⟩, ?_⟩
  · rcases List.mem_cons.mp hmem with hfirst | hbreak
    · exact .inl (congrArg Cursor.offset hfirst)
    · exact .inr (lineEndsAt_iff.mpr (List.mem_map_of_mem hbreak))
  · rintro start ⟨hstart, hbefore⟩
    have hsorted : ((ofString text).first :: (ofString text).others).Pairwise
        fun a b => a.offset < b.offset :=
      List.pairwise_cons.mpr ⟨fun _ => lt_of_mem_lineBreaks, sorted_lineBreaks 0 text.toList⟩
    rcases hstart with rfl | hstart
    · exact Nat.zero_le _
    · obtain ⟨other, hother, rfl⟩ := List.mem_map.mp (lineEndsAt_iff.mp hstart)
      exact le_lineAt hsorted (List.mem_cons_of_mem _ hother) hbefore

/-- Where an offset is, by the terminators before it and the code units of its line. -/
theorem exists_place (offset : Nat) : ∃ before own after, text.toList = before ++ (own ++ after) ∧
    IsGreatest {place | IsPlace text place ∧ place ≤ offset} (byteLength (before ++ own)) ∧
    ((ofString text).place offset).line =
      {stop | LineEndsAt text stop ∧ stop ≤ byteLength (before ++ own)}.ncard ∧
    byteLength before = (ofString text).lineStart ((ofString text).place offset).line ∧
    ((ofString text).place offset).column = (own.flatMap utf16Units).length := by
  obtain ⟨⟨_, rest⟩, ⟨before, htext, hoffset⟩, hstart, hle, hcolumn⟩ := exists_start text offset
  obtain rfl := hoffset.trans (Nat.zero_add _)
  obtain ⟨own, after, rfl, hunits, hown, hafter⟩ := unitsUpTo_spec hle rest
  have hgreatest : IsGreatest {place | IsPlace text place ∧ place ≤ offset}
      (byteLength (before ++ own)) := by
    rw [← byteLength_append] at hown hafter
    exact isGreatest_place (htext.trans (List.append_assoc ..).symm) hown hafter
  refine ⟨before, own, after, htext, hgreatest, line_eq_ncard text hgreatest, hstart, ?_⟩
  rw [hcolumn, length_flatMap_utf16Units]
  exact hunits

/-- A line begins on itself. -/
theorem line_lineStart {line : Nat} (h : line < (ofString text).lineCount) :
    ((ofString text).place ((ofString text).lineStart line)).line = line := by
  rw [line_eq_countP]
  have hsorted := sorted_lineBreaks 0 text.toList
  cases line with
  | zero =>
    -- Every other line begins after the first one.
    rw [List.countP_eq_zero]
    intro start hstart
    have hlater := lt_of_mem_lineBreaks hstart
    have hzero : (ofString text).lineStart 0 = 0 := rfl
    simp only [decide_eq_true_eq, hzero]
    omega
  | succ line =>
    have hline : line < (lineBreaks 0 text.toList).length := Nat.lt_of_succ_lt_succ h
    have hstart : (ofString text).lineStart (line + 1) =
        (lineBreaks 0 text.toList)[line].offset := by
      unfold lineStart
      rw [List.getElem?_cons_succ]
      change (((lineBreaks 0 text.toList)[line]?).map Cursor.offset).getD _ = _
      rw [List.getElem?_eq_getElem hline]
      rfl
    rw [hstart]
    exact countP_le_getElem hsorted hline

/-- Of two places in a text the later one is on a later line, or further on in the same line. -/
theorem place_before {a b : Nat} (ha : IsPlace text a) (hb : IsPlace text b) (h : a < b) :
    ((ofString text).place a).Before ((ofString text).place b) := by
  have hself : ∀ {place : Nat}, IsPlace text place →
      IsGreatest {other | IsPlace text other ∧ other ≤ place} place := fun hplace =>
    ⟨⟨hplace, Nat.le_refl _⟩, fun _ hother => hother.2⟩
  obtain ⟨before, own, after, htext, hend, -, hstart, hcolumn⟩ := exists_place text a
  obtain ⟨before', own', after', htext', hend', -, hstart', hcolumn'⟩ := exists_place text b
  have hgreatest := hend.unique (hself ha)
  have hgreatest' := hend'.unique (hself hb)
  rw [byteLength_append] at hgreatest hgreatest'
  have hlines : ((ofString text).place a).line ≤ ((ofString text).place b).line := by
    rw [line_eq_countP, line_eq_countP]
    refine List.countP_mono_left fun start _ hle => ?_
    simp only [decide_eq_true_eq] at hle ⊢
    omega
  rcases Nat.lt_or_eq_of_le hlines with hlt | hline
  · exact .inl hlt
  · refine .inr ⟨hline, ?_⟩
    -- Both are on the line that begins at the same place.
    rw [← hline, ← hstart] at hstart'
    have hsame : (⟨byteLength before, own ++ after⟩ : Cursor) =
        ⟨byteLength before', own' ++ after'⟩ :=
      Leads.eq_of_offset_eq (c := .ofString text) ⟨before, htext, (Nat.zero_add _).symm⟩
        ⟨before', htext', (Nat.zero_add _).symm⟩ hstart'.symm
    rw [hcolumn, hcolumn']
    rcases List.append_eq_append_iff.mp (Cursor.mk.inj hsame).2 with ⟨more, rfl, -⟩ | ⟨more, rfl, -⟩
    · cases more with
      | nil =>
        rw [List.append_nil] at hgreatest'
        omega
      | cons c more =>
        have hpos := utf16Size_pos c
        rw [length_flatMap_utf16Units, length_flatMap_utf16Units, utf16Length_append]
        change _ < _ + (utf16Size c + utf16Length more)
        omega
    · rw [byteLength_append] at hgreatest
      omega

/-- **Lines and columns are faithful to every text.** -/
theorem ofString_faithful : (ofString text).Faithful text where
  lineCount := lineCount_eq text
  place := exists_place text
  increasing _ _ := place_before text
  lineStart line h := by
    refine ⟨line_lineStart text h, ?_⟩
    rintro offset rfl
    exact (place_spec text offset).2.1
  scanned := map_offset_others text
  bounded := place_le text

end LineIndex
end ModuleBundler
