import ModuleBundler.Proofs.Place
import ModuleBundler.Text.LineIndex

/-!
# The lines of a text

* `leads_lineBreaks` : lines begin at places of the text;
* `lineAt_spec` : the line of an offset begins at or before it;
* `LineIndex.lineStart_place`, `LineIndex.place_spec` : what that says of the lines of a text;
* `LineIndex.place_le` : no line and no column is beyond the size of the text.
-/

namespace ModuleBundler

open Cursor (Leads)

/-- The size of a text is the sum of those of its characters. -/
theorem utf8ByteSize_eq (text : String) : text.utf8ByteSize = byteLength text.toList := by
  have hlist : ∀ cs : List Char, (String.ofList cs).utf8ByteSize = byteLength cs := by
    intro cs
    induction cs with
    | nil => rfl
    | cons c cs ih =>
      have hcons : String.ofList (c :: cs) = String.singleton c ++ String.ofList cs := by simp
      rw [hcons, String.utf8ByteSize_append, String.utf8ByteSize_singleton, ih, byteLength_cons]
  rw [← hlist, String.ofList_toList]

/-- A line begins at a place of the text. -/
theorem leads_lineBreaks {offset : Nat} {cs : List Char} {start : Cursor}
    (h : start ∈ lineBreaks offset cs) : Leads ⟨offset, cs⟩ start := by
  fun_induction lineBreaks offset cs with
  | case1 => cases h
  | case2 offset rest ih =>
    have hpair : Leads ⟨offset, '\r' :: '\n' :: rest⟩ ⟨offset + 2, rest⟩ := ⟨['\r', '\n'], rfl, rfl⟩
    rcases List.mem_cons.mp h with rfl | h
    · exact hpair
    · exact hpair.trans (ih h)
  | case3 offset c rest _ _ ih =>
    rcases List.mem_cons.mp h with rfl | h
    · exact .cons offset c rest
    · exact (Leads.cons offset c rest).trans (ih h)
  | case4 offset c rest _ _ ih => exact (Leads.cons offset c rest).trans (ih h)

/-! ## Sizes -/

/-- A character has no more code units in UTF-16 than bytes in UTF-8. -/
theorem utf16Size_le (c : Char) : utf16Size c ≤ c.utf8Size := by
  unfold utf16Size
  have := c.utf8Size_pos
  split
  · omega
  · rename_i h
    have hlarge : c.utf8Size ≠ 1 := fun hone => by
      have hle := UInt32.le_iff_toNat_le.mp (Char.utf8Size_eq_one_iff.mp hone)
      exact h (Nat.lt_of_le_of_lt hle (by decide))
    omega

/-- Each line end has a character at least. -/
theorem length_lineBreaks (offset : Nat) (cs : List Char) :
    (lineBreaks offset cs).length ≤ byteLength cs := by
  fun_induction lineBreaks offset cs with
  | case1 => exact Nat.zero_le _
  | case2 offset rest ih =>
    rw [List.length_cons, byteLength_cons, byteLength_cons]
    have hone : '\r'.utf8Size = 1 := by decide
    omega
  | case3 offset c rest _ _ ih =>
    rw [List.length_cons, byteLength_cons]
    have := c.utf8Size_pos
    omega
  | case4 offset c rest _ _ ih =>
    rw [byteLength_cons]
    omega

namespace LineIndex

theorem unitsUpTo_le (stop offset : Nat) (cs : List Char) :
    unitsUpTo stop offset cs ≤ byteLength cs := by
  fun_induction unitsUpTo stop offset cs with
  | case1 => exact Nat.le_refl 0
  | case2 offset c rest _ ih =>
    have := utf16Size_le c
    rw [byteLength_cons]
    omega
  | case3 => exact Nat.zero_le _

/-! ## Places -/

/-- The line of an offset is one of the lines, and begins at or before the offset if the first of
them does. -/
theorem lineAt_spec {offset : Nat} {line : Nat} {start : Cursor} {others : List Cursor}
    (h : start.offset ≤ offset) :
    ∃ count, (lineAt offset line start others).1 = line + count ∧
      (start :: others)[count]? = some (lineAt offset line start others).2 ∧
      (lineAt offset line start others).2.offset ≤ offset := by
  induction others generalizing line start with
  | nil => exact ⟨0, rfl, rfl, h⟩
  | cons next rest ih =>
    unfold lineAt
    split
    · rename_i hnext
      obtain ⟨count, hline, hget, hle⟩ := @ih (line + 1) _ hnext
      refine ⟨count + 1, ?_, hget, hle⟩
      rw [hline]
      omega
    · exact ⟨0, rfl, rfl, h⟩

theorem leads_start {text : String} {start : Cursor}
    (h : start ∈ (ofString text).first :: (ofString text).others) :
    (Cursor.ofString text).Leads start := by
  rcases List.mem_cons.mp h with rfl | hmem
  · exact .refl _
  · exact leads_lineBreaks hmem

/-- The line of an offset is one of the lines of the text. It begins at the start that is found for
the offset, at or before it. -/
theorem lineStart_place (text : String) (offset : Nat) :
    ∃ start ∈ (ofString text).first :: (ofString text).others,
      (lineAt offset 0 (ofString text).first (ofString text).others).2 = start ∧
      ((ofString text).place offset).line < (ofString text).lineCount ∧
      (ofString text).lineStart ((ofString text).place offset).line = start.offset ∧
      start.offset ≤ offset := by
  have hfirst : (ofString text).first.offset ≤ offset := Nat.zero_le offset
  obtain ⟨count, hline, hget, hle⟩ := @lineAt_spec offset 0 _ (ofString text).others hfirst
  have hplace : ((ofString text).place offset).line = count := hline.trans (Nat.zero_add count)
  rw [hplace]
  refine ⟨_, List.mem_of_getElem? hget, rfl, (List.getElem?_eq_some_iff.mp hget).1, ?_, hle⟩
  rw [lineStart, hget]
  rfl

/-- The line of an offset is one of the lines of the text. It begins at a place of the text, at or
before the offset. -/
theorem place_spec (text : String) (offset : Nat) :
    ((ofString text).place offset).line < (ofString text).lineCount ∧
    (ofString text).lineStart ((ofString text).place offset).line ≤ offset ∧
    ∃ start : Cursor, (Cursor.ofString text).Leads start ∧
      start.offset = (ofString text).lineStart ((ofString text).place offset).line := by
  obtain ⟨start, hmem, -, hline, hstart, hle⟩ := lineStart_place text offset
  rw [hstart]
  exact ⟨hline, hle, start, leads_start hmem, rfl⟩

/-- No line and no column of a text is beyond its size. -/
theorem place_le (text : String) (offset : Nat) :
    ((ofString text).place offset).line ≤ text.utf8ByteSize ∧
    ((ofString text).place offset).column ≤ text.utf8ByteSize := by
  obtain ⟨_, hmem, rfl, hline, -, -⟩ := lineStart_place text offset
  rw [utf8ByteSize_eq]
  constructor
  · have hbreaks := length_lineBreaks 0 text.toList
    change _ < (lineBreaks 0 text.toList).length + 1 at hline
    omega
  · obtain ⟨passed, hpassed, -⟩ := leads_start hmem
    change text.toList = _ at hpassed
    refine Nat.le_trans (unitsUpTo_le ..) ?_
    rw [hpassed, byteLength_append]
    exact Nat.le_add_left _ _

end LineIndex
end ModuleBundler
