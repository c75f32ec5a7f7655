import ModuleBundler.Proofs.LinePlaces

/-!
# The lines of a text, by its bytes

* `byteLineStarts` : where lines begin after the first, by a scan over the bytes of a text in UTF-8;
* `lineEnd_or_skipped` : what the scan makes of the bytes of one character;
* `byteLineStarts_flatMap`, `LineIndex.map_offset_others` : the scan finds the lines that the
  characters of the text have.
-/

namespace ModuleBundler

/-- Where lines begin in the bytes of a text, from an offset on. A line feed and a carriage return
have a byte each, and a carriage return before a line feed ends no line of its own. The line and
paragraph separators are the bytes E2 80 A8 and E2 80 A9. -/
def byteLineStarts (offset : Nat) : List UInt8 → List Nat
  | [] => []
  | b :: rest =>
    if b = 0x0a ∨ (b = 0x0d ∧ rest[0]? ≠ some 0x0a) then
      (offset + 1) :: byteLineStarts (offset + 1) rest
    else if b = 0xe2 ∧ rest[0]? = some 0x80 ∧ (rest[1]? = some 0xa8 ∨ rest[1]? = some 0xa9) then
      (offset + 3) :: byteLineStarts (offset + 3) (rest.drop 2)
    else byteLineStarts (offset + 1) rest
termination_by bytes => bytes.length
decreasing_by
  · exact Nat.lt_succ_self _
  · rw [List.length_drop, List.length_cons]
    omega
  · exact Nat.lt_succ_self _

/-- The bytes of a character in UTF-8, by its number. -/
theorem utf8EncodeChar_eq (c : Char) :
    String.utf8EncodeChar c =
      if c.toNat ≤ 0x7f then [.ofNat c.toNat]
      else if c.toNat ≤ 0x7ff then
        [.ofNat (c.toNat / 64 % 32 + 0xc0), .ofNat (c.toNat % 64 + 0x80)]
      else if c.toNat ≤ 0xffff then
        [.ofNat (c.toNat / 4096 % 16 + 0xe0), .ofNat (c.toNat / 64 % 64 + 0x80),
          .ofNat (c.toNat % 64 + 0x80)]
      else
        [.ofNat (c.toNat / 262144 % 8 + 0xf0), .ofNat (c.toNat / 4096 % 64 + 0x80),
          .ofNat (c.toNat / 64 % 64 + 0x80), .ofNat (c.toNat % 64 + 0x80)] := rfl

theorem ofNat_ne {a b : Nat} (ha : a < 256) (hb : b < 256) (h : a ≠ b) :
    UInt8.ofNat a ≠ UInt8.ofNat b := fun heq => by
  have hnat := congrArg UInt8.toNat heq
  rw [UInt8.toNat_ofNat_of_lt' ha, UInt8.toNat_ofNat_of_lt' hb] at hnat
  exact h hnat

/-- The byte is not the first of a line end. -/
def IsPlainByte (b : UInt8) : Prop := b ≠ 0x0a ∧ b ≠ 0x0d ∧ b ≠ 0xe2

theorem isPlainByte_ofNat {n : Nat} (h : n < 256) (hfeed : n ≠ 0x0a) (hreturn : n ≠ 0x0d)
    (hseparator : n ≠ 0xe2) : IsPlainByte (.ofNat n) :=
  ⟨ofNat_ne h (by decide) hfeed, ofNat_ne h (by decide) hreturn,
    ofNat_ne h (by decide) hseparator⟩

/-- The scan passes over a byte that begins no line end. -/
theorem byteLineStarts_cons {offset : Nat} {b : UInt8} {bytes : List UInt8}
    (hfeed : b ≠ 0x0a) (hreturn : b ≠ 0x0d)
    (hseparator : b = 0xe2 → bytes[0]? = some 0x80 →
      bytes[1]? ≠ some 0xa8 ∧ bytes[1]? ≠ some 0xa9) :
    byteLineStarts offset (b :: bytes) = byteLineStarts (offset + 1) bytes := by
  rw [byteLineStarts, if_neg, if_neg]
  · rintro ⟨hfirst, hsecond, hthird⟩
    have hnot := hseparator hfirst hsecond
    exact hthird.elim hnot.1 hnot.2
  · exact fun h => h.elim hfeed fun h => hreturn h.1

theorem byteLineStarts_append {passed : List UInt8} (h : ∀ b ∈ passed, IsPlainByte b)
    (offset : Nat) (bytes : List UInt8) :
    byteLineStarts offset (passed ++ bytes) = byteLineStarts (offset + passed.length) bytes := by
  induction passed generalizing offset with
  | nil => rfl
  | cons b passed ih =>
    obtain ⟨⟨hfeed, hreturn, hseparator⟩, h⟩ := List.forall_mem_cons.mp h
    rw [List.cons_append, byteLineStarts_cons hfeed hreturn fun heq => absurd heq hseparator,
      ih h, List.length_cons]
    congr 1
    omega

/-! ## The bytes of one character -/

theorem toNat_ne_of_not_isLineTerminator {c : Char} (h : ¬ isLineTerminator c = true) :
    c.toNat ≠ 0x0a ∧ c.toNat ≠ 0x0d ∧ c.toNat ≠ 0x2028 ∧ c.toNat ≠ 0x2029 := by
  have hne : ∀ d : Char, isLineTerminator d = true → c.toNat ≠ d.toNat := by
    intro d hd heq
    rw [Char.toNat_inj.mp heq] at h
    exact h hd
  exact ⟨hne '\n' rfl, hne '\r' rfl, hne '\u2028' rfl, hne '\u2029' rfl⟩

/-- A character that ends no line is passed over. -/
theorem byteLineStarts_of_not_isLineTerminator {c : Char} (h : ¬ isLineTerminator c = true)
    (offset : Nat) (bytes : List UInt8) :
    byteLineStarts offset (String.utf8EncodeChar c ++ bytes) =
      byteLineStarts (offset + c.utf8Size) bytes := by
  obtain ⟨hfeed, hreturn, hline, hparagraph⟩ := toNat_ne_of_not_isLineTerminator h
  rw [← String.length_utf8EncodeChar, utf8EncodeChar_eq]
  -- Only the first of three bytes may be that of a separator, and the others tell.
  have hlater : ∀ n, IsPlainByte (.ofNat (n % 64 + 0x80)) := fun n =>
    isPlainByte_ofNat (by omega) (by omega) (by omega) (by omega)
  split
  · exact byteLineStarts_append (List.forall_mem_singleton.mpr
      (isPlainByte_ofNat (by omega) hfeed hreturn (by omega))) offset bytes
  · split
    · have hfirst : IsPlainByte (.ofNat (c.toNat / 64 % 32 + 0xc0)) :=
        isPlainByte_ofNat (by omega) (by omega) (by omega) (by omega)
      exact byteLineStarts_append (List.forall_mem_cons.mpr
        ⟨hfirst, List.forall_mem_singleton.mpr (hlater _)⟩) offset bytes
    · split
      · have hrest := byteLineStarts_append (List.forall_mem_cons.mpr
          ⟨hlater (c.toNat / 64), List.forall_mem_singleton.mpr (hlater c.toNat)⟩)
          (offset + 1) bytes
        rw [List.cons_append, byteLineStarts_cons, hrest]
        · rfl
        · exact ofNat_ne (b := 0x0a) (by omega) (by decide) (by omega)
        · exact ofNat_ne (b := 0x0d) (by omega) (by decide) (by omega)
        · intro hfirst hsecond
          have hhigh : c.toNat / 4096 = 2 := Decidable.byContradiction fun hne =>
            ofNat_ne (b := 0xe2) (by omega) (by decide) (by omega) hfirst
          have hmiddle : c.toNat / 64 % 64 = 0 := Decidable.byContradiction fun hne =>
            ofNat_ne (b := 0x80) (by omega) (by decide) (by omega) (Option.some.inj hsecond)
          have hlow : ∀ {n : Nat}, n < 256 → c.toNat % 64 + 0x80 ≠ n →
              some (UInt8.ofNat (c.toNat % 64 + 0x80)) ≠ some (UInt8.ofNat n) := fun hn hne heq =>
            ofNat_ne (by omega) hn hne (Option.some.inj heq)
          exact ⟨hlow (n := 0xa8) (by decide) (by omega), hlow (n := 0xa9) (by decide) (by omega)⟩
      · have hfirst : IsPlainByte (.ofNat (c.toNat / 262144 % 8 + 0xf0)) :=
          isPlainByte_ofNat (by omega) (by omega) (by omega) (by omega)
        exact byteLineStarts_append (List.forall_mem_cons.mpr ⟨hfirst, List.forall_mem_cons.mpr
          ⟨hlater _, List.forall_mem_cons.mpr ⟨hlater _, List.forall_mem_singleton.mpr
            (hlater _)⟩⟩⟩) offset bytes

theorem isLineTerminator_cases {c : Char} (h : isLineTerminator c = true) :
    c = '\n' ∨ c = '\r' ∨ c = '\u2028' ∨ c = '\u2029' := by
  simpa [isLineTerminator, or_assoc] using h

/-- After a character that ends a line one begins. -/
theorem byteLineStarts_of_isLineTerminator {c : Char} (h : isLineTerminator c = true)
    (offset : Nat) {bytes : List UInt8} (hpair : c = '\r' → bytes[0]? ≠ some 0x0a) :
    byteLineStarts offset (String.utf8EncodeChar c ++ bytes) =
      (offset + c.utf8Size) :: byteLineStarts (offset + c.utf8Size) bytes := by
  rcases isLineTerminator_cases h with rfl | rfl | rfl | rfl
  · have hbytes : String.utf8EncodeChar '\n' = [0x0a] := rfl
    rw [hbytes, List.singleton_append, byteLineStarts, if_pos (.inl rfl)]
    rfl
  · have hbytes : String.utf8EncodeChar '\r' = [0x0d] := rfl
    rw [hbytes, List.singleton_append, byteLineStarts, if_pos (.inr ⟨rfl, hpair rfl⟩)]
    rfl
  · have hbytes : String.utf8EncodeChar '\u2028' = [0xe2, 0x80, 0xa8] := rfl
    rw [hbytes, List.cons_append, byteLineStarts, if_neg, if_pos ⟨rfl, rfl, .inl rfl⟩]
    · rfl
    · exact fun h => h.elim (by decide) fun h => absurd h.1 (by decide)
  · have hbytes : String.utf8EncodeChar '\u2029' = [0xe2, 0x80, 0xa9] := rfl
    rw [hbytes, List.cons_append, byteLineStarts, if_neg, if_pos ⟨rfl, rfl, .inr rfl⟩]
    · rfl
    · exact fun h => h.elim (by decide) fun h => absurd h.1 (by decide)

/-- Only a line feed has the byte of one first. -/
theorem first_byte_ne {c : Char} (h : c ≠ '\n') (bytes : List UInt8) :
    (String.utf8EncodeChar c ++ bytes)[0]? ≠ some 0x0a := by
  have hnat : c.toNat ≠ 0x0a := fun heq => h (Char.toNat_inj.mp heq)
  have hfirst : ∀ {n : Nat} {others : List UInt8}, n < 256 → n ≠ 0x0a →
      (UInt8.ofNat n :: others)[0]? ≠ some 0x0a := fun hn hne heq =>
    ofNat_ne hn (by decide) hne (Option.some.inj heq)
  rw [utf8EncodeChar_eq]
  split
  · exact hfirst (by omega) hnat
  · split
    · exact hfirst (by omega) (by omega)
    · split
      · exact hfirst (by omega) (by omega)
      · exact hfirst (by omega) (by omega)

/-! ## The bytes of a text -/

/-- **The scan over the bytes finds the lines of the characters.** -/
theorem byteLineStarts_flatMap (offset : Nat) (cs : List Char) :
    byteLineStarts offset (cs.flatMap String.utf8EncodeChar) =
      (lineBreaks offset cs).map Cursor.offset := by
  fun_induction lineBreaks offset cs with
  | case1 => rw [List.flatMap_nil, byteLineStarts, List.map_nil]
  | case2 offset rest ih =>
    have hreturn : String.utf8EncodeChar '\r' = [0x0d] := rfl
    have hfeed : String.utf8EncodeChar '\n' = [0x0a] := rfl
    rw [List.flatMap_cons, List.flatMap_cons, hreturn, hfeed, List.singleton_append,
      List.singleton_append, byteLineStarts, if_neg, if_neg, byteLineStarts, if_pos (.inl rfl), ih]
    · rfl
    · exact fun h => absurd h.1 (by decide)
    · exact fun h => h.elim (by decide) fun h => h.2 rfl
  | case3 offset c rest hpair hterminator ih =>
    rw [List.flatMap_cons, byteLineStarts_of_isLineTerminator hterminator, ih]
    · rfl
    · rintro rfl hfeed
      cases rest with
      | nil => cases hfeed
      | cons d others =>
        by_cases hd : d = '\n'
        · exact hpair others rfl (hd ▸ rfl)
        · exact first_byte_ne hd _ hfeed
  | case4 offset c rest hpair hplain ih =>
    rw [List.flatMap_cons, byteLineStarts_of_not_isLineTerminator hplain, ih]

/-- The lines of a text begin where its bytes say. -/
theorem LineIndex.map_offset_others (text : String) :
    (LineIndex.ofString text).others.map Cursor.offset =
      byteLineStarts 0 text.toByteArray.data.toList := by
  have hbytes : text.toByteArray.data.toList = text.toList.flatMap String.utf8EncodeChar := by
    conv => lhs; rw [← String.ofList_toList (s := text)]
    rw [String.toByteArray_ofList, List.utf8Encode, List.data_toByteArray]
  rw [hbytes, byteLineStarts_flatMap]
  rfl

end ModuleBundler
