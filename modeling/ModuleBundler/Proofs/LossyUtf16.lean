import ModuleBundler.Text.Utf16
import ModuleBundler.Token.Literal

/-!
# Texts of UTF-16 code units

* `isFirstHalf`, `isSecondHalf` : the two halves of surrogate pairs;
* `codePointUnits` : the code units of a code point, which may be half of a pair itself;
* `ofUtf16` : the text of code units, where a half on its own becomes U+FFFD;
* `ofUtf16_append` : code units that end with no half of a pair can be read on their own;
* `ofUtf16_utf16Units` : the code units of a character are read as that character.
-/

namespace ModuleBundler

/-! ## Code units -/

/-- The code unit begins a surrogate pair. -/
def isFirstHalf (u : Nat) : Bool := 0xd800 ≤ u && u ≤ 0xdbff

/-- The code unit ends a surrogate pair. -/
def isSecondHalf (u : Nat) : Bool := 0xdc00 ≤ u && u ≤ 0xdfff

/-- The code units of a code point. -/
def codePointUnits (code : Nat) : List Nat :=
  if code < 0x10000 then [code]
  else [0xd800 + (code - 0x10000) / 0x400, 0xdc00 + (code - 0x10000) % 0x400]

/-- The character that two halves make. -/
def pairChar (first second : Nat) : Char :=
  Char.ofNat (0x10000 + (first - 0xd800) * 0x400 + (second - 0xdc00))

/-- The character of a code unit on its own. -/
def unitChar (u : Nat) : Char := (charOf? u).getD replacementChar

/-- The text of code units. A half of a pair without the other one becomes U+FFFD. -/
def ofUtf16 : List Nat → List Char
  | [] => []
  | [u] => [unitChar u]
  | u :: v :: rest =>
    if isFirstHalf u && isSecondHalf v then pairChar u v :: ofUtf16 rest
    else unitChar u :: ofUtf16 (v :: rest)

theorem codePointUnits_ne_nil (code : Nat) : codePointUnits code ≠ [] := by
  unfold codePointUnits
  split
  · exact List.cons_ne_nil _ _
  · exact List.cons_ne_nil _ _

theorem isFirstHalf_iff {u : Nat} : isFirstHalf u = true ↔ 0xd800 ≤ u ∧ u ≤ 0xdbff := by
  simp [isFirstHalf]

theorem isSecondHalf_iff {u : Nat} : isSecondHalf u = true ↔ 0xdc00 ≤ u ∧ u ≤ 0xdfff := by
  simp [isSecondHalf]

theorem isSecondHalf_eq_false_of_isFirstHalf {u : Nat} (h : isFirstHalf u = true) :
    isSecondHalf u = false := by
  rw [isFirstHalf_iff] at h
  rw [Bool.eq_false_iff, ne_eq, isSecondHalf_iff]
  omega

/-- A half of a pair is no character. -/
theorem unitChar_of_half {u : Nat} (h : isFirstHalf u = true ∨ isSecondHalf u = true) :
    unitChar u = replacementChar := by
  rw [isFirstHalf_iff, isSecondHalf_iff] at h
  have hno : ¬ u.isValidChar := by
    unfold Nat.isValidChar
    omega
  unfold unitChar charOf?
  rw [if_neg hno]
  rfl

theorem unitChar_toNat (c : Char) : unitChar c.toNat = c := by
  have hvalid : c.toNat.isValidChar := c.valid
  unfold unitChar charOf?
  rw [if_pos hvalid, Char.ofNat_toNat]
  rfl

/-- No character is a half of a pair. -/
theorem not_half_toNat (c : Char) : isFirstHalf c.toNat = false ∧ isSecondHalf c.toNat = false := by
  have hvalid : c.toNat.isValidChar := c.valid
  unfold Nat.isValidChar at hvalid
  rw [Bool.eq_false_iff, Bool.eq_false_iff, ne_eq, ne_eq, isFirstHalf_iff, isSecondHalf_iff]
  omega

/-! ## Reading code units -/

/-- The code units do not end with a first half, or the others do not begin with a second one. -/
def NoPairAcross (first second : List Nat) : Prop :=
  ∀ u, first.getLast? = some u → ∀ v, second.head? = some v →
    (isFirstHalf u && isSecondHalf v) = false

/-- Where no pair is split, both parts can be read on their own. -/
theorem ofUtf16_append {first second : List Nat} (h : NoPairAcross first second) :
    ofUtf16 (first ++ second) = ofUtf16 first ++ ofUtf16 second := by
  fun_induction ofUtf16 first with
  | case1 => rfl
  | case2 u =>
    cases second with
    | nil => rfl
    | cons v rest =>
      have hno := h u rfl v rfl
      change ofUtf16 (u :: v :: rest) = _
      rw [ofUtf16, if_neg (by rw [hno]; decide)]
      rfl
  | case3 u v rest hpair ih =>
    change ofUtf16 (u :: v :: (rest ++ second)) = _
    rw [ofUtf16, if_pos hpair, List.cons_append, ih]
    intro w hw
    refine h w ?_
    rw [List.getLast?_cons_cons, List.getLast?_cons, hw]
    rfl
  | case4 u v rest hpair ih =>
    change ofUtf16 (u :: v :: (rest ++ second)) = _
    rw [ofUtf16, if_neg hpair, List.cons_append]
    refine congrArg (unitChar u :: ·) (ih fun w hw => h w ?_)
    rw [List.getLast?_cons_cons]
    exact hw

theorem ofUtf16_pair {u v : Nat} (hu : isFirstHalf u = true) (hv : isSecondHalf v = true)
    (rest : List Nat) : ofUtf16 (u :: v :: rest) = pairChar u v :: ofUtf16 rest := by
  rw [ofUtf16, if_pos (by rw [hu, hv]; rfl)]

/-- A first half before what is no second one is lost. -/
theorem ofUtf16_cons_of_isFirstHalf {u : Nat} {rest : List Nat} (hu : isFirstHalf u = true)
    (hrest : ∀ v, rest.head? = some v → isSecondHalf v = false) :
    ofUtf16 (u :: rest) = replacementChar :: ofUtf16 rest := by
  have happend := @ofUtf16_append [u] rest fun w _ v hv => by rw [hrest v hv, Bool.and_false]
  rw [List.singleton_append] at happend
  rw [happend, ofUtf16, unitChar_of_half (.inl hu)]
  rfl

theorem utf16Units_eq (c : Char) : utf16Units c = codePointUnits c.toNat := rfl

theorem ofUtf16_utf16Units (c : Char) : ofUtf16 (utf16Units c) = [c] := by
  have hvalid : c.toNat.isValidChar := c.valid
  unfold Nat.isValidChar at hvalid
  rw [utf16Units_eq, codePointUnits]
  by_cases hsmall : c.toNat < 0x10000
  · rw [if_pos hsmall, ofUtf16, unitChar_toNat]
  · have hfirst : isFirstHalf (0xd800 + (c.toNat - 0x10000) / 0x400) = true := by
      rw [isFirstHalf_iff]
      omega
    have hsecond : isSecondHalf (0xdc00 + (c.toNat - 0x10000) % 0x400) = true := by
      rw [isSecondHalf_iff]
      omega
    have hcode : 0x10000 + (0xd800 + (c.toNat - 0x10000) / 0x400 - 0xd800) * 0x400 +
        (0xdc00 + (c.toNat - 0x10000) % 0x400 - 0xdc00) = c.toNat := by omega
    rw [if_neg hsmall, ofUtf16_pair hfirst hsecond, pairChar, hcode, Char.ofNat_toNat]
    rfl

/-- The code units of a character do not end inside a pair. -/
theorem noPairAcross_utf16Units (c : Char) (second : List Nat) :
    NoPairAcross (utf16Units c) second := by
  intro u hu v _
  have hno : isFirstHalf u = false := by
    rw [utf16Units_eq, codePointUnits] at hu
    split at hu
    · cases hu
      exact (not_half_toNat c).1
    · rw [List.getLast?_cons_cons, List.getLast?_singleton, Option.some.injEq] at hu
      rw [Bool.eq_false_iff, ne_eq, isFirstHalf_iff]
      omega
  rw [hno, Bool.false_and]

theorem head?_utf16Units (c : Char) {v : Nat} (h : (utf16Units c).head? = some v) :
    isSecondHalf v = false := by
  have hvalid : c.toNat.isValidChar := c.valid
  unfold Nat.isValidChar at hvalid
  rw [utf16Units_eq, codePointUnits] at h
  split at h
  · cases h
    exact (not_half_toNat c).2
  · rw [List.head?_cons, Option.some.injEq] at h
    rw [Bool.eq_false_iff, ne_eq, isSecondHalf_iff]
    omega

end ModuleBundler
