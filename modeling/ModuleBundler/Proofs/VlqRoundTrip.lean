import Mathlib.Algebra.Group.Int.Defs
import Mathlib.Algebra.Group.Nat.Defs
import ModuleBundler.SourceMap.Vlq

/-!
# Numbers of variable length are read back

* `base64Value?_base64Digit` : a digit has the value that it is written for;
* `decodeDigits_vlqDigits` : the digits of a number add up to it;
* `decodeVlq_encodeVlq` : what is written for a number of 64 bits is read back, whatever follows it;
* `readNumbers_encodeVlq` : numbers in a row are read back one after another, each from its own text;
* `separators_not_mem_encodeVlq` : commas and semicolons are no digits.
-/

namespace ModuleBundler

/-! ## Digits -/

theorem base64Value?_base64Digit {n : Nat} (h : n < 64) : base64Value? (base64Digit n) = some n := by
  have hall : ∀ m < 64, base64Value? (base64Digit m) = some m := by decide
  exact hall n h

/-- Five more bits above those that are there. -/
theorem or_shiftLeft_mod {count code digit : Nat} (hcode : code < 2 ^ (5 * count))
    (hfits : digit * 2 ^ (5 * count) < UInt64.size) :
    code ||| (digit <<< (5 * count)) % UInt64.size = code + digit * 2 ^ (5 * count) := by
  rw [Nat.shiftLeft_eq, Nat.mod_eq_of_lt hfits, Nat.or_comm, ← Nat.shiftLeft_eq,
    ← Nat.shiftLeft_add_eq_or_of_lt hcode, Nat.shiftLeft_eq, Nat.add_comm]

/-- The digits of a number add up to it, above a code from the digits before. -/
theorem decodeDigits_vlqDigits {count code n : Nat} (rest : List Char)
    (hcode : code < 2 ^ (5 * count)) (hfits : n * 2 ^ (5 * count) < UInt64.size) (hcount : count < 13) :
    decodeDigits count code (vlqDigits n ++ rest) =
      some (ofSignedCode (code + n * 2 ^ (5 * count)), rest) := by
  induction n using vlqDigits.induct generalizing count code with
  | case1 n hlt =>
    have hvalue := @base64Value?_base64Digit n (by omega)
    rw [vlqDigits, if_pos hlt, List.singleton_append, decodeDigits, hvalue]
    dsimp only
    rw [if_neg (by omega), Nat.mod_eq_of_lt hlt, or_shiftLeft_mod hcode hfits, if_pos hlt]
  | case2 n hge ih =>
    have hpow : 2 ^ (5 * (count + 1)) = 2 ^ (5 * count) * 32 := by
      rw [Nat.mul_succ, Nat.pow_add]
    have hvalue := @base64Value?_base64Digit (n % 32 + 32) (by omega)
    have hlow : n % 32 * 2 ^ (5 * count) < UInt64.size :=
      Nat.lt_of_le_of_lt (Nat.mul_le_mul_right _ (Nat.mod_le n 32)) hfits
    have hsum : n * 2 ^ (5 * count) =
        n % 32 * 2 ^ (5 * count) + n / 32 * (2 ^ (5 * count) * 32) := by
      rw [Nat.mul_comm (2 ^ (5 * count)) 32, ← Nat.mul_assoc, ← Nat.add_mul]
      congr 1
      omega
    rw [vlqDigits, if_neg hge, List.cons_append, decodeDigits, hvalue]
    dsimp only
    have hmod : (n % 32 + 32) % 32 = n % 32 := by omega
    rw [if_neg (by omega), hmod, or_shiftLeft_mod hcode hlow, if_neg (by omega)]
    have hmore : count + 1 < 13 := by
      -- Thirteen digits have no room for one more.
      refine Nat.lt_of_not_le fun hlast => ?_
      obtain rfl : count = 12 := by omega
      have : 32 * 2 ^ (5 * 12) ≤ n * 2 ^ (5 * 12) := Nat.mul_le_mul_right _ (by omega)
      have hsize : UInt64.size = 2 ^ 64 := rfl
      omega
    have hnext : code + n % 32 * 2 ^ (5 * count) < 2 ^ (5 * (count + 1)) := by
      rw [hpow]
      have : n % 32 * 2 ^ (5 * count) ≤ 31 * 2 ^ (5 * count) := Nat.mul_le_mul_right _ (by omega)
      omega
    have hrest : n / 32 * 2 ^ (5 * (count + 1)) < UInt64.size := by
      rw [hpow]
      omega
    rw [ih hnext hrest hmore, hpow, hsum, Nat.add_assoc]

/-! ## Numbers -/

theorem signedCode_eq {value : Int} (h : value.natAbs < 2 ^ 63) :
    signedCode value = 2 * value.natAbs + if value < 0 then 1 else 0 := by
  have hsize : UInt64.size = 2 ^ 64 := rfl
  refine Nat.mod_eq_of_lt ?_
  split
  · omega
  · omega

theorem ofSignedCode_signedCode {value : Int} (h : value.natAbs < 2 ^ 63) :
    ofSignedCode (signedCode value) = value := by
  rw [signedCode_eq h, ofSignedCode]
  split
  · split
    · omega
    · omega
  · split
    · omega
    · omega

/-- **Numbers of 64 bits are read back**, and what follows their digits is left. -/
theorem decodeVlq_encodeVlq {value : Int} (h : value.natAbs < 2 ^ 63) (rest : List Char) :
    decodeVlq (encodeVlq value ++ rest) = some (value, rest) := by
  have hcode : signedCode value * 2 ^ (5 * 0) < UInt64.size := by
    rw [Nat.mul_zero, Nat.pow_zero, Nat.mul_one]
    exact Nat.mod_lt _ (by decide)
  have hdigits := decodeDigits_vlqDigits rest (Nat.two_pow_pos (5 * 0)) hcode (by decide)
  rw [Nat.mul_zero, Nat.pow_zero, Nat.mul_one, Nat.zero_add, ofSignedCode_signedCode h] at hdigits
  exact hdigits

/-! ## Numbers in a row -/

/-- Reads numbers one after another: each with how many characters it is read from, and what follows
the last of them. -/
def readNumbers : Nat → List Char → Option (List (Int × Nat) × List Char)
  | 0, cs => some ([], cs)
  | count + 1, cs => do
    let (value, rest) ← decodeVlq cs
    let (others, last) ← readNumbers count rest
    pure ((value, cs.length - rest.length) :: others, last)

/-- One number is read and what is left goes on. -/
theorem readNumbers_succ {cs rest last : List Char} {value : Int} {others : List (Int × Nat)}
    {count : Nat} (hvalue : decodeVlq cs = some (value, rest))
    (hothers : readNumbers count rest = some (others, last)) :
    readNumbers (count + 1) cs = some ((value, cs.length - rest.length) :: others, last) := by
  simp [readNumbers, hvalue, hothers]

/-- **The texts of numbers need no separator.** Any numbers of 64 bits, apart from the least, are
read back in their order from their texts in a row, each from just the characters of its own text,
and what follows the last text is left. That may be anything: characters stand for the bytes of the
same numbers as well. -/
theorem readNumbers_encodeVlq {values : List Int}
    (hvalues : ∀ value ∈ values, -2 ^ 63 < value ∧ value < 2 ^ 63) (rest : List Char) :
    readNumbers values.length (values.flatMap encodeVlq ++ rest) =
      some (values.map fun value => (value, (encodeVlq value).length), rest) := by
  induction values with
  | nil => rfl
  | cons value values ih =>
    obtain ⟨⟨hlow, hhigh⟩, hothers⟩ := List.forall_mem_cons.mp hvalues
    have hvalue : value.natAbs < 2 ^ 63 := by omega
    have hread := decodeVlq_encodeVlq hvalue (values.flatMap encodeVlq ++ rest)
    rw [← List.append_assoc, ← List.flatMap_cons] at hread
    rw [List.length_cons, readNumbers_succ hread (ih hothers), List.map_cons]
    -- What was read from is the text of the first number.
    have hlength : ((value :: values).flatMap encodeVlq ++ rest).length -
        (values.flatMap encodeVlq ++ rest).length = (encodeVlq value).length := by
      simp only [List.flatMap_cons, List.length_append]
      omega
    rw [hlength]

/-- Numbers of one digit, of two and of thirteen, of both signs, before a text that begins with a
digit. -/
theorem readNumbers_extremes :
    (∀ value ∈ [0, -1, 15, 16, 2 ^ 63 - 1, -(2 ^ 63 - 1)], -2 ^ 63 < value ∧ value < (2 ^ 63 : Int)) ∧
      readNumbers 6 ("ADegB+///////////P////////////P".toList ++ "Aé".toList) =
        some ([(0, 1), (-1, 1), (15, 1), (16, 2), (2 ^ 63 - 1, 13), (-(2 ^ 63 - 1), 13)],
          "Aé".toList) := by
  have hvalues : ∀ value ∈ [0, -1, 15, 16, 2 ^ 63 - 1, -(2 ^ 63 - 1)],
      -2 ^ 63 < value ∧ value < (2 ^ 63 : Int) := by decide
  have htexts : [0, -1, 15, 16, 2 ^ 63 - 1, -(2 ^ 63 - 1)].flatMap encodeVlq =
      "ADegB+///////////P////////////P".toList := by decide +kernel
  have hlengths : [0, -1, 15, 16, 2 ^ 63 - 1, -(2 ^ 63 - 1)].map
      (fun value => (value, (encodeVlq value).length)) =
        [(0, 1), (-1, 1), (15, 1), (16, 2), (2 ^ 63 - 1, 13), (-(2 ^ 63 - 1), 13)] := by
    decide +kernel
  have hread := readNumbers_encodeVlq hvalues "Aé".toList
  rw [htexts, hlengths] at hread
  exact ⟨hvalues, hread⟩

/-! ## Their characters -/

theorem encodeVlq_ne_nil (value : Int) : encodeVlq value ≠ [] := by
  rw [encodeVlq, vlqDigits]
  split
  · exact List.cons_ne_nil _ _
  · exact List.cons_ne_nil _ _

theorem mem_vlqDigits {n : Nat} {c : Char} (h : c ∈ vlqDigits n) :
    ∃ digit < 64, c = base64Digit digit := by
  induction n using vlqDigits.induct with
  | case1 n hlt =>
    rw [vlqDigits, if_pos hlt] at h
    exact ⟨n, by omega, List.mem_singleton.mp h⟩
  | case2 n hge ih =>
    rw [vlqDigits, if_neg hge] at h
    rcases List.mem_cons.mp h with rfl | h
    · exact ⟨n % 32 + 32, by omega, rfl⟩
    · exact ih h

/-- The separators of mappings are no digits. -/
theorem separators_not_mem_encodeVlq (value : Int) :
    ',' ∉ encodeVlq value ∧ ';' ∉ encodeVlq value := by
  have hdigits : ∀ digit < 64, base64Digit digit ≠ ',' ∧ base64Digit digit ≠ ';' := by decide
  constructor
  · intro h
    obtain ⟨digit, hlt, heq⟩ := mem_vlqDigits h
    exact (hdigits digit hlt).1 heq.symm
  · intro h
    obtain ⟨digit, hlt, heq⟩ := mem_vlqDigits h
    exact (hdigits digit hlt).2 heq.symm

end ModuleBundler
