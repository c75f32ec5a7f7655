import Mathlib.Data.Nat.Digits.Defs
import ModuleBundler.Proofs.ByteLines
import ModuleBundler.Proofs.MappingsRoundTrip

/-!
# The numbers that texts are read as

* `NumberText`, `exactCode` : the text of one number, and the sum of its digits in as many bits as it
  needs;
* `decodeVlq_eq_some_iff` : at most thirteen digits are read, and their sum modulo `2 ^ 64`;
* `readExactly_iff` : the number that is read is the one that stands there, and what has no 64 bits is
  refused, exactly if thirteen digits have no more than 64 bits;
* `MapsExactly` : mappings that are a text's numbers added up, without bounds;
* `numbers_exact_iff` : what the same condition says of the mappings of a text.
-/

namespace ModuleBundler

/-! ## The texts of numbers -/

/-- The text of one number: digits of which all but the last say that more follow. -/
inductive NumberText : List Char → Prop
  | last {c : Char} {digit : Nat} : base64Value? c = some digit → digit < 32 → NumberText [c]
  | more {c : Char} {digit : Nat} {rest : List Char} :
    base64Value? c = some digit → 32 ≤ digit → NumberText rest → NumberText (c :: rest)

/-- The five bits of a digit that carry the value. -/
def payload (c : Char) : Nat := (base64Value? c).getD 0 % 32

/-- The sum of the digits, the first of which is the lowest. It may have any number of bits. -/
def exactCode (number : List Char) : Nat := Nat.ofDigits 32 (number.map payload)

/-- The text denotes the value: the sum of its digits is twice the size of the value and one more if
the sign is set. -/
def Denotes (number : List Char) (value : Int) : Prop :=
  ∃ sign < 2, exactCode number = 2 * value.natAbs + sign ∧
    value = if sign = 1 then -(value.natAbs : Int) else (value.natAbs : Int)

theorem exactCode_cons (c : Char) (cs : List Char) :
    exactCode (c :: cs) = payload c + 32 * exactCode cs := Nat.ofDigits_cons ..

/-- Twelve digits have sixty bits. -/
theorem exactCode_lt {number : List Char} (h : number.length ≤ 12) : exactCode number < 2 ^ 64 := by
  have hdigits : ∀ digit ∈ number.map payload, digit < 32 := by
    intro digit hdigit
    obtain ⟨c, -, rfl⟩ := List.mem_map.mp hdigit
    exact Nat.mod_lt _ (by decide)
  have hsum := Nat.ofDigits_lt_base_pow_length (by decide) hdigits
  have hpow : 32 ^ (number.map payload).length ≤ 32 ^ 12 :=
    Nat.pow_le_pow_right (by decide) (by simpa using h)
  unfold exactCode
  omega

theorem payload_eq {c : Char} {digit : Nat} (h : base64Value? c = some digit) :
    payload c = digit % 32 := by rw [payload, h, Option.getD_some]

theorem not_numberText_nil : ¬ NumberText [] := by
  intro h
  cases h

theorem not_numberText_cons {c : Char} {rest : List Char} (h : base64Value? c = none) :
    ¬ NumberText (c :: rest) := by
  intro hnumber
  cases hnumber with
  | last hvalue => simp [h] at hvalue
  | more hvalue => simp [h] at hvalue

theorem numberText_cons_iff {c : Char} {digit : Nat} {rest : List Char}
    (h : base64Value? c = some digit) :
    NumberText (c :: rest) ↔ if digit < 32 then rest = [] else NumberText rest := by
  constructor
  · intro hnumber
    cases hnumber with
    | last hvalue hlast =>
      obtain rfl : digit = _ := Option.some.inj (h.symm.trans hvalue)
      rw [if_pos hlast]
    | more hvalue hmore hrest =>
      obtain rfl : digit = _ := Option.some.inj (h.symm.trans hvalue)
      rwa [if_neg (by omega)]
  · intro hrest
    split at hrest
    · rename_i hlast
      subst hrest
      exact .last h hlast
    · rename_i hmore
      exact .more h (by omega) hrest

/-- A text begins with the text of one number at most. -/
theorem NumberText.unique {number other rest rest' : List Char} (h : NumberText number)
    (h' : NumberText other) (heq : number ++ rest = other ++ rest') :
    number = other ∧ rest = rest' := by
  induction h generalizing other with
  | last hvalue hlast =>
    cases other with
    | nil => exact absurd h' not_numberText_nil
    | cons c other =>
      obtain ⟨rfl, hrest⟩ := List.cons.inj heq
      rw [numberText_cons_iff hvalue, if_pos hlast] at h'
      subst h'
      exact ⟨rfl, hrest⟩
  | more hvalue hmore _ ih =>
    cases other with
    | nil => exact absurd h' not_numberText_nil
    | cons c other =>
      obtain ⟨rfl, htail⟩ := List.cons.inj heq
      rw [numberText_cons_iff hvalue, if_neg (by omega)] at h'
      obtain ⟨rfl, hrest⟩ := ih h' htail
      exact ⟨rfl, hrest⟩

/-- The value of a sum of digits. -/
theorem denotes_iff {number : List Char} {value : Int} :
    Denotes number value ↔ value = ofSignedCode (exactCode number) := by
  unfold Denotes ofSignedCode
  constructor
  · rintro ⟨sign, hsign, hcode, hvalue⟩
    rw [hcode]
    split at hvalue <;> split <;> omega
  · rintro rfl
    refine ⟨exactCode number % 2, Nat.mod_lt _ (by decide), ?_, ?_⟩
    · split <;> omega
    · split <;> omega

/-- Only a sum of 64 bits is the same modulo `2 ^ 64`. -/
theorem ofSignedCode_mod_iff (code : Nat) :
    ofSignedCode (code % 2 ^ 64) = ofSignedCode code ↔ code < 2 ^ 64 := by
  constructor
  · intro h
    have hhalf := congrArg Int.natAbs h
    unfold ofSignedCode at hhalf
    split at hhalf <;> split at hhalf <;> omega
  · intro h
    rw [Nat.mod_eq_of_lt h]

/-! ## Reading one number -/

/-- A digit above those that are there, in 64 bits. -/
theorem or_shiftLeft_eq_mod {count code digit : Nat} (hcode : code < 2 ^ (5 * count))
    (hcount : count < 13) :
    code ||| (digit <<< (5 * count)) % UInt64.size = (code + 2 ^ (5 * count) * digit) % 2 ^ 64 := by
  have hsize : UInt64.size = 2 ^ (64 - 5 * count) * 2 ^ (5 * count) := by
    rw [← Nat.pow_add, Nat.sub_add_cancel (by omega)]
  have hpow : 2 ^ 64 = 2 ^ (5 * count) * 2 ^ (64 - 5 * count) := by
    rw [Nat.mul_comm, ← hsize]
    rfl
  -- The bits of the digit that fall off the top are those above `64 - 5 * count`.
  have hdigit : (digit <<< (5 * count)) % UInt64.size =
      (digit % 2 ^ (64 - 5 * count)) <<< (5 * count) := by
    rw [Nat.shiftLeft_eq, Nat.shiftLeft_eq, hsize, Nat.mul_mod_mul_right]
  have hlow : (code + 2 ^ (5 * count) * digit) % 2 ^ (5 * count) = code := by
    rw [Nat.add_mul_mod_self_left, Nat.mod_eq_of_lt hcode]
  have hhigh : (code + 2 ^ (5 * count) * digit) / 2 ^ (5 * count) = digit := by
    rw [Nat.add_mul_div_left _ _ (Nat.two_pow_pos _), Nat.div_eq_of_lt hcode, Nat.zero_add]
  rw [hdigit, Nat.or_comm, ← Nat.shiftLeft_add_eq_or_of_lt hcode, Nat.shiftLeft_eq, hpow,
    Nat.mod_mul, hlow, hhigh, Nat.mul_comm, Nat.add_comm]

/-- With a digit above it a code has five bits more. -/
theorem add_digit_lt {count code : Nat} (digit : Nat) (h : code < 2 ^ (5 * count)) :
    (code + 2 ^ (5 * count) * (digit % 32)) % 2 ^ 64 < 2 ^ (5 * (count + 1)) := by
  have hdigit : 2 ^ (5 * count) * (digit % 32) ≤ 2 ^ (5 * count) * 31 :=
    Nat.mul_le_mul_left _ (by omega)
  have hmod := Nat.mod_le (code + 2 ^ (5 * count) * (digit % 32)) (2 ^ 64)
  rw [Nat.mul_succ, Nat.pow_add]
  omega

/-- The digits above a digit are added with it or after it. -/
theorem add_digits_mod (count code digit others : Nat) :
    ((code + 2 ^ (5 * count) * digit) % 2 ^ 64 + 2 ^ (5 * (count + 1)) * others) % 2 ^ 64 =
      (code + 2 ^ (5 * count) * (digit + 32 * others)) % 2 ^ 64 := by
  rw [Nat.mod_add_mod, Nat.mul_succ, Nat.pow_add, Nat.mul_add, Nat.mul_assoc, Nat.add_assoc]

/-- A number that a text begins with has its first character. -/
theorem exists_number_cons_iff {c : Char} {text rest : List Char} {p : List Char → Prop} :
    (∃ number, c :: text = number ++ rest ∧ NumberText number ∧ p number) ↔
      ∃ others, text = others ++ rest ∧ NumberText (c :: others) ∧ p (c :: others) := by
  constructor
  · rintro ⟨number, htext, hnumber, hp⟩
    cases number with
    | nil => exact absurd hnumber not_numberText_nil
    | cons d others =>
      obtain ⟨rfl, hothers⟩ := List.cons.inj htext
      exact ⟨others, hothers, hnumber, hp⟩
  · rintro ⟨others, rfl, hnumber, hp⟩
    exact ⟨c :: others, rfl, hnumber, hp⟩

/-- The digits that are read on from are those of a number with thirteen digits at most, together
with the digits before. They are added up modulo `2 ^ 64`. -/
theorem decodeDigits_eq_some_iff {text rest : List Char} {value : Int} {count code : Nat}
    (hcode : count < 13 → code < 2 ^ (5 * count)) :
    decodeDigits count code text = some (value, rest) ↔
      ∃ number, text = number ++ rest ∧ NumberText number ∧ count + number.length ≤ 13 ∧
        value = ofSignedCode ((code + 2 ^ (5 * count) * exactCode number) % 2 ^ 64) := by
  induction text generalizing count code with
  | nil =>
    constructor
    · intro h
      cases h
    · rintro ⟨number, htext, hnumber, -⟩
      obtain ⟨rfl, -⟩ := List.append_eq_nil_iff.mp htext.symm
      exact absurd hnumber not_numberText_nil
  | cons c text ih =>
    rw [exists_number_cons_iff, decodeDigits]
    cases hvalue : base64Value? c with
    | none =>
      constructor
      · intro h
        cases h
      · rintro ⟨others, -, hnumber, -⟩
        exact absurd hnumber (not_numberText_cons hvalue)
    | some digit =>
      dsimp only
      simp only [numberText_cons_iff hvalue, exactCode_cons, payload_eq hvalue, List.length_cons]
      by_cases hcount : 13 ≤ count
      · rw [if_pos hcount]
        constructor
        · intro h
          cases h
        · rintro ⟨others, -, -, hlength, -⟩
          omega
      · rw [if_neg hcount, or_shiftLeft_eq_mod (hcode (by omega)) (by omega)]
        by_cases hlast : digit < 32
        · simp only [if_pos hlast, Option.some.injEq, Prod.mk.injEq]
          constructor
          · rintro ⟨rfl, rfl⟩
            exact ⟨[], rfl, rfl, by simp; omega, by simp [exactCode]⟩
          · rintro ⟨others, rfl, rfl, -, rfl⟩
            simp [exactCode]
        · have hnext : count + 1 < 13 →
              (code + 2 ^ (5 * count) * (digit % 32)) % 2 ^ 64 < 2 ^ (5 * (count + 1)) :=
            fun _ => add_digit_lt digit (hcode (by omega))
          simp only [if_neg hlast, ih hnext, add_digits_mod]
          refine exists_congr fun others => ?_
          rw [Nat.add_assoc, Nat.add_comm 1]

/-- What is read from a text is the number of at most thirteen digits that it begins with, and the
value is that of the sum of the digits modulo `2 ^ 64`. -/
theorem decodeVlq_eq_some_iff {text rest : List Char} {value : Int} :
    decodeVlq text = some (value, rest) ↔
      ∃ number, text = number ++ rest ∧ NumberText number ∧ number.length ≤ 13 ∧
        value = ofSignedCode (exactCode number % 2 ^ 64) := by
  have hread := @decodeDigits_eq_some_iff text rest value 0 0 fun _ => Nat.two_pow_pos _
  simp only [Nat.zero_add, Nat.mul_zero, Nat.pow_zero, Nat.one_mul] at hread
  exact hread

theorem decodeVlq_ne_none {number rest : List Char} (h : NumberText number)
    (hlength : number.length ≤ 13) : decodeVlq (number ++ rest) ≠ none := by
  rw [decodeVlq_eq_some_iff.mpr ⟨number, rfl, h, hlength, rfl⟩]
  exact Option.some_ne_none _

/-- What is read from the text is the number that stands there, and if that has no 64 bits nothing is
read. -/
structure ReadExactly (text : List Char) : Prop where
  exact : ∀ value rest, decodeVlq text = some (value, rest) →
    ∃ number, text = number ++ rest ∧ NumberText number ∧ Denotes number value
  refused : ∀ number rest, text = number ++ rest → NumberText number →
    2 ^ 64 ≤ exactCode number → decodeVlq text = none

/-- A number is read exactly unless it has thirteen digits, and then if it has no more than 64 bits:
with fewer digits it fits, and with more it is refused. -/
theorem readExactly_iff {text : List Char} :
    ReadExactly text ↔ ∀ number rest, text = number ++ rest → NumberText number →
      number.length = 13 → exactCode number < 2 ^ 64 := by
  constructor
  · rintro h number rest rfl hnumber hlength
    by_contra hlarge
    exact decodeVlq_ne_none hnumber (by omega) (h.refused number rest rfl hnumber (by omega))
  · intro h
    have hfits : ∀ number rest, text = number ++ rest → NumberText number →
        number.length ≤ 13 → exactCode number < 2 ^ 64 := by
      intro number rest htext hnumber hlength
      rcases Nat.lt_or_eq_of_le hlength with hshort | heq
      · exact exactCode_lt (by omega)
      · exact h number rest htext hnumber heq
    constructor
    · intro value rest hread
      obtain ⟨number, rfl, hnumber, hlength, rfl⟩ := decodeVlq_eq_some_iff.mp hread
      refine ⟨number, rfl, hnumber, denotes_iff.mpr ?_⟩
      exact (ofSignedCode_mod_iff _).mpr (hfits number rest rfl hnumber hlength)
    · rintro number rest rfl hnumber hlarge
      have hlong : 13 < number.length := by
        by_contra hshort
        have := hfits number rest rfl hnumber (by omega)
        omega
      cases hread : decodeVlq (number ++ rest) with
      | none => rfl
      | some read =>
        obtain ⟨value, rest'⟩ := read
        obtain ⟨other, htext, hother, hlength, -⟩ := decodeVlq_eq_some_iff.mp hread
        obtain ⟨rfl, -⟩ := hnumber.unique hother htext
        omega

/-! ## Bytes -/

/-- The characters of the same numbers as the bytes of a text in UTF-8. -/
def byteChars (text : List Char) : List Char :=
  (text.flatMap String.utf8EncodeChar).map Char.ofUInt8

/-- Digits are characters of one byte. -/
theorem base64Value?_eq_none {c : Char} (h : 128 ≤ c.toNat) : base64Value? c = none := by
  have hbelow : ∀ d : Char, d.toNat < 128 → ¬ c ≤ d := fun d hd hle => by
    have hnat : c.toNat ≤ d.toNat := UInt32.le_iff_toNat_le.mp hle
    omega
  have hne : ∀ d : Char, d.toNat < 128 → c ≠ d := fun d hd heq => by
    rw [heq] at h
    omega
  unfold base64Value?
  rw [if_neg fun h => hbelow 'Z' (by decide) h.2, if_neg fun h => hbelow 'z' (by decide) h.2,
    if_neg fun h => hbelow '9' (by decide) h.2, if_neg (hne '+' (by decide)),
    if_neg (hne '/' (by decide))]

theorem toNat_ofUInt8 {n : Nat} (h : n < 256) : (Char.ofUInt8 (.ofNat n)).toNat = n := by
  show (UInt8.ofNat n).toUInt32.toNat = n
  rw [UInt8.toNat_toUInt32]
  exact UInt8.toNat_ofNat_of_lt h

/-- A character of one byte stands for itself, and any other begins with one that is no digit. -/
theorem byteChars_cons (c : Char) (text : List Char) :
    byteChars (c :: text) = c :: byteChars text ∨
      base64Value? c = none ∧ ∃ d others, byteChars (c :: text) = d :: others ∧
        base64Value? d = none := by
  have hcons : byteChars (c :: text) =
      (String.utf8EncodeChar c).map Char.ofUInt8 ++ byteChars text := by simp [byteChars]
  rw [hcons, utf8EncodeChar_eq]
  split
  · rename_i hone
    apply Or.inl
    have hsame : Char.ofUInt8 (.ofNat c.toNat) = c := Char.toNat_inj.mp (toNat_ofUInt8 (by omega))
    rw [List.map_singleton, hsame, List.singleton_append]
  · rename_i hmore
    apply Or.inr
    refine ⟨base64Value?_eq_none (by omega), ?_⟩
    split
    · exact ⟨_, _, rfl, base64Value?_eq_none (by rw [toNat_ofUInt8] <;> omega)⟩
    · split
      · exact ⟨_, _, rfl, base64Value?_eq_none (by rw [toNat_ofUInt8] <;> omega)⟩
      · exact ⟨_, _, rfl, base64Value?_eq_none (by rw [toNat_ofUInt8] <;> omega)⟩

theorem decodeDigits_byteChars (count code : Nat) (text : List Char) :
    decodeDigits count code (byteChars text) =
      (decodeDigits count code text).map fun read => (read.1, byteChars read.2) := by
  induction text generalizing count code with
  | nil => rfl
  | cons c text ih =>
    rcases byteChars_cons c text with hsame | ⟨hnone, d, others, hbytes, hd⟩
    · rw [hsame, decodeDigits, decodeDigits]
      cases base64Value? c with
      | none => rfl
      | some digit =>
        dsimp only
        split
        · rfl
        · split
          · rfl
          · exact ih _ _
    · rw [hbytes, decodeDigits, decodeDigits, hd, hnone]
      rfl

/-- The bytes of a text are read as the text is. -/
theorem decodeVlq_byteChars (text : List Char) :
    decodeVlq (byteChars text) = (decodeVlq text).map fun read => (read.1, byteChars read.2) :=
  decodeDigits_byteChars 0 0 text

/-! ## The numbers of a mapping -/

/-- What is read from a text in which numbers stand in a row: as many numbers as there are, none of
which has more than thirteen digits, and of their sums the lowest 64 bits. -/
theorem exists_of_decodeFields {count : Nat} {text : List Char} {values : List Int}
    (h : decodeFields count text = some values) :
    ∃ numbers : List (List Char), text = numbers.flatten ∧
      (∀ n ∈ numbers, NumberText n ∧ n.length ≤ 13) ∧
      values = numbers.map fun n => ofSignedCode (exactCode n % 2 ^ 64) := by
  induction count generalizing text values with
  | zero =>
    cases text with
    | nil =>
      obtain rfl : [] = values := Option.some.inj h
      exact ⟨[], rfl, by simp, rfl⟩
    | cons c text => cases h
  | succ count ih =>
    cases text with
    | nil =>
      obtain rfl : [] = values := Option.some.inj h
      exact ⟨[], rfl, by simp, rfl⟩
    | cons c text =>
      obtain ⟨⟨value, rest⟩, hvalue, h⟩ := Option.bind_eq_some_iff.mp h
      obtain ⟨others, hothers, h⟩ := Option.bind_eq_some_iff.mp h
      obtain rfl : value :: others = values := Option.some.inj h
      obtain ⟨number, htext, hnumber, hlength, rfl⟩ := decodeVlq_eq_some_iff.mp hvalue
      obtain ⟨numbers, rfl, hnumbers, rfl⟩ := ih hothers
      exact ⟨number :: numbers, htext, List.forall_mem_cons.mpr ⟨⟨hnumber, hlength⟩, hnumbers⟩, rfl⟩

/-- A text in which numbers stand in a row goes on after some of them with the others. -/
theorem eq_append_of_flatten_eq {before numbers : List (List Char)} {rest : List Char}
    (hbefore : ∀ n ∈ before, NumberText n) (hnumbers : ∀ n ∈ numbers, NumberText n)
    (h : before.flatten ++ rest = numbers.flatten) :
    ∃ others, numbers = before ++ others ∧ rest = others.flatten := by
  induction before generalizing numbers with
  | nil => exact ⟨numbers, rfl, h⟩
  | cons n before ih =>
    obtain ⟨hn, hrow⟩ := List.forall_mem_cons.mp hbefore
    rw [List.flatten_cons, List.append_assoc] at h
    cases numbers with
    | nil =>
      obtain ⟨rfl, -⟩ := List.append_eq_nil_iff.mp h
      exact absurd hn not_numberText_nil
    | cons first numbers =>
      obtain ⟨hfirst, hmore⟩ := List.forall_mem_cons.mp hnumbers
      obtain ⟨rfl, hrest⟩ := hn.unique hfirst h
      obtain ⟨others, rfl, hothers⟩ := ih hrow hmore hrest
      exact ⟨others, rfl, hothers⟩

/-- A text is made of numbers in one way at most. -/
theorem eq_of_flatten_eq {numbers others : List (List Char)}
    (hnumbers : ∀ n ∈ numbers, NumberText n) (hothers : ∀ n ∈ others, NumberText n)
    (h : numbers.flatten = others.flatten) : numbers = others := by
  rw [← List.append_nil numbers.flatten] at h
  obtain ⟨more, rfl, hmore⟩ := eq_append_of_flatten_eq hnumbers hothers h
  cases more with
  | nil => rw [List.append_nil]
  | cons n more =>
    obtain ⟨rfl, -⟩ := List.append_eq_nil_iff.mp hmore.symm
    exact absurd (hothers [] (by simp)) not_numberText_nil

/-- A number that stands in a text after other numbers. -/
def HasNumber (text number : List Char) : Prop :=
  ∃ (before : List (List Char)) (after : List Char), text = before.flatten ++ (number ++ after) ∧
    (∀ n ∈ before, NumberText n) ∧ NumberText number

/-- A text has just the numbers that it is made of. -/
theorem hasNumber_iff {text number : List Char} {numbers : List (List Char)}
    (htext : text = numbers.flatten) (hnumbers : ∀ n ∈ numbers, NumberText n) :
    HasNumber text number ↔ number ∈ numbers := by
  constructor
  · rintro ⟨before, after, heq, hbefore, hnumber⟩
    have hall : ∀ n ∈ before ++ [number], NumberText n :=
      List.forall_mem_append.mpr ⟨hbefore, List.forall_mem_singleton.mpr hnumber⟩
    have hrow : (before ++ [number]).flatten ++ after = numbers.flatten := by
      rw [← htext, heq]
      simp
    obtain ⟨others, rfl, -⟩ := eq_append_of_flatten_eq hall hnumbers hrow
    simp
  · intro h
    obtain ⟨before, after, rfl⟩ := List.append_of_mem h
    refine ⟨before, after.flatten, by simp [htext], fun n hn => hnumbers n (by simp [hn]), ?_⟩
    exact hnumbers number (by simp)

/-- The text is made of numbers that denote the values. -/
def DenotesAll (text : List Char) (values : List Int) : Prop :=
  ∃ numbers : List (List Char), text = numbers.flatten ∧ (∀ n ∈ numbers, NumberText n) ∧
    List.Forall₂ Denotes numbers values

theorem forall₂_denotes_iff {numbers : List (List Char)} {values : List Int} :
    List.Forall₂ Denotes numbers values ↔
      numbers.map (fun n => ofSignedCode (exactCode n)) = values := by
  have hdenotes : Denotes = fun number value => ofSignedCode (exactCode number) = value := by
    funext number value
    exact propext (denotes_iff.trans eq_comm)
  rw [← List.forall₂_eq_eq_eq, List.forall₂_map_left_iff, hdenotes]

/-- What the numbers of a text are read as is what they denote if they all have no more than 64 bits,
and otherwise not. -/
theorem denotesAll_iff {count : Nat} {text : List Char} {values : List Int}
    (h : decodeFields count text = some values) :
    (∀ number, HasNumber text number → number.length ≤ 13) ∧
      (DenotesAll text values ↔ ∀ number, HasNumber text number → exactCode number < 2 ^ 64) := by
  obtain ⟨numbers, htext, hnumbers, rfl⟩ := exists_of_decodeFields h
  have htexts : ∀ n ∈ numbers, NumberText n := fun n hn => (hnumbers n hn).1
  simp only [hasNumber_iff htext htexts]
  refine ⟨fun n hn => (hnumbers n hn).2, ?_⟩
  -- Both sides say that each sum is the same modulo `2 ^ 64`.
  have hsame : List.Forall₂ Denotes numbers
      (numbers.map fun n => ofSignedCode (exactCode n % 2 ^ 64)) ↔
        ∀ n ∈ numbers, exactCode n < 2 ^ 64 := by
    rw [forall₂_denotes_iff, List.map_inj_left]
    exact forall₂_congr fun n _ => eq_comm.trans (ofSignedCode_mod_iff _)
  rw [← hsame]
  constructor
  · rintro ⟨others, hothers, hall, hdenotes⟩
    rwa [eq_of_flatten_eq hall htexts (hothers.symm.trans htext)] at hdenotes
  · exact fun hdenotes => ⟨numbers, htext, htexts, hdenotes⟩

/-! ## Mappings -/

/-- A difference that was added is the difference. -/
theorem eq_difference_of_offsetBy {base sum : Nat} {change : Int}
    (h : offsetBy base change = some sum) : change = difference sum base := by
  simp only [offsetBy] at h
  unfold difference
  split at h
  · obtain rfl := Option.some.inj h
    omega
  · cases h

/-- The numbers that a mapping is read from are its own, relative to those before. -/
theorem decodeFields_of_decodeMapping {b : MappingBase} {line : Nat} {segment : List Char}
    {m : Mapping} (h : decodeMapping b line segment = some m) :
    decodeFields segment.length segment = some (mappingFields b m) ∧ m.generated.line = line := by
  obtain ⟨fields, hfields, h⟩ := Option.bind_eq_some_iff.mp h
  rw [hfields]
  cases fields with
  | nil => cases h
  | cons column fields =>
    obtain ⟨place, hplace, h⟩ := Option.bind_eq_some_iff.mp h
    obtain ⟨origin, horigin, h⟩ := Option.bind_eq_some_iff.mp h
    obtain rfl := Option.some.inj h
    refine ⟨?_, rfl⟩
    unfold mappingFields
    rw [← eq_difference_of_offsetBy hplace]
    unfold decodeOrigin at horigin
    split at horigin
    · obtain rfl := Option.some.inj horigin
      rfl
    · obtain ⟨s, hs, horigin⟩ := Option.bind_eq_some_iff.mp horigin
      obtain ⟨l, hl, horigin⟩ := Option.bind_eq_some_iff.mp horigin
      obtain ⟨c, hc, horigin⟩ := Option.bind_eq_some_iff.mp horigin
      obtain rfl := Option.some.inj horigin
      simp [← eq_difference_of_offsetBy hs, ← eq_difference_of_offsetBy hl,
        ← eq_difference_of_offsetBy hc]
    · obtain ⟨s, hs, horigin⟩ := Option.bind_eq_some_iff.mp horigin
      obtain ⟨l, hl, horigin⟩ := Option.bind_eq_some_iff.mp horigin
      obtain ⟨c, hc, horigin⟩ := Option.bind_eq_some_iff.mp horigin
      obtain ⟨n, hn, horigin⟩ := Option.bind_eq_some_iff.mp horigin
      obtain rfl := Option.some.inj horigin
      simp [← eq_difference_of_offsetBy hs, ← eq_difference_of_offsetBy hl,
        ← eq_difference_of_offsetBy hc, ← eq_difference_of_offsetBy hn]
    · cases horigin

/-- The texts of the mappings of lines from a number on, with their lines. -/
def segmentsFrom : Nat → List (List Char) → List (Nat × List Char)
  | _, [] => []
  | line, text :: rest => (segments text).map (line, ·) ++ segmentsFrom (line + 1) rest

/-- The texts of the mappings of a text, with their lines. -/
def segmentsOf (text : String) : List (Nat × List Char) :=
  segmentsFrom 0 (text.toList.splitOn ';')

/-- The lines of mappings and their numbers relative to those before, the first after one on a
line. -/
def fieldsFrom (b : MappingBase) (line : Nat) : List Mapping → List (Nat × List Int)
  | [] => []
  | m :: rest =>
    let base := if m.generated.line = line then b else b.newLine
    (m.generated.line, mappingFields base m) :: fieldsFrom (base.after m) m.generated.line rest

/-- In lines that follow, the mappings begin with a new line. -/
theorem fieldsFrom_newLine {b : MappingBase} {line : Nat} {ms : List Mapping}
    (h : ∀ m ∈ ms, line + 1 ≤ m.generated.line) :
    fieldsFrom b line ms = fieldsFrom b.newLine (line + 1) ms := by
  cases ms with
  | nil => rfl
  | cons m rest =>
    have hline := h m List.mem_cons_self
    have hbase : (if m.generated.line = line + 1 then b.newLine else b.newLine.newLine) =
        b.newLine := ite_self _
    rw [fieldsFrom, fieldsFrom, if_neg (by omega), hbase]

/-- The numbers of a mapping were read from its text, in its line. -/
def ReadFromSegment (segment : Nat × List Char) (fields : Nat × List Int) : Prop :=
  segment.1 = fields.1 ∧ decodeFields segment.2.length segment.2 = some fields.2

/-- The mappings of a line are read from its segments, and others go on after them. -/
theorem forall₂_of_decodeLine {line : Nat} {b b' : MappingBase} {texts : List (List Char)}
    {ms : List Mapping} (h : decodeLine line b texts = some (ms, b')) :
    (∀ m ∈ ms, m.generated.line = line) ∧
      ∀ {others : List Mapping} {more : List (Nat × List Char)},
        List.Forall₂ ReadFromSegment more (fieldsFrom b' line others) →
          List.Forall₂ ReadFromSegment (texts.map (line, ·) ++ more)
            (fieldsFrom b line (ms ++ others)) := by
  induction texts generalizing b ms with
  | nil =>
    obtain ⟨rfl, rfl⟩ := Prod.mk.inj (Option.some.inj h)
    exact ⟨by simp, id⟩
  | cons segment texts ih =>
    obtain ⟨m, hm, h⟩ := Option.bind_eq_some_iff.mp h
    obtain ⟨⟨rest, last⟩, hrest, h⟩ := Option.bind_eq_some_iff.mp h
    obtain ⟨rfl, rfl⟩ := Prod.mk.inj (Option.some.inj h)
    obtain ⟨hfields, hline⟩ := decodeFields_of_decodeMapping hm
    obtain ⟨hlines, hothers⟩ := ih hrest
    refine ⟨List.forall_mem_cons.mpr ⟨hline, hlines⟩, fun hmore => ?_⟩
    rw [List.cons_append, fieldsFrom, if_pos hline, hline]
    exact .cons ⟨rfl, hfields⟩ (hothers hmore)

/-- The mappings of lines are read from their segments. -/
theorem forall₂_of_decodeLines {line : Nat} {b : MappingBase} {texts : List (List Char)}
    {ms : List Mapping} (h : decodeLines line b texts = some ms) :
    (∀ m ∈ ms, line ≤ m.generated.line) ∧
      List.Forall₂ ReadFromSegment (segmentsFrom line texts) (fieldsFrom b.newLine line ms) := by
  induction texts generalizing line b ms with
  | nil =>
    obtain rfl := Option.some.inj h
    exact ⟨by simp, .nil⟩
  | cons text texts ih =>
    obtain ⟨⟨first, last⟩, hfirst, h⟩ := Option.bind_eq_some_iff.mp h
    obtain ⟨others, hothers, h⟩ := Option.bind_eq_some_iff.mp h
    obtain rfl := Option.some.inj h
    obtain ⟨hlines, hread⟩ := forall₂_of_decodeLine hfirst
    obtain ⟨hlater, hmore⟩ := ih hothers
    rw [← fieldsFrom_newLine hlater] at hmore
    refine ⟨List.forall_mem_append.mpr ⟨fun m hm => ?_, fun m hm => ?_⟩, hread hmore⟩
    · exact Nat.le_of_eq (hlines m hm).symm
    · exact Nat.le_of_succ_le (hlater m hm)

/-- The mappings are the numbers of the text added up: each segment denotes the numbers of its
mapping relative to those before, with no bound on their bits. -/
def MapsExactly (text : String) (ms : List Mapping) : Prop :=
  List.Forall₂ (fun segment fields => segment.1 = fields.1 ∧ DenotesAll segment.2 fields.2)
    (segmentsOf text) (fieldsFrom .start 0 ms)

/-- A number that stands in a segment of the text. -/
def HasField (text : String) (number : List Char) : Prop :=
  ∃ segment ∈ segmentsOf text, HasNumber segment.2 number

/-- Where a relation holds of the members of two lists, another one that is then a property of the
first member holds of them if all members of the first list have that property. -/
theorem forall₂_iff_of_forall₂ {α β : Type} {related other : α → β → Prop} {p : α → Prop}
    {as : List α} {bs : List β} (h : List.Forall₂ related as bs)
    (hiff : ∀ a b, related a b → (other a b ↔ p a)) :
    List.Forall₂ other as bs ↔ ∀ a ∈ as, p a := by
  induction h with
  | nil => simp
  | cons hab _ ih => rw [List.forall₂_cons, List.forall_mem_cons, hiff _ _ hab, ih]

/-- What the mappings of a text are read from: fields of thirteen digits at most. The mappings are
exact if all fields have no more than 64 bits, and otherwise not. -/
theorem mapsExactly_iff {text : String} {ms : List Mapping} (h : decodeMappings text = some ms) :
    (∀ number, HasField text number → number.length ≤ 13) ∧
      (MapsExactly text ms ↔ ∀ number, HasField text number → exactCode number < 2 ^ 64) := by
  have hread : List.Forall₂ ReadFromSegment (segmentsOf text) (fieldsFrom .start 0 ms) :=
    (forall₂_of_decodeLines h).2
  constructor
  · rintro number ⟨segment, hsegment, hnumber⟩
    obtain ⟨fields, -, -, hfields⟩ := exists_of_forall₂ hread.flip hsegment
    exact (denotesAll_iff hfields).1 number hnumber
  · unfold MapsExactly
    rw [forall₂_iff_of_forall₂ hread fun segment fields hsegment => by
      rw [and_iff_right hsegment.1, (denotesAll_iff hsegment.2).2]]
    constructor
    · rintro hall number ⟨segment, hsegment, hnumber⟩
      exact hall segment hsegment number hnumber
    · exact fun hall segment hsegment number hnumber => hall number ⟨segment, hsegment, hnumber⟩

/-- **Numbers are read exactly if thirteen digits have no more than 64 bits.** Of a text the number
of at most thirteen digits is read that it begins with, with the lowest 64 bits of its sum. So what
is read is the number that stands there, and a number that does not fit is refused, exactly if that
is no number of thirteen digits and more than 64 bits. The mappings that are read from a text have no
fields of more digits, and they are exact if no field has more than 64 bits, and otherwise not. The
bytes of a text are read as its characters are. -/
theorem numbers_exact_iff (text : List Char) (mappings : String) :
    (∀ rest value, decodeVlq text = some (value, rest) ↔
      ∃ number, text = number ++ rest ∧ NumberText number ∧ number.length ≤ 13 ∧
        value = ofSignedCode (exactCode number % 2 ^ 64)) ∧
    (ReadExactly text ↔ ∀ number rest, text = number ++ rest → NumberText number →
      number.length = 13 → exactCode number < 2 ^ 64) ∧
    (∀ ms, decodeMappings mappings = some ms →
      (∀ number, HasField mappings number → number.length ≤ 13) ∧
      (MapsExactly mappings ms ↔
        ∀ number, HasField mappings number → exactCode number < 2 ^ 64)) ∧
    decodeVlq (byteChars text) = (decodeVlq text).map fun read => (read.1, byteChars read.2) :=
  ⟨fun _ _ => decodeVlq_eq_some_iff, readExactly_iff, fun _ => mapsExactly_iff,
    decodeVlq_byteChars text⟩

/-- Thirteen digits with a sum of `2 ^ 64 + 2`, which is `2 ^ 63 + 1` with its sign, are read as one.
As a mapping they give a column. -/
theorem thirteenthDigit_cut : ∃ text, text = "igggggggggggQ" ∧ NumberText text.toList ∧
    exactCode text.toList = 2 ^ 64 + 2 ∧ decodeVlq text.toList = some (1, []) ∧
    ¬ ReadExactly text.toList ∧ decodeMappings text = some [⟨⟨0, 1⟩, none⟩] ∧
    ¬ MapsExactly text [⟨⟨0, 1⟩, none⟩] := by
  have hread : decodeVlq "igggggggggggQ".toList = some (1, []) := by decide +kernel
  have hmappings : decodeMappings "igggggggggggQ" = some [⟨⟨0, 1⟩, none⟩] := by decide +kernel
  have hcode : exactCode "igggggggggggQ".toList = 2 ^ 64 + 2 := by decide +kernel
  have hnumber : NumberText "igggggggggggQ".toList := by
    obtain ⟨number, htext, hnumber, -⟩ := decodeVlq_eq_some_iff.mp hread
    rwa [htext, List.append_nil]
  have hfield : HasField "igggggggggggQ" "igggggggggggQ".toList := by
    refine ⟨(0, "igggggggggggQ".toList), by decide +kernel, [], [], ?_, by simp, hnumber⟩
    rw [List.append_nil]
    rfl
  refine ⟨_, rfl, hnumber, hcode, hread, fun h => ?_, hmappings, fun h => ?_⟩
  · have hsmall := readExactly_iff.mp h _ [] (List.append_nil _).symm hnumber (by decide)
    omega
  · have hsmall := (mapsExactly_iff hmappings).2.mp h _ hfield
    omega

end ModuleBundler
