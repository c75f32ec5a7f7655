import ModuleBundler.Text.Base64

/-!
# Numbers of variable length

A number is written in base64 digits of which five bits carry its value, the lowest first. The sixth
bit says that more digits follow. The sign is the lowest bit of the value.

* `encodeVlq` : the digits of a number; `decodeVlq` : the number at the start of a text.
-/

namespace ModuleBundler

/-- The digits of a natural number. -/
def vlqDigits (n : Nat) : List Char :=
  if n < 32 then [base64Digit n] else base64Digit (n % 32 + 32) :: vlqDigits (n / 32)
termination_by n

/-- Twice the size of a number, with the sign as the lowest bit, in 64 bits. -/
def signedCode (value : Int) : Nat :=
  (2 * value.natAbs + if value < 0 then 1 else 0) % UInt64.size

/-- The digits of a number. -/
def encodeVlq (value : Int) : List Char := vlqDigits (signedCode value)

/-- The number whose code is given. -/
def ofSignedCode (code : Nat) : Int := if code % 2 = 1 then -(code / 2 : Nat) else (code / 2 : Nat)

/-- Reads on, with a code of `code` from `count` digits before. A number has no more than thirteen
digits, and 64 bits. -/
def decodeDigits (count code : Nat) : List Char → Option (Int × List Char)
  | [] => none
  | c :: rest =>
    match base64Value? c with
    | none => none
    | some digit =>
      if 13 ≤ count then none
      else
        let code := code ||| ((digit % 32) <<< (5 * count)) % UInt64.size
        if digit < 32 then some (ofSignedCode code, rest) else decodeDigits (count + 1) code rest

/-- The number at the start of a text and what follows it. -/
def decodeVlq (cs : List Char) : Option (Int × List Char) := decodeDigits 0 0 cs

end ModuleBundler
