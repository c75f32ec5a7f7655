import ModuleBundler.Text.Character

/-!
# What literals and names denote

* `decodeName` : the name that a text with `\u` escapes stands for;
* `decodeString` : the text that a string literal stands for, given with its quotes.

A character that an escape fails to denote becomes U+FFFD.
-/

namespace ModuleBundler

/-- The character of a number, if there is one. -/
def charOf? (code : Nat) : Option Char :=
  if code.isValidChar then some (Char.ofNat code) else none

/-- Stands for what is no character. -/
def replacementChar : Char := '\ufffd'

/-! ## Names -/

/-- Between characters, with so many of four hexadecimal digits to go, or inside braces. -/
inductive NameEscape where
  | text | digits (left value : Nat) | braces (value : Nat)

/-- Replaces escapes by what they denote. A malformed one ends with the character that spoils it,
and a value in braces spoils with the first digit beyond 32 bits. -/
def decodeNameChars : NameEscape → List Char → List Char
  | .text, [] => []
  | .text, '\\' :: [] => [replacementChar]
  | .text, '\\' :: _ :: '{' :: rest => decodeNameChars (.braces 0) rest
  | .text, '\\' :: _ :: rest => decodeNameChars (.digits 4 0) rest
  | .text, c :: rest => c :: decodeNameChars .text rest
  | .digits left value, c :: rest =>
    match digitValue? 16 c with
    | none => replacementChar :: decodeNameChars .text rest
    | some d =>
      if left ≤ 1 then
        (charOf? (value * 16 + d)).getD replacementChar :: decodeNameChars .text rest
      else decodeNameChars (.digits (left - 1) (value * 16 + d)) rest
  | .braces value, c :: rest =>
    if c = '}' then (charOf? value).getD replacementChar :: decodeNameChars .text rest
    else
      match digitValue? 16 c with
      | none => replacementChar :: decodeNameChars .text rest
      | some d =>
        if UInt32.size ≤ value * 16 then replacementChar :: decodeNameChars .text rest
        else decodeNameChars (.braces (value * 16 + d)) rest
  | _, [] => [replacementChar]

/-- The name that a text with escapes stands for. -/
def decodeName (raw : String) : String :=
  if raw.toList.contains '\\' then String.ofList (decodeNameChars .text raw.toList) else raw

/-! ## Strings -/

/-- Writes U+FFFD for a first half of a surrogate pair that nothing completed. -/
def flush (pending : Option Nat) (rest : List Char) : List Char :=
  if pending.isSome then replacementChar :: rest else rest

/-- The value of four hexadecimal digits. -/
def hexUnit? (a b c d : Char) : Option Nat := do
  let a ← digitValue? 16 a
  let b ← digitValue? 16 b
  let c ← digitValue? 16 c
  let d ← digitValue? 16 d
  pure (((a * 16 + b) * 16 + c) * 16 + d)

/-- What a backslash before one character denotes, or nothing if that is a line continuation. -/
def simpleEscape (c : Char) : Option Char :=
  match c with
  | 'b' => some '\x08'
  | 'f' => some '\x0c'
  | 'n' => some '\n'
  | 'r' => some '\r'
  | 't' => some '\t'
  | 'v' => some '\x0b'
  | c => if isLineTerminator c then none else some c

/-- Decodes the inside of a string literal. `braces` is the value of an escape in braces so far,
`pending` the first half of a surrogate pair. -/
def decodeStringChars : Option Nat → Option Nat → List Char → Option (List Char)
  | some _, _, [] => none
  | some value, pending, c :: rest =>
    if c = '}' then do
      let decoded ← charOf? value
      let rest ← decodeStringChars none none rest
      pure (flush pending (decoded :: rest))
    else do
      let d ← digitValue? 16 c
      decodeStringChars (some (value * 16 + d)) pending rest
  | none, pending, [] => some (flush pending [])
  | none, _, '\\' :: [] => none
  | none, pending, '\\' :: 'x' :: rest =>
    match rest with
    | a :: b :: rest => do
      let a ← digitValue? 16 a
      let b ← digitValue? 16 b
      let rest ← decodeStringChars none none rest
      pure (flush pending (Char.ofNat (a * 16 + b) :: rest))
    | _ => none
  | none, pending, '\\' :: 'u' :: '{' :: rest => decodeStringChars (some 0) pending rest
  | none, pending, '\\' :: 'u' :: a :: b :: c :: d :: rest => do
    let code ← hexUnit? a b c d
    if 0xd800 ≤ code ∧ code ≤ 0xdbff then decodeStringChars none (some code) rest
    else if 0xdc00 ≤ code ∧ code ≤ 0xdfff then
      let decoded :=
        match pending with
        | some high => Char.ofNat (0x10000 + (high - 0xd800) * 0x400 + (code - 0xdc00))
        | none => replacementChar
      let rest ← decodeStringChars none none rest
      pure (decoded :: rest)
    else
      let rest ← decodeStringChars none none rest
      pure (flush pending (Char.ofNat code :: rest))
  | none, _, '\\' :: 'u' :: _ => none
  | none, pending, '\\' :: '\r' :: '\n' :: rest => decodeStringChars none pending rest
  | none, pending, '\\' :: c :: rest =>
    if c = '0' ∧ ¬ (rest.head?.any Char.isDigit) then do
      let rest ← decodeStringChars none none rest
      pure (flush pending ('\x00' :: rest))
    else
      match simpleEscape c with
      | none => decodeStringChars none pending rest
      | some decoded => do
        let rest ← decodeStringChars none none rest
        pure (flush pending (decoded :: rest))
  | none, pending, c :: rest => do
    let rest ← decodeStringChars none none rest
    pure (flush pending (c :: rest))

/-- The text that a string literal denotes. Its first and last characters are its quotes. -/
def decodeString (raw : String) : Option String :=
  match raw.toList with
  | [] => none
  | first :: rest =>
    match rest.getLast? with
    | none => none
    | some last =>
      if first.utf8Size = 1 ∧ last.utf8Size = 1 then
        (decodeStringChars none none rest.dropLast).map String.ofList
      else none

end ModuleBundler
