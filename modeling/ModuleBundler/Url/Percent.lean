/-!
# Percent-encoding

* `percentEncode` : a text with some characters written as the bytes of their UTF-8 form;
* `percentDecode` : the bytes that a text stands for;
* `inControlSet`, `inFragmentSet`, `inQuerySet`, `inPathSet`, `inUserInfoSet` : which characters
  each part of a URL encodes.
-/

namespace ModuleBundler

/-! ## Sets of characters -/

/-- Control characters and all beyond ASCII. -/
def inControlSet (c : Char) : Bool := c.toNat < 0x20 || 0x7e < c.toNat

def inFragmentSet (c : Char) : Bool :=
  inControlSet c || c = ' ' || c = '"' || c = '<' || c = '>' || c = '\x60'

/-- What a query encodes. Those of special schemes encode the apostrophe too. -/
def inQuerySet (special : Bool) (c : Char) : Bool :=
  inControlSet c || c = ' ' || c = '"' || c = '#' || c = '<' || c = '>' || (special && c = '\'')

def inPathSet (c : Char) : Bool :=
  inFragmentSet c || c = '#' || c = '?' || c = '\x7b' || c = '\x7d'

def inUserInfoSet (c : Char) : Bool :=
  inPathSet c || c = '/' || c = ':' || c = ';' || c = '=' || c = '@' || c = '[' || c = '\\' ||
    c = ']' || c = '^' || c = '|'

/-! ## Encoding and decoding -/

def upperHexDigit (n : Nat) : Char :=
  if n < 10 then Char.ofNat ('0'.toNat + n) else Char.ofNat ('A'.toNat + (n - 10))

/-- A byte as a percent sign and two digits. -/
def percentByte (byte : UInt8) : List Char :=
  ['%', upperHexDigit (byte.toNat / 16), upperHexDigit (byte.toNat % 16)]

def percentEncodeChar (encoded : Char → Bool) (c : Char) : List Char :=
  if encoded c then (String.utf8EncodeChar c).flatMap percentByte else [c]

/-- A text with the characters of a set encoded. -/
def percentEncode (encoded : Char → Bool) (cs : List Char) : String :=
  String.ofList (cs.flatMap (percentEncodeChar encoded))

def hexDigit? (c : Char) : Option Nat :=
  if '0' ≤ c ∧ c ≤ '9' then some (c.toNat - '0'.toNat)
  else if 'a' ≤ c ∧ c ≤ 'f' then some (c.toNat - 'a'.toNat + 10)
  else if 'A' ≤ c ∧ c ≤ 'F' then some (c.toNat - 'A'.toNat + 10)
  else none

/-- The bytes of a text, with each percent sign and two digits as the byte that they encode. -/
def percentDecode : List Char → List UInt8
  | '%' :: a :: b :: rest =>
    match hexDigit? a, hexDigit? b with
    | some high, some low => UInt8.ofNat (high * 16 + low) :: percentDecode rest
    | _, _ => '%'.toUInt8 :: percentDecode (a :: b :: rest)
  | c :: rest => String.utf8EncodeChar c ++ percentDecode rest
  | [] => []

end ModuleBundler
