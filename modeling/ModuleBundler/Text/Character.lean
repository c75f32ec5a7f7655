import ModuleBundler.Unicode.Alphabetic
import ModuleBundler.Unicode.Numeric

/-!
# Character classes of module code

* `isLineTerminator`, `isWhitespace` : what separates tokens;
* `isIdentifierStart`, `isIdentifierContinue` : what names are made of;
* `digitValue?` : the value of a digit up to radix 36; `isDigit` also admits the separator `_`;
* `isIdentifierName` : a whole text made of name characters.
-/

namespace ModuleBundler

/-- Line feed, carriage return, line separator and paragraph separator end a line. -/
def isLineTerminator (c : Char) : Bool :=
  c = '\n' || c = '\r' || c = '\u2028' || c = '\u2029'

/-- The blanks between tokens. A line terminator is not one of them. -/
def isWhitespace (c : Char) : Bool :=
  c = '\t' || c = '\x0b' || c = '\x0c' || c = ' ' || c = '\u00a0' || c = '\u1680' ||
    (0x2000 ≤ c.toNat && c.toNat ≤ 0x200a) || c = '\u202f' || c = '\u205f' || c = '\u3000' ||
    c = '\ufeff'

/-- Characters that a name may begin with. Beyond ASCII these are the alphabetic ones. -/
def isIdentifierStart (c : Char) : Bool :=
  c.isAlpha || c = '$' || c = '_' || (0x80 ≤ c.toNat && isAlphabetic c)

/-- Characters that a name may go on with: also digits and the two zero-width joiners. -/
def isIdentifierContinue (c : Char) : Bool :=
  c.isAlphanum || c = '$' || c = '_' || c = '\u200c' || c = '\u200d' ||
    (0x80 ≤ c.toNat && (isAlphabetic c || isNumeric c))

/-- The value of a digit or letter as a digit below `radix`. -/
def digitValue? (radix : Nat) (c : Char) : Option Nat :=
  let value :=
    if '0' ≤ c ∧ c ≤ '9' then c.toNat - '0'.toNat
    else if 'a' ≤ c ∧ c ≤ 'z' then c.toNat - 'a'.toNat + 10
    else if 'A' ≤ c ∧ c ≤ 'Z' then c.toNat - 'A'.toNat + 10
    else radix
  if value < radix then some value else none

/-- Whether a character may stand in a number of the given radix. -/
def isDigit (radix : Nat) (c : Char) : Bool :=
  c = '_' || (digitValue? radix c).isSome

/-- Whether a whole text is a name, a reserved word or not. -/
def isIdentifierName : List Char → Bool
  | [] => false
  | c :: rest => isIdentifierStart c && rest.all isIdentifierContinue

end ModuleBundler
