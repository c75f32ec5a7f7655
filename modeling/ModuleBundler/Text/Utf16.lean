/-!
# UTF-16 code units

* `utf16Units` : the code units of a character, `utf16Length` the number of those of a text;
* `utf16Before` : the order of texts by their code units.
-/

namespace ModuleBundler

/-- The UTF-16 code units that encode a character. -/
def utf16Units (c : Char) : List Nat :=
  if c.toNat < 0x10000 then [c.toNat]
  else
    let above := c.toNat - 0x10000
    [0xd800 + above / 0x400, 0xdc00 + above % 0x400]

/-- The number of UTF-16 code units that encode a character. -/
def utf16Size (c : Char) : Nat := if c.toNat < 0x10000 then 1 else 2

/-- The number of UTF-16 code units that encode a text. -/
def utf16Length (cs : List Char) : Nat := cs.foldr (fun c length => utf16Size c + length) 0

/-- Whether the code units of one text come before or are those of the other. -/
def utf16Before (a b : String) : Bool :=
  compareOfLessAndEq (a.toList.flatMap utf16Units) (b.toList.flatMap utf16Units) ≠ .gt

end ModuleBundler
