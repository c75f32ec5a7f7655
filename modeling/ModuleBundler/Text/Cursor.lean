/-!
# Cursors into a text

* `Cursor` : a byte offset with the characters from there on;
* `Cursor.skip`, `Cursor.skipWhile`, `Cursor.advanceTo` : moving forward;
* `Cursor.upTo` : the characters between a cursor and a later offset;
* `byteLength` : the UTF-8 length of a list of characters.
-/

namespace ModuleBundler

/-- The number of bytes that the characters take in UTF-8. -/
def byteLength (cs : List Char) : Nat := cs.foldr (fun c length => c.utf8Size + length) 0

/-- A place in a text: its byte offset and what follows it. -/
structure Cursor where
  offset : Nat
  rest : List Char
  deriving Inhabited

namespace Cursor

/-- The start of a text. -/
def ofString (s : String) : Cursor := ⟨0, s.toList⟩

/-- Past the next character. The end stays where it is. -/
def skip (c : Cursor) : Cursor :=
  match c.rest with
  | [] => c
  | ch :: rest => ⟨c.offset + ch.utf8Size, rest⟩

/-- Past the characters up to the first that fails `p`. -/
def skipWhile (p : Char → Bool) (c : Cursor) : Cursor :=
  go c.offset c.rest
where
  go (offset : Nat) : List Char → Cursor
    | [] => ⟨offset, []⟩
    | ch :: rest => if p ch then go (offset + ch.utf8Size) rest else ⟨offset, ch :: rest⟩

/-- Past the next character if it is `ch`. -/
def skipIf (ch : Char) (c : Cursor) : Cursor :=
  if c.rest.head? = some ch then c.skip else c

/-- The first place at or after `target`, or the end. -/
def advanceTo (target : Nat) (c : Cursor) : Cursor :=
  go c.offset c.rest
where
  go (offset : Nat) : List Char → Cursor
    | [] => ⟨offset, []⟩
    | ch :: rest =>
      if target ≤ offset then ⟨offset, ch :: rest⟩ else go (offset + ch.utf8Size) rest

/-- The characters from the cursor up to the offset `stop`. -/
def upTo (stop : Nat) (c : Cursor) : List Char :=
  go c.offset c.rest
where
  go (offset : Nat) : List Char → List Char
    | [] => []
    | ch :: rest => if stop ≤ offset then [] else ch :: go (offset + ch.utf8Size) rest

/-- The text from the cursor up to the offset `stop`. -/
def textUpTo (stop : Nat) (c : Cursor) : String := String.ofList (c.upTo stop)

/-- The end of the text. -/
def toEnd (c : Cursor) : Cursor := ⟨c.offset + byteLength c.rest, []⟩

end Cursor
end ModuleBundler
