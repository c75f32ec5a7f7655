import ModuleBundler.Text.Character
import ModuleBundler.Text.Cursor
import ModuleBundler.Text.Utf16

/-!
# Lines and columns

* `LineColumn` : a place as a line and a column, both from zero, in UTF-16 code units;
* `LineIndex` : where the lines of a text begin;
* `LineIndex.place` : the line and column of a byte offset;
* `LineIndex.lineStart`, `LineIndex.lineCount`.
-/

namespace ModuleBundler

/-- A line and a column, both counted from zero. Columns count UTF-16 code units. -/
structure LineColumn where
  line : Nat
  column : Nat
  deriving DecidableEq, Inhabited

/-- Where the lines of a text begin. -/
structure LineIndex where
  first : Cursor
  others : List Cursor
  /-- The length of the text in bytes. -/
  size : Nat

/-- The places right after each line terminator. A carriage return and a line feed end one line
together. -/
def lineBreaks : Nat → List Char → List Cursor
  | _, [] => []
  | offset, '\r' :: '\n' :: rest => ⟨offset + 2, rest⟩ :: lineBreaks (offset + 2) rest
  | offset, c :: rest =>
    if isLineTerminator c then
      ⟨offset + c.utf8Size, rest⟩ :: lineBreaks (offset + c.utf8Size) rest
    else lineBreaks (offset + c.utf8Size) rest

namespace LineIndex

def ofString (text : String) : LineIndex :=
  ⟨.ofString text, lineBreaks 0 text.toList, text.utf8ByteSize⟩

def lineCount (index : LineIndex) : Nat := index.others.length + 1

/-- The offset at which a line begins. Lines beyond the last one begin at the end. -/
def lineStart (index : LineIndex) (line : Nat) : Nat :=
  (((index.first :: index.others)[line]?).map Cursor.offset).getD index.size

/-- The last of the lines, counted on from `line`, that begins at or before an offset. -/
def lineAt (offset : Nat) : Nat → Cursor → List Cursor → Nat × Cursor
  | line, start, [] => (line, start)
  | line, start, next :: rest =>
    if next.offset ≤ offset then lineAt offset (line + 1) next rest else (line, start)

/-- The number of UTF-16 code units of the characters that end at or before an offset. -/
def unitsUpTo (stop : Nat) : Nat → List Char → Nat
  | _, [] => 0
  | offset, c :: rest =>
    if offset + c.utf8Size ≤ stop then utf16Size c + unitsUpTo stop (offset + c.utf8Size) rest
    else 0

/-- The line and column of a byte offset. An offset inside a character means the character's start,
one beyond the text its end. -/
def place (index : LineIndex) (offset : Nat) : LineColumn :=
  let (line, start) := lineAt offset 0 index.first index.others
  ⟨line, unitsUpTo offset start.offset start.rest⟩

end LineIndex
end ModuleBundler
