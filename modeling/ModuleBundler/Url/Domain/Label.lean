import ModuleBundler.Unicode.Direction
import ModuleBundler.Unicode.Joining

/-!
# Labels of domain names

What the characters of a label may be next to each other, however each of them is allowed alone.

* `joinersFit` : whether the joiners of a label have something to join;
* `isOneDirection` : whether a label reads in one direction;
* `isRightToLeft` : which characters make all labels of a domain have to do so.
-/

namespace ModuleBundler

/-! ## Joiners -/

def zeroWidthNonJoiner : Char := '\u200c'

def zeroWidthJoiner : Char := '\u200d'

/-- Whether the first character that is not transparent joins as described. -/
def firstJoins (wanted : List Joining) : List Char → Bool
  | [] => false
  | c :: rest =>
    if wanted.contains (joining c) then true
    else if joining c = .transparent then firstJoins wanted rest
    else false

/-- Whether a joiner fits between the characters before it, which stand in reverse, and after it. A
virama before it suffices. One that keeps letters apart may also stand between letters that would
join. -/
def joinerFits (joiner : Char) (before after : List Char) : Bool :=
  before.head?.any isVirama ||
    (joiner = zeroWidthNonJoiner && firstJoins [.left, .dual] before &&
      firstJoins [.right, .dual] after)

/-- Whether all joiners fit that come after the characters `before`, which stand in reverse. -/
def joinersFitAfter (before : List Char) : List Char → Bool
  | [] => true
  | c :: rest =>
    ((c ≠ zeroWidthJoiner && c ≠ zeroWidthNonJoiner) || joinerFits c before rest) &&
      joinersFitAfter (c :: before) rest

/-- Whether the joiners of a label have something to join. -/
def joinersFit (label : List Char) : Bool := joinersFitAfter [] label

/-! ## Direction -/

/-- Whether a character is written from right to left. -/
def isRightToLeft (c : Char) : Bool :=
  match direction c with
  | .right | .arabicLetter | .arabicNumber => true
  | _ => false

/-- What may stand in text of either direction. -/
def isDirectionless : Direction → Bool
  | .europeanNumber | .separator | .terminator | .commonSeparator | .nonspacingMark
  | .boundaryNeutral | .neutral => true
  | _ => false

/-- Whether directions can follow a letter from left to right. -/
def followLeft (directions : List Direction) : Bool :=
  directions.all (fun d => d = .left || isDirectionless d) &&
    directions.getLast?.all fun d => d = .left || d = .europeanNumber

/-- Whether directions can follow a letter from right to left. Only one kind of digits may be among
them. -/
def followRight (directions : List Direction) : Bool :=
  directions.all (fun d =>
      d = .right || d = .arabicLetter || d = .arabicNumber || isDirectionless d) &&
    (directions.getLast?.all fun d =>
      d = .right || d = .arabicLetter || d = .europeanNumber || d = .arabicNumber) &&
    !(directions.contains .europeanNumber && directions.contains .arabicNumber)

/-- Whether a label reads in one direction, which its first character sets. Marks at the end do not
count. -/
def isOneDirection (label : List Char) : Bool :=
  match label.map direction with
  | [] => true
  | first :: rest =>
    let counted := (rest.reverse.dropWhile (· = .nonspacingMark)).reverse
    match first with
    | .left => followLeft counted
    | .right | .arabicLetter => followRight counted
    | _ => false

end ModuleBundler
