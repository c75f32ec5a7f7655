import ModuleBundler.Unicode.Composite
import ModuleBundler.Unicode.Mark

/-!
# Normalization

* `decompose` : a character as those that it stands for;
* `orderMarks` : the marks on each character in order of their classes;
* `recompose` : a text with composite characters wherever there are such;
* `normalize` : the composed normal form of a text, which is Unicode's form C.
-/

namespace ModuleBundler

/-- What a character stands for, taken apart up to a depth. -/
def decomposeTo : Nat → Char → List Char
  | 0, c => [c]
  | depth + 1, c =>
    match Composite.split? c with
    | some parts => parts.flatMap (decomposeTo depth)
    | none => [c]

/-- A character as those that it stands for. None is made of composites more than three deep. -/
def decompose (c : Char) : List Char := decomposeTo 4 c

/-- Puts a character after others, which stand in reverse. A mark goes before those of higher
classes. -/
def placeMark (c : Char) : List Char → List Char
  | [] => [c]
  | d :: before =>
    if combiningClass c ≠ 0 ∧ combiningClass c < combiningClass d then d :: placeMark c before
    else c :: d :: before

/-- The marks on each character in order of their classes. -/
def orderMarks (cs : List Char) : List Char :=
  (cs.foldl (fun before c => placeMark c before) []).reverse

/-- Joins characters to one that they follow. What could not be joined to it stands in reverse and
bars marks of no higher class. -/
def recomposeAfter (first : Char) : List Char → List Char → List Char
  | between, [] => first :: between.reverse
  | between, c :: rest =>
    let isBarred := between.head?.any fun d => combiningClass c ≤ combiningClass d
    match if isBarred then none else Composite.join? first c with
    | some joined => recomposeAfter joined between rest
    | none =>
      if combiningClass c = 0 then first :: between.reverse ++ recomposeAfter c [] rest
      else recomposeAfter first (c :: between) rest

def recompose : List Char → List Char
  | [] => []
  | first :: rest => recomposeAfter first [] rest

/-- The composed normal form of a text. -/
def normalize (cs : List Char) : List Char :=
  if cs.all fun c => c.toNat < 0x80 then cs
  else recompose (orderMarks (cs.flatMap decompose))

end ModuleBundler
