import ModuleBundler.SourceMap.Vlq
import ModuleBundler.Text.LineIndex

/-!
# Mappings

* `Mapping` : a place in the output and the place in a source that it comes from;
* `encodeMappings` : mappings as text, with a semicolon for each end of a line of the output and
  numbers relative to the mapping before;
* `decodeMappings` : the mappings of a text.
-/

namespace ModuleBundler

/-- A place in a source, by the index of the source, and the index of the name that stands there. -/
structure SourcePosition where
  source : Nat
  position : LineColumn
  name : Option Nat
  deriving DecidableEq

structure Mapping where
  generated : LineColumn
  origin : Option SourcePosition
  deriving DecidableEq

/-- The numbers of the last mapping, to which those of the next one are relative. -/
structure MappingBase where
  column : Nat
  source : Nat
  line : Nat
  sourceColumn : Nat
  name : Nat

namespace MappingBase

def start : MappingBase := ⟨0, 0, 0, 0, 0⟩

/-- At the start of a line only the column in the output begins anew. -/
def newLine (b : MappingBase) : MappingBase := { b with column := 0 }

/-- After a mapping. -/
def after (b : MappingBase) (m : Mapping) : MappingBase :=
  match m.origin with
  | none => { b with column := m.generated.column }
  | some o =>
    ⟨m.generated.column, o.source, o.position.line, o.position.column, o.name.getD b.name⟩

end MappingBase

/-! ## Writing -/

def difference (a b : Nat) : Int := (a : Int) - (b : Int)

/-- The numbers of a mapping relative to those before. -/
def mappingFields (b : MappingBase) (m : Mapping) : List Int :=
  difference m.generated.column b.column ::
    match m.origin with
    | none => []
    | some o =>
      [difference o.source b.source, difference o.position.line b.line,
        difference o.position.column b.sourceColumn] ++
        match o.name with
        | none => []
        | some name => [difference name b.name]

/-- Mappings in order, from a line on in which there is one already or not. The text ends in the
line `lastLine`. -/
def encodeFrom (lastLine : Nat) (b : MappingBase) (line : Nat) (isFirst : Bool) :
    List Mapping → List Char
  | [] => List.replicate (lastLine - line) ';'
  | m :: rest =>
    let breaks := m.generated.line - line
    let separator :=
      if breaks = 0 then (if isFirst then [] else [',']) else List.replicate breaks ';'
    let b := if breaks = 0 then b else b.newLine
    separator ++ (mappingFields b m).flatMap encodeVlq ++
      encodeFrom lastLine (b.after m) m.generated.line false rest

/-- Mappings in order of their places in an output whose last line is `lastLine`. -/
def encodeMappings (lastLine : Nat) (mappings : List Mapping) : String :=
  String.ofList (encodeFrom lastLine .start 0 true mappings)

/-! ## Reading -/

/-- The numbers that a text is made of. -/
def decodeFields : Nat → List Char → Option (List Int)
  | _, [] => some []
  | 0, _ => none
  | count + 1, cs => do
    let (value, rest) ← decodeVlq cs
    let values ← decodeFields count rest
    pure (value :: values)

/-- A sum, if it is a number of 32 bits. -/
def offsetBy (base : Nat) (change : Int) : Option Nat :=
  let sum := (base : Int) + change
  if 0 ≤ sum ∧ sum < UInt32.size then some sum.toNat else none

/-- The place in a source that the numbers after the first one give. -/
def decodeOrigin (b : MappingBase) : List Int → Option (Option SourcePosition)
  | [] => some none
  | [source, line, column] => do
    let source ← offsetBy b.source source
    let line ← offsetBy b.line line
    let column ← offsetBy b.sourceColumn column
    pure (some ⟨source, ⟨line, column⟩, none⟩)
  | [source, line, column, name] => do
    let source ← offsetBy b.source source
    let line ← offsetBy b.line line
    let column ← offsetBy b.sourceColumn column
    let name ← offsetBy b.name name
    pure (some ⟨source, ⟨line, column⟩, some name⟩)
  | _ => none

/-- A mapping in a line, relative to those before. -/
def decodeMapping (b : MappingBase) (line : Nat) (segment : List Char) : Option Mapping := do
  match ← decodeFields segment.length segment with
  | column :: fields => do
    let column ← offsetBy b.column column
    let origin ← decodeOrigin b fields
    pure ⟨⟨line, column⟩, origin⟩
  | [] => none

/-- The mappings of a line and the numbers after the last of them. -/
def decodeLine (line : Nat) :
    MappingBase → List (List Char) → Option (List Mapping × MappingBase)
  | b, [] => some ([], b)
  | b, segment :: rest => do
    let m ← decodeMapping b line segment
    let (ms, b) ← decodeLine line (b.after m) rest
    pure (m :: ms, b)

/-- The mappings of the lines from a number on. -/
def decodeLines : Nat → MappingBase → List (List Char) → Option (List Mapping)
  | _, _, [] => some []
  | line, b, text :: rest => do
    let segments := (text.splitOn ',').filter fun s => !s.isEmpty
    let (ms, b) ← decodeLine line b.newLine segments
    let others ← decodeLines (line + 1) b rest
    pure (ms ++ others)

/-- The mappings of a text, if it is well formed. -/
def decodeMappings (text : String) : Option (List Mapping) :=
  decodeLines 0 .start (text.toList.splitOn ';')

end ModuleBundler
