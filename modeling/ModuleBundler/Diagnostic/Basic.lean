import ModuleBundler.Json.Value
import ModuleBundler.ModuleId
import ModuleBundler.Text.LineIndex
import ModuleBundler.Text.Span

/-!
# Diagnostics

* `Position` : a line and a column for people;
* `ErrorKind` : what a failure is about;
* `Diagnostic` : all that is told of a failure.
-/

namespace ModuleBundler

/-- A line, counted from one, and a column, counted from zero in UTF-16 code units. -/
structure Position where
  line : Nat
  column : Nat
  deriving DecidableEq

/-- The position of a byte offset in a text. -/
def Position.ofOffset (source : String) (offset : Nat) : Position :=
  let place := (LineIndex.ofString source).place offset
  ⟨place.line + 1, place.column⟩

def Position.toJson (p : Position) : JsonValue :=
  .object [("line", .number p.line), ("column", .number p.column)]

/-- What a failure is about. -/
inductive ErrorKind where
  | crossOrigin | invalidUrl | load | parse | link | cancelled | internal
  deriving DecidableEq

namespace ErrorKind

def name : ErrorKind → String
  | .crossOrigin | .invalidUrl => "resolution"
  | .load => "load"
  | .parse => "parse"
  | .link => "link"
  | .cancelled => "cancelled"
  | .internal => "internal"

/-- Which of the failures of a kind it is. -/
def subName : ErrorKind → Option String
  | .crossOrigin => some "cross_origin"
  | .invalidUrl => some "invalid_url"
  | .load | .parse | .link | .cancelled | .internal => none

end ErrorKind

/-- All that is told of a failure. -/
structure Diagnostic where
  kind : ErrorKind
  code : String
  message : String
  module : Option ModuleId
  position : Option Position
  /-- The place in the text of the module. -/
  span : Option Span

def Diagnostic.toJson (d : Diagnostic) : JsonValue :=
  .object (
    [("kind", .string d.kind.name)] ++
    (d.kind.subName.toList.map fun name => ("sub_kind", .string name)) ++
    [("code", .string d.code), ("message", .string d.message),
     ("module", JsonValue.orNull (fun id => .string id.text) d.module),
     ("position", JsonValue.orNull Position.toJson d.position)])

end ModuleBundler
