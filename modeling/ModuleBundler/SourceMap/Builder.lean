import ModuleBundler.SourceMap.Basic

/-!
# Building a source map

* `OutputPosition` : where the output stands, moved on by the text that is written;
* `MapBuilder` : the sources, names and mappings of an output so far;
* `MapBuilder.addSource`, `MapBuilder.addMapping`, `MapBuilder.advance`, `MapBuilder.build`.
-/

namespace ModuleBundler

/-- The end of an output. -/
structure OutputPosition where
  place : LineColumn
  /-- The last character was a carriage return, with which a line feed would make one line end. -/
  afterReturn : Bool
  deriving DecidableEq

namespace OutputPosition

def start : OutputPosition := ⟨⟨0, 0⟩, false⟩

/-- Past one character. -/
def step (p : OutputPosition) (c : Char) : OutputPosition :=
  if c = '\n' && p.afterReturn then { p with afterReturn := false }
  else if isLineTerminator c then ⟨⟨p.place.line + 1, 0⟩, c = '\r'⟩
  else ⟨⟨p.place.line, p.place.column + utf16Size c⟩, false⟩

/-- Past a text. -/
def advance (p : OutputPosition) (text : String) : OutputPosition := text.toList.foldl step p

end OutputPosition

/-- The sources, names and mappings of an output so far. -/
structure MapBuilder where
  position : OutputPosition
  sources : Array (String × Option String)
  names : Array String
  mappings : Array Mapping

namespace MapBuilder

def empty : MapBuilder := ⟨.start, #[], #[], #[]⟩

/-- Adds a source and answers its index. -/
def addSource (b : MapBuilder) (path : String) (content : Option String) : Nat × MapBuilder :=
  (b.sources.size, { b with sources := b.sources.push (path, content) })

/-- The index of a name, and the names with it among them. -/
def nameIndex (b : MapBuilder) (name : String) : Nat × Array String :=
  match b.names.idxOf? name with
  | some index => (index, b.names)
  | none => (b.names.size, b.names.push name)

/-- Maps the end of the output to a place in a source, unless it has been mapped already. -/
def addMapping (b : MapBuilder) (source : Nat) (place : LineColumn) (name : Option String) :
    MapBuilder :=
  if (b.mappings.back?.map Mapping.generated) = some b.position.place then b
  else
    match name.map b.nameIndex with
    | some (index, names) =>
      { b with
        names
        mappings := b.mappings.push ⟨b.position.place, some ⟨source, place, some index⟩⟩ }
    | none =>
      { b with
        mappings := b.mappings.push ⟨b.position.place, some ⟨source, place, none⟩⟩ }

/-- Moves the end of the output past a text. -/
def advance (b : MapBuilder) (text : String) : MapBuilder :=
  { b with position := b.position.advance text }

/-- The map of the output so far, with or without the texts of the sources. -/
def build (b : MapBuilder) (file : Option String) (includeContent : Bool) : SourceMap where
  version := 3
  file := file
  sources := b.sources.toList.map Prod.fst
  sourcesContent := if includeContent then some (b.sources.toList.map Prod.snd) else none
  names := b.names.toList
  mappings := encodeMappings b.position.place.line b.mappings.toList

end MapBuilder
end ModuleBundler
