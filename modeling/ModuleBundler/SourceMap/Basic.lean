import ModuleBundler.Json.Read
import ModuleBundler.Json.Value
import ModuleBundler.SourceMap.Mappings

/-!
# Source maps

* `SourceMap` : a source map of version 3;
* `SourceMap.toJson`, `SourceMap.ofJson?` : its JSON form;
* `SourceMap.dataUrl`, `withSourceMapUrl` : how code says where its map is.
-/

namespace ModuleBundler

/-- A source map. -/
structure SourceMap where
  version : Nat
  file : Option String
  sources : List String
  /-- The text of each source, if the map holds them. -/
  sourcesContent : Option (List (Option String))
  names : List String
  /-- The mappings as text. -/
  mappings : String
  deriving DecidableEq

namespace SourceMap

/-- The mappings, if they are well formed. -/
def decoded (map : SourceMap) : Option (List Mapping) := decodeMappings map.mappings

def toJson (map : SourceMap) : JsonValue :=
  .object (
    [("version", .number map.version)] ++
    (map.file.toList.map fun file => ("file", .string file)) ++
    [("sources", .ofStrings map.sources)] ++
    (map.sourcesContent.toList.map fun contents =>
      ("sourcesContent", .array (contents.map (JsonValue.orNull .string)))) ++
    [("names", .ofStrings map.names), ("mappings", .string map.mappings)])

/-- The map that a JSON value describes. What is no part of a map is passed over. -/
def ofJson? (v : JsonNode) : Option SourceMap := do
  let fields ← v.fields? ["version", "file", "sources", "sourcesContent", "names", "mappings"] true
  let version ← JsonNode.field? fields "version" (JsonNode.natBelow? 256) none
  let file ← JsonNode.field? fields "file" (JsonNode.orNull? JsonNode.string?) (some none)
  let sources ← JsonNode.field? fields "sources" (JsonNode.list? JsonNode.string?) none
  let sourcesContent ← JsonNode.field? fields "sourcesContent"
    (JsonNode.orNull? (JsonNode.list? (JsonNode.orNull? JsonNode.string?))) (some none)
  let names ← JsonNode.field? fields "names" (JsonNode.list? JsonNode.string?) none
  let mappings ← JsonNode.field? fields "mappings" JsonNode.string? none
  pure { version, file, sources, sourcesContent, names, mappings }

def text (map : SourceMap) : String := map.toJson.compact

/-- A URL that holds the map itself. -/
def dataUrl (map : SourceMap) : String :=
  "data:application/json;charset=utf-8;base64," ++ base64 map.text

end SourceMap

/-- Code with a last line that says where its map is. -/
def withSourceMapUrl (code url : String) : String :=
  let lineEnd := if code.isEmpty || code.toList.getLast? = some '\n' then "" else "\n"
  code ++ lineEnd ++ "//# sourceMappingURL=" ++ url ++ "\n"

end ModuleBundler
