import ModuleBundler.Json.Read

/-!
# Options of a compilation

* `CompileOptions` : whether unused declarations go, and what the source map holds;
* `CompileOptions.ofJson?` : the options that a JSON value describes.
-/

namespace ModuleBundler

structure CompileOptions where
  /-- Leave out declarations of other modules than the entry that nothing uses. -/
  dropUnused : Bool
  /-- Put the texts of the modules into the source map. -/
  includeSources : Bool
  deriving DecidableEq

namespace CompileOptions

def default : CompileOptions := ⟨true, true⟩

/-- The options that a JSON value describes, an object or a list. What it leaves out is as usual. -/
def ofJson? (v : JsonNode) : Option CompileOptions := do
  let fields ← v.fields? ["treeshake", "sourcesContent"] false
  let dropUnused ← JsonNode.field? fields "treeshake" JsonNode.bool? (some true)
  let includeSources ← JsonNode.field? fields "sourcesContent" JsonNode.bool? (some true)
  pure ⟨dropUnused, includeSources⟩

end CompileOptions
end ModuleBundler
