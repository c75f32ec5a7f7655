import ModuleBundler.Emit
import ModuleBundler.Graph.Discovery
import ModuleBundler.Link.Linkage
import ModuleBundler.Options

/-!
# Compiling a project

* `Bundle` : the code of a project as one module, and its source map;
* `compileGraph` : the bundle of a module graph; `compile` : the bundle of a project;
* `resultJson` : the JSON form of what comes of it.
-/

namespace ModuleBundler

/-- The code of a project as one module. -/
structure Bundle where
  code : String
  map : SourceMap

/-- The bundle of a module graph. -/
def compileGraph (options : CompileOptions) (g : ModuleGraph) : Except CompileError Bundle := do
  let linkage ← link g
  let needs := shake g linkage options.dropUnused
  let names := assignNames g linkage needs
  let output ← emit g linkage needs names
  pure ⟨output.code, output.map.build none options.includeSources⟩

/-- The bundle of the modules that the entry leads to. `cancelled` says after which loads the work
is given up. There is no answer if loading takes `rounds` or more rounds. -/
def compile (provider : ModuleProvider) (options : CompileOptions)
    (cancelled : List ModuleId → Bool) (rounds : Nat) : Option (Logged Bundle) :=
  (discover provider cancelled rounds).map fun discovered =>
    let result : Except CompileError Bundle := do
      let g ← discovered.result
      if cancelled discovered.loads then throw .cancelled
      compileGraph options g
    ⟨discovered.loads, result⟩

/-- What comes of a compilation, in JSON: either code with a map, or an error. -/
def resultJson : Except CompileError Bundle → JsonValue
  | .ok bundle =>
    .object [("code", .string bundle.code), ("map", bundle.map.toJson), ("error", .null)]
  | .error e => .object [("code", .null), ("map", .null), ("error", e.diagnostic.toJson)]

end ModuleBundler
