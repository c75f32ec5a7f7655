import ModuleBundler.Link.Export

/-!
# What `export *` takes over

* `starWalk` : the modules that a module takes over exports from, and the specifiers of those
  outside;
* `exportNames` : the names that a module exports; `starSpecifiers` : the specifiers that it takes
  over exports from.

The walk keeps a stack of modules. It takes the top one and goes through what that takes over from
the last to the first. Modules that it has not met are noted and put on the stack.
-/

namespace ModuleBundler

/-- Something that exports are taken over from. -/
inductive StarTarget where
  | module (index : Nat)
  | external (specifier : String)
  deriving DecidableEq

namespace StarTarget

def ofStar : String × Dependency → StarTarget
  | (_, .module index) => module index
  | (specifier, .external) => external specifier

def module? : StarTarget → Option Nat
  | module index => some index
  | external _ => none

def specifier? : StarTarget → Option String
  | module _ => none
  | external specifier => some specifier

end StarTarget

/-- What a module takes over exports from. -/
def ModuleGraph.starTargets (g : ModuleGraph) (index : Nat) : List StarTarget :=
  ((g.modules[index]?).map fun m => m.stars.map StarTarget.ofStar).getD []

/-- The modules met, those whose stars are still to be looked at, and all that was met, in order. -/
structure StarWalk where
  visited : List Nat
  stack : List Nat
  met : List StarTarget

namespace StarWalk

def start (index : Nat) : StarWalk := ⟨[index], [index], []⟩

/-- Meets something that exports are taken over from. -/
def meet (walk : StarWalk) : StarTarget → StarWalk
  | .external specifier => { walk with met := walk.met ++ [.external specifier] }
  | .module index =>
    if index ∈ walk.visited then walk
    else ⟨index :: walk.visited, index :: walk.stack, walk.met ++ [.module index]⟩

/-- Takes so many modules from the stack. -/
def run (targets : Nat → List StarTarget) : Nat → StarWalk → StarWalk
  | 0, walk => walk
  | count + 1, walk =>
    match walk.stack with
    | [] => walk
    | top :: rest =>
      run targets count ((targets top).reverse.foldl meet { walk with stack := rest })

end StarWalk

/-- All that a module takes over exports from, also through other modules. Each module is on the
stack only once. -/
def starWalk (g : ModuleGraph) (index : Nat) : List StarTarget :=
  (StarWalk.run g.starTargets (g.size + 1) (.start index)).met

/-- The names that a module exports on its own. -/
def ModuleGraph.ownExportNames (g : ModuleGraph) (index : Nat) : List String :=
  ((g.modules[index]?).map fun m => m.record.exports.toList.map ExportSpecifier.exported).getD []

/-- The names that a module exports: its own in the order of the text, then those that it takes
over. -/
def exportNames (g : ModuleGraph) (index : Nat) : List String :=
  let taken := (starWalk g index).filterMap StarTarget.module?
  let names := (taken.flatMap g.ownExportNames).filter (· ≠ "default")
  (g.ownExportNames index ++ names).eraseDups

/-- The specifiers of modules outside that a module takes over exports from. -/
def starSpecifiers (g : ModuleGraph) (index : Nat) : List String :=
  ((starWalk g index).filterMap StarTarget.specifier?).eraseDups

end ModuleBundler
