import ModuleBundler.CompileError
import ModuleBundler.ModuleRecord

/-!
# Module graphs

* `SourceModule` : a module with its text, its record and what its requests lead to;
* `ModuleGraph` : the modules of a bundle, the entry first, known by their index;
* `ModuleGraph.order` : the order in which modules are evaluated, each after those it requests.
-/

namespace ModuleBundler

/-- What a request leads to. -/
inductive Dependency where
  /-- A module of the graph, by index. -/
  | module (index : Nat)
  | external
  deriving DecidableEq

def Dependency.module? : Dependency → Option Nat
  | .module index => some index
  | .external => none

/-- A module of a graph. -/
structure SourceModule where
  id : ModuleId
  source : String
  record : ModuleRecord
  /-- What each of the requests of the record leads to. -/
  requests : List Dependency
  /-- What each of the dynamic imports of the record leads to. -/
  dynamicImports : List Dependency

namespace SourceModule

/-- A failure at a place in the module. -/
def error (m : SourceModule) (cause : CompileError.Cause) (span : Span) : CompileError :=
  ⟨cause, some m.id, some ⟨m.source, span⟩⟩

/-- The modules that the module requests statically, in the order of the requests. -/
def requestedModules (m : SourceModule) : List Nat := m.requests.filterMap Dependency.module?

/-- Every import of a name, with the index of its request. -/
def importSpecifiers (m : SourceModule) : List (Nat × ImportSpecifier) :=
  m.record.imports.toList.flatMap fun decl => decl.specifiers.map fun s => (decl.request, s)

/-- The specifier of a request with what it leads to. -/
def request? (m : SourceModule) (index : Nat) : Option (String × Dependency) := do
  let request ← m.record.requests[index]?
  let dependency ← m.requests[index]?
  pure (request.specifier, dependency)

end SourceModule

/-- The modules of a bundle, the entry first. -/
structure ModuleGraph where
  modules : Array SourceModule

namespace ModuleGraph

def size (g : ModuleGraph) : Nat := g.modules.size

/-- The indices of all modules. -/
def indices (g : ModuleGraph) : List Nat := List.range g.size

/-- The module of an index. -/
def getModule (g : ModuleGraph) (index : Nat) : Except CompileError SourceModule :=
  match g.modules[index]? with
  | some m => .ok m
  | none => .error (.internal .outOfRange)

/-- The modules that a module requests. -/
def successors (g : ModuleGraph) (index : Nat) : List Nat :=
  ((g.modules[index]?).map SourceModule.requestedModules).getD []

/-- The modules at which a walk has been and, in the order in which it left them for good, those
that it has left. -/
structure Walk where
  visited : List Nat
  finished : List Nat

/-- Goes to a module unless the walk has been there: first on to all that it requests, to a depth,
then it is finished. -/
def visit (next : Nat → List Nat) : Nat → Walk → Nat → Walk
  | 0, walk, _ => walk
  | depth + 1, walk, index =>
    if index ∈ walk.visited then walk
    else
      let entered : Walk := ⟨index :: walk.visited, walk.finished⟩
      let walked := (next index).foldl (visit next depth) entered
      ⟨walked.visited, walked.finished ++ [index]⟩

/-- The order in which modules are evaluated: each after those that it requests, as far as they do
not request it in turn. What only dynamic imports lead to comes after what the entry requests. No
way without repetition is longer than there are modules. -/
def order (g : ModuleGraph) : List Nat :=
  (g.indices.foldl (visit g.successors g.size) ⟨[], []⟩).finished

/-- All modules, the entry first and the others in the order of their evaluation. -/
def entryFirst (g : ModuleGraph) : List Nat := 0 :: g.order.filter (· ≠ 0)

end ModuleGraph
end ModuleBundler
