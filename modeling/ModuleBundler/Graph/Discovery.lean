import ModuleBundler.Grammar.Module
import ModuleBundler.Graph.Basic
import ModuleBundler.Resolution

/-!
# Discovering a module graph

Modules are loaded in rounds. What the modules of one round request and was not known before is
loaded in the next.

* `Discovery` : the ids met so far and the modules of the first of them;
* `loadFrontier` : a round of loads; `Discovery.addAll` : what it adds to the graph;
* `discover` : the graph of all modules that the entry leads to, and a log of the loads.
-/

namespace ModuleBundler

/-- What comes of work for which modules were loaded, in the order of the loads. -/
structure Logged (α : Type) where
  loads : List ModuleId
  result : Except CompileError α

/-- The ids met so far, in order, and the modules of the first of them. -/
structure Discovery where
  known : List ModuleId
  modules : Array SourceModule

namespace Discovery

/-- Nothing but the entry is known. -/
def start : Discovery := ⟨[.file entryPath], #[]⟩

/-- The ids whose modules are still to be loaded. -/
def frontier (d : Discovery) : List ModuleId := d.known.drop d.modules.size

end Discovery

/-! ## What requests lead to -/

/-- The dependency on what a specifier means, which is known from then on. -/
def dependencyOn (known : List ModuleId) : Resolution → Dependency × List ModuleId
  | .external => (.external, known)
  | .module id =>
    match known.idxOf? id with
    | some index => (.module index, known)
    | none => (.module known.length, known ++ [id])

/-- The dependencies of a module by its requests, in order. -/
def dependenciesOf (provider : ModuleProvider) (importer : ModuleId) (source : String) :
    List ModuleId → List ModuleRequest → Except CompileError (List Dependency × List ModuleId)
  | known, [] => .ok ([], known)
  | known, request :: rest =>
    match provider.resolve request.specifier importer with
    | .error e => .error ⟨.resolve e, some importer, some ⟨source, request.span⟩⟩
    | .ok resolution => do
      let (dependency, known) := dependencyOn known resolution
      let (others, known) ← dependenciesOf provider importer source known rest
      pure (dependency :: others, known)

/-! ## Rounds -/

/-- Loads modules in order. Those after which the work is cancelled are not loaded. -/
def loadFrontier (provider : ModuleProvider) (cancelled : List ModuleId → Bool)
    (loads : List ModuleId) :
    List ModuleId → List (ModuleId × Loaded CompileError) × List ModuleId
  | [] => ([], loads)
  | id :: rest =>
    if cancelled loads then
      let (others, loads) := loadFrontier provider cancelled loads rest
      ((id, .failed .cancelled) :: others, loads)
    else
      let loaded : Loaded CompileError :=
        match provider.load id with
        | .text text => .text text
        | .failed error => .failed ⟨.load error, some id, none⟩
        | .crashed message => .crashed message
      let (others, loads) := loadFrontier provider cancelled (loads ++ [id]) rest
      ((id, loaded) :: others, loads)

/-- What a loader said when it broke down. -/
def Loaded.crash? {error : Type} : Loaded error → Option String
  | .crashed message => some message
  | .text _ | .failed _ => none

namespace Discovery

/-- Adds the module of the next id. -/
def add (provider : ModuleProvider) (d : Discovery) (entry : ModuleId × Loaded CompileError) :
    Except CompileError Discovery :=
  let (id, loaded) := entry
  match loaded with
  | .failed error => .error error
  | .crashed message => .error (.internal (.crash message))
  | .text source =>
    match parseModule source with
    | .error e => .error ⟨.parse e, some id, some ⟨source, e.span⟩⟩
    | .ok record => do
      let (requests, known) ←
        dependenciesOf provider id source d.known record.requests.toList
      let (dynamicImports, known) ←
        dependenciesOf provider id source known
          (record.dynamicImports.toList.map DynamicImport.request)
      pure ⟨known, d.modules.push { id, source, record, requests, dynamicImports }⟩

/-- Adds the modules of a round. One that broke down stops all, wherever it stands; of other
failures the first counts. -/
def addAll (provider : ModuleProvider) (d : Discovery)
    (entries : List (ModuleId × Loaded CompileError)) : Except CompileError Discovery :=
  match entries.findSome? fun entry => entry.2.crash? with
  | some message => .error (.internal (.crash message))
  | none => entries.foldlM (add provider) d

/-- Loads rounds of modules until all that is known is loaded. -/
def run (provider : ModuleProvider) (cancelled : List ModuleId → Bool) :
    Nat → List ModuleId → Discovery → Option (Logged ModuleGraph)
  | 0, _, _ => none
  | rounds + 1, loads, d =>
    if d.frontier.isEmpty then some ⟨loads, .ok ⟨d.modules⟩⟩
    else if cancelled loads then some ⟨loads, .error .cancelled⟩
    else
      let (entries, loads) := loadFrontier provider cancelled loads d.frontier
      match d.addAll provider entries with
      | .error e => some ⟨loads, .error e⟩
      | .ok d => run provider cancelled rounds loads d

end Discovery

/-- The graph of all modules that the entry leads to. `cancelled` says after which loads the work is
given up. A network may lead on and on, so that there is no answer when that takes `rounds` or more
rounds of loads. -/
def discover (provider : ModuleProvider) (cancelled : List ModuleId → Bool) (rounds : Nat) :
    Option (Logged ModuleGraph) :=
  Discovery.run provider cancelled rounds [] .start

end ModuleBundler
