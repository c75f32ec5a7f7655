import ModuleBundler.Link.Slot

/-!
# What exports stand for

* `resolveExport` : the slot behind an export of a module, through imports and other exports;
* `ExportCache` : the answers so far, `exportedSlot` an answer with the help of them.

Exports of their own come before those that a module takes over with `export *`. Of those the first
counts that a module of the graph has, and else the first module outside is said to have it. A
default export is never taken over.
-/

namespace ModuleBundler

/-- An export of a module, by index and name. -/
abbrev ExportKey := Nat × String

instance : LawfulBEq ExportKey := inferInstance

/-- The answers so far. -/
abbrev ExportCache := List (ExportKey × Option Slot)

/-- The first export of a name among those with names of their own. -/
def SourceModule.export? (m : SourceModule) (name : String) : Option ExportSpecifier :=
  m.record.exports.toList.find? fun e => e.exported = name

/-- What `export *` of a module takes over, in order: the specifiers of the requests with what they
lead to. -/
def SourceModule.stars (m : SourceModule) : List (String × Dependency) :=
  m.record.starExports.toList.filterMap m.request?

/-- The slot behind an export, once the exports `visiting` have led to it. -/
abbrev ExportLookup := List ExportKey → ExportKey → Except CompileError (Option Slot)

/-- What a module takes from another by a request: a slot, or what an export stands for. -/
def SourceModule.requestTarget (m : SourceModule) (request : Nat) (imported : Imported) :
    Except CompileError (Slot ⊕ ExportKey) :=
  match m.request? request, imported with
  | none, _ => .error (.internal .outOfRange)
  | some (specifier, .external), imported => .ok (.inl (.external specifier imported))
  | some (_, .module target), .all => .ok (.inl (.namespaceOf target))
  | some (_, .module target), .name name => .ok (.inr (target, name))

/-- The slot behind an export that a module relies on at a place, unless there is no such export. -/
def ModuleGraph.orMissing (g : ModuleGraph) (m : SourceModule) (key : ExportKey) (span : Span) :
    Option Slot → Except CompileError Slot
  | some slot => .ok slot
  | none => do
    let exporter ← g.getModule key.1
    .error (m.error (.link (.missingExport exporter.id key.2)) span)

/-- The import by which a module has a name, with the index of its request. -/
def SourceModule.importOf (m : SourceModule) (name : String) :
    Except CompileError (Nat × ImportSpecifier) :=
  match m.importSpecifiers.find? fun entry => entry.2.localName = name with
  | some entry => .ok entry
  | none => .error (.internal (.notImported name))

/-- The slot for what a module takes from another by a request. Failures are found at `span`. -/
def resolveRequest (g : ModuleGraph) (lookup : ExportLookup) (visiting : List ExportKey)
    (m : SourceModule) (request : Nat) (imported : Imported) (span : Span) :
    Except CompileError Slot := do
  match ← m.requestTarget request imported with
  | .inl slot => pure slot
  | .inr key =>
    if key ∈ visiting then .error (m.error (.link (.circularReexport key.2)) span)
    else
      let slot ← lookup visiting key
      g.orMissing m key span slot

/-- The slot for what a module imports under a name. -/
def resolveImport (g : ModuleGraph) (lookup : ExportLookup) (visiting : List ExportKey)
    (m : SourceModule) (name : String) : Except CompileError Slot := do
  let (request, s) ← m.importOf name
  resolveRequest g lookup visiting m request s.imported s.span

/-- The slot for an export that a module has by name. -/
def resolveOwnExport (g : ModuleGraph) (lookup : ExportLookup) (visiting : List ExportKey)
    (m : SourceModule) (index : Nat) (e : ExportSpecifier) : Except CompileError Slot :=
  match e.target with
  | .reexport request imported => resolveRequest g lookup visiting m request imported e.span
  | .binding name =>
    match m.record.scopes.moduleBinding? name with
    | none => .error (m.error (.link (.undeclaredExport name)) e.span)
    | some binding =>
      if m.record.scopes.bindingKind? binding = some .imported then
        resolveImport g lookup visiting m name
      else .ok (.declared index binding)

/-- The slot for an export that a module takes over. `outside` is the first module outside of the
graph that may have it. -/
def resolveStars (lookup : ExportLookup) (visiting : List ExportKey) (name : String) :
    Option Slot → List (String × Dependency) → Except CompileError (Option Slot)
  | outside, [] => .ok outside
  | outside, (specifier, .external) :: rest =>
    resolveStars lookup visiting name (outside.or (some (.external specifier (.name name)))) rest
  | outside, (_, .module target) :: rest =>
    if (target, name) ∈ visiting then resolveStars lookup visiting name outside rest
    else do
      match ← lookup visiting (target, name) with
      | some slot => pure (some slot)
      | none => resolveStars lookup visiting name outside rest

/-- The slot behind an export, with the answers so far, through no more than `depth` other
exports. -/
def resolveExport (g : ModuleGraph) (cache : ExportCache) : Nat → ExportLookup
  | 0, _, _ => .error (.internal .endlessExports)
  | depth + 1, visiting, key =>
    match cache.lookup key with
    | some slot => .ok slot
    | none => do
      let (index, name) := key
      let lookup := resolveExport g cache depth
      let visiting := key :: visiting
      let m ← g.getModule index
      match m.export? name with
      | some e => some <$> resolveOwnExport g lookup visiting m index e
      | none =>
        if name = "default" then pure none
        else resolveStars lookup visiting name none m.stars

/-- The number of names that exports and imports have in the graph. -/
def ModuleGraph.nameCount (g : ModuleGraph) : Nat :=
  g.modules.toList.foldr
    (fun m count => m.record.exports.size + m.importSpecifiers.length + count) 0

/-- No lookup leads through more exports than there are pairs of a module and a name. The name that
is asked for counts as one more. -/
def ModuleGraph.lookupDepth (g : ModuleGraph) : Nat := g.size * (g.nameCount + 1) + 1

/-- Work with the answers so far. -/
abbrev Linking := StateT ExportCache (Except CompileError)

/-- The slot behind an export of a module. The answer is kept. -/
def exportedSlot (g : ModuleGraph) (key : ExportKey) : Linking (Option Slot) := do
  let cache ← get
  let slot ← resolveExport g cache g.lookupDepth [] key
  set (if (cache.lookup key).isSome then cache else (key, slot) :: cache)
  pure slot

/-- The slot of an import of a module. The answer for the export behind it is kept. -/
def importedSlot (g : ModuleGraph) (m : SourceModule) (name : String) : Linking Slot := do
  let (request, s) ← m.importOf name
  match ← m.requestTarget request s.imported with
  | .inl slot => pure slot
  | .inr key =>
    let slot ← exportedSlot g key
    g.orMissing m key s.span slot

end ModuleBundler
