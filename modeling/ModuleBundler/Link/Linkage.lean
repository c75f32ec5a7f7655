import ModuleBundler.Link.Star
import ModuleBundler.Text.Utf16

/-!
# Linking

* `ModuleGraph.duplicateExport?` : a name that a module exports twice;
* `resolvedExports` : the exports of a module with their slots;
* `link` : the slots of all imports and exports of a graph.
-/

namespace ModuleBundler

/-- The first of the exports whose name one before has. -/
def duplicateExport? : List String → List ExportSpecifier → Option ExportSpecifier
  | _, [] => none
  | names, e :: rest =>
    if names.contains e.exported then some e else duplicateExport? (e.exported :: names) rest

/-- Fails at the first name that a module exports twice. -/
def ModuleGraph.checkExports (g : ModuleGraph) : Except CompileError Unit :=
  g.modules.toList.forM fun m =>
    match duplicateExport? [] m.record.exports.toList with
    | some e => .error (m.error (.link (.duplicateExport e.exported)) e.span)
    | none => .ok ()

/-- The slots of the variables that a module imports. -/
def linkImports (g : ModuleGraph) (m : SourceModule) : Linking (List (BindingId × Slot)) :=
  m.importSpecifiers.mapM fun (_, s) => do
    let slot ← importedSlot g m s.localName
    match m.record.scopes.moduleBinding? s.localName with
    | some binding => pure (binding, slot)
    | none => throw (.internal (.unboundImport s.localName))

/-- The exports of a module with their slots. A name that stars lead around in a circle has none and
is left out. -/
def resolvedExports (g : ModuleGraph) (index : Nat) : Linking ExportList := do
  let slots ← (exportNames g index).mapM fun name => do
    let slot ← exportedSlot g (index, name)
    pure (slot.map fun slot => (name, slot))
  pure (slots.filterMap id)

/-- Exports in the order of the code units of their names. -/
def sortExports (exports : ExportList) : ExportList :=
  exports.mergeSort fun a b => utf16Before a.1 b.1

/-- The modules of which the slots of exports hold the namespace. -/
def namespaceModules (exports : ExportList) : List Nat :=
  exports.filterMap fun e => e.2.namespaceModule?

/-- Adds the exports of modules to those of the modules `done`. Exports that hold a namespace in
turn lead on to its module. The last module of `pending` comes first. -/
def linkNamespaces (g : ModuleGraph) :
    Nat → List Nat → List (Nat × ExportList) → Linking (List (Nat × ExportList))
  | 0, _, done => pure done
  | count + 1, pending, done =>
    match pending.reverse.dropWhile fun index => (done.lookup index).isSome with
    | [] => pure done
    | index :: rest => do
      let exports ← resolvedExports g index
      let sorted := sortExports exports
      linkNamespaces g count (rest.reverse ++ namespaceModules sorted) ((index, sorted) :: done)

/-- Links the modules of a graph in which no module exports a name twice. -/
def linkModules (g : ModuleGraph) : Linking Linkage := do
  let imports ← g.modules.toList.mapM (linkImports g)
  let entryExports ← resolvedExports g 0
  let imported := imports.flatMap fun slots => slots.filterMap fun e => e.2.namespaceModule?
  let dynamic := g.modules.toList.flatMap fun m => m.dynamicImports.filterMap Dependency.module?
  let roots := imported ++ dynamic ++ namespaceModules entryExports
  let namespaces ← linkNamespaces g (g.size + 1) roots []
  pure {
    imports := imports.toArray
    namespaces := namespaces.mergeSort fun a b => a.1 ≤ b.1
    entryExports
    entryStars := starSpecifiers g 0 }

/-- The slots of all imports and exports of a graph. Every name that is imported has to be exported
where it comes from. -/
def link (g : ModuleGraph) : Except CompileError Linkage := do
  g.checkExports
  let (linkage, _) ← (linkModules g).run []
  pure linkage

end ModuleBundler
