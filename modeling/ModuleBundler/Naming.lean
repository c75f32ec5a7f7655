import ModuleBundler.Shake
import ModuleBundler.Token.Basic

/-!
# Names for the variables of a bundle

* `Names` : the name of each variable, and the variables that are imported from outside, in order;
* `freeName` : the first name in a series that is not taken;
* `assignNames` : names under which every use of a variable means that variable.

A variable keeps the name that it has in its module unless that is the name of another one, of a
global that some module reads, or of something declared around a use of the variable.
-/

namespace ModuleBundler

/-- Globals that the bundle reads around the code of the modules. -/
def bundleGlobals : List String := ["Object", "Promise", "Symbol"]

/-- The name of each variable of a bundle, and the variables that are imported from outside, in the
order of their imports. -/
structure Names where
  names : List (Slot × String)
  externals : List Slot

def Names.get? (n : Names) (slot : Slot) : Option String := n.names.lookup slot

/-! ## What has to be heeded -/

/-- What a use of a variable sees: the names declared around it. -/
structure SlotUse where
  slot : Slot
  hidden : List String

/-- The uses of variables in an item of a module. -/
def SourceModule.itemUses (m : SourceModule) (l : Linkage) (index : Nat) (item : ModuleItem) :
    List SlotUse :=
  let scopes := m.record.scopes
  let references := item.references.toList.filterMap fun r => do
    let slot ← l.referenceSlot m index r
    let reference ← scopes.references[r]?
    pure ⟨slot, scopes.namesEnclosing reference.scope⟩
  let dynamic := m.dynamicSlots.filterMap fun (dynamic, slot) =>
    if item.span.contains dynamic.span.start then
      some ⟨slot, scopes.namesEnclosing dynamic.scope⟩
    else none
  references ++ dynamic

/-- The uses of variables in all that the bundle needs. -/
def slotUses (g : ModuleGraph) (l : Linkage) (needs : Needs) : List SlotUse :=
  g.modules.toList.zipIdx.flatMap fun (m, index) =>
    (needs.keptItems m index).flatMap (m.itemUses l index)

/-- The names by which modules import variables, with the slots of those, in the order of the
modules. -/
def importAliases (g : ModuleGraph) (l : Linkage) : List (Slot × String) :=
  g.entryFirst.flatMap fun index =>
    match g.modules[index]? with
    | none => []
    | some m =>
      m.importSpecifiers.filterMap fun (_, s) => do
        let binding ← m.record.scopes.moduleBinding? s.localName
        let slot ← l.bindingSlot m index binding
        pure (slot, s.localName)

/-- Every global that some module reads. -/
def globalNames (g : ModuleGraph) : List String :=
  bundleGlobals ++ g.modules.toList.flatMap fun m => m.record.scopes.freeNames

/-! ## The variables -/

/-- The variables that the bundle imports from outside, in the order in which they are met: in the
imports of the modules, the exports of the entry and those of other modules. -/
def externalSlots (g : ModuleGraph) (l : Linkage) (needs : Needs) : List Slot :=
  let exported := l.entryExports.map Prod.snd
  let inNamespaces := l.namespaces.flatMap fun (index, exports) =>
    if needs.isLive (.namespaceOf index) then exports.map Prod.snd else []
  let slots := (importAliases g l).map Prod.fst ++ exported ++ inNamespaces
  (slots.filter fun slot => slot.isExternal && needs.isLive slot).eraseDups

/-- The variables of a module that its needed items declare, in order of declaration. -/
def declaredSlots (g : ModuleGraph) (needs : Needs) (index : Nat) : List Slot :=
  match g.modules[index]? with
  | none => []
  | some m =>
    let declared := (needs.keptItems m index).flatMap m.record.itemBindings
    let own := m.record.scopes.moduleBindings.filter fun binding =>
      m.record.scopes.bindingKind? binding ≠ some .imported && declared.contains binding
    own.map (.declared index)

/-- All variables of the bundle in the order in which they get names: what modules declare, the
objects that hold their exports, and what is imported from outside. -/
def namedSlots (g : ModuleGraph) (l : Linkage) (needs : Needs) : List Slot :=
  let namespaces := l.namespaces.map fun entry => Slot.namespaceOf entry.1
  g.entryFirst.flatMap (declaredSlots g needs) ++ namespaces.filter needs.isLive ++
    externalSlots g l needs

/-! ## Names -/

/-- The name that a variable is to have if nothing speaks against it. -/
def desiredName (g : ModuleGraph) (aliases : List (Slot × String)) (slot : Slot) : String :=
  let stem (index : Nat) : String := ((g.modules[index]?).map fun m => m.id.stem).getD "_"
  match (aliases.filter fun entry => !entry.1.isDeclared).lookup slot with
  | some name => name
  | none =>
    match slot with
    | .declared index binding =>
      let name := (do
        let m ← g.modules[index]?
        let b ← m.record.scopes.bindings[binding]?
        pure b.name).getD defaultBinding
      if name = defaultBinding then stem index ++ "_default" else name
    | .namespaceOf index => stem index ++ "_ns"
    | .external specifier (.name name) =>
      if isBindingName name then name else identifierStem specifier
    | .external specifier .all => identifierStem specifier ++ "_ns"

/-- The name itself, then the same with a dollar sign and a number. -/
def numberedName (base : String) (n : Nat) : String :=
  if n = 0 then base else base ++ "$" ++ toString n

/-- The first of the numbered names that is not taken. One of them is not. -/
def freeName (taken : List String) (base : String) : String :=
  let names := (List.range (taken.length + 1)).map (numberedName base)
  (names.find? fun name => !taken.contains name).getD base

/-- Names the variables one after another. No variable gets the name of one before, one of the names
`used`, or a name that is declared around one of its uses. -/
def nameSlots (desired : Slot → String) (uses : List SlotUse) :
    List String → List Slot → List (Slot × String)
  | _, [] => []
  | used, slot :: rest =>
    let hidden := (uses.filter fun u => u.slot = slot).flatMap SlotUse.hidden
    let name := freeName (used ++ hidden) (desired slot)
    (slot, name) :: nameSlots desired uses (name :: used) rest

/-- The names of all variables of a bundle. -/
def assignNames (g : ModuleGraph) (l : Linkage) (needs : Needs) : Names where
  names :=
    nameSlots (desiredName g (importAliases g l)) (slotUses g l needs) (globalNames g)
      (namedSlots g l needs)
  externals := externalSlots g l needs

end ModuleBundler
