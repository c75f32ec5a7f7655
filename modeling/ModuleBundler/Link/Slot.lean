import ModuleBundler.Graph.Basic

/-!
# Variables of a bundle

* `Slot` : a variable of the bundle, which every use of a module's variable comes down to;
* `Linkage` : which slots the imports and exports of the modules of a graph stand for;
* `Linkage.bindingSlot`, `Linkage.referenceSlot` : the slot of a variable or a use of one.
-/

namespace ModuleBundler

/-- A variable of a bundle. -/
inductive Slot where
  /-- A variable that a module declares. -/
  | declared (module : Nat) (binding : BindingId)
  /-- The object that holds the exports of a module. -/
  | namespaceOf (module : Nat)
  /-- Something of a module that is not in the bundle. -/
  | external (specifier : String) (imported : Imported)
  deriving DecidableEq

namespace Slot

def isDeclared : Slot → Bool
  | declared .. => true
  | namespaceOf _ | external .. => false

def isExternal : Slot → Bool
  | external .. => true
  | declared .. | namespaceOf _ => false

/-- The module whose exports the slot holds. -/
def namespaceModule? : Slot → Option Nat
  | namespaceOf module => some module
  | declared .. | external .. => none

/-- What the slot is, in words. -/
def describe : Slot → String
  | declared module binding =>
    "binding " ++ toString binding ++ " of module " ++ toString module
  | namespaceOf module => "the namespace of module " ++ toString module
  | external specifier (.name name) =>
    "\x60" ++ name ++ "\x60 of \x60" ++ specifier ++ "\x60"
  | external specifier .all => "the namespace of \x60" ++ specifier ++ "\x60"

end Slot

/-- The slot that a dynamic import gives, if its module is in the bundle. -/
def Dependency.dynamicSlot? : Dependency → Option Slot
  | .module index => some (.namespaceOf index)
  | .external => none

/-- The dynamic imports of a module with the slots of those whose modules are in the bundle. -/
def SourceModule.dynamicSlots (m : SourceModule) : List (DynamicImport × Slot) :=
  (m.record.dynamicImports.toList.zip m.dynamicImports).filterMap fun (dynamic, dependency) =>
    dependency.dynamicSlot?.map fun slot => (dynamic, slot)

/-- The exports of a module with the slots that they stand for. -/
abbrev ExportList := List (String × Slot)

/-- Which slots the imports and exports of a graph stand for. -/
structure Linkage where
  /-- For each module the slots of the variables that it imports. -/
  imports : Array (List (BindingId × Slot))
  /-- The exports of every module of which a namespace object may be needed, in the order of the
  modules. The exports are in the order of their UTF-16 code units. -/
  namespaces : List (Nat × ExportList)
  /-- The exports of the entry, in the order of the text. -/
  entryExports : ExportList
  /-- The specifiers of modules outside of which the entry exports all. -/
  entryStars : List String

namespace Linkage

/-- The slot of a variable of a module. Variables of inner scopes have none. -/
def bindingSlot (l : Linkage) (m : SourceModule) (index : Nat) (binding : BindingId) :
    Option Slot :=
  if m.record.scopes.isModuleBinding binding then
    if m.record.scopes.bindingKind? binding = some .imported then
      (l.imports[index]?).bind fun imports => imports.lookup binding
    else some (.declared index binding)
  else none

/-- The slot that a reference in a module reads or writes. Those to variables of inner scopes and to
globals have none. -/
def referenceSlot (l : Linkage) (m : SourceModule) (index reference : Nat) : Option Slot := do
  let binding ← m.record.scopes.ofReference[reference]?
  l.bindingSlot m index (← binding)

/-- The exports of a module of which a namespace object may be needed. -/
def namespaceExports (l : Linkage) (index : Nat) : ExportList :=
  (l.namespaces.lookup index).getD []

end Linkage
end ModuleBundler
