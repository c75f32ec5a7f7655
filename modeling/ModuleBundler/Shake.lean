import ModuleBundler.Graph.Reachability
import ModuleBundler.Link.Slot
import ModuleBundler.ModulePath

/-!
# What a bundle needs

* `Need` : an item of a module or a variable of the bundle; `Need.next` : what it needs in turn;
* `Needs` : all that a bundle needs; `shake` : what the exports of the entry and the evaluation of
  the modules need.
-/

namespace ModuleBundler

/-- Something that a bundle may need. -/
inductive Need where
  /-- An item of a module, by the indices of both. -/
  | item (module index : Nat)
  | slot (slot : Slot)
  deriving DecidableEq

/-- The variables that an item of a module reads or writes. -/
def SourceModule.itemSlots (m : SourceModule) (l : Linkage) (index : Nat) (item : ModuleItem) :
    List Slot :=
  (item.references.toList.filterMap fun r => l.referenceSlot m index r) ++
    m.dynamicSlots.filterMap fun (dynamic, slot) =>
      if item.span.contains dynamic.span.start then some slot else none

/-- The items of a module that declare a variable of it. -/
def SourceModule.declaringItems (m : SourceModule) (binding : BindingId) : List Nat :=
  m.record.items.toList.zipIdx.filterMap fun (item, index) =>
    if binding ∈ m.record.itemBindings item then some index else none

/-- What something needs in turn. An item needs the variables in it, a variable the items that
declare it, and the namespace of a module all its exports. -/
def Need.next (g : ModuleGraph) (l : Linkage) : Need → List Need
  | item module index =>
    match g.modules[module]? with
    | none => []
    | some m =>
      match m.record.items[index]? with
      | none => []
      | some entry => (m.itemSlots l module entry).map .slot
  | slot (.declared module binding) =>
    match g.modules[module]? with
    | none => []
    | some m => (m.declaringItems binding).map (.item module)
  | slot (.namespaceOf module) => (l.namespaceExports module).map fun e => .slot e.2
  | slot (.external ..) => []

/-- All items of a graph. -/
def ModuleGraph.allItems (g : ModuleGraph) : List Need :=
  g.modules.toList.zipIdx.flatMap fun (m, module) =>
    (List.range m.record.items.size).map (.item module)

/-- Whether the bundle needs an item of a module on its own account. The entry is evaluated as a
whole; of other modules what does more than declare something. -/
def SourceModule.isRoot (m : SourceModule) (item : ModuleItem) : Bool :=
  m.id = .file entryPath || !item.kind.isDeclaration || item.hasSideEffects

/-- What a bundle needs on its own account: the exports of the entry and items. With `dropUnused`
off it needs all items. -/
def roots (g : ModuleGraph) (l : Linkage) (dropUnused : Bool) : List Need :=
  (l.entryExports.map fun e => .slot e.2) ++
    g.modules.toList.zipIdx.flatMap fun (m, module) =>
      m.record.items.toList.zipIdx.filterMap fun (item, index) =>
        if !dropUnused || m.isRoot item then some (.item module index) else none

/-- At least as many as there are items, and variables that something needs. -/
def needCount (g : ModuleGraph) (l : Linkage) : Nat :=
  let items := g.allItems
  let slots := items.flatMap (Need.next g l)
  l.entryExports.length + items.length + slots.length +
    (l.namespaces.flatMap Prod.snd).length

/-- All that a bundle needs. -/
structure Needs where
  all : List Need

namespace Needs

def keeps (needs : Needs) (module index : Nat) : Bool := needs.all.contains (.item module index)

def isLive (needs : Needs) (slot : Slot) : Bool := needs.all.contains (.slot slot)

/-- The items of a module that the bundle needs. -/
def keptItems (needs : Needs) (m : SourceModule) (module : Nat) : List ModuleItem :=
  m.record.items.toList.zipIdx.filterMap fun (item, index) =>
    if needs.keeps module index then some item else none

end Needs

/-- All that a bundle needs. With `dropUnused` declarations in other modules than the entry go
unless something that is needed reads what they declare. -/
def shake (g : ModuleGraph) (l : Linkage) (dropUnused : Bool) : Needs :=
  ⟨reachable (Need.next g l) (needCount g l) (roots g l dropUnused)⟩

end ModuleBundler
