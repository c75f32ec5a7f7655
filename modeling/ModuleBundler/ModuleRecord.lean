import ModuleBundler.Scope.Tree

/-!
# Module records

* `ModuleRequest`, `ImportDeclaration`, `ExportSpecifier`, `DynamicImport` : what a module asks of
  other modules and what it offers;
* `ModuleItem` : a statement or declaration at the top level, `ItemKind` what becomes of it;
* `ModuleRecord` : all that linking needs to know of a module;
* `ModuleRecord.itemBindings` : the variables of the module that an item declares.
-/

namespace ModuleBundler

/-- The name of the binding that holds a default export without a name of its own. No identifier is
spelled like it. -/
def defaultBinding : String := "*default*"

/-- A module specifier with the span of its string literal. -/
structure ModuleRequest where
  specifier : String
  span : Span
  deriving DecidableEq, Inhabited

/-- What is taken from another module. -/
inductive Imported where
  | name (name : String)
  /-- All its exports as one object. -/
  | all
  deriving DecidableEq

structure ImportSpecifier where
  imported : Imported
  /-- The binding that receives it. -/
  localName : String
  span : Span
  deriving DecidableEq

structure ImportDeclaration where
  /-- The index of the request. -/
  request : Nat
  specifiers : List ImportSpecifier
  deriving DecidableEq

/-- What an export stands for. -/
inductive ExportTarget where
  /-- A variable of the module, which may be imported. -/
  | binding (name : String)
  /-- Something of another module. -/
  | reexport (request : Nat) (imported : Imported)
  deriving DecidableEq

structure ExportSpecifier where
  exported : String
  span : Span
  target : ExportTarget
  deriving DecidableEq

/-- An `import(…)` of a plain string literal. -/
structure DynamicImport where
  request : ModuleRequest
  /-- The span of the whole call. -/
  span : Span
  /-- The innermost scope around the call. -/
  scope : ScopeId
  deriving DecidableEq

/-- What kind of item stands at the top level. -/
inductive ItemKind where
  | importDeclaration
  /-- A list of exports of the module's own variables. -/
  | exportList
  /-- Exports from another module. -/
  | exportFrom
  /-- A declaration after `export`. The span covers the keyword up to the declaration. -/
  | exportDeclaration (strip : Span)
  /-- A function or class after `export default`. If it has no name, one goes to `nameAt`. -/
  | exportDefaultDeclaration (strip : Span) (nameAt : Option Nat)
  /-- An expression after `export default`. -/
  | exportDefaultExpression (strip : Span) (expr : Span)
  | declaration
  | statement
  deriving DecidableEq

namespace ItemKind

/-- Whether the item is there to declare variables alone, so that it can go when none is used. -/
def isDeclaration : ItemKind → Bool
  | exportDeclaration _ | exportDefaultDeclaration .. | exportDefaultExpression ..
  | declaration => true
  | importDeclaration | exportList | exportFrom | statement => false

/-- Whether linking leaves nothing of the item to evaluate. -/
def isModuleSyntax : ItemKind → Bool
  | importDeclaration | exportList | exportFrom => true
  | exportDeclaration _ | exportDefaultDeclaration .. | exportDefaultExpression ..
  | declaration | statement => false

end ItemKind

/-- A range of indices, from `start` up to but excluding `stop`. -/
structure IndexRange where
  start : Nat
  stop : Nat
  deriving DecidableEq

def IndexRange.toList (r : IndexRange) : List Nat := List.range' r.start (r.stop - r.start)

/-- A statement or declaration at the top level. -/
structure ModuleItem where
  span : Span
  kind : ItemKind
  /-- The item ends without the semicolon that it needs when other code follows. -/
  missingSemicolon : Bool
  /-- Its evaluation may be observed. The bodies of functions do not count, as they are evaluated
  later. -/
  hasSideEffects : Bool
  /-- The declarations in it. -/
  declarations : IndexRange
  /-- The references in it. -/
  references : IndexRange
  deriving DecidableEq

/-- All that linking needs to know of a module. -/
structure ModuleRecord where
  items : Array ModuleItem
  requests : Array ModuleRequest
  imports : Array ImportDeclaration
  exports : Array ExportSpecifier
  /-- The requests of `export *`, in the order of the text. -/
  starExports : Array Nat
  dynamicImports : Array DynamicImport
  scopes : ScopeTree
  /-- Where each token begins, in order. -/
  tokenStarts : List Nat

/-- The variables of the module that an item declares, each once, in order of declaration. Imported
ones are not among them. -/
def ModuleRecord.itemBindings (record : ModuleRecord) (item : ModuleItem) : List BindingId :=
  (item.declarations.toList.filterMap fun i =>
    match record.scopes.ofDeclaration[i]? with
    | some id =>
      if record.scopes.isModuleBinding id ∧ record.scopes.bindingKind? id ≠ some .imported then
        some id
      else none
    | none => none).eraseDups

end ModuleBundler
