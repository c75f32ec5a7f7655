import ModuleBundler.Scope.Basic
import ModuleBundler.SyntaxError

/-!
# Binding names

* `ScopeTree` : the scopes of a module with every declaration and reference bound;
* `ScopeTree.build` : binds them, or fails at a declaration that conflicts with another;
* `ScopeTree.resolve` : the binding that a name means in a scope;
* `ScopeTree.namesEnclosing` : the names declared between a scope and the module scope.
-/

namespace ModuleBundler

/-- The bindings of each scope by name, and the binding of each declaration. -/
structure ScopeTables where
  bindings : Array Binding
  names : Array (List (String × BindingId))
  ofDeclaration : Array BindingId

/-- The scopes of a module with all names bound. -/
structure ScopeTree where
  scopes : Array Scope
  declarations : Array Declaration
  references : Array Reference
  bindings : Array Binding
  /-- The bindings of each scope by name. -/
  names : Array (List (String × BindingId))
  /-- The binding of each declaration. -/
  ofDeclaration : Array BindingId
  /-- The binding of each reference. A name that is declared nowhere has none. -/
  ofReference : Array (Option BindingId)
  /-- The names of the references without a binding, each once. -/
  freeNames : List String

/-- The binding of a name in one scope. -/
def ScopeTables.lookup (tables : ScopeTables) (scope : ScopeId) (name : String) :
    Option BindingId :=
  ((tables.names[scope]?).getD []).lookup name

/-- The type of a scope. -/
def scopeType (scopes : Array Scope) (id : ScopeId) : ScopeType :=
  ((scopes[id]?).map Scope.type).getD .module

/-- The scope that a declaration belongs to: its own, or for a `var` the closest function or module
around it. -/
def targetScope (scopes : Array Scope) (kind : DeclarationKind) (scope : ScopeId) : ScopeId :=
  if kind.hoists then
    let around := enclosing scopes scope
    (around.find? fun id =>
      match scopeType scopes id with
      | .module | .function => true
      | .block | .expressionName => false).getD (around.getLast?.getD scope)
  else scope

/-- Whether two declarations of one name in one scope conflict. -/
def conflicts (scope : ScopeType) (existing added : DeclarationKind) : Bool :=
  existing.isLexical scope || added.isLexical scope || (existing = .param && added = .param)

/-- Binds the next declaration. Declarations that may share a name share a binding. -/
def ScopeTables.bind (scopes : Array Scope) (tables : ScopeTables) (decl : Declaration) :
    Except SyntaxError ScopeTables :=
  let target := targetScope scopes decl.kind decl.scope
  let index := tables.ofDeclaration.size
  match tables.lookup target decl.name with
  | some id =>
    let existing := ((tables.bindings[id]?).map Binding.kind).getD .var
    if conflicts (scopeType scopes target) existing decl.kind then
      .error ⟨.duplicateDeclaration, decl.span, none⟩
    else
      .ok {
        tables with
        bindings := tables.bindings.modify id fun b =>
          { b with declarations := b.declarations ++ [index] }
        ofDeclaration := tables.ofDeclaration.push id }
  | none =>
    let id := tables.bindings.size
    .ok {
      bindings := tables.bindings.push ⟨decl.name, target, decl.kind, [index]⟩
      names := tables.names.modify target ((decl.name, id) :: ·)
      ofDeclaration := tables.ofDeclaration.push id }

/-- The span of the first of the declarations of a binding, in the order of the text. -/
def firstSpan (declarations : Array Declaration) (binding : Binding) : Option Span :=
  binding.declarations.foldl (fun first i =>
    match declarations[i]?, first with
    | some d, some span => some (if d.span.start < span.start then d.span else span)
    | some d, none => some d.span
    | none, _ => first) none

/-- Where a `var` conflicts with a scope that it hoists out of: that scope has the name for
something else than the parameter of a `catch`. The later of the two places is at fault. -/
def hoistConflict? (scopes : Array Scope) (declarations : Array Declaration)
    (tables : ScopeTables) (decl : Declaration) : Option SyntaxError :=
  if decl.kind.hoists then
    let target := targetScope scopes decl.kind decl.scope
    ((enclosing scopes decl.scope).takeWhile (· ≠ target)).findSome? fun scope => do
      let id ← tables.lookup scope decl.name
      let binding ← tables.bindings[id]?
      if binding.kind = .catchParam then none
      else
        let other := (firstSpan declarations binding).getD decl.span
        let later := if decl.span.start < other.start then other else decl.span
        some ⟨.duplicateDeclaration, later, none⟩
  else none

/-- The binding of the innermost scope around that has the name. -/
def ScopeTables.resolve (scopes : Array Scope) (tables : ScopeTables) (scope : ScopeId)
    (name : String) : Option BindingId :=
  (enclosing scopes scope).findSome? fun id => tables.lookup id name

namespace ScopeTree

/-- Binds all declarations, then all references. Fails at the first declaration that conflicts with
an earlier one, else at the first `var` that cannot hoist. -/
def build (scopes : Array Scope) (declarations : Array Declaration)
    (references : Array Reference) : Except SyntaxError ScopeTree := do
  let tables ← declarations.foldlM (ScopeTables.bind scopes)
    ⟨#[], scopes.map fun _ => [], #[]⟩
  match declarations.toList.findSome? (hoistConflict? scopes declarations tables) with
  | some conflict => throw conflict
  | none =>
    let ofReference := references.map fun r => tables.resolve scopes r.scope r.name
    let free := (references.toList.zip ofReference.toList).filterMap fun (r, binding) =>
      if binding.isNone then some r.name else none
    pure {
      scopes, declarations, references
      bindings := tables.bindings
      names := tables.names
      ofDeclaration := tables.ofDeclaration
      ofReference
      freeNames := free.eraseDups }

/-- The tables that the tree was built with. -/
def tables (tree : ScopeTree) : ScopeTables := ⟨tree.bindings, tree.names, tree.ofDeclaration⟩

/-- The binding that a name means when it is used in a scope. -/
def resolve (tree : ScopeTree) (scope : ScopeId) (name : String) : Option BindingId :=
  tree.tables.resolve tree.scopes scope name

/-- The binding of a name in the module scope itself. -/
def moduleBinding? (tree : ScopeTree) (name : String) : Option BindingId :=
  tree.tables.lookup moduleScope name

def isModuleBinding (tree : ScopeTree) (id : BindingId) : Bool :=
  (tree.bindings[id]?).any fun b => b.scope = moduleScope

/-- The bindings of the module scope, in order of declaration. -/
def moduleBindings (tree : ScopeTree) : List BindingId :=
  (List.range tree.bindings.size).filter tree.isModuleBinding

def bindingKind? (tree : ScopeTree) (id : BindingId) : Option DeclarationKind :=
  (tree.bindings[id]?).map Binding.kind

/-- The names declared in a scope and around it, up to but excluding the module scope. A variable of
the module that is renamed to one of them is out of sight in the scope. -/
def namesEnclosing (tree : ScopeTree) (scope : ScopeId) : List String :=
  ((enclosing tree.scopes scope).takeWhile (· ≠ moduleScope)).flatMap fun id =>
    ((tree.names[id]?).getD []).map Prod.fst

end ScopeTree
end ModuleBundler
