import ModuleBundler.Text.Span

/-!
# Scopes, declarations and references

* `Scope` : a parent and a type; scopes are known by their index, the module scope is `0`;
* `Declaration`, `Reference` : one occurrence of a name, as its text has it;
* `Binding` : the variable that declarations of one name in one scope share;
* `enclosing` : a scope and all around it, innermost first.
-/

namespace ModuleBundler

abbrev ScopeId := Nat

abbrev BindingId := Nat

/-- The scope of the module's own variables. -/
def moduleScope : ScopeId := 0

inductive ScopeType where
  | module
  /-- Functions, methods, field initialisers and static blocks. A `var` belongs to the closest. -/
  | function
  | block
  /-- Holds the name of a function or class expression, which only its inside sees. -/
  | expressionName
  deriving DecidableEq

structure Scope where
  parent : Option ScopeId
  type : ScopeType
  deriving DecidableEq

/-- What declares a variable. -/
inductive DeclarationKind where
  | var | let | const | function | classDecl | param | catchParam | imported
  deriving DecidableEq, Inhabited

/-- Whether declarations of this kind belong to the closest function or module scope. -/
def DeclarationKind.hoists (kind : DeclarationKind) : Bool := kind = .var

/-- Whether a binding of this kind shares its name in a scope with no other declaration. Functions
do so except directly in a function. -/
def DeclarationKind.isLexical (kind : DeclarationKind) (scope : ScopeType) : Bool :=
  match kind with
  | .let | .const | .classDecl | .imported => true
  | .function => scope ≠ .function
  | .var | .param | .catchParam => false

/-- A place where a name is declared. -/
structure Declaration where
  name : String
  span : Span
  /-- The scope around the place, before any hoisting. -/
  scope : ScopeId
  kind : DeclarationKind
  /-- Written as a shorthand property of a pattern, which is also the name of the property. -/
  shorthand : Bool
  deriving DecidableEq, Inhabited

/-- A place where a name is used as a value or as the target of an assignment. -/
structure Reference where
  name : String
  span : Span
  scope : ScopeId
  /-- Written as a shorthand property of an object. -/
  shorthand : Bool
  deriving DecidableEq, Inhabited

/-- A variable. -/
structure Binding where
  name : String
  scope : ScopeId
  kind : DeclarationKind
  /-- The declarations that share it, by index. -/
  declarations : List Nat
  deriving DecidableEq, Inhabited

/-- A scope and the scopes around it, innermost first, up to `count` of these. -/
def enclosingWithin (scopes : Array Scope) : Nat → ScopeId → List ScopeId
  | 0, id => [id]
  | count + 1, id =>
    match (scopes[id]?).bind Scope.parent with
    | some parent => id :: enclosingWithin scopes count parent
    | none => [id]

/-- A scope and all scopes around it, innermost first. -/
def enclosing (scopes : Array Scope) (id : ScopeId) : List ScopeId :=
  enclosingWithin scopes scopes.size id

end ModuleBundler
