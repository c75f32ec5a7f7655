import ModuleBundler.Grammar.Parse
import ModuleBundler.Token.Literal

/-!
# The grammar and its nesting

* `Expr` : the extent of an expression that was read, and its kind;
* `Grammar` : the productions through which module text nests. Every other production is written
  over a grammar and reaches a deeper level of the text only through it;
* `Grammar.exhausted` : the grammar of a level at which no text may stand any more;
* `expression` : expressions with commas between them;
* `propertyKey`, `methodModifiers` : what begins a property of an object or class.
-/

namespace ModuleBundler

inductive ExprKind where
  | identifier | member | call | arrayLiteral | objectLiteral | other
  deriving DecidableEq

/-- What the grammar needs to know of an expression that was read. -/
structure Expr where
  span : Span
  kind : ExprKind

namespace Expr

def other (span : Span) : Expr := ⟨span, .other⟩

def isAssignmentTarget (e : Expr) : Bool :=
  match e.kind with
  | .identifier | .member | .arrayLiteral | .objectLiteral => true
  | .call | .other => false

end Expr

/-- The productions of one level of nesting. -/
structure Grammar where
  /-- An expression without commas at its top. -/
  assignExpr : Context → Parse Expr
  /-- An operand of a binary operator. -/
  unaryExpr : Context → Parse Expr
  /-- An operand without operators before and after it: calls and members. -/
  lhsExpr : Context → Parse Expr
  /-- A `new` right after another one. -/
  newExpr : Context → Parse Expr
  /-- A pattern whose names are declared with a kind. -/
  pattern : Context → DeclarationKind → Parse Unit
  /-- A statement. Answers whether it ends without the semicolon that it needs. -/
  statement : Context → Parse Bool

/-- Text this deep is refused at its next token. -/
def tooDeep {α : Type} : Parse α := do
  let t ← peek
  t.fail .nestingTooDeep

/-- The level at which the nesting is too deep. -/
def Grammar.exhausted : Grammar :=
  ⟨fun _ => tooDeep, fun _ => tooDeep, fun _ => tooDeep, fun _ => tooDeep, fun _ _ => tooDeep,
    fun _ => tooDeep⟩

/-- Expressions with commas between them. -/
def expression (g : Grammar) (ctx : Context) : Parse Expr := do
  let first ← g.assignExpr ctx
  loop (fun (e : Expr) => do
    if ← consumeIf .comma then
      let next ← g.assignExpr ctx
      pure (.again (.other (e.span.join next.span)))
    else pure (.done e)) first

/-! ## Properties -/

/-- The name of a property as written. -/
structure PropertyKey where
  span : Span
  type : TokenType

/-- Reads the name of a property: a word, a literal, or an expression in brackets. -/
def propertyKey (g : Grammar) (ctx : Context) : Parse PropertyKey := do
  let t ← consume
  match t.type with
  | .bracketOpen =>
    let _ ← g.assignExpr (ctx.withIn true)
    let close ← require .bracketClose
    pure ⟨t.span.join close.span, .bracketOpen⟩
  | .literalString | .literalNumber | .literalBigInt | .privateMember => pure ⟨t.span, t.type⟩
  | type =>
    if type.isIdentifierName then pure ⟨t.span, type⟩ else t.fail (.expected "property name")

/-- The words and marks before the name of a method. -/
structure MethodModifiers where
  isAsync : Bool
  isGenerator : Bool
  isAccessor : Bool

def MethodModifiers.any (m : MethodModifiers) : Bool := m.isAsync || m.isGenerator || m.isAccessor

/-- Reads `async`, `get`, `set` and `*` before the name of a method. A word that no property name
follows is the name itself. -/
def methodModifiers : Parse MethodModifiers := do
  let (a, b) ← peek2
  let isAsync := b.type.isPropertyKeyStart && a.type = .keywordAsync && !b.afterLineBreak
  let isAccessor :=
    b.type.isPropertyKeyStart && (a.type = .keywordGet || a.type = .keywordSet) &&
      b.type ≠ .asterisk
  if isAsync || isAccessor then
    let _ ← consume
    let isGenerator ← consumeIf .asterisk
    pure ⟨isAsync, isGenerator, isAccessor⟩
  else
    let isGenerator ← consumeIf .asterisk
    pure ⟨isAsync, isGenerator, isAccessor⟩

end ModuleBundler
