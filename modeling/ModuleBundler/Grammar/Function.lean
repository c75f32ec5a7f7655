import ModuleBundler.Grammar.Pattern

/-!
# Functions

* `DefinitionKind`, `Definition` : functions and classes as declarations, default exports and
  expressions;
* `functionParameters`, `functionBody`, `function`, `method` : their parts and forms;
* `statements` : statements up to a token.
-/

namespace ModuleBundler

/-- Where a function or class stands. That decides whether it needs a name, and who sees it. -/
inductive DefinitionKind where
  /-- The name is needed and declared around. -/
  | declaration
  /-- The name may be missing. -/
  | defaultExport
  /-- The name may be missing and is seen inside alone. -/
  | expression
  deriving DecidableEq

/-- A function or class that was read. -/
structure Definition where
  span : Span
  name : Option (String × Span)
  /-- Where a name can be put if there is none. -/
  nameAt : Nat

/-- Reads statements up to a token, which is not read. -/
def statements (g : Grammar) (ctx : Context) (close : TokenType) : Parse Unit :=
  loopWhile do
    let t ← peek
    if t.type = close then pure false
    else if t.type = .eof then t.fail .unexpectedEnd
    else
      let _ ← g.statement ctx
      pure true

/-- Reads the name after `function` or `class` and declares it around, except for an expression. -/
def definitionName (ctx : Context) (kind : DefinitionKind) (declared : DeclarationKind) :
    Parse (Option (String × Span)) := do
  let t ← peek
  if t.type.isIdentifier then
    let _ ← consume
    let name := decodeName t.text
    if kind ≠ .expression then declare ctx name t.span declared false
    pure (some (name, t.span))
  else if kind = .declaration then t.fail (.expected "name")
  else pure none

/-- Opens the scope that holds the name of an expression, for its inside. -/
def enterNameScope (ctx : Context) (kind : DefinitionKind) (declared : DeclarationKind)
    (name : Option (String × Span)) : Parse Context := do
  let scope ← enterScope ctx.scope .expressionName
  let inner := ctx.within scope
  match kind, name with
  | .expression, some (name, span) =>
    declare inner name span declared false
    pure inner
  | _, _ => pure inner

/-- Reads the parameters in parentheses and declares their names. -/
def functionParameters (g : Grammar) (ctx : Context) : Parse Unit := do
  let _ ← require .parenthesisOpen
  separatedList .comma .parenthesisClose do
    if ← consumeIf .dotDotDot then g.pattern ctx .param else patternWithDefault g ctx .param

/-- Reads the statements in braces and answers where the closing one ends. -/
def functionBody (g : Grammar) (ctx : Context) : Parse Nat := do
  let _ ← require .braceOpen
  statements g ctx .braceClose
  let close ← require .braceClose
  pure close.span.stop

/-- Reads parameters and body in a scope of their own, which are evaluated later. -/
def method (g : Grammar) (ctx : Context) (isAsync isGenerator : Bool) : Parse Nat := do
  let scope ← enterScope ctx.scope .function
  let inner := ((ctx.forFunction isAsync isGenerator).within scope).deferred
  functionParameters g inner
  functionBody g inner

/-- Reads a function from `async` or `function` on. -/
def function (g : Grammar) (ctx : Context) (kind : DefinitionKind) : Parse Definition := do
  let start ← peek
  let isAsync ← consumeIf .keywordAsync
  let _ ← require .keywordFunction
  let isGenerator ← consumeIf .asterisk
  let nameAt ← lastEnd
  let name ← definitionName ctx kind .function
  let outer ← enterNameScope ctx kind .function name
  let stop ← method g outer isAsync isGenerator
  pure ⟨⟨start.span.start, stop⟩, name, nameAt⟩

def functionExpr (g : Grammar) (ctx : Context) : Parse Expr := do
  let definition ← function g ctx .expression
  pure (.other definition.span)

end ModuleBundler
