import ModuleBundler.Grammar.Basic

/-!
# Patterns

* `bindingIdentifier` : a name that is being declared;
* `patternLevel` : a name, an array pattern or an object pattern;
* `patternWithDefault` : a pattern with a value for when there is none.
-/

namespace ModuleBundler

/-- Reads a name that is being declared. -/
def bindingIdentifier : Parse (String × Span) := do
  let t ← peek
  if t.type.isIdentifier then
    let _ ← consume
    pure (decodeName t.text, t.span)
  else t.fail (.expected "identifier")

/-- Reads a pattern and a value for it after `=`. -/
def patternWithDefault (g : Grammar) (ctx : Context) (kind : DeclarationKind) : Parse Unit := do
  g.pattern ctx kind
  if ← consumeIf .equals then
    let _ ← g.assignExpr (ctx.withIn true)

def arrayPattern (g : Grammar) (ctx : Context) (kind : DeclarationKind) : Parse Unit := do
  let _ ← require .bracketOpen
  loopWhile do
    if ← consumeIf .bracketClose then pure false
    else if ← consumeIf .comma then pure true
    else if ← consumeIf .dotDotDot then
      g.pattern ctx kind
      let _ ← require .bracketClose
      pure false
    else
      patternWithDefault g ctx kind
      if ← consumeIf .comma then pure true
      else
        let _ ← require .bracketClose
        pure false

/-- A property of an object pattern. A lone name is both the property and what is declared. -/
def propertyPattern (g : Grammar) (ctx : Context) (kind : DeclarationKind) : Parse Unit := do
  if ← consumeIf .dotDotDot then
    let (name, span) ← bindingIdentifier
    declare ctx name span kind false
  else
    let (key, next) ← peek2
    if key.type.isIdentifier && next.type ≠ .colon then
      let (name, span) ← bindingIdentifier
      declare ctx name span kind true
      if ← consumeIf .equals then
        let _ ← g.assignExpr (ctx.withIn true)
    else
      let _ ← propertyKey g ctx
      let _ ← require .colon
      patternWithDefault g ctx kind

def objectPattern (g : Grammar) (ctx : Context) (kind : DeclarationKind) : Parse Unit := do
  let _ ← require .braceOpen
  separatedList .comma .braceClose (propertyPattern g ctx kind)

/-- A pattern, over the grammar of what nests in it. -/
def patternLevel (g : Grammar) (ctx : Context) (kind : DeclarationKind) : Parse Unit := do
  let t ← peek
  match t.type with
  | .bracketOpen => arrayPattern g ctx kind
  | .braceOpen => objectPattern g ctx kind
  | .eof => t.fail .unexpectedEnd
  | type =>
    if type.isIdentifier then
      let (name, span) ← bindingIdentifier
      declare ctx name span kind false
    else t.fail (.expected "binding pattern")

end ModuleBundler
