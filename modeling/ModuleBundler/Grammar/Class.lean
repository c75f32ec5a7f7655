import ModuleBundler.Grammar.Function

/-!
# Classes

* `classDefinition` : a class from `class` on. Its heritage, computed names and static members are
  evaluated with it, its methods and instance fields later;
* `classMember`, `staticBlock` : what stands in its braces.
-/

namespace ModuleBundler

/-- A block that runs once when the class is defined, in a scope like that of a function. -/
def staticBlock (g : Grammar) (ctx : Context) : Parse Unit := do
  let scope ← enterScope ctx.scope .function
  let inner := (ctx.forStaticBlock.within scope).jumpBoundary
  let _ ← require .braceOpen
  statements g inner .braceClose
  let _ ← require .braceClose

/-- The value of a field after `=`. That of an instance field is evaluated later. -/
def fieldValue (g : Grammar) (ctx : Context) (isStatic : Bool) : Parse Unit := do
  let scope ← enterScope ctx.scope .function
  let inner := (ctx.forFunction false false).within scope
  let _ ← g.assignExpr (if isStatic then inner else inner.deferred)

/-- A method or field, from its name or the words before it on. -/
def classProperty (g : Grammar) (ctx : Context) (isStatic : Bool) : Parse Unit := do
  let modifiers ← methodModifiers
  let _ ← propertyKey g ctx
  let next ← peek
  if next.type = .parenthesisOpen then
    let _ ← method g ctx modifiers.isAsync modifiers.isGenerator
  else if modifiers.any then next.fail (.missingToken .parenthesisOpen)
  else
    if ← consumeIf .equals then fieldValue g ctx isStatic
    let _ ← requireSemicolon

/-- A member of a class. Before some tokens `static` is the name of the member. -/
def classMember (g : Grammar) (ctx : Context) : Parse Unit := do
  if ← consumeIf .semicolon then pure ()
  else
    let (a, b) ← peek2
    if a.type = .eof then a.fail .unexpectedEnd
    else
      let isStatic :=
        a.type = .keywordStatic &&
          match b.type with
          | .parenthesisOpen | .equals | .semicolon | .braceClose | .eof => false
          | _ => true
      if isStatic then
        let _ ← consume
        let next ← peek
        if next.type = .braceOpen then staticBlock g ctx else classProperty g ctx true
      else classProperty g ctx false

/-- Reads a class from `class` on. -/
def classDefinition (g : Grammar) (ctx : Context) (kind : DefinitionKind) : Parse Definition := do
  let keyword ← require .keywordClass
  let name ← definitionName ctx kind .classDecl
  let inner ← enterNameScope ctx kind .classDecl name
  if ← consumeIf .keywordExtends then
    let _ ← g.lhsExpr inner
  let _ ← require .braceOpen
  loopWhile do
    if ← consumeIf .braceClose then pure false
    else
      classMember g inner
      pure true
  let stop ← lastEnd
  pure ⟨⟨keyword.span.start, stop⟩, name, keyword.span.stop⟩

def classExpr (g : Grammar) (ctx : Context) : Parse Expr := do
  let definition ← classDefinition g ctx .expression
  pure (.other definition.span)

end ModuleBundler
