import ModuleBundler.Grammar.Expression

/-!
# Statements

* `statementLevel` : a statement or declaration, over the grammar of what nests in it;
* `declarationAhead` : whether a function, class or variable declaration stands here;
* `variableDeclaration` : the declarators after `var`, `let` or `const`;
* `checkJump` : whether a `break` or `continue` has a target.

A statement answers whether it ends without the semicolon that it needs when other code follows.
-/

namespace ModuleBundler

/-- Whether a function, class or variable declaration stands here. -/
def declarationAhead : Parse Bool := do
  let (a, b) ← peek2
  match a.type with
  | .keywordVar | .keywordLet | .keywordConst | .keywordFunction | .keywordClass => pure true
  | .keywordAsync => pure (b.type = .keywordFunction && !b.afterLineBreak)
  | _ => pure false

/-- Reads statements in braces in a scope of their own and answers where the closing one ends. -/
def block (g : Grammar) (ctx : Context) : Parse Nat := do
  let _ ← require .braceOpen
  let scope ← enterScope ctx.scope .block
  statements g (ctx.within scope) .braceClose
  let close ← require .braceClose
  pure close.span.stop

def parenthesizedCondition (g : Grammar) (ctx : Context) : Parse Unit := do
  let _ ← require .parenthesisOpen
  let _ ← expression g (ctx.withIn true)
  let _ ← require .parenthesisClose

def expressionStatement (g : Grammar) (ctx : Context) : Parse Bool := do
  let _ ← expression g ctx
  requireSemicolon

/-! ## Variables -/

/-- Reads a pattern and its value. A constant needs one, except before `of` and `in` in the head of
a `for`. -/
def declarator (g : Grammar) (ctx : Context) (kind : DeclarationKind) (inForHead : Bool) :
    Parse Unit := do
  g.pattern ctx kind
  if ← consumeIf .equals then
    let _ ← g.assignExpr ctx
  else if kind = .const then
    let next ← peek
    if inForHead && (next.type = .keywordOf || next.type = .keywordIn) then pure ()
    else next.fail .missingConstInitializer

/-- Reads the keyword and the declarators after it, up to the semicolon. -/
def variableDeclaration (g : Grammar) (ctx : Context) (kind : DeclarationKind)
    (inForHead : Bool) : Parse Unit := do
  let _ ← consume
  loopWhile do
    declarator g ctx kind inForHead
    consumeIf .comma

def variableStatement (g : Grammar) (ctx : Context) (kind : DeclarationKind) : Parse Bool := do
  variableDeclaration g ctx kind false
  requireSemicolon

/-! ## Branches and loops -/

def ifStatement (g : Grammar) (ctx : Context) : Parse Bool := do
  let _ ← consume
  parenthesizedCondition g ctx
  let missing ← g.statement ctx
  if ← consumeIf .keywordElse then g.statement ctx else pure missing

def whileStatement (g : Grammar) (ctx : Context) : Parse Bool := do
  let _ ← consume
  parenthesizedCondition g ctx
  g.statement ctx.loopBody

/-- The semicolon after the condition may always be missing. -/
def doStatement (g : Grammar) (ctx : Context) : Parse Bool := do
  let _ ← consume
  let _ ← g.statement ctx.loopBody
  let _ ← require .keywordWhile
  parenthesizedCondition g ctx
  let present ← consumeIf .semicolon
  pure !present

/-- Reads what a loop starts with. -/
def forInit (g : Grammar) (ctx : Context) : Parse Unit := do
  let t ← peekIn .slashIsRegex
  match t.type with
  | .semicolon => pure ()
  | .keywordVar => variableDeclaration g ctx .var true
  | .keywordLet => variableDeclaration g ctx .let true
  | .keywordConst => variableDeclaration g ctx .const true
  | _ =>
    let _ ← expression g ctx

/-- Reads an expression unless the next token is of the type. -/
def expressionUnless (g : Grammar) (ctx : Context) (type : TokenType) : Parse Unit := do
  let t ← peekIn .slashIsRegex
  if t.type ≠ type then
    let _ ← expression g ctx

/-- Reads what follows the start of a loop in its head. -/
def forRest (g : Grammar) (ctx : Context) : Parse Unit := do
  if ← consumeIf .keywordOf then
    let _ ← g.assignExpr ctx
  else if ← consumeIf .keywordIn then
    let _ ← expression g ctx
  else
    let _ ← require .semicolon
    expressionUnless g ctx .semicolon
    let _ ← require .semicolon
    expressionUnless g ctx .parenthesisClose

def forStatement (g : Grammar) (ctx : Context) : Parse Bool := do
  let _ ← consume
  if ctx.awaitAllowed then
    let _ ← consumeIf .keywordAwait
  let _ ← require .parenthesisOpen
  let scope ← enterScope ctx.scope .block
  let inner := ctx.within scope
  forInit g (inner.withIn false)
  forRest g (inner.withIn true)
  let _ ← require .parenthesisClose
  g.statement inner.loopBody

/-- Reads the label of a case. -/
def caseLabel (g : Grammar) (ctx : Context) : Parse Unit := do
  let t ← consume
  match t.type with
  | .keywordCase =>
    let _ ← expression g (ctx.withIn true)
  | .keywordDefault => pure ()
  | .eof => t.fail .unexpectedEnd
  | _ => t.fail (.expected "`case` or `default`")
  let _ ← require .colon

/-- Reads the statements of a case. -/
def caseBody (g : Grammar) (ctx : Context) : Parse Unit :=
  loopWhile do
    let t ← peek
    match t.type with
    | .keywordCase | .keywordDefault | .braceClose => pure false
    | .eof => t.fail .unexpectedEnd
    | _ =>
      let _ ← g.statement ctx
      pure true

def switchStatement (g : Grammar) (ctx : Context) : Parse Bool := do
  let _ ← consume
  parenthesizedCondition g ctx
  let _ ← require .braceOpen
  let scope ← enterScope ctx.scope .block
  let inner := (ctx.within scope).switchBody
  loopWhile do
    if ← consumeIf .braceClose then pure false
    else
      caseLabel g inner
      caseBody g inner
      pure true
  pure false

/-! ## Jumps -/

/-- Checks that a `break` or `continue` has a target. -/
def checkJump (ctx : Context) (keyword : Token) (label : Option Token) : Parse Unit :=
  let isContinue := keyword.type = .keywordContinue
  match label with
  | none =>
    if ctx.jumps.allows isContinue then pure () else keyword.fail .jumpOutsideLoop
  | some label =>
    match ctx.jumps.label? label.text with
    | none => label.fail .undefinedLabel
    | some isLoop =>
      if isContinue && !isLoop then keyword.fail .jumpOutsideLoop else pure ()

def jumpStatement (ctx : Context) : Parse Bool := do
  let keyword ← consume
  let t ← peek
  if t.type.isIdentifier && !t.afterLineBreak then
    let label ← consume
    checkJump ctx keyword (some label)
  else checkJump ctx keyword none
  requireSemicolon

def returnStatement (g : Grammar) (ctx : Context) : Parse Bool := do
  let keyword ← consume
  if ctx.returnAllowed then
    let t ← peekIn .slashIsRegex
    let isBare :=
      t.afterLineBreak || t.type = .semicolon || t.type = .braceClose || t.type = .eof
    if !isBare then
      let _ ← expression g ctx
    requireSemicolon
  else keyword.fail .returnOutsideFunction

def throwStatement (g : Grammar) (ctx : Context) : Parse Bool := do
  let _ ← consume
  let t ← peekIn .slashIsRegex
  if t.afterLineBreak then t.fail .lineTerminatorAfterThrow
  else expressionStatement g ctx

def catchClause (g : Grammar) (ctx : Context) : Parse Unit := do
  let scope ← enterScope ctx.scope .block
  let inner := ctx.within scope
  if ← consumeIf .parenthesisOpen then
    g.pattern inner .catchParam
    let _ ← require .parenthesisClose
  let _ ← block g inner

def tryStatement (g : Grammar) (ctx : Context) : Parse Bool := do
  let keyword ← consume
  let _ ← block g ctx
  let caught ← consumeIf .keywordCatch
  if caught then catchClause g ctx
  let finalized ← consumeIf .keywordFinally
  if finalized then
    let _ ← block g ctx
  if caught || finalized then pure false else keyword.fail .tryWithoutHandler

/-! ## Labels -/

/-- Reads the labels in front of a statement. -/
def labels : Parse (List Token) :=
  loop (fun (read : List Token) => do
    let (label, colon) ← peek2
    if label.type.isIdentifier && colon.type = .colon then
      let _ ← consume
      let _ ← consume
      pure (.again (read ++ [label]))
    else pure (.done read)) []

/-- The context of a statement with labels. A label may not stand inside itself. -/
def labelContext (isLoop : Bool) : Context → List Token → Parse Context
  | ctx, [] => pure ctx
  | ctx, label :: rest =>
    if (ctx.jumps.label? label.text).isSome then label.fail .duplicateLabel
    else labelContext isLoop (ctx.labelled label.text isLoop) rest

def labelledStatement (g : Grammar) (ctx : Context) : Parse Bool := do
  let read ← labels
  let t ← peek
  let isLoop := t.type = .keywordFor || t.type = .keywordWhile || t.type = .keywordDo
  let inner ← labelContext isLoop ctx read
  g.statement inner

/-! ## Any statement -/

def functionStatement (g : Grammar) (ctx : Context) : Parse Bool := do
  let _ ← function g ctx .declaration
  pure false

/-- A statement that begins like an expression, which may turn out to be labelled. -/
def openStatement (g : Grammar) (ctx : Context) (first : TokenType) : Parse Bool := do
  if first.isIdentifier then
    let (_, next) ← peek2
    if next.type = .colon then labelledStatement g ctx else expressionStatement g ctx
  else expressionStatement g ctx

/-- A statement or declaration. -/
def statementLevel (g : Grammar) (ctx : Context) : Parse Bool := do
  let t ← peekIn .slashIsRegex
  match t.type with
  | .braceOpen =>
    let _ ← block g ctx
    pure false
  | .semicolon =>
    let _ ← consume
    pure false
  | .keywordVar => variableStatement g ctx .var
  | .keywordLet => variableStatement g ctx .let
  | .keywordConst => variableStatement g ctx .const
  | .keywordFunction => functionStatement g ctx
  | .keywordAsync =>
    if ← declarationAhead then functionStatement g ctx else openStatement g ctx t.type
  | .keywordClass =>
    let _ ← classDefinition g ctx .declaration
    pure false
  | .keywordIf => ifStatement g ctx
  | .keywordFor => forStatement g ctx
  | .keywordWhile => whileStatement g ctx
  | .keywordDo => doStatement g ctx
  | .keywordReturn => returnStatement g ctx
  | .keywordBreak | .keywordContinue => jumpStatement ctx
  | .keywordThrow => throwStatement g ctx
  | .keywordTry => tryStatement g ctx
  | .keywordSwitch => switchStatement g ctx
  | .keywordDebugger =>
    let _ ← consume
    requireSemicolon
  | .keywordWith =>
    t.fail (.expected "statement other than `with`, which is not allowed in modules")
  | .keywordImport =>
    let (_, next) ← peek2
    if next.type = .parenthesisOpen || next.type = .dot then expressionStatement g ctx
    else t.fail .moduleSyntaxNotAtTopLevel
  | .keywordExport => t.fail .moduleSyntaxNotAtTopLevel
  | type => openStatement g ctx type

end ModuleBundler
