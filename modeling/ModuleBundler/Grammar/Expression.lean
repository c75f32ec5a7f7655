import ModuleBundler.Grammar.Class

/-!
# Expressions

* `assignLevel` : arrow functions, `yield`, assignments and all that binds tighter;
* `binaryExpr` : operands with binary operators between them;
* `unaryLevel`, `lhsLevel`, `newLevel`, `primaryExpr` : operands;
* `arrowFunction` : tries the parameters of an arrow function and leaves no trace if they are none.

The levels are written over the grammar of what nests in them.
-/

namespace ModuleBundler

/-! ## Templates and arguments -/

/-- Reads a template from its first part on and answers where it ends. -/
def template (g : Grammar) (ctx : Context) : Parse Nat := do
  let first ← consume
  loop (fun (t : Token) => do
    match t.type with
    | .literalTemplatePartStringEnd => pure (.done t.span.stop)
    | .literalTemplatePartString =>
      let _ ← expression g (ctx.withIn true)
      let _ ← require .braceClose
      let next ← consumeIn .templateContinue
      pure (.again next)
    | .invalid | .eof => t.fail .invalidToken
    | _ => t.fail (.expected "template")) first

/-- Reads arguments in parentheses and answers where the closing one ends. -/
def callArguments (g : Grammar) (ctx : Context) : Parse Nat := do
  let _ ← require .parenthesisOpen
  separatedList .comma .parenthesisClose do
    let _ ← consumeIf .dotDotDot
    let _ ← g.assignExpr (ctx.withIn true)
  lastEnd

/-- Reads the name of a member. -/
def memberName : Parse Token :=
  requireThat (fun type => type.isIdentifierName || type = .privateMember) "property name"

/-- Reads an expression in brackets as a member of what starts before it. -/
def computedMember (g : Grammar) (ctx : Context) (e : Expr) : Parse Expr := do
  let _ ← consume
  let _ ← expression g (ctx.withIn true)
  let close ← require .bracketClose
  pure ⟨e.span.join close.span, .member⟩

/-- Reads arguments as a call of what starts before them. -/
def call (g : Grammar) (ctx : Context) (e : Expr) : Parse Expr := do
  let stop ← callArguments g ctx
  markSideEffect ctx
  pure ⟨⟨e.span.start, stop⟩, .call⟩

/-- Reads members, calls and templates after an operand. Calls may be left for later. -/
def callChain (g : Grammar) (ctx : Context) (callsAllowed : Bool) (first : Expr) : Parse Expr :=
  loop (fun (e : Expr) => do
    let t ← peek
    match t.type with
    | .dot =>
      let _ ← consume
      let name ← memberName
      pure (.again ⟨e.span.join name.span, .member⟩)
    | .questionDot =>
      if callsAllowed then
        let _ ← consume
        let next ← peek
        match next.type with
        | .parenthesisOpen => .again <$> call g ctx e
        | .bracketOpen => .again <$> computedMember g ctx e
        | _ =>
          let name ← memberName
          pure (.again ⟨e.span.join name.span, .member⟩)
      else pure (.done e)
    | .bracketOpen => .again <$> computedMember g ctx e
    | .parenthesisOpen =>
      if callsAllowed then .again <$> call g ctx e else pure (.done e)
    | .literalTemplatePartString | .literalTemplatePartStringEnd =>
      let stop ← template g ctx
      markSideEffect ctx
      pure (.again ⟨⟨e.span.start, stop⟩, .call⟩)
    | _ => pure (.done e)) first

/-! ## Literals of arrays and objects -/

def arrayLiteral (g : Grammar) (ctx : Context) : Parse Expr := do
  let opening ← requireIn .slashIsRegex .bracketOpen
  loopWhile do
    if ← consumeIf .bracketClose then pure false
    else if ← consumeIf .comma then pure true
    else
      let _ ← consumeIf .dotDotDot
      let _ ← g.assignExpr (ctx.withIn true)
      if ← consumeIf .comma then pure true
      else
        let _ ← require .bracketClose
        pure false
  let stop ← lastEnd
  pure ⟨⟨opening.span.start, stop⟩, .arrayLiteral⟩

/-- A property of an object literal. A lone name may have a value after `=`, as the object may turn
out to be the target of an assignment. -/
def objectMember (g : Grammar) (ctx : Context) : Parse Unit := do
  if ← consumeIf .dotDotDot then
    let _ ← g.assignExpr ctx
  else
    let modifiers ← methodModifiers
    let t ← peek
    let key ← propertyKey g ctx
    let next ← peek
    if next.type = .parenthesisOpen then
      let _ ← method g ctx modifiers.isAsync modifiers.isGenerator
    else if modifiers.any then next.fail (.missingToken .parenthesisOpen)
    else if ← consumeIf .colon then
      let _ ← g.assignExpr ctx
    else if key.type.isIdentifier then
      refer ctx (decodeName t.text) key.span true
      if ← consumeIf .equals then
        let _ ← g.assignExpr ctx
    else next.fail (.missingToken .colon)

def objectLiteral (g : Grammar) (ctx : Context) : Parse Expr := do
  let opening ← requireIn .slashIsRegex .braceOpen
  separatedList .comma .braceClose (objectMember g (ctx.withIn true))
  let stop ← lastEnd
  pure ⟨⟨opening.span.start, stop⟩, .objectLiteral⟩

/-! ## Operands -/

/-- Reads an expression in parentheses. Around a name or a member they change nothing, but a pattern
in them is no target of an assignment. -/
def parenthesized (g : Grammar) (ctx : Context) : Parse Expr := do
  let opening ← consumeIn .slashIsRegex
  let inner ← expression g (ctx.withIn true)
  let close ← require .parenthesisClose
  let kind :=
    match inner.kind with
    | .identifier => .identifier
    | .member => .member
    | .call | .arrayLiteral | .objectLiteral | .other => .other
  pure ⟨opening.span.join close.span, kind⟩

/-- Whether an asynchronous function begins at the word `async`. -/
def asyncFunctionAhead : Parse Bool := do
  let (_, next) ← peek2
  pure (next.type = .keywordFunction && !next.afterLineBreak)

/-- Reads a name as the use of a variable. -/
def variableUse (ctx : Context) : Parse Expr := do
  let t ← consumeIn .slashIsRegex
  refer ctx (decodeName t.text) t.span false
  pure ⟨t.span, .identifier⟩

/-- Reads an operand without members and calls after it. -/
def primaryExpr (g : Grammar) (ctx : Context) : Parse Expr := do
  let t ← peekIn .slashIsRegex
  match t.type with
  | .keywordAsync => if ← asyncFunctionAhead then functionExpr g ctx else variableUse ctx
  | .keywordThis | .literalBigInt | .literalFalse | .literalNull | .literalNumber | .literalRegex
  | .literalString | .literalTrue =>
    let _ ← consumeIn .slashIsRegex
    pure (.other t.span)
  | .literalTemplatePartString | .literalTemplatePartStringEnd =>
    let stop ← template g ctx
    pure (.other ⟨t.span.start, stop⟩)
  | .parenthesisOpen => parenthesized g ctx
  | .bracketOpen => arrayLiteral g ctx
  | .braceOpen => objectLiteral g ctx
  | .keywordFunction => functionExpr g ctx
  | .keywordClass => classExpr g ctx
  | .privateMember =>
    let _ ← consumeIn .slashIsRegex
    let next ← peek
    if next.type = .keywordIn then pure (.other t.span) else t.fail (.expected "expression")
  | .invalid => t.fail .invalidToken
  | .eof => t.fail .unexpectedEnd
  | type => if type.isIdentifier then variableUse ctx else t.fail (.expected "expression")

/-- Reads a name that has to be spelled in one way after a keyword and a dot. -/
def metaProperty (keyword : Token) (spelling whole : String) : Parse Expr := do
  let t ← require .identifier
  if t.text = spelling then pure ⟨keyword.span.join t.span, .member⟩
  else t.fail (.expected whole)

/-- `new` with its callee and arguments, or `new.target`. -/
def newLevel (g : Grammar) (ctx : Context) : Parse Expr := do
  let keyword ← consumeIn .slashIsRegex
  if ← consumeIf .dot then metaProperty keyword "target" "`new.target`"
  else
    markSideEffect ctx
    let t ← peekIn .slashIsRegex
    let operand ← if t.type = .keywordNew then g.newExpr ctx else primaryExpr g ctx
    let callee ← callChain g ctx false operand
    let next ← peek
    let stop ←
      if next.type = .parenthesisOpen then callArguments g ctx else pure callee.span.stop
    pure ⟨⟨keyword.span.start, stop⟩, .call⟩

/-- Records an `import(…)` whose argument is a string literal and nothing else. -/
def recordDynamicImport (ctx : Context) (first : Token) (argument call : Span) : Parse Unit :=
  if first.type = .literalString ∧ first.span = argument then
    match decodeString first.text with
    | some specifier =>
      modify fun s =>
        { s with
          dynamicImports := s.dynamicImports.push ⟨⟨specifier, argument⟩, call, ctx.scope⟩ }
    | none => pure ()
  else pure ()

/-- `import(…)`, which may have options after its argument, or `import.meta`. -/
def importExpr (g : Grammar) (ctx : Context) : Parse Expr := do
  let keyword ← consumeIn .slashIsRegex
  if ← consumeIf .dot then metaProperty keyword "meta" "`import.meta`"
  else
    let _ ← require .parenthesisOpen
    markSideEffect ctx
    let first ← peekIn .slashIsRegex
    let argument ← g.assignExpr (ctx.withIn true)
    if ← consumeIf .comma then
      let next ← peek
      if next.type ≠ .parenthesisClose then
        let _ ← g.assignExpr (ctx.withIn true)
        let _ ← consumeIf .comma
    let close ← require .parenthesisClose
    let span := keyword.span.join close.span
    recordDynamicImport ctx first argument.span span
    pure ⟨span, .call⟩

/-- An operand with its members and calls. -/
def lhsLevel (g : Grammar) (ctx : Context) : Parse Expr := do
  let t ← peekIn .slashIsRegex
  let operand ←
    match t.type with
    | .keywordNew => newLevel g ctx
    | .keywordSuper =>
      let _ ← consumeIn .slashIsRegex
      pure (.other t.span)
    | .keywordImport => importExpr g ctx
    | _ => primaryExpr g ctx
  callChain g ctx true operand

/-- Reads an operator before its operand. -/
def unaryOperation (g : Grammar) (ctx : Context) (isObservable : Bool) : Parse Expr := do
  let operator ← consumeIn .slashIsRegex
  if isObservable then markSideEffect ctx
  let operand ← g.unaryExpr ctx
  pure (.other (operator.span.join operand.span))

/-- An operand, and `++` or `--` on the same line after it. -/
def postfixExpr (g : Grammar) (ctx : Context) : Parse Expr := do
  let operand ← g.lhsExpr ctx
  let t ← peek
  if (t.type = .plusPlus || t.type = .hyphenHyphen) && !t.afterLineBreak then
    let _ ← consume
    markSideEffect ctx
    pure (.other (operand.span.join t.span))
  else pure operand

/-- An operand with the operators before or after it. -/
def unaryLevel (g : Grammar) (ctx : Context) : Parse Expr := do
  let t ← peekIn .slashIsRegex
  match t.type with
  | .keywordDelete | .plusPlus | .hyphenHyphen => unaryOperation g ctx true
  | .keywordAwait => if ctx.awaitAllowed then unaryOperation g ctx true else postfixExpr g ctx
  | .keywordVoid | .keywordTypeof | .plus | .hyphen | .tilde | .exclamation =>
    unaryOperation g ctx false
  | _ => postfixExpr g ctx

/-! ## Operators -/

/-- Operands with binary operators between them. How they group changes nothing of what is recorded,
so they are read in a row. -/
def binaryExpr (g : Grammar) (ctx : Context) : Parse Expr := do
  let first ← g.unaryExpr ctx
  loop (fun (e : Expr) => do
    let t ← peek
    if t.type.binaryOperator?.isNone || (t.type = .keywordIn && !ctx.inAllowed) then
      pure (.done e)
    else
      let _ ← consume
      let right ← g.unaryExpr ctx
      pure (.again (.other (e.span.join right.span)))) first

/-- A condition with its two outcomes, or what binds tighter. -/
def conditionalExpr (g : Grammar) (ctx : Context) : Parse Expr := do
  let test ← binaryExpr g ctx
  if ← consumeIf .question then
    let _ ← g.assignExpr (ctx.withIn true)
    let _ ← require .colon
    let alternative ← g.assignExpr ctx
    pure (.other (test.span.join alternative.span))
  else pure test

/-- Tokens at which an expression is over. After `yield` they show that it has no operand. -/
def endsExpression : TokenType → Bool
  | .parenthesisClose | .bracketClose | .braceClose | .comma | .semicolon | .colon | .eof
  | .keywordIn | .keywordOf => true
  | _ => false

def yieldExpr (g : Grammar) (ctx : Context) : Parse Expr := do
  let keyword ← consume
  markSideEffect ctx
  let next ← peek
  let delegates ← if next.afterLineBreak then pure false else consumeIf .asterisk
  let operand ← peekIn .slashIsRegex
  if delegates || (!operand.afterLineBreak && !endsExpression operand.type) then
    let value ← g.assignExpr ctx
    pure (.other (keyword.span.join value.span))
  else pure (.other keyword.span)

/-- Reads the parameters of an arrow function, if that is what stands here. -/
def arrowParameters (g : Grammar) (ctx : Context) : Parse Bool := do
  let t ← peek
  if t.type.isIdentifier then
    let _ ← consume
    declare ctx (decodeName t.text) t.span .param false
    pure true
  else if t.type = .parenthesisOpen then succeeds (functionParameters g ctx)
  else pure false

/-- Reads what comes before the body of an arrow function, up to and with the arrow, and answers the
context of the body. -/
def arrowHead (g : Grammar) (ctx : Context) : Parse (Option Context) := do
  let (a, b) ← peek2
  let isAsync := a.type = .keywordAsync && b.type ≠ .equalsChevronRight && !b.afterLineBreak
  if isAsync then
    let _ ← consume
  let scope ← enterScope ctx.scope .function
  let inner := (ctx.forFunction isAsync false).within scope
  if ← arrowParameters g inner then
    let arrow ← peek
    if arrow.type = .equalsChevronRight then
      let _ ← consume
      if arrow.afterLineBreak then arrow.fail .lineTerminatorAfterArrowParameters
      else pure (some inner)
    else pure none
  else pure none

/-- Reads the body of an arrow function, in braces or an expression, and answers where it ends. -/
def arrowBody (g : Grammar) (inner : Context) (inAllowed : Bool) : Parse Nat := do
  let t ← peek
  if t.type = .braceOpen then functionBody g inner
  else
    let e ← g.assignExpr (inner.withIn inAllowed)
    pure e.span.stop

/-- Tries to read an arrow function. Up to the arrow it may turn out to be something else; after it,
errors are errors. -/
def arrowFunction (g : Grammar) (ctx : Context) : Parse (Option Expr) := do
  let start ← peek
  match ← attempt (arrowHead g ctx) with
  | none => pure none
  | some inner =>
    let stop ← arrowBody g inner.deferred ctx.inAllowed
    pure (some (.other ⟨start.span.start, stop⟩))

/-- Whether an arrow function may begin at a token. -/
def arrowFunctionAhead (t : Token) : Parse Bool := do
  if t.type = .parenthesisOpen || t.type = .keywordAsync then pure true
  else if t.type.isIdentifier then
    let (_, next) ← peek2
    pure (next.type = .equalsChevronRight)
  else pure false

/-- An assignment, or what binds tighter. -/
def assignment (g : Grammar) (ctx : Context) : Parse Expr := do
  let target ← conditionalExpr g ctx
  let operator ← peek
  if operator.type.isAssignmentOperator then
    if target.isAssignmentTarget then
      let _ ← consume
      markSideEffect ctx
      let value ← g.assignExpr ctx
      pure (.other (target.span.join value.span))
    else throw ⟨.expected "assignment target", target.span, some operator.type⟩
  else pure target

/-- An expression without commas at its top. -/
def assignLevel (g : Grammar) (ctx : Context) : Parse Expr := do
  let t ← peekIn .slashIsRegex
  if t.type = .keywordYield && ctx.yieldAllowed then yieldExpr g ctx
  else
    let arrow ← if ← arrowFunctionAhead t then arrowFunction g ctx else pure none
    match arrow with
    | some e => pure e
    | none => assignment g ctx

end ModuleBundler
