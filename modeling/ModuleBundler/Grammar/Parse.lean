import ModuleBundler.Grammar.Context
import ModuleBundler.ModuleRecord
import ModuleBundler.Token.Stream

/-!
# Reading and recording

* `ParserState` : the tokens and what was recorded of the module so far;
* `Parse` : a reader of tokens that may fail with a syntax error;
* `peek`, `consume`, `consumeIf`, `require`, … : single tokens;
* `enterScope`, `declare`, `refer`, `markSideEffect` : what is recorded;
* `loop` : rounds that each read something; `separatedList` : items up to a closing token;
* `attempt` : a reading that is undone when it has no answer.
-/

namespace ModuleBundler

/-- The tokens of a module and what was recorded so far. -/
structure ParserState where
  tokens : TokenStream
  scopes : Array Scope
  declarations : Array Declaration
  references : Array Reference
  dynamicImports : Array DynamicImport
  /-- Something that may be observed is evaluated by the item at hand. -/
  sideEffects : Bool
  items : Array ModuleItem
  requests : Array ModuleRequest
  imports : Array ImportDeclaration
  exports : Array ExportSpecifier
  starExports : Array Nat

/-- The start of a module text. -/
def ParserState.ofString (source : String) : ParserState where
  tokens := .ofString source
  scopes := #[⟨none, .module⟩]
  declarations := #[]
  references := #[]
  dynamicImports := #[]
  sideEffects := false
  items := #[]
  requests := #[]
  imports := #[]
  exports := #[]
  starExports := #[]

/-- Goes back to an earlier state. The module's items and what they ask for and offer stay, as does
what was looked at ahead. -/
def ParserState.rewindTo (earlier s : ParserState) : ParserState :=
  { s with
    tokens := s.tokens.rewindTo earlier.tokens.count
    scopes := earlier.scopes
    declarations := earlier.declarations
    references := earlier.references
    dynamicImports := earlier.dynamicImports
    sideEffects := earlier.sideEffects }

/-- A reader of tokens. -/
abbrev Parse (α : Type) := StateT ParserState (Except SyntaxError) α

/-! ## Failing -/

/-- Fails at a token. -/
def Token.fail {α : Type} (t : Token) (cause : SyntaxError.Cause) : Parse α :=
  throw ⟨cause, t.span, some t.type⟩

/-- Fails at a span where no token is to blame. -/
def Span.fail {α : Type} (span : Span) (cause : SyntaxError.Cause) : Parse α :=
  throw ⟨cause, span, none⟩

/-! ## Tokens -/

/-- The next token in a mode. It is not read. -/
def peekIn (mode : LexMode) : Parse Token := do
  let s ← get
  let (t, tokens) := s.tokens.peek mode
  set { s with tokens }
  pure t

def peek : Parse Token := peekIn .standard

/-- The next two tokens. -/
def peek2 : Parse (Token × Token) := do
  let s ← get
  let (pair, tokens) := s.tokens.peek2
  set { s with tokens }
  pure pair

/-- The next three tokens. -/
def peek3 : Parse (Token × Token × Token) := do
  let s ← get
  let (triple, tokens) := s.tokens.peek3
  set { s with tokens }
  pure triple

/-- Reads the next token in a mode. -/
def consumeIn (mode : LexMode) : Parse Token := do
  let s ← get
  let (t, tokens) := s.tokens.advance mode
  set { s with tokens }
  pure t

def consume : Parse Token := consumeIn .standard

/-- Reads the next token if it is of the type. -/
def consumeIf (type : TokenType) : Parse Bool := do
  let t ← peek
  if t.type = type then
    let _ ← consume
    pure true
  else pure false

/-- Reads the next token, which has to be of the type. -/
def requireIn (mode : LexMode) (type : TokenType) : Parse Token := do
  let t ← consumeIn mode
  if t.type = type then pure t else t.fail (.missingToken type)

def require (type : TokenType) : Parse Token := requireIn .standard type

/-- Reads the next token, which has to be as described. -/
def requireThat (accepts : TokenType → Bool) (what : String) : Parse Token := do
  let t ← consume
  if accepts t.type then pure t else t.fail (.expected what)

/-- The offset at which the last token read ends. -/
def lastEnd : Parse Nat := do
  let s ← get
  pure s.tokens.lastEnd

/-- Reads a semicolon, or finds a place where one may be missing: before a closing brace, at the end
and after a line terminator. Answers whether it is missing. -/
def requireSemicolon : Parse Bool := do
  let t ← peek
  match t.type with
  | .semicolon =>
    let _ ← consume
    pure false
  | .braceClose | .eof => pure true
  | _ => if t.afterLineBreak then pure true else t.fail (.missingToken .semicolon)

/-! ## Records -/

/-- Opens a scope inside another one. -/
def enterScope (parent : ScopeId) (type : ScopeType) : Parse ScopeId := do
  let s ← get
  set { s with scopes := s.scopes.push ⟨some parent, type⟩ }
  pure s.scopes.size

def declare (ctx : Context) (name : String) (span : Span) (kind : DeclarationKind)
    (shorthand : Bool) : Parse Unit :=
  modify fun s =>
    { s with declarations := s.declarations.push ⟨name, span, ctx.scope, kind, shorthand⟩ }

/-- Records that a variable is used. -/
def refer (ctx : Context) (name : String) (span : Span) (shorthand : Bool) : Parse Unit :=
  modify fun s =>
    { s with references := s.references.push ⟨name, span, ctx.scope, shorthand⟩ }

/-- The number of declarations recorded so far. -/
def declarationCount : Parse Nat := do
  let s ← get
  pure s.declarations.size

/-- The number of references recorded so far. -/
def referenceCount : Parse Nat := do
  let s ← get
  pure s.references.size

/-- Records that something is evaluated that may be observed, unless that is put off. -/
def markSideEffect (ctx : Context) : Parse Unit :=
  modify fun s => { s with sideEffects := s.sideEffects || !ctx.isDeferred }

/-! ## Repeating and trying -/

/-- What a round of a loop comes to. -/
inductive Round (β α : Type) where
  | again (state : β)
  | done (result : α)

/-- Repeats a round until it is done. Every round reads a token; one that did not would be an end of
the text that nothing noticed. -/
def loop {β α : Type} (round : β → Parse (Round β α)) (b : β) (s : ParserState) :
    Except SyntaxError (α × ParserState) :=
  match round b s with
  | .error e => .error e
  | .ok (.done a, s') => .ok (a, s')
  | .ok (.again b', s') =>
    if s'.tokens.remaining < s.tokens.remaining then loop round b' s'
    else .error ⟨.unexpectedEnd, .point s'.tokens.lastEnd, none⟩
termination_by s.tokens.remaining

/-- Repeats a round as long as it answers that there is more. -/
def loopWhile (round : Parse Bool) : Parse Unit :=
  loop (fun _ => do
    if ← round then pure (.again ()) else pure (.done ())) ()

/-- Items with separators between them, up to and with a closing token. A separator may stand after
the last item. -/
def separatedList (separator close : TokenType) (item : Parse Unit) : Parse Unit :=
  loopWhile do
    if ← consumeIf close then pure false
    else
      item
      if ← consumeIf separator then pure true
      else
        let _ ← require close
        pure false

/-- Reads, or leaves everything as it was if there is no answer. -/
def attempt {α : Type} (reading : Parse (Option α)) : Parse (Option α) := fun s =>
  match reading s with
  | .ok (none, _) => .ok (none, s)
  | other => other

/-- Whether something can be read here. -/
def succeeds (reading : Parse Unit) : Parse Bool := fun s =>
  match reading s with
  | .ok (_, s') => .ok (true, s')
  | .error _ => .ok (false, s)

end ModuleBundler
