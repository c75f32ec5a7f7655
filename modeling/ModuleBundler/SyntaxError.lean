import ModuleBundler.Text.Span
import ModuleBundler.Token.Basic

/-!
# Syntax errors

* `SyntaxError` : a cause, the span it concerns and the token that was found there;
* `SyntaxError.Cause.code` : the stable code of a cause;
* `SyntaxError.message` : the text for people.
-/

namespace ModuleBundler

/-- Why a text is no module. -/
inductive SyntaxError.Cause where
  /-- Something else was expected here. -/
  | expected (what : String)
  | invalidToken
  | lineTerminatorAfterArrowParameters
  | lineTerminatorAfterThrow
  | moduleSyntaxNotAtTopLevel
  | missingToken (required : TokenType)
  | tryWithoutHandler
  | unexpectedEnd
  | nestingTooDeep
  | duplicateDeclaration
  | returnOutsideFunction
  | missingConstInitializer
  | undefinedLabel
  /-- A `break` outside of loops and switches, or a `continue` that targets no loop. -/
  | jumpOutsideLoop
  | duplicateLabel
  deriving DecidableEq

structure SyntaxError where
  cause : SyntaxError.Cause
  span : Span
  actual : Option TokenType
  deriving DecidableEq

/-- The stable code of a cause. -/
def SyntaxError.Cause.code : SyntaxError.Cause → String
  | .expected _ => "PS0001"
  | .invalidToken => "PS0002"
  | .lineTerminatorAfterArrowParameters => "PS0003"
  | .lineTerminatorAfterThrow => "PS0004"
  | .moduleSyntaxNotAtTopLevel => "PS0005"
  | .missingToken _ => "PS0006"
  | .tryWithoutHandler => "PS0007"
  | .unexpectedEnd => "PS0008"
  | .nestingTooDeep => "PS0009"
  | .duplicateDeclaration => "PS0010"
  | .returnOutsideFunction => "PS0011"
  | .missingConstInitializer => "PS0012"
  | .undefinedLabel => "PS0013"
  | .jumpOutsideLoop => "PS0014"
  | .duplicateLabel => "PS0015"

/-- The text for people, without the place. -/
def SyntaxError.message (e : SyntaxError) : String :=
  match e.cause with
  | .expected what => "expected " ++ what
  | .invalidToken => "invalid or unterminated token"
  | .lineTerminatorAfterArrowParameters =>
    "line terminator not allowed after arrow function parameters"
  | .lineTerminatorAfterThrow => "line terminator not allowed after `throw`"
  | .moduleSyntaxNotAtTopLevel =>
    "import and export declarations may only appear at the top level of a module"
  | .missingToken required => "expected token " ++ required.name
  | .tryWithoutHandler => "try statement requires a catch or finally block"
  | .unexpectedEnd =>
    match e.actual with
    | some type => "unexpected end before " ++ type.name
    | none => "unexpected end of input"
  | .nestingTooDeep => "expressions or statements are nested too deeply"
  | .duplicateDeclaration => "identifier has already been declared"
  | .returnOutsideFunction => "`return` outside of a function"
  | .missingConstInitializer => "missing initializer in `const` declaration"
  | .undefinedLabel => "label is not defined"
  | .jumpOutsideLoop =>
    if e.actual = some .keywordContinue then "`continue` must target an enclosing loop"
    else "`break` must be inside a loop or `switch`"
  | .duplicateLabel => "label has already been declared"

end ModuleBundler
