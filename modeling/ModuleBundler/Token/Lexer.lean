import ModuleBundler.Text.Cursor
import ModuleBundler.Text.Span
import ModuleBundler.Token.Basic

/-!
# From text to tokens

* `Token` : a type, where it stands, whether a line ended before it, and its text;
* `LexMode` : what a slash means, or that a template goes on;
* `skipTrivia` : past blanks, line ends and comments;
* `scanName`, `scanNumber`, `scanString`, `scanRegex`, `scanTemplate` : one token each;
* `nextToken` : the next token from a cursor and the cursor after it. It always answers: text that
  no token can be made of is a token of type `invalid` that reaches as far as it was read.
-/

namespace ModuleBundler

/-- A piece of module text with a meaning of its own. -/
structure Token where
  type : TokenType
  span : Span
  /-- Some line terminator stands between this token and the one before. -/
  afterLineBreak : Bool
  text : String
  deriving DecidableEq, Inhabited

/-- How to read the next token. -/
inductive LexMode where
  /-- A slash divides. -/
  | standard
  /-- A slash begins a regular expression. -/
  | slashIsRegex
  /-- The text of a template goes on after a substitution. -/
  | templateContinue
  deriving DecidableEq, Inhabited

/-- The type of a token and the place after it. -/
structure Lexeme where
  type : TokenType
  stop : Cursor

/-! ## Trivia -/

/-- What is being skipped between tokens. -/
inductive Trivia where
  | blank | lineComment | blockComment

/-- Skips blanks, line ends and comments. A block comment that is never closed reaches to the end.
Also answers whether a line terminator was passed, or `lineBreak` held before. -/
def skipTrivia : Trivia → Bool → Nat → List Char → Bool × Cursor
  | .blank, lineBreak, offset, '/' :: '*' :: rest =>
    skipTrivia .blockComment lineBreak (offset + 2) rest
  | .blank, lineBreak, offset, '/' :: '/' :: rest =>
    skipTrivia .lineComment lineBreak (offset + 2) rest
  | .blockComment, lineBreak, offset, '*' :: '/' :: rest =>
    skipTrivia .blank lineBreak (offset + 2) rest
  | _, lineBreak, offset, [] => (lineBreak, ⟨offset, []⟩)
  | state, lineBreak, offset, c :: rest =>
    if isLineTerminator c then
      skipTrivia (match state with | .lineComment => .blank | other => other) true
        (offset + c.utf8Size) rest
    else
      match state with
      | .blank =>
        if isWhitespace c then skipTrivia .blank lineBreak (offset + c.utf8Size) rest
        else (lineBreak, ⟨offset, c :: rest⟩)
      | .lineComment => skipTrivia .lineComment lineBreak (offset + c.utf8Size) rest
      | .blockComment => skipTrivia .blockComment lineBreak (offset + c.utf8Size) rest

/-- Where the text before the next token ends, and whether a line ends in it. At the very start a
line that begins with `#!` is a comment. -/
def Cursor.skipTrivia (c : Cursor) : Bool × Cursor :=
  match c.offset, c.rest with
  | 0, '#' :: '!' :: _ => ModuleBundler.skipTrivia .lineComment false c.offset c.rest
  | _, _ => ModuleBundler.skipTrivia .blank false c.offset c.rest

/-! ## Names -/

def isHexDigit (c : Char) : Bool := (digitValue? 16 c).isSome

/-- How far the reading of a name has come: between characters, after a backslash, after its `u`,
with so many of four hexadecimal digits to go, or inside braces with or without a digit yet. -/
inductive NameState where
  | between | backslash | unicode | digits (left : Nat) | braces (any : Bool)

/-- Reads characters of a name and `\u` escapes. Fails at a malformed escape, with the place up to
which it was read. -/
def scanName : NameState → Nat → List Char → Except Cursor Cursor
  | .between, offset, [] => .ok ⟨offset, []⟩
  | .between, offset, c :: rest =>
    if c = '\\' then scanName .backslash (offset + 1) rest
    else if isIdentifierContinue c then scanName .between (offset + c.utf8Size) rest
    else .ok ⟨offset, c :: rest⟩
  | .backslash, offset, c :: rest =>
    if c = 'u' then scanName .unicode (offset + 1) rest
    else .error ⟨offset + c.utf8Size, rest⟩
  | .unicode, offset, c :: rest =>
    if c = '{' then scanName (.braces false) (offset + 1) rest
    else if isHexDigit c then scanName (.digits 3) (offset + 1) rest
    else .error ⟨offset + c.utf8Size, rest⟩
  | .digits left, offset, c :: rest =>
    if isHexDigit c then
      scanName (if left ≤ 1 then .between else .digits (left - 1)) (offset + 1) rest
    else .error ⟨offset + c.utf8Size, rest⟩
  | .braces any, offset, c :: rest =>
    if isHexDigit c then scanName (.braces true) (offset + 1) rest
    else if !any then .error ⟨offset, c :: rest⟩
    else if c = '}' then scanName .between (offset + 1) rest
    else .error ⟨offset + c.utf8Size, rest⟩
  | _, offset, [] => .error ⟨offset, []⟩

/-- Reads a name from its first character, which is an escape or may begin a name. -/
def Cursor.scanName (c : Cursor) : Except Cursor Cursor :=
  let first := if c.rest.head? = some '\\' then c else c.skip
  ModuleBundler.scanName .between first.offset first.rest

/-- A name or keyword. A keyword that is written with an escape is a name. -/
def scanWord (c : Cursor) : Lexeme :=
  match c.scanName with
  | .ok stop => ⟨wordType (c.textUpTo stop.offset), stop⟩
  | .error stop => ⟨.invalid, stop⟩

/-- The name of a private member with its `#`. -/
def scanPrivateName (c : Cursor) : Lexeme :=
  let name := c.skip
  match name.rest with
  | [] => ⟨.invalid, name⟩
  | first :: _ =>
    if first = '\\' || isIdentifierStart first then
      match name.scanName with
      | .ok stop => ⟨.privateMember, stop⟩
      | .error stop => ⟨.invalid, stop⟩
    else ⟨.invalid, name⟩

/-! ## Numbers -/

/-- The exponent of a number, if there is one. Fails if it has no digits. -/
def scanExponent (c : Cursor) : Except Cursor Cursor :=
  match c.rest with
  | 'e' :: rest | 'E' :: rest =>
    match rest with
    | [] => .error c.skip
    | sign :: _ =>
      let digits := if sign = '+' || sign = '-' then c.skip.skip else c.skip
      let stop := digits.skipWhile (isDigit 10)
      if stop.offset = digits.offset then .error stop else .ok stop
  | _ => .ok c

/-- The rest of a decimal number after its fraction. No name may follow. -/
def finishNumber (fraction : Cursor) : Lexeme :=
  match scanExponent fraction with
  | .error stop => ⟨.invalid, stop⟩
  | .ok stop =>
    match stop.rest with
    | next :: _ => ⟨if isIdentifierStart next then .invalid else .literalNumber, stop⟩
    | [] => ⟨.literalNumber, stop⟩

/-- A decimal number. One like `017` has no fraction. -/
def scanNumber (c : Cursor) : Lexeme :=
  let whole := c.skipWhile (isDigit 10)
  let digits := c.upTo whole.offset
  let isLegacyOctal :=
    digits.head? = some '0' && 1 < digits.length && digits.all fun d => '0' ≤ d && d ≤ '7'
  if whole.rest.head? = some 'n' then ⟨.literalBigInt, whole.skip⟩
  else
    finishNumber <|
      if whole.rest.head? = some '.' && !isLegacyOctal then whole.skip.skipWhile (isDigit 10)
      else whole

/-- A number after a two-character mark of its radix. -/
def scanRadixNumber (radix : Nat) (c : Cursor) : Lexeme :=
  let digits := c.skip.skip
  let stop := digits.skipWhile (isDigit radix)
  if stop.offset = digits.offset then ⟨.invalid, stop⟩
  else if stop.rest.head? = some 'n' then ⟨.literalBigInt, stop.skip⟩
  else ⟨.literalNumber, stop⟩

/-! ## Quoted text -/

/-- The rest of a string after its opening quote. Of the line terminators only a bare line feed ends
it too soon. -/
def scanString (quote : Char) : Nat → List Char → Lexeme
  | offset, [] => ⟨.invalid, ⟨offset, []⟩⟩
  | offset, '\\' :: [] => ⟨.invalid, ⟨offset + 1, []⟩⟩
  | offset, '\\' :: '\r' :: '\n' :: rest => scanString quote (offset + 3) rest
  | offset, '\\' :: c :: rest => scanString quote (offset + 1 + c.utf8Size) rest
  | offset, c :: rest =>
    if c = '\n' then ⟨.invalid, ⟨offset + 1, rest⟩⟩
    else if c = quote then ⟨.literalString, ⟨offset + c.utf8Size, rest⟩⟩
    else scanString quote (offset + c.utf8Size) rest

/-- The rest of a regular expression after its opening slash, `inSet` inside brackets. -/
def scanRegex : Bool → Nat → List Char → Lexeme
  | _, offset, [] => ⟨.invalid, ⟨offset, []⟩⟩
  | _, offset, '\\' :: [] => ⟨.invalid, ⟨offset + 1, []⟩⟩
  | inSet, offset, '\\' :: c :: rest =>
    if isLineTerminator c then ⟨.invalid, ⟨offset + 1 + c.utf8Size, rest⟩⟩
    else scanRegex inSet (offset + 1 + c.utf8Size) rest
  | inSet, offset, c :: rest =>
    if c = '/' && !inSet then
      ⟨.literalRegex, Cursor.skipWhile isIdentifierContinue ⟨offset + 1, rest⟩⟩
    else if isLineTerminator c then ⟨.invalid, ⟨offset + c.utf8Size, rest⟩⟩
    else scanRegex (c = '[' || (inSet && c ≠ ']')) (offset + c.utf8Size) rest

/-- The text of a template up to a substitution or the closing backquote. -/
def scanTemplate : Nat → List Char → Lexeme
  | offset, [] => ⟨.invalid, ⟨offset, []⟩⟩
  | offset, '\\' :: [] => ⟨.invalid, ⟨offset + 1, []⟩⟩
  | offset, '\\' :: c :: rest => scanTemplate (offset + 1 + c.utf8Size) rest
  | offset, '$' :: '{' :: rest => ⟨.literalTemplatePartString, ⟨offset + 2, rest⟩⟩
  | offset, c :: rest =>
    if c = '\x60' then ⟨.literalTemplatePartStringEnd, ⟨offset + 1, rest⟩⟩
    else scanTemplate (offset + c.utf8Size) rest

/-! ## Tokens -/

/-- The punctuators by their characters, longer ones first. -/
def operatorTable : List (List Char × TokenType) :=
  operators.map fun entry => (entry.1.toList, entry.2)

/-- The longest punctuator at a place. -/
def scanOperator (c : Cursor) : Lexeme :=
  match operatorTable.find? fun entry => entry.1.isPrefixOf c.rest with
  | some (text, type) => ⟨type, c.advanceTo (c.offset + text.length)⟩
  | none => ⟨.invalid, c⟩

/-- One token that begins right at the cursor. -/
def scanToken (slashIsRegex : Bool) (c : Cursor) : Lexeme :=
  match c.rest with
  | [] => ⟨.eof, c⟩
  | first :: rest =>
    if first = '\\' || isIdentifierStart first then scanWord c
    else if first.isDigit then
      match first, rest with
      | '0', 'b' :: _ | '0', 'B' :: _ => scanRadixNumber 2 c
      | '0', 'o' :: _ | '0', 'O' :: _ => scanRadixNumber 8 c
      | '0', 'x' :: _ | '0', 'X' :: _ => scanRadixNumber 16 c
      | _, _ => scanNumber c
    else if first = '"' || first = '\'' then scanString first (c.offset + 1) rest
    else if first = '\x60' then scanTemplate (c.offset + 1) rest
    else if first = '#' then scanPrivateName c
    else if first = '/' && slashIsRegex then scanRegex false (c.offset + 1) rest
    else
      match first, rest with
      | '.', d :: _ => if d.isDigit then scanNumber c else scanOperator c
      | '?', '.' :: d :: _ => if d.isDigit then ⟨.question, c.skip⟩ else scanOperator c
      | _, _ => scanOperator c

/-- The next token in a mode, and the place after it. -/
def nextToken (mode : LexMode) (c : Cursor) : Token × Cursor :=
  let (lineBreak, start) :=
    match mode with
    | .templateContinue => (false, c)
    | _ => c.skipTrivia
  let lexeme :=
    match mode with
    | .templateContinue => scanTemplate start.offset start.rest
    | .slashIsRegex => scanToken true start
    | .standard => scanToken false start
  let text := start.textUpTo lexeme.stop.offset
  (⟨lexeme.type, ⟨start.offset, lexeme.stop.offset⟩, lineBreak, text⟩, lexeme.stop)

end ModuleBundler
