import ModuleBundler.Text.Character

/-!
# Token types

* `TokenType` : what a token is;
* `TokenType.name` : its name in messages, `TokenType.all` : every type;
* `operators`, `keywords` : the fixed texts of tokens, longer operators first;
* `TokenType.isIdentifier`, `TokenType.isIdentifierName`, … : the classes the grammar asks for;
* `TokenType.binaryOperator?` : precedence and associativity of the operators between operands.
-/

namespace ModuleBundler

/-- What a token is. Comments, blanks, line terminators and the three number forms with a radix are
recognised on the way to a token and are never the type of one. -/
inductive TokenType where
  | eof | invalid | ampersand | ampersandAmpersand | ampersandAmpersandEquals | ampersandEquals
  | asterisk | asteriskAsterisk | asteriskAsteriskEquals | asteriskEquals | at | bar | barBar
  | barBarEquals | barEquals | braceClose | braceOpen | bracketClose | bracketOpen | caret
  | caretEquals | chevronLeft | chevronLeftChevronLeft | chevronLeftChevronLeftEquals
  | chevronLeftEquals | chevronRight | chevronRightChevronRight
  | chevronRightChevronRightChevronRight | chevronRightChevronRightChevronRightEquals
  | chevronRightChevronRightEquals | chevronRightEquals | colon | comma | commentMultiline
  | commentMultilineEnd | commentSingle | dot | dotDotDot | equals | equalsChevronRight
  | equalsEquals | equalsEqualsEquals | exclamation | exclamationEquals | exclamationEqualsEquals
  | hyphen | hyphenEquals | hyphenHyphen | identifier | keywordAs | keywordAsync | keywordAwait
  | keywordBreak | keywordCase | keywordCatch | keywordClass | keywordConst | keywordContinue
  | keywordDebugger | keywordDefault | keywordDelete | keywordDo | keywordElse | keywordEnum
  | keywordExport | keywordExtends | keywordFinally | keywordFor | keywordFrom | keywordFunction
  | keywordGet | keywordIf | keywordImport | keywordIn | keywordInstanceof | keywordLet
  | keywordNew | keywordOf | keywordReturn | keywordSet | keywordStatic | keywordSuper
  | keywordSwitch | keywordThis | keywordThrow | keywordTry | keywordTypeof | keywordVar
  | keywordVoid | keywordWhile | keywordWith | keywordYield | literalBigInt | literalFalse
  | literalNull | literalNumber | literalNumberBin | literalNumberHex | literalNumberOct
  | literalRegex | literalString | literalTemplatePartString | literalTemplatePartStringEnd
  | literalTrue | lineTerminator | parenthesisClose | parenthesisOpen | percent | percentEquals
  | plus | plusEquals | plusPlus | privateMember | question | questionDot | questionQuestion
  | questionQuestionEquals | semicolon | slash | slashEquals | tilde | whitespace
  deriving DecidableEq, Inhabited

namespace TokenType

/-- The name of a type in messages. -/
def name : TokenType → String
  | .eof => "EOF"
  | .invalid => "Invalid"
  | .ampersand => "Ampersand"
  | .ampersandAmpersand => "AmpersandAmpersand"
  | .ampersandAmpersandEquals => "AmpersandAmpersandEquals"
  | .ampersandEquals => "AmpersandEquals"
  | .asterisk => "Asterisk"
  | .asteriskAsterisk => "AsteriskAsterisk"
  | .asteriskAsteriskEquals => "AsteriskAsteriskEquals"
  | .asteriskEquals => "AsteriskEquals"
  | .at => "At"
  | .bar => "Bar"
  | .barBar => "BarBar"
  | .barBarEquals => "BarBarEquals"
  | .barEquals => "BarEquals"
  | .braceClose => "BraceClose"
  | .braceOpen => "BraceOpen"
  | .bracketClose => "BracketClose"
  | .bracketOpen => "BracketOpen"
  | .caret => "Caret"
  | .caretEquals => "CaretEquals"
  | .chevronLeft => "ChevronLeft"
  | .chevronLeftChevronLeft => "ChevronLeftChevronLeft"
  | .chevronLeftChevronLeftEquals => "ChevronLeftChevronLeftEquals"
  | .chevronLeftEquals => "ChevronLeftEquals"
  | .chevronRight => "ChevronRight"
  | .chevronRightChevronRight => "ChevronRightChevronRight"
  | .chevronRightChevronRightChevronRight => "ChevronRightChevronRightChevronRight"
  | .chevronRightChevronRightChevronRightEquals => "ChevronRightChevronRightChevronRightEquals"
  | .chevronRightChevronRightEquals => "ChevronRightChevronRightEquals"
  | .chevronRightEquals => "ChevronRightEquals"
  | .colon => "Colon"
  | .comma => "Comma"
  | .commentMultiline => "CommentMultiline"
  | .commentMultilineEnd => "CommentMultilineEnd"
  | .commentSingle => "CommentSingle"
  | .dot => "Dot"
  | .dotDotDot => "DotDotDot"
  | .equals => "Equals"
  | .equalsChevronRight => "EqualsChevronRight"
  | .equalsEquals => "EqualsEquals"
  | .equalsEqualsEquals => "EqualsEqualsEquals"
  | .exclamation => "Exclamation"
  | .exclamationEquals => "ExclamationEquals"
  | .exclamationEqualsEquals => "ExclamationEqualsEquals"
  | .hyphen => "Hyphen"
  | .hyphenEquals => "HyphenEquals"
  | .hyphenHyphen => "HyphenHyphen"
  | .identifier => "Identifier"
  | .keywordAs => "KeywordAs"
  | .keywordAsync => "KeywordAsync"
  | .keywordAwait => "KeywordAwait"
  | .keywordBreak => "KeywordBreak"
  | .keywordCase => "KeywordCase"
  | .keywordCatch => "KeywordCatch"
  | .keywordClass => "KeywordClass"
  | .keywordConst => "KeywordConst"
  | .keywordContinue => "KeywordContinue"
  | .keywordDebugger => "KeywordDebugger"
  | .keywordDefault => "KeywordDefault"
  | .keywordDelete => "KeywordDelete"
  | .keywordDo => "KeywordDo"
  | .keywordElse => "KeywordElse"
  | .keywordEnum => "KeywordEnum"
  | .keywordExport => "KeywordExport"
  | .keywordExtends => "KeywordExtends"
  | .keywordFinally => "KeywordFinally"
  | .keywordFor => "KeywordFor"
  | .keywordFrom => "KeywordFrom"
  | .keywordFunction => "KeywordFunction"
  | .keywordGet => "KeywordGet"
  | .keywordIf => "KeywordIf"
  | .keywordImport => "KeywordImport"
  | .keywordIn => "KeywordIn"
  | .keywordInstanceof => "KeywordInstanceof"
  | .keywordLet => "KeywordLet"
  | .keywordNew => "KeywordNew"
  | .keywordOf => "KeywordOf"
  | .keywordReturn => "KeywordReturn"
  | .keywordSet => "KeywordSet"
  | .keywordStatic => "KeywordStatic"
  | .keywordSuper => "KeywordSuper"
  | .keywordSwitch => "KeywordSwitch"
  | .keywordThis => "KeywordThis"
  | .keywordThrow => "KeywordThrow"
  | .keywordTry => "KeywordTry"
  | .keywordTypeof => "KeywordTypeof"
  | .keywordVar => "KeywordVar"
  | .keywordVoid => "KeywordVoid"
  | .keywordWhile => "KeywordWhile"
  | .keywordWith => "KeywordWith"
  | .keywordYield => "KeywordYield"
  | .literalBigInt => "LiteralBigInt"
  | .literalFalse => "LiteralFalse"
  | .literalNull => "LiteralNull"
  | .literalNumber => "LiteralNumber"
  | .literalNumberBin => "LiteralNumberBin"
  | .literalNumberHex => "LiteralNumberHex"
  | .literalNumberOct => "LiteralNumberOct"
  | .literalRegex => "LiteralRegex"
  | .literalString => "LiteralString"
  | .literalTemplatePartString => "LiteralTemplatePartString"
  | .literalTemplatePartStringEnd => "LiteralTemplatePartStringEnd"
  | .literalTrue => "LiteralTrue"
  | .lineTerminator => "LineTerminator"
  | .parenthesisClose => "ParenthesisClose"
  | .parenthesisOpen => "ParenthesisOpen"
  | .percent => "Percent"
  | .percentEquals => "PercentEquals"
  | .plus => "Plus"
  | .plusEquals => "PlusEquals"
  | .plusPlus => "PlusPlus"
  | .privateMember => "PrivateMember"
  | .question => "Question"
  | .questionDot => "QuestionDot"
  | .questionQuestion => "QuestionQuestion"
  | .questionQuestionEquals => "QuestionQuestionEquals"
  | .semicolon => "Semicolon"
  | .slash => "Slash"
  | .slashEquals => "SlashEquals"
  | .tilde => "Tilde"
  | .whitespace => "Whitespace"

/-- Every type, in order of declaration. -/
def all : List TokenType :=
  [.eof, .invalid, .ampersand, .ampersandAmpersand, .ampersandAmpersandEquals, .ampersandEquals,
   .asterisk, .asteriskAsterisk, .asteriskAsteriskEquals, .asteriskEquals, .at, .bar, .barBar,
   .barBarEquals, .barEquals, .braceClose, .braceOpen, .bracketClose, .bracketOpen, .caret,
   .caretEquals, .chevronLeft, .chevronLeftChevronLeft, .chevronLeftChevronLeftEquals,
   .chevronLeftEquals, .chevronRight, .chevronRightChevronRight,
   .chevronRightChevronRightChevronRight, .chevronRightChevronRightChevronRightEquals,
   .chevronRightChevronRightEquals, .chevronRightEquals, .colon, .comma, .commentMultiline,
   .commentMultilineEnd, .commentSingle, .dot, .dotDotDot, .equals, .equalsChevronRight,
   .equalsEquals, .equalsEqualsEquals, .exclamation, .exclamationEquals, .exclamationEqualsEquals,
   .hyphen, .hyphenEquals, .hyphenHyphen, .identifier, .keywordAs, .keywordAsync, .keywordAwait,
   .keywordBreak, .keywordCase, .keywordCatch, .keywordClass, .keywordConst, .keywordContinue,
   .keywordDebugger, .keywordDefault, .keywordDelete, .keywordDo, .keywordElse, .keywordEnum,
   .keywordExport, .keywordExtends, .keywordFinally, .keywordFor, .keywordFrom, .keywordFunction,
   .keywordGet, .keywordIf, .keywordImport, .keywordIn, .keywordInstanceof, .keywordLet,
   .keywordNew, .keywordOf, .keywordReturn, .keywordSet, .keywordStatic, .keywordSuper,
   .keywordSwitch, .keywordThis, .keywordThrow, .keywordTry, .keywordTypeof, .keywordVar,
   .keywordVoid, .keywordWhile, .keywordWith, .keywordYield, .literalBigInt, .literalFalse,
   .literalNull, .literalNumber, .literalNumberBin, .literalNumberHex, .literalNumberOct,
   .literalRegex, .literalString, .literalTemplatePartString, .literalTemplatePartStringEnd,
   .literalTrue, .lineTerminator, .parenthesisClose, .parenthesisOpen, .percent, .percentEquals,
   .plus, .plusEquals, .plusPlus, .privateMember, .question, .questionDot, .questionQuestion,
   .questionQuestionEquals, .semicolon, .slash, .slashEquals, .tilde, .whitespace]

/-- Keywords that module code may still use as names. The words `let`, `static`, `yield` and `await`
are reserved there. -/
def isUnreservedKeyword : TokenType → Bool
  | keywordAs | keywordAsync | keywordFrom | keywordGet | keywordOf | keywordSet => true
  | _ => false

/-- Tokens that can name a variable. -/
def isIdentifier (t : TokenType) : Bool := t = identifier || t.isUnreservedKeyword

/-- The types of the words that are written like names and mean something else. -/
def isKeyword : TokenType → Bool
  | keywordAs | keywordAsync | keywordAwait | keywordBreak | keywordCase | keywordCatch
  | keywordClass | keywordConst | keywordContinue | keywordDebugger | keywordDefault
  | keywordDelete | keywordDo | keywordElse | keywordEnum | keywordExport | keywordExtends
  | keywordFinally | keywordFor | keywordFrom | keywordFunction | keywordGet | keywordIf
  | keywordImport | keywordIn | keywordInstanceof | keywordLet | keywordNew | keywordOf
  | keywordReturn | keywordSet | keywordStatic | keywordSuper | keywordSwitch | keywordThis
  | keywordThrow | keywordTry | keywordTypeof | keywordVar | keywordVoid | keywordWhile
  | keywordWith | keywordYield | literalFalse | literalNull | literalTrue => true
  | _ => false

/-- Tokens that can name a property. Every keyword can. -/
def isIdentifierName (t : TokenType) : Bool := t = identifier || t.isKeyword

def isAssignmentOperator : TokenType → Bool
  | equals | ampersandAmpersandEquals | ampersandEquals | asteriskAsteriskEquals | asteriskEquals
  | barBarEquals | barEquals | caretEquals | chevronLeftChevronLeftEquals
  | chevronRightChevronRightChevronRightEquals | chevronRightChevronRightEquals | hyphenEquals
  | percentEquals | plusEquals | questionQuestionEquals | slashEquals => true
  | _ => false

/-- Tokens that can begin a property name or a generator method. After `get`, `set` or `async` they
show that the word is a modifier and not the name of the property. -/
def isPropertyKeyStart (t : TokenType) : Bool :=
  t.isIdentifierName || match t with
    | literalString | literalNumber | literalBigInt | bracketOpen | privateMember | asterisk => true
    | _ => false

end TokenType

inductive Associativity where
  | left | right
  deriving DecidableEq

/-- An operator between two operands. A higher precedence binds tighter. -/
structure BinaryOperator where
  precedence : Nat
  associativity : Associativity

namespace TokenType

/-- The operators between operands. Assignment, `?` and the comma are no such operators. -/
def binaryOperator? : TokenType → Option BinaryOperator
  | .questionQuestion | .barBar => some ⟨4, .left⟩
  | .ampersandAmpersand => some ⟨5, .left⟩
  | .bar => some ⟨6, .left⟩
  | .caret => some ⟨7, .left⟩
  | .ampersand => some ⟨8, .left⟩
  | .equalsEquals | .equalsEqualsEquals | .exclamationEquals
  | .exclamationEqualsEquals => some ⟨9, .left⟩
  | .chevronLeft | .chevronLeftEquals | .chevronRight | .chevronRightEquals | .keywordIn
  | .keywordInstanceof => some ⟨10, .left⟩
  | .chevronLeftChevronLeft | .chevronRightChevronRight
  | .chevronRightChevronRightChevronRight => some ⟨11, .left⟩
  | .plus | .hyphen => some ⟨12, .left⟩
  | .asterisk | .slash | .percent => some ⟨13, .left⟩
  | .asteriskAsterisk => some ⟨14, .right⟩
  | _ => none

end TokenType

/-- The texts of punctuators. A text that begins another one comes after it. -/
def operators : List (String × TokenType) :=
  [(">>>=", .chevronRightChevronRightChevronRightEquals), ("!==", .exclamationEqualsEquals),
   ("&&=", .ampersandAmpersandEquals), ("**=", .asteriskAsteriskEquals), ("...", .dotDotDot),
   ("<<=", .chevronLeftChevronLeftEquals), ("===", .equalsEqualsEquals),
   (">>=", .chevronRightChevronRightEquals), (">>>", .chevronRightChevronRightChevronRight),
   ("??=", .questionQuestionEquals), ("||=", .barBarEquals), ("!=", .exclamationEquals),
   ("%=", .percentEquals), ("&&", .ampersandAmpersand), ("&=", .ampersandEquals),
   ("**", .asteriskAsterisk), ("*=", .asteriskEquals), ("++", .plusPlus), ("+=", .plusEquals),
   ("--", .hyphenHyphen), ("-=", .hyphenEquals), ("/=", .slashEquals),
   ("<<", .chevronLeftChevronLeft), ("<=", .chevronLeftEquals), ("==", .equalsEquals),
   ("=>", .equalsChevronRight), (">=", .chevronRightEquals), (">>", .chevronRightChevronRight),
   ("?.", .questionDot), ("??", .questionQuestion), ("^=", .caretEquals), ("|=", .barEquals),
   ("||", .barBar), ("!", .exclamation), ("#", .privateMember), ("%", .percent), ("&", .ampersand),
   ("(", .parenthesisOpen), (")", .parenthesisClose), ("*", .asterisk), ("+", .plus),
   (",", .comma), ("-", .hyphen), (".", .dot), ("/", .slash), (":", .colon), (";", .semicolon),
   ("<", .chevronLeft), ("=", .equals), (">", .chevronRight), ("?", .question), ("@", .at),
   ("[", .bracketOpen), ("]", .bracketClose), ("^", .caret), ("\x7b", .braceOpen), ("|", .bar),
   ("\x7d", .braceClose), ("~", .tilde)]

/-- The texts of reserved and contextual words. -/
def keywords : List (String × TokenType) :=
  [("as", .keywordAs), ("async", .keywordAsync), ("await", .keywordAwait),
   ("break", .keywordBreak), ("case", .keywordCase), ("catch", .keywordCatch),
   ("class", .keywordClass), ("const", .keywordConst), ("continue", .keywordContinue),
   ("debugger", .keywordDebugger), ("default", .keywordDefault), ("delete", .keywordDelete),
   ("do", .keywordDo), ("else", .keywordElse), ("enum", .keywordEnum), ("export", .keywordExport),
   ("extends", .keywordExtends), ("finally", .keywordFinally), ("for", .keywordFor),
   ("from", .keywordFrom), ("function", .keywordFunction), ("get", .keywordGet),
   ("if", .keywordIf), ("import", .keywordImport), ("in", .keywordIn),
   ("instanceof", .keywordInstanceof), ("let", .keywordLet), ("new", .keywordNew),
   ("of", .keywordOf), ("return", .keywordReturn), ("set", .keywordSet),
   ("static", .keywordStatic), ("super", .keywordSuper), ("switch", .keywordSwitch),
   ("this", .keywordThis), ("throw", .keywordThrow), ("try", .keywordTry),
   ("typeof", .keywordTypeof), ("var", .keywordVar), ("void", .keywordVoid),
   ("while", .keywordWhile), ("with", .keywordWith), ("yield", .keywordYield),
   ("false", .literalFalse), ("null", .literalNull), ("true", .literalTrue)]

/-- The type of the token that a name-like text makes. -/
def wordType (text : String) : TokenType := (keywords.lookup text).getD .identifier

/-- Whether a text can be written as it stands as the name of a variable of a module. -/
def isBindingName (text : String) : Bool :=
  isIdentifierName text.toList && (wordType text).isIdentifier

namespace TokenType

/-- The fixed text of a punctuator. -/
def operatorText? (t : TokenType) : Option String :=
  (operators.find? fun entry => entry.2 = t).map Prod.fst

/-- The fixed text of a word. -/
def keywordText? (t : TokenType) : Option String :=
  (keywords.find? fun entry => entry.2 = t).map Prod.fst

end TokenType
end ModuleBundler
