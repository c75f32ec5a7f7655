import ModuleBundler.Grammar.Function
import ModuleBundler.Proofs.Syntax.Phrase

/-!
# The grammar of modules

* `Phrase.patternText`, `Phrase.functionText`, `Phrase.classText`, `Phrase.assignmentText`,
  `Phrase.statementText`, … : what each form of text is made of;
* `syntaxRules` : the rules for the forms that nest in each other;
* `Phrase.moduleItem` : an item of a module.

The grammar is that of ECMAScript modules without what decides between errors and none: where the
words `await`, `yield`, `return` and the targets of jumps may stand, how operators group, what can
be assigned to, and where a semicolon may be missing. The scopes are those of the parser: a function
has one for its parameters and its body.
-/

namespace ModuleBundler
namespace Phrase

/-! ## Patterns -/

/-- A name that is declared. -/
def declared (kind : DeclarationKind) (shorthand : Bool) : Phrase :=
  token TokenType.isIdentifier (.declares kind shorthand)

/-- A value after `=`, which may be missing. -/
def initializer : Phrase := optional (row [tok .equals, rule .assignment])

def patternWithDefault (kind : DeclarationKind) : Phrase := row [rule (.pattern kind), initializer]

def arrayPattern (kind : DeclarationKind) : Phrase :=
  row [tok .bracketOpen, many (oneOf [tok .comma, row [patternWithDefault kind, tok .comma]]),
    oneOf [tok .bracketClose, row [tok .dotDotDot, rule (.pattern kind), tok .bracketClose],
      row [patternWithDefault kind, tok .bracketClose]]]

/-- The types of the tokens that are the name of a property. -/
def isPropertyName (type : TokenType) : Bool :=
  type.isIdentifierName || match type with
    | .literalString | .literalNumber | .literalBigInt | .privateMember => true
    | _ => false

/-- The name of a property: a token, or an expression in brackets. -/
def propertyKey : Phrase :=
  oneOf [row [tok .bracketOpen, rule .assignment, tok .bracketClose], word isPropertyName]

def propertyPattern (kind : DeclarationKind) : Phrase :=
  oneOf [row [tok .dotDotDot, declared kind false], row [declared kind true, initializer],
    row [propertyKey, tok .colon, patternWithDefault kind]]

def objectPattern (kind : DeclarationKind) : Phrase :=
  row [tok .braceOpen, list .comma .braceClose (propertyPattern kind)]

def patternText (kind : DeclarationKind) : Phrase :=
  oneOf [arrayPattern kind, objectPattern kind, declared kind false]

/-! ## Functions and classes -/

def parametersText : Phrase :=
  row [tok .parenthesisOpen, list .comma .parenthesisClose
    (oneOf [row [tok .dotDotDot, rule (.pattern .param)], patternWithDefault .param])]

/-- Statements in braces. -/
def statementsText : Phrase := row [tok .braceOpen, many (rule .statement), tok .braceClose]

/-- The parameters and the body of a function or method. -/
def method : Phrase :=
  node .function (row [node .parameters parametersText, node .body statementsText])

/-- The name of a function or class, if it has one, and what comes after it. The name of an
expression is declared inside alone. -/
def definition (kind : DefinitionKind) (declares : DeclarationKind) (isNamed : Bool)
    (rest : Phrase) : Phrase :=
  match isNamed, kind with
  | true, .expression => node (.scope .expressionName) (row [declared declares false, rest])
  | true, .declaration | true, .defaultExport =>
    row [declared declares false, node (.scope .expressionName) rest]
  | false, _ => node (.scope .expressionName) rest

def functionText (kind : DefinitionKind) (isNamed : Bool) : Phrase :=
  row [optional (tok .keywordAsync), tok .keywordFunction, optional (tok .asterisk),
    definition kind .function isNamed method]

def isMethodModifier (type : TokenType) : Bool :=
  type = .keywordAsync || type = .keywordGet || type = .keywordSet

/-- The words and marks before the name of a method. -/
def methodModifiers : Phrase := row [optional (word isMethodModifier), optional (tok .asterisk)]

/-- A semicolon, which may be missing. -/
def semicolon : Phrase := optional (tok .semicolon)

def staticBlock : Phrase := node (.scope .function) statementsText

/-- The value of a field: one of the class is evaluated with it, one of its instances later. -/
def fieldValue (isStatic : Bool) : Phrase :=
  node (if isStatic then .scope .function else .instanceField) (rule .assignment)

def classProperty (isStatic : Bool) : Phrase :=
  row [methodModifiers, propertyKey,
    oneOf [method, row [optional (row [tok .equals, fieldValue isStatic]), semicolon]]]

def classMember : Phrase :=
  oneOf [tok .semicolon, row [tok .keywordStatic, oneOf [staticBlock, classProperty true]],
    classProperty false]

def classBody : Phrase :=
  row [optional (row [tok .keywordExtends, rule .leftHandSide]), tok .braceOpen, many classMember,
    tok .braceClose]

def classText (kind : DefinitionKind) (isNamed : Bool) : Phrase :=
  row [tok .keywordClass, definition kind .classDecl isNamed classBody]

def functionExpression : Phrase :=
  oneOf [functionText .expression true, functionText .expression false]

def classExpression : Phrase := oneOf [classText .expression true, classText .expression false]

/-! ## Operands -/

/-- Expressions with commas between them. -/
def expression : Phrase := row [rule .assignment, many (row [tok .comma, rule .assignment])]

/-- A part of a template with the value that is substituted after it. -/
def templatePart : Phrase := row [tok .literalTemplatePartString, expression, tok .braceClose]

def template : Phrase := row [many templatePart, tok .literalTemplatePartStringEnd]

/-- A value among others. -/
def element : Phrase := row [optional (tok .dotDotDot), rule .assignment]

/-- The arguments of a call in their parentheses. -/
def callArguments : Phrase :=
  row [tok .parenthesisOpen, list .comma .parenthesisClose element]

/-- Arguments, with which what stands before them is called. -/
def call : Phrase := row [callArguments, effect .call]

def memberName : Phrase := word fun type => type.isIdentifierName || type = .privateMember

def computedMember : Phrase := row [tok .bracketOpen, expression, tok .bracketClose]

/-- A template, which what stands before it is called with. -/
def taggedTemplate : Phrase := row [template, effect .taggedTemplate]

/-- What may follow an operand. After `new` there are no calls among it. -/
def link (callsAllowed : Bool) : Phrase :=
  oneOf ([row [tok .dot, memberName], computedMember, taggedTemplate] ++
    if callsAllowed then
      [call, row [tok .questionDot, oneOf [call, computedMember, memberName]]]
    else [])

def arrayLiteral : Phrase :=
  row [tok .bracketOpen, many (oneOf [tok .comma, row [element, tok .comma]]),
    oneOf [tok .bracketClose, row [element, tok .bracketClose]]]

def objectMember : Phrase :=
  oneOf [row [tok .dotDotDot, rule .assignment], row [methodModifiers, propertyKey, method],
    row [propertyKey, tok .colon, rule .assignment],
    row [token TokenType.isIdentifier (.uses true), initializer]]

def objectLiteral : Phrase := row [tok .braceOpen, list .comma .braceClose objectMember]

def parenthesized : Phrase := row [tok .parenthesisOpen, expression, tok .parenthesisClose]

/-- A name that is used. -/
def variableUse : Phrase := token TokenType.isIdentifier (.uses false)

/-- Tokens that are operands, and the private name before `in`. -/
def isPlainOperand : TokenType → Bool
  | .keywordThis | .literalBigInt | .literalFalse | .literalNull | .literalNumber | .literalRegex
  | .literalString | .literalTrue | .privateMember => true
  | _ => false

def primary : Phrase :=
  oneOf [variableUse, word isPlainOperand, template, parenthesized, arrayLiteral, objectLiteral,
    functionExpression, classExpression]

/-- What follows the keyword in `new.target` and `import.meta`. -/
def metaName : Phrase := row [tok .dot, tok .identifier]

def newText : Phrase :=
  row [tok .keywordNew, oneOf [metaName, row [effect .construct, oneOf [rule .new, primary],
    many (link false), optional callArguments]]]

/-- What may follow the module that is imported. -/
def importOptions : Phrase :=
  optional (row [tok .comma, optional (row [rule .assignment, optional (tok .comma)])])

def importArguments : Phrase :=
  row [tok .parenthesisOpen, effect .importCall, rule .assignment, importOptions]

def importText : Phrase :=
  row [tok .keywordImport, oneOf [metaName, row [importArguments, tok .parenthesisClose]]]

def leftHandSideText : Phrase :=
  row [oneOf [newText, tok .keywordSuper, importText, primary], many (link true)]

/-! ## Operators -/

def isUpdate (type : TokenType) : Bool := type = .plusPlus || type = .hyphenHyphen

/-- Operators before an operand that only look at its value. -/
def isPlainUnary : TokenType → Bool
  | .keywordVoid | .keywordTypeof | .plus | .hyphen | .tilde | .exclamation => true
  | _ => false

def postfixText : Phrase :=
  row [rule .leftHandSide, optional (row [word isUpdate, effect .update])]

def unaryText : Phrase :=
  oneOf [row [tok .keywordDelete, effect .delete, rule .unary],
    row [word isUpdate, effect .update, rule .unary],
    row [tok .keywordAwait, effect .await, rule .unary], row [word isPlainUnary, rule .unary],
    postfixText]

def isBinaryOperator (type : TokenType) : Bool := type.binaryOperator?.isSome

def binaryText : Phrase := row [rule .unary, many (row [word isBinaryOperator, rule .unary])]

def conditional : Phrase :=
  row [binaryText,
    optional (row [tok .question, rule .assignment, tok .colon, rule .assignment])]

def yieldText : Phrase :=
  row [tok .keywordYield, effect .yield,
    optional (row [optional (tok .asterisk), rule .assignment])]

def arrowParameters : Phrase :=
  node .parameters (oneOf [declared .param false, parametersText])

/-- What stands before the body of an arrow function. -/
def arrowHead : Phrase := row [arrowParameters, tok .equalsChevronRight]

def arrowBody : Phrase := node .body (oneOf [statementsText, rule .assignment])

def arrowFunction : Phrase :=
  row [optional (tok .keywordAsync), node .arrow (row [arrowHead, arrowBody])]

def assignmentText : Phrase :=
  oneOf [yieldText, arrowFunction, row [conditional,
    optional (row [word TokenType.isAssignmentOperator, effect .assignment, rule .assignment])]]

/-! ## Statements -/

def block : Phrase :=
  row [tok .braceOpen, node (.scope .block) (row [many (rule .statement), tok .braceClose])]

def condition : Phrase := row [tok .parenthesisOpen, expression, tok .parenthesisClose]

def expressionStatement : Phrase := row [expression, semicolon]

/-- A keyword and the declarators after it. -/
def declarators (keyword : TokenType) (kind : DeclarationKind) : Phrase :=
  row [tok keyword, many (row [patternWithDefault kind, tok .comma]), patternWithDefault kind]

def variableDeclaration : Phrase :=
  oneOf [declarators .keywordVar .var, declarators .keywordLet .let,
    declarators .keywordConst .const]

def ifStatement : Phrase :=
  row [tok .keywordIf, condition, rule .statement,
    optional (row [tok .keywordElse, rule .statement])]

def whileStatement : Phrase := row [tok .keywordWhile, condition, rule .statement]

def doStatement : Phrase :=
  row [tok .keywordDo, rule .statement, tok .keywordWhile, condition, semicolon]

/-- What a loop goes over. -/
def loopRange : Phrase :=
  oneOf [row [tok .keywordOf, rule .assignment], row [tok .keywordIn, expression]]

/-- The end of the head of a loop with a condition. -/
def loopConditions : Phrase :=
  row [tok .semicolon, optional expression, tok .semicolon, optional expression]

/-- What stands in the parentheses after `for`. A loop over something that declares nothing assigns
to what stands there instead. -/
def forHead : Phrase :=
  oneOf [row [variableDeclaration, oneOf [loopRange, loopConditions]],
    row [expression, oneOf [row [effect .loopTarget, loopRange], loopConditions]], loopConditions]

def forStatement : Phrase :=
  row [tok .keywordFor, optional (row [tok .keywordAwait, effect .loopAwait]), tok .parenthesisOpen,
    node (.scope .block) (row [forHead, tok .parenthesisClose, rule .statement])]

def caseLabel : Phrase :=
  row [oneOf [row [tok .keywordCase, expression], tok .keywordDefault], tok .colon]

def switchStatement : Phrase :=
  row [tok .keywordSwitch, condition, tok .braceOpen,
    node (.scope .block) (row [many (row [caseLabel, many (rule .statement)]), tok .braceClose])]

def isJump (type : TokenType) : Bool := type = .keywordBreak || type = .keywordContinue

def jumpStatement : Phrase :=
  row [word isJump, optional (word TokenType.isIdentifier), semicolon]

def returnStatement : Phrase := row [tok .keywordReturn, optional expression, semicolon]

def throwStatement : Phrase := row [tok .keywordThrow, expressionStatement]

def catchClause : Phrase :=
  node (.scope .block) (row [optional (row [tok .parenthesisOpen, rule (.pattern .catchParam),
    tok .parenthesisClose]), block])

def tryStatement : Phrase :=
  row [tok .keywordTry, block, optional (row [tok .keywordCatch, catchClause]),
    optional (row [tok .keywordFinally, block])]

def labelledStatement : Phrase :=
  row [many (row [word TokenType.isIdentifier, tok .colon]), rule .statement]

def debuggerStatement : Phrase := row [tok .keywordDebugger, semicolon]

def statementText : Phrase :=
  oneOf [block, tok .semicolon, row [variableDeclaration, semicolon],
    functionText .declaration true, classText .declaration true, ifStatement, forStatement,
    whileStatement, doStatement, returnStatement, jumpStatement, throwStatement, tryStatement,
    switchStatement, debuggerStatement, labelledStatement, expressionStatement]

end Phrase

open Phrase in
/-- The rules for the forms that nest in each other. -/
def syntaxRules : Rules
  | .assignment => assignmentText
  | .unary => unaryText
  | .leftHandSide => leftHandSideText
  | .new => newText
  | .pattern kind => patternText kind
  | .statement => statementText

namespace Phrase

/-! ## Imports and exports -/

/-- A name in a list of imports or exports. -/
def isExportName (type : TokenType) : Bool := type = .literalString || type.isIdentifierName

def importAttribute : Phrase := row [word isExportName, tok .colon, tok .literalString]

/-- The word `with`, or `assert`. -/
def beginsAttributes (type : TokenType) : Bool := type = .keywordWith || type = .identifier

/-- The specifier of a module and the attributes after it. -/
def moduleRequest : Phrase :=
  row [tok .literalString, optional (row [word beginsAttributes, tok .braceOpen,
    list .comma .braceClose importAttribute])]

def importBinding : Phrase := declared .imported false

def importSpecifier : Phrase :=
  oneOf [row [word isExportName, tok .keywordAs, importBinding], importBinding]

def importClause : Phrase :=
  oneOf [row [tok .asterisk, tok .keywordAs, importBinding],
    row [tok .braceOpen, list .comma .braceClose importSpecifier]]

def importClauses : Phrase :=
  row [oneOf [row [importBinding, optional (row [tok .comma, importClause])], importClause],
    tok .keywordFrom]

def importDeclaration : Phrase :=
  row [tok .keywordImport, optional importClauses, moduleRequest, semicolon]

def exportStar : Phrase :=
  row [tok .asterisk, optional (row [tok .keywordAs, word isExportName]), tok .keywordFrom,
    moduleRequest, semicolon]

def exportListItem : Phrase :=
  row [word isExportName, optional (row [tok .keywordAs, word isExportName])]

def exportList : Phrase :=
  row [tok .braceOpen, list .comma .braceClose exportListItem,
    optional (row [tok .keywordFrom, moduleRequest]), semicolon]

/-- A function or class that is a default export. Without a name it is declared under one that is
not in the text. -/
def defaultDefinition : Phrase :=
  oneOf [functionText .defaultExport true,
    row [functionText .defaultExport false, placeholder .function], classText .defaultExport true,
    row [classText .defaultExport false, placeholder .classDecl]]

/-- The value of an expression that is a default export is declared under the same name. -/
def defaultValue : Phrase := row [placeholder .const, rule .assignment, semicolon]

def exportDefault : Phrase := row [tok .keywordDefault, oneOf [defaultDefinition, defaultValue]]

def exportDeclaration : Phrase :=
  row [tok .keywordExport, oneOf [exportDefault, exportStar, exportList, rule .statement]]

def moduleItem : Phrase := oneOf [importDeclaration, exportDeclaration, rule .statement]

end Phrase

/-! ## What holds of all texts -/

theorem syntaxRules_not_nullable (n : Nonterminal) : (syntaxRules n).isNullable = false := by
  cases n with
  | pattern kind => cases kind <;> rfl
  | assignment | unary | leftHandSide | new | statement => rfl

theorem syntaxRules_isProper (n : Nonterminal) : (syntaxRules n).isProper = true := by
  cases n with
  | pattern kind => cases kind <;> rfl
  | assignment | unary | leftHandSide | new | statement => rfl

theorem syntaxRules_isNamed (n : Nonterminal) : (syntaxRules n).isNamed = true := by
  cases n with
  | pattern kind => cases kind <;> rfl
  | assignment | unary | leftHandSide | new | statement => rfl

end ModuleBundler
