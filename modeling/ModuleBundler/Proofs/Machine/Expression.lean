import ModuleBundler.Proofs.Machine.Function

/-!
# Programs for expressions

* `Program.callChain`, `Program.primaryExpr`, `Program.lhsLevel`, `Program.unaryLevel` : operands;
* `Program.arrowParameters`, `Program.arrowHead`, `Program.arrowFunction` : the attempt at an arrow
  function, in whose parameters anything may fail;
* `Program.assignLevel` : any expression without commas at its top.
-/

namespace ModuleBundler
namespace Program

variable {around : Surroundings} {g : Grammar} {depth : Nat} {ctx : Context}
  (hg : g.Programs depth) (h : around.Fit depth ctx)

/-! ## Operands -/

def memberName : Routine around memberName := .requireThat _ _

def asyncFunctionAhead : Routine around asyncFunctionAhead := .bind .peek2 fun _ => .pure _

def metaProperty (keyword : Token) (spelling whole : String) :
    Routine around (metaProperty keyword spelling whole) :=
  .bind (.require _) fun _ => .ite (fun _ => .pure _) fun _ => .fail _

section
include h

def variableUse : Routine around (variableUse ctx) :=
  .bind (.consumeIn _) fun _ => .bind (.refer h.scope ..) fun _ => .pure _

include hg

def template : Routine around (template g ctx) := by
  refine .bind .consume fun first => .loop (fun t => ?_) first
  generalize t.type = type
  induction type using TokenType.casesOn
  case literalTemplatePartStringEnd => exact .pure _
  case literalTemplatePartString =>
    refine .bind (.expression hg (h.withIn true)) fun _ => .bind (.require _) fun _ => ?_
    exact .bind (.consumeIn _) fun _ => .pure _
  all_goals exact .fail _

def callArguments : Routine around (callArguments g ctx) := by
  refine .bind (.require _) fun _ => .bind (.separatedList _ _ ?_) fun _ => .lastEnd
  exact .bind (.consumeIf _) fun _ => .bind (hg.assignExpr (h.withIn true)) fun _ => .pure _

def computedMember (e : Expr) : Routine around (computedMember g ctx e) :=
  .bind .consume fun _ => .bind (.expression hg (h.withIn true)) fun _ =>
    .bind (.require _) fun _ => .pure _

def call (e : Expr) : Routine around (call g ctx e) :=
  .bind (.callArguments hg h) fun _ => .bind (.markSideEffect h) fun _ => .pure _

def callChain (callsAllowed : Bool) (first : Expr) :
    Routine around (callChain g ctx callsAllowed first) := by
  refine .loop (fun e => .bind .peek fun t => ?_) first
  generalize t.type = type
  induction type using TokenType.casesOn
  case dot => exact .bind .consume fun _ => .bind .memberName fun _ => .pure _
  case questionDot =>
    refine .ite (fun _ => .bind .consume fun _ => .bind .peek fun next => ?_) fun _ => .pure _
    generalize next.type = type
    induction type using TokenType.casesOn
    case parenthesisOpen => exact .map _ (.call hg h e)
    case bracketOpen => exact .map _ (.computedMember hg h e)
    all_goals exact .bind .memberName fun _ => .pure _
  case bracketOpen => exact .map _ (.computedMember hg h e)
  case parenthesisOpen => exact .ite (fun _ => .map _ (.call hg h e)) fun _ => .pure _
  case literalTemplatePartString | literalTemplatePartStringEnd =>
    exact .bind (.template hg h) fun _ => .bind (.markSideEffect h) fun _ => .pure _
  all_goals exact .pure _

def arrayLiteral : Routine around (arrayLiteral g ctx) := by
  refine .bind (.requireIn _ _) fun opening => ?_
  refine .bind (.loopWhile ?_) fun _ => .bind .lastEnd fun _ => .pure _
  refine .bind (.consumeIf _) fun _ => .ite (fun _ => .pure _) fun _ => ?_
  refine .bind (.consumeIf _) fun _ => .ite (fun _ => .pure _) fun _ => ?_
  refine .bind (.consumeIf _) fun _ => .bind (hg.assignExpr (h.withIn true)) fun _ => ?_
  refine .bind (.consumeIf _) fun _ => .ite (fun _ => .pure _) fun _ => ?_
  exact .bind (.require _) fun _ => .pure _

def objectMember : Routine around (objectMember g ctx) := by
  refine .bind (.consumeIf _) fun _ => .ite (fun _ => ?_) fun _ => ?_
  · exact .bind (hg.assignExpr h) fun _ => .pure _
  refine .bind .methodModifiers fun modifiers => .bind .peek fun t => ?_
  refine .bind (.propertyKey hg h) fun key => .bind .peek fun next => ?_
  refine .ite (fun _ => .bind (.method hg h _ _) fun _ => .pure _) fun _ => ?_
  refine .ite (fun _ => .fail _) fun _ => .bind (.consumeIf _) fun _ => ?_
  refine .ite (fun _ => .bind (hg.assignExpr h) fun _ => .pure _) fun _ => ?_
  refine .ite (fun _ => .bind (.refer h.scope ..) fun _ => ?_) fun _ => .fail _
  refine .bind (.consumeIf _) fun _ => .ite (fun _ => ?_) fun _ => .pure _
  exact .bind (hg.assignExpr h) fun _ => .pure _

def objectLiteral : Routine around (objectLiteral g ctx) := by
  refine .bind (.requireIn _ _) fun opening => ?_
  refine .bind (.separatedList _ _ (.objectMember hg (h.withIn true))) fun _ => ?_
  exact .bind .lastEnd fun _ => .pure _

def parenthesized : Routine around (parenthesized g ctx) :=
  .bind (.consumeIn _) fun _ => .bind (.expression hg (h.withIn true)) fun _ =>
    .bind (.require _) fun _ => .pure _

def primaryExpr : Routine around (primaryExpr g ctx) := by
  refine .bind (.peekIn _) fun t => ?_
  generalize t.type = type
  induction type using TokenType.casesOn
  case keywordAsync =>
    exact .bind .asyncFunctionAhead fun _ =>
      .ite (fun _ => .functionExpr hg h) fun _ => .variableUse h
  case keywordThis | literalBigInt | literalFalse | literalNull | literalNumber | literalRegex |
      literalString | literalTrue =>
    exact .bind (.consumeIn _) fun _ => .pure _
  case literalTemplatePartString | literalTemplatePartStringEnd =>
    exact .bind (.template hg h) fun _ => .pure _
  case parenthesisOpen => exact .parenthesized hg h
  case bracketOpen => exact .arrayLiteral hg h
  case braceOpen => exact .objectLiteral hg h
  case keywordFunction => exact .functionExpr hg h
  case keywordClass => exact .classExpr hg h
  case privateMember =>
    refine .bind (.consumeIn _) fun _ => .bind .peek fun _ => ?_
    exact .ite (fun _ => .pure _) fun _ => .fail _
  case invalid | eof => exact .fail _
  all_goals exact .ite (fun _ => .variableUse h) fun _ => .fail _

def newLevel : Routine around (newLevel g ctx) := by
  refine .bind (.consumeIn _) fun keyword => .bind (.consumeIf _) fun _ => ?_
  refine .ite (fun _ => .metaProperty _ _ _) fun _ => .bind (.markSideEffect h) fun _ => ?_
  refine .bind (.peekIn _) fun t => ?_
  refine .choice (fun _ => hg.newExpr h) (fun _ => .primaryExpr hg h) fun operand => ?_
  refine .bind (.callChain hg h _ operand) fun callee => .bind .peek fun next => ?_
  exact .choice (fun _ => .callArguments hg h) (fun _ => .pure _) fun _ => .pure _

def importExpr : Routine around (importExpr g ctx) := by
  refine .bind (.consumeIn _) fun keyword => .bind (.consumeIf _) fun _ => ?_
  refine .ite (fun _ => .metaProperty _ _ _) fun _ => .bind (.require _) fun _ => ?_
  refine .bind (.markSideEffect h) fun _ => .bind (.peekIn _) fun first => ?_
  refine .bind (hg.assignExpr (h.withIn true)) fun argument => .bind (.consumeIf _) fun _ => ?_
  have hclose : Routine around (ModuleBundler.require .parenthesisClose >>= fun close =>
      ModuleBundler.recordDynamicImport ctx first argument.span (keyword.span.join close.span) >>=
        fun _ => Pure.pure (⟨keyword.span.join close.span, .call⟩ : Expr)) :=
    .bind (.require _) fun _ => .bind (.recordDynamicImport h.scope ..) fun _ => .pure _
  refine .ite (fun _ => .bind .peek fun next => .ite (fun _ => ?_) fun _ => hclose) fun _ => hclose
  exact .bind (hg.assignExpr (h.withIn true)) fun _ => .bind (.consumeIf _) fun _ => hclose

def lhsLevel : Routine around (lhsLevel g ctx) := by
  refine .bind (.peekIn _) fun t => ?_
  generalize t.type = type
  induction type using TokenType.casesOn
  case keywordNew => exact .bind (.newLevel hg h) fun _ => .callChain hg h _ _
  case keywordSuper => exact .bind (.consumeIn _) fun _ => .callChain hg h _ _
  case keywordImport => exact .bind (.importExpr hg h) fun _ => .callChain hg h _ _
  all_goals exact .bind (.primaryExpr hg h) fun _ => .callChain hg h _ _

def unaryOperation (isObservable : Bool) : Routine around (unaryOperation g ctx isObservable) := by
  refine .bind (.consumeIn _) fun operator => ?_
  exact .optional (fun _ => .markSideEffect h) (.bind (hg.unaryExpr h) fun _ => .pure _)

def postfixExpr : Routine around (postfixExpr g ctx) := by
  refine .bind (hg.lhsExpr h) fun operand => .bind .peek fun t => .ite (fun _ => ?_) ?_
  · exact .bind .consume fun _ => .bind (.markSideEffect h) fun _ => .pure _
  · exact fun _ => .pure _

def unaryLevel : Routine around (unaryLevel g ctx) := by
  refine .bind (.peekIn _) fun t => ?_
  generalize t.type = type
  induction type using TokenType.casesOn
  case keywordDelete | plusPlus | hyphenHyphen => exact .unaryOperation hg h true
  case keywordAwait =>
    exact .ite (fun _ => .unaryOperation hg h true) fun _ => .postfixExpr hg h
  case keywordVoid | keywordTypeof | plus | hyphen | tilde | exclamation =>
    exact .unaryOperation hg h false
  all_goals exact .postfixExpr hg h

/-! ## Operators -/

def binaryExpr : Routine around (binaryExpr g ctx) := by
  refine .bind (hg.unaryExpr h) fun first => .loop (fun e => .bind .peek fun t => ?_) first
  refine .ite (fun _ => .pure _) fun _ => .bind .consume fun _ => ?_
  exact .bind (hg.unaryExpr h) fun _ => .pure _

def conditionalExpr : Routine around (conditionalExpr g ctx) := by
  refine .bind (.binaryExpr hg h) fun test => .bind (.consumeIf _) fun _ => ?_
  refine .ite (fun _ => ?_) fun _ => .pure _
  refine .bind (hg.assignExpr (h.withIn true)) fun _ => .bind (.require _) fun _ => ?_
  exact .bind (hg.assignExpr h) fun _ => .pure _

def yieldExpr : Routine around (yieldExpr g ctx) := by
  refine .bind .consume fun keyword => .bind (.markSideEffect h) fun _ => .bind .peek fun next => ?_
  refine .choice (fun _ => .pure _) (fun _ => .consumeIf _) fun delegates => ?_
  refine .bind (.peekIn _) fun operand => .ite (fun _ => ?_) fun _ => .pure _
  exact .bind (hg.assignExpr h) fun _ => .pure _

def assignment : Routine around (assignment g ctx) := by
  refine .bind (.conditionalExpr hg h) fun target => .bind .peek fun operator => ?_
  refine .ite (fun _ => .ite (fun _ => ?_) fun _ => .fail _) fun _ => .pure _
  refine .bind .consume fun _ => .bind (.markSideEffect h) fun _ => ?_
  exact .bind (hg.assignExpr h) fun _ => .pure _

/-! ## Arrow functions -/

/-- If the parameters are none, it does not matter where reading them ended. -/
def arrowParameters :
    Program (some around) (arrowParameters g ctx) fun found => cond found (some around) none := by
  refine .bind .peek fun t => .ite (fun _ => ?_) fun _ => .ite (fun _ => ?_) fun _ => ?_
  · refine .bind .consume fun _ => .bind (.declare h.scope ..) fun _ => ?_
    exact .answer true fun _ hknown => hknown
  · exact .succeeds (.functionParameters hg h)
  · exact .answer false fun _ hknown => nomatch hknown

/-- The head of an arrow function ends in the scope of the function. -/
def arrowHead : Program (some around) (arrowHead g ctx)
    fun head => head.elim none fun inner => some (around.within inner.scope) := by
  refine .bind .peek2 fun (a, b) => .optional (fun _ => .consume) ?_
  refine .bind (.enterScope h.scope .function) fun scope => ?_
  refine .bind (.arrowParameters hg ((h.forFunction _ false).within scope)) fun found => ?_
  cases found with
  | false => exact .answer none fun _ hknown => nomatch hknown
  | true =>
    refine .bind .peek fun arrow => .ite (fun _ => .bind .consume fun _ => ?_) fun _ => ?_
    · exact .ite (fun _ => .fail _) fun _ => .answer _ fun _ hknown => hknown
    · exact .answer none fun _ hknown => nomatch hknown

def arrowBody (inAllowed : Bool) : Routine around (arrowBody g ctx inAllowed) := by
  refine .bind .peek fun t => .ite (fun _ => .functionBody hg h) fun _ => ?_
  exact .bind (hg.assignExpr (h.withIn inAllowed)) fun _ => .pure _

def arrowFunction : Routine around (arrowFunction g ctx) := by
  refine .bind .peek fun start => .bind (.attempt (.arrowHead hg h)) fun head => ?_
  cases head with
  | none => exact .pure none
  | some inner =>
    refine .leaving around.scope (.bind (.deferred (.arrowBody hg ?_ _)) fun _ => .pure _)
    exact .deferred h.depth rfl

def arrowFunctionAhead (t : Token) : Routine around (arrowFunctionAhead t) := by
  refine .ite (fun _ => .pure _) fun _ => .ite (fun _ => ?_) fun _ => .pure _
  exact .bind .peek2 fun _ => .pure _

def assignLevel : Routine around (assignLevel g ctx) := by
  refine .bind (.peekIn _) fun t => .ite (fun _ => .yieldExpr hg h) fun _ => ?_
  refine .bind (.arrowFunctionAhead t) fun ahead => ?_
  refine .choice (fun _ => .arrowFunction hg h) (fun _ => .pure _) fun arrow => ?_
  cases arrow with
  | none => exact .assignment hg h
  | some e => exact .pure _

end

end Program
end ModuleBundler
