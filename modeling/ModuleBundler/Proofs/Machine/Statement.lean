import ModuleBundler.Proofs.Machine.Expression

/-!
# Programs for statements, and for text that nests to a depth

* `Program.block`, `Program.forStatement`, `Program.switchStatement`, … : one program for each form;
* `Program.labelledBy` : a statement after labels, which are left again one by one;
* `Program.statementLevel` : any statement;
* `Grammar.Programs.ofDepth` : the programs for text at a depth, one level around another.
-/

namespace ModuleBundler
namespace Program

variable {around : Surroundings} {g : Grammar} {depth : Nat} {ctx : Context}
  (hg : g.Programs depth) (h : around.Fit depth ctx)

/-! ## Single tokens -/

def declarationAhead : Routine around declarationAhead := by
  refine .bind .peek2 fun (a, b) => ?_
  dsimp only
  generalize a.type = type
  induction type using TokenType.casesOn
  all_goals exact .pure _

def labels : Routine around labels := by
  refine .loop (fun read => .bind .peek2 fun (label, colon) => ?_) []
  refine .ite (fun _ => ?_) fun _ => .pure _
  exact .bind .consume fun _ => .bind .consume fun _ => .pure _

section
include h

def jumpStatement : Routine around (jumpStatement ctx) := by
  refine .bind .consume fun keyword => .bind .peek fun t => .ite (fun _ => ?_) fun _ => ?_
  · exact .bind .consume fun label => .bind (.checkJump h keyword (some label)) fun _ =>
      .requireSemicolon
  · exact .bind (.checkJump h keyword none) fun _ => .requireSemicolon

/-! ## Statements in statements -/

include hg

def block : Routine around (block g ctx) := by
  refine .bind (.require _) fun _ => .inScope h.scope .block fun scope => ?_
  refine .bind (.statements hg (h.within scope) _) fun _ => ?_
  exact .bind (.require _) fun _ => .pure _

def parenthesizedCondition : Routine around (parenthesizedCondition g ctx) :=
  .bind (.require _) fun _ => .bind (.expression hg (h.withIn true)) fun _ =>
    .bind (.require _) fun _ => .pure _

def expressionStatement : Routine around (expressionStatement g ctx) :=
  .bind (.expression hg h) fun _ => .requireSemicolon

def declarator (kind : DeclarationKind) (inForHead : Bool) :
    Routine around (declarator g ctx kind inForHead) := by
  refine .bind (hg.pattern kind h) fun _ => .bind (.consumeIf _) fun _ => .ite (fun _ => ?_) ?_
  · exact .bind (hg.assignExpr h) fun _ => .pure _
  refine fun _ => .ite (fun _ => .bind .peek fun next => ?_) fun _ => .pure _
  exact .ite (fun _ => .pure _) fun _ => .fail _

def variableDeclaration (kind : DeclarationKind) (inForHead : Bool) :
    Routine around (variableDeclaration g ctx kind inForHead) :=
  .bind .consume fun _ => .loopWhile <|
    .bind (.declarator hg h kind inForHead) fun _ => .consumeIf _

def variableStatement (kind : DeclarationKind) : Routine around (variableStatement g ctx kind) :=
  .bind (.variableDeclaration hg h kind false) fun _ => .requireSemicolon

def ifStatement : Routine around (ifStatement g ctx) := by
  refine .bind .consume fun _ => .bind (.parenthesizedCondition hg h) fun _ => ?_
  refine .bind (hg.statement h) fun _ => .bind (.consumeIf _) fun _ => ?_
  exact .ite (fun _ => hg.statement h) fun _ => .pure _

def whileStatement : Routine around (whileStatement g ctx) :=
  .bind .consume fun _ => .bind (.parenthesizedCondition hg h) fun _ =>
    .loopBody (hg.statement h.loopBody)

def doStatement : Routine around (doStatement g ctx) := by
  refine .bind .consume fun _ => .bind (.loopBody (hg.statement h.loopBody)) fun _ => ?_
  refine .bind (.require _) fun _ => .bind (.parenthesizedCondition hg h) fun _ => ?_
  exact .bind (.consumeIf _) fun _ => .pure _

def forInit : Routine around (forInit g ctx) := by
  refine .bind (.peekIn _) fun t => ?_
  generalize t.type = type
  induction type using TokenType.casesOn
  case semicolon => exact .pure _
  case keywordVar | keywordLet | keywordConst => exact .variableDeclaration hg h _ true
  all_goals exact .bind (.expression hg h) fun _ => .pure _

def expressionUnless (type : TokenType) : Routine around (expressionUnless g ctx type) := by
  refine .bind (.peekIn _) fun t => .ite (fun _ => ?_) fun _ => .pure _
  exact .bind (.expression hg h) fun _ => .pure _

def forRest : Routine around (forRest g ctx) := by
  refine .bind (.consumeIf _) fun _ => .ite (fun _ => ?_) fun _ => ?_
  · exact .bind (hg.assignExpr h) fun _ => .pure _
  refine .bind (.consumeIf _) fun _ => .ite (fun _ => ?_) fun _ => ?_
  · exact .bind (.expression hg h) fun _ => .pure _
  refine .bind (.require _) fun _ => .bind (.expressionUnless hg h _) fun _ => ?_
  exact .bind (.require _) fun _ => .expressionUnless hg h _

def forStatement : Routine around (forStatement g ctx) := by
  refine .bind .consume fun _ => .optional (fun _ => .consumeIf _) (.bind (.require _) fun _ => ?_)
  refine .inScope h.scope .block fun scope => ?_
  have hinner := h.within scope
  refine .bind (.forInit hg (hinner.withIn false)) fun _ => ?_
  refine .bind (.forRest hg (hinner.withIn true)) fun _ => .bind (.require _) fun _ => ?_
  exact .loopBody (hg.statement hinner.loopBody)

def caseLabel : Routine around (caseLabel g ctx) := by
  refine .bind .consume fun t => ?_
  have hcolon : Routine around (ModuleBundler.require .colon >>= fun _ => Pure.pure ()) :=
    .bind (.require _) fun _ => .pure _
  dsimp only
  generalize t.type = type
  induction type using TokenType.casesOn
  case keywordCase => exact .bind (.expression hg (h.withIn true)) fun _ => hcolon
  case keywordDefault => exact hcolon
  all_goals exact .bind (.fail _) fun _ => hcolon

def caseBody : Routine around (caseBody g ctx) := by
  refine .loopWhile (.bind .peek fun t => ?_)
  generalize t.type = type
  induction type using TokenType.casesOn
  case keywordCase | keywordDefault | braceClose => exact .pure _
  case eof => exact .fail _
  all_goals exact .bind (hg.statement h) fun _ => .pure _

def switchStatement : Routine around (switchStatement g ctx) := by
  refine .bind .consume fun _ => .bind (.parenthesizedCondition hg h) fun _ => ?_
  refine .bind (.require _) fun _ => .inScope h.scope .block fun scope => ?_
  have hinner := (h.within scope).switchBody
  refine .bind (.switchBody (.loopWhile (.bind (.consumeIf _) fun _ => ?_))) fun _ => .pure _
  refine .ite (fun _ => .pure _) fun _ => .bind (.caseLabel hg hinner) fun _ => ?_
  exact .bind (.caseBody hg hinner) fun _ => .pure _

def returnStatement : Routine around (returnStatement g ctx) := by
  refine .bind .consume fun keyword => .ite (fun _ => ?_) fun _ => .fail _
  refine .bind (.peekIn _) fun t => ?_
  exact .optional (fun _ => .expression hg h) .requireSemicolon

def throwStatement : Routine around (throwStatement g ctx) := by
  refine .bind .consume fun _ => .bind (.peekIn _) fun t => .ite (fun _ => .fail _) fun _ => ?_
  exact .expressionStatement hg h

def catchClause : Routine around (catchClause g ctx) := by
  refine .inScope h.scope .block fun scope => .bind (.consumeIf _) fun _ => ?_
  have hinner := h.within scope
  have hblock : Routine (around.within scope) (ModuleBundler.block g (ctx.within scope) >>= fun _ =>
    Pure.pure ()) := .bind (.block hg hinner) fun _ => .pure _
  refine .ite (fun _ => .bind (hg.pattern _ hinner) fun _ => ?_) fun _ => hblock
  exact .bind (.require _) fun _ => hblock

def tryStatement : Routine around (tryStatement g ctx) := by
  refine .bind .consume fun keyword => .bind (.block hg h) fun _ => .bind (.consumeIf _) ?_
  refine fun caught => .optional (fun _ => .catchClause hg h) (.bind (.consumeIf _) ?_)
  refine fun finalized => .optional (fun _ => .block hg h) ?_
  exact .ite (fun _ => .pure _) fun _ => .fail _

omit h in
/-- A label is left again after the statement that it stands before. -/
def labelledBy (isLoop : Bool) : (read : List Token) → {around : Surroundings} → {ctx : Context} →
    around.Fit depth ctx → Routine around (labelContext isLoop ctx read >>= g.statement)
  | [], _, _, h => hg.statement h
  | label :: rest, around, ctx, h =>
    have heq : labelContext isLoop ctx (label :: rest) >>= g.statement =
        if (ctx.jumps.label? label.text).isSome then label.fail .duplicateLabel
        else labelContext isLoop (ctx.labelled label.text isLoop) rest >>= g.statement := by
      rw [labelContext]
      split
      · rfl
      · rfl
    heq ▸ .labelled h label isLoop (labelledBy isLoop rest (h.labelled label.text isLoop))

def labelledStatement : Routine around (labelledStatement g ctx) :=
  .bind .labels fun read => .bind .peek fun _ => .labelledBy hg _ read h

def functionStatement : Routine around (functionStatement g ctx) :=
  .bind (.function hg h _) fun _ => .pure _

def openStatement (first : TokenType) : Routine around (openStatement g ctx first) := by
  refine .ite (fun _ => .bind .peek2 fun (_, next) => ?_) fun _ => .expressionStatement hg h
  exact .ite (fun _ => .labelledStatement hg h) fun _ => .expressionStatement hg h

def statementLevel : Routine around (statementLevel g ctx) := by
  refine .bind (.peekIn _) fun t => ?_
  generalize t.type = type
  induction type using TokenType.casesOn
  case braceOpen => exact .bind (.block hg h) fun _ => .pure _
  case semicolon => exact .bind .consume fun _ => .pure _
  case keywordVar | keywordLet | keywordConst => exact .variableStatement hg h _
  case keywordFunction => exact .functionStatement hg h
  case keywordAsync =>
    refine .bind .declarationAhead fun _ => ?_
    exact .ite (fun _ => .functionStatement hg h) fun _ => .openStatement hg h _
  case keywordClass => exact .bind (.classDefinition hg h _) fun _ => .pure _
  case keywordIf => exact .ifStatement hg h
  case keywordFor => exact .forStatement hg h
  case keywordWhile => exact .whileStatement hg h
  case keywordDo => exact .doStatement hg h
  case keywordReturn => exact .returnStatement hg h
  case keywordBreak | keywordContinue => exact .jumpStatement h
  case keywordThrow => exact .throwStatement hg h
  case keywordTry => exact .tryStatement hg h
  case keywordSwitch => exact .switchStatement hg h
  case keywordDebugger => exact .bind .consume fun _ => .requireSemicolon
  case keywordImport =>
    refine .bind .peek2 fun (_, next) => ?_
    exact .ite (fun _ => .expressionStatement hg h) fun _ => .fail _
  case keywordWith | keywordExport => exact .fail _
  all_goals exact .openStatement hg h _

end

end Program

/-- One level more around the programs for what nests in it. -/
def Grammar.Programs.over {g : Grammar} {depth : Nat} (hg : g.Programs (depth + 1))
    (hdepth : depth < maxNesting) : g.over.Programs depth where
  assignExpr h := .nested (h.depth ▸ hdepth) (.assignLevel hg h.deeper)
  unaryExpr h := .nested (h.depth ▸ hdepth) (.unaryLevel hg h.deeper)
  lhsExpr h := .nested (h.depth ▸ hdepth) (.lhsLevel hg h.deeper)
  newExpr h := .nested (h.depth ▸ hdepth) (.newLevel hg h.deeper)
  pattern kind h := .nested (h.depth ▸ hdepth) (.patternLevel hg h.deeper kind)
  statement h := .nested (h.depth ▸ hdepth) (.statementLevel hg h.deeper)

/-- At the limit all text is nested too deep. -/
def Grammar.Programs.exhausted {depth : Nat} (hdepth : maxNesting ≤ depth) :
    Grammar.exhausted.Programs depth where
  assignExpr h := .tooDeep (h.depth ▸ hdepth)
  unaryExpr h := .tooDeep (h.depth ▸ hdepth)
  lhsExpr h := .tooDeep (h.depth ▸ hdepth)
  newExpr h := .tooDeep (h.depth ▸ hdepth)
  pattern _ h := .tooDeep (h.depth ▸ hdepth)
  statement h := .tooDeep (h.depth ▸ hdepth)

/-- The programs for text at a depth, from which it may nest to the limit. -/
def Grammar.Programs.ofDepth : (levels : Nat) → {depth : Nat} → depth + levels = maxNesting →
    (Grammar.ofDepth levels).Programs depth
  | 0, _, hdepth => .exhausted (Nat.le_of_eq hdepth.symm)
  | levels + 1, _, hdepth => (ofDepth levels (by omega)).over (by omega)

end ModuleBundler
