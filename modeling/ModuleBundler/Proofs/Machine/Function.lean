import ModuleBundler.Proofs.Machine.Program

/-!
# Programs for patterns, functions and classes

* `Grammar.Programs` : the programs for what nests in a text at some depth;
* `Program.inNameScope` : what is read in the scope of the name of an expression;
* `Program.expression`, `Program.patternLevel`, `Program.function`, `Program.classDefinition`, … :
  one program for each production over a grammar.
-/

namespace ModuleBundler

/-- The programs for what nests in a text at a depth. -/
structure Grammar.Programs (g : Grammar) (depth : Nat) where
  assignExpr : ∀ {around ctx}, around.Fit depth ctx → Routine around (g.assignExpr ctx)
  unaryExpr : ∀ {around ctx}, around.Fit depth ctx → Routine around (g.unaryExpr ctx)
  lhsExpr : ∀ {around ctx}, around.Fit depth ctx → Routine around (g.lhsExpr ctx)
  newExpr : ∀ {around ctx}, around.Fit depth ctx → Routine around (g.newExpr ctx)
  pattern : ∀ {around ctx} kind, around.Fit depth ctx → Routine around (g.pattern ctx kind)
  statement : ∀ {around ctx}, around.Fit depth ctx → Routine around (g.statement ctx)

namespace Program

variable {around : Surroundings}

section
variable {g : Grammar} {depth : Nat} {ctx : Context} (hg : g.Programs depth)
  (h : around.Fit depth ctx)
include hg h

/-! ## Expressions and properties -/

def expression : Routine around (expression g ctx) :=
  .bind (hg.assignExpr h) fun first => .loop (fun _ => .bind (.consumeIf .comma) fun _ =>
    .ite (fun _ => .bind (hg.assignExpr h) fun _ => .pure _) fun _ => .pure _) first

def propertyKey : Routine around (propertyKey g ctx) := by
  refine .bind .consume fun t => ?_
  generalize t.type = type
  induction type using TokenType.casesOn
  case bracketOpen =>
    exact .bind (hg.assignExpr (h.withIn true)) fun _ => .bind (.require _) fun _ => .pure _
  case literalString | literalNumber | literalBigInt | privateMember => exact .pure _
  all_goals exact .ite (fun _ => .pure _) fun _ => .fail _

/-! ## Patterns -/

def patternWithDefault (kind : DeclarationKind) : Routine around (patternWithDefault g ctx kind) :=
  .bind (hg.pattern kind h) fun _ => .bind (.consumeIf _) fun _ =>
    .ite (fun _ => .bind (hg.assignExpr (h.withIn true)) fun _ => .pure _) fun _ => .pure _

def arrayPattern (kind : DeclarationKind) : Routine around (arrayPattern g ctx kind) := by
  refine .bind (.require _) fun _ => .loopWhile ?_
  refine .bind (.consumeIf _) fun _ => .ite (fun _ => .pure _) fun _ => ?_
  refine .bind (.consumeIf _) fun _ => .ite (fun _ => .pure _) fun _ => ?_
  refine .bind (.consumeIf _) fun _ => .ite (fun _ => ?_) fun _ => ?_
  · exact .bind (hg.pattern kind h) fun _ => .bind (.require _) fun _ => .pure _
  refine .bind (.patternWithDefault hg h kind) fun _ => .bind (.consumeIf _) fun _ => ?_
  exact .ite (fun _ => .pure _) fun _ => .bind (.require _) fun _ => .pure _

omit hg h in
def bindingIdentifier : Routine around bindingIdentifier :=
  .bind .peek fun _ => .ite (fun _ => .bind .consume fun _ => .pure _) fun _ => .fail _

def propertyPattern (kind : DeclarationKind) : Routine around (propertyPattern g ctx kind) := by
  refine .bind (.consumeIf _) fun _ => .ite (fun _ => ?_) fun _ => ?_
  · exact .bind .bindingIdentifier fun (name, span) => .declare h.scope name span kind false
  refine .bind .peek2 fun (key, next) => .ite (fun _ => ?_) fun _ => ?_
  · refine .bind .bindingIdentifier fun (name, span) => ?_
    refine .bind (.declare h.scope name span kind true) fun _ => .bind (.consumeIf _) fun _ => ?_
    exact .ite (fun _ => .bind (hg.assignExpr (h.withIn true)) fun _ => .pure _) fun _ => .pure _
  · refine .bind (.propertyKey hg h) fun _ => .bind (.require _) fun _ => ?_
    exact .patternWithDefault hg h kind

def patternLevel (kind : DeclarationKind) : Routine around (patternLevel g ctx kind) := by
  refine .bind .peek fun t => ?_
  generalize t.type = type
  induction type using TokenType.casesOn
  case bracketOpen => exact .arrayPattern hg h kind
  case braceOpen => exact .bind (.require _) fun _ => .separatedList _ _ (.propertyPattern hg h kind)
  case eof => exact .fail _
  all_goals
    refine .ite (fun _ => ?_) fun _ => .fail _
    exact .bind .bindingIdentifier fun (name, span) => .declare h.scope name span kind false

/-! ## Functions -/

def statements (close : TokenType) : Routine around (statements g ctx close) := by
  refine .loopWhile (.bind .peek fun _ => .ite (fun _ => .pure _) fun _ => ?_)
  exact .ite (fun _ => .fail _) fun _ => .bind (hg.statement h) fun _ => .pure _

def functionParameters : Routine around (functionParameters g ctx) := by
  refine .bind (.require _) fun _ => .separatedList _ _ (.bind (.consumeIf _) fun _ => ?_)
  exact .ite (fun _ => hg.pattern _ h) fun _ => .patternWithDefault hg h _

def functionBody : Routine around (functionBody g ctx) :=
  .bind (.require _) fun _ => .bind (.statements hg h _) fun _ => .bind (.require _) fun _ =>
    .pure _

def method (isAsync isGenerator : Bool) : Routine around (method g ctx isAsync isGenerator) := by
  refine .inScope h.scope .function fun scope => .deferred ?_
  have hinner : (around.within scope).deferred.Fit depth
      ((ctx.forFunction isAsync isGenerator).within scope).deferred := .deferred h.depth rfl
  exact .bind (.functionParameters hg hinner) fun _ => .functionBody hg hinner

omit hg in
def definitionName (kind : DefinitionKind) (declared : DeclarationKind) :
    Routine around (definitionName ctx kind declared) := by
  refine .bind .peek fun t => .ite (fun _ => .bind .consume fun _ => ?_) fun _ => ?_
  · exact .ite (fun _ => .bind (.declare h.scope ..) fun _ => .pure _) fun _ => .pure _
  · exact .ite (fun _ => .fail _) fun _ => .pure _

omit hg in
/-- What is read in the scope that holds the name of an expression. -/
def inNameScope {α : Type} {rest : Context → Parse α} (kind : DefinitionKind)
    (declared : DeclarationKind) (name : Option (String × Span))
    (program : ∀ scope, Routine (around.within scope) (rest (ctx.within scope))) :
    Routine around (enterNameScope ctx kind declared name >>= rest) := by
  have hunnamed : Routine around (ModuleBundler.enterScope ctx.scope .expressionName >>=
    fun scope => rest (ctx.within scope)) := .inScope h.scope _ program
  cases kind
  case expression =>
    cases name with
    | none => exact hunnamed
    | some name =>
      show Routine around (ModuleBundler.enterScope ctx.scope .expressionName >>= fun scope =>
        ModuleBundler.declare (ctx.within scope) name.1 name.2 declared false >>= fun _ =>
          rest (ctx.within scope))
      exact .inScope h.scope _ fun scope => .bind (.declare rfl ..) fun _ => program scope
  all_goals exact hunnamed

def function (kind : DefinitionKind) : Routine around (function g ctx kind) := by
  refine .bind .peek fun start => .bind (.consumeIf _) fun isAsync => ?_
  refine .bind (.require _) fun _ => .bind (.consumeIf _) fun isGenerator => ?_
  refine .bind .lastEnd fun nameAt => .bind (.definitionName h kind _) fun name => ?_
  refine .inNameScope h kind _ name fun scope => ?_
  exact .bind (.method hg (h.within scope) _ _) fun _ => .pure _

def functionExpr : Routine around (functionExpr g ctx) :=
  .bind (.function hg h _) fun _ => .pure _

/-! ## Classes -/

def staticBlock : Routine around (staticBlock g ctx) := by
  refine .inScope h.scope .function fun scope => ?_
  have hinner := (h.forStaticBlock.within scope).jumpBoundary
  refine .bind (.require _) fun _ => .bind (.jumpBoundary (.statements hg hinner _)) fun _ => ?_
  exact .bind (.require _) fun _ => .pure _

def fieldValue (isStatic : Bool) : Routine around (fieldValue g ctx isStatic) := by
  refine .inScope h.scope .function fun scope => ?_
  have hinner := (h.forFunction false false).within scope
  cases isStatic with
  | true => exact .bind (hg.assignExpr hinner) fun _ => .pure _
  | false =>
    exact .bind (.deferred (hg.assignExpr (.deferred hinner.depth hinner.scope))) fun _ => .pure _

omit hg h in
def methodModifiers : Routine around methodModifiers := by
  refine .bind .peek2 fun (a, b) => .ite (fun _ => ?_) fun _ => ?_
  · exact .bind .consume fun _ => .bind (.consumeIf _) fun _ => .pure _
  · exact .bind (.consumeIf _) fun _ => .pure _

def classProperty (isStatic : Bool) : Routine around (classProperty g ctx isStatic) := by
  refine .bind .methodModifiers fun modifiers => .bind (.propertyKey hg h) fun _ => ?_
  refine .bind .peek fun next => .ite (fun _ => .bind (.method hg h _ _) fun _ => .pure _) ?_
  refine fun _ => .ite (fun _ => .fail _) fun _ => .bind (.consumeIf _) fun _ => ?_
  exact .optional (fun _ => .fieldValue hg h isStatic) (.bind .requireSemicolon fun _ => .pure _)

def classMember : Routine around (classMember g ctx) := by
  refine .bind (.consumeIf _) fun _ => .ite (fun _ => .pure _) fun _ => ?_
  refine .bind .peek2 fun (a, b) => .ite (fun _ => .fail _) fun _ => .ite (fun _ => ?_) fun _ => ?_
  · refine .bind .consume fun _ => .bind .peek fun next => ?_
    exact .ite (fun _ => .staticBlock hg h) fun _ => .classProperty hg h _
  · exact .classProperty hg h _

def classDefinition (kind : DefinitionKind) : Routine around (classDefinition g ctx kind) := by
  refine .bind (.require _) fun keyword => .bind (.definitionName h kind _) fun name => ?_
  refine .inNameScope h kind _ name fun scope => .bind (.consumeIf _) fun _ => ?_
  have hinner := h.within scope
  refine .optional (fun _ => hg.lhsExpr hinner) (.bind (.require _) fun _ => ?_)
  refine .bind (.loopWhile (.bind (.consumeIf _) fun _ => .ite (fun _ => .pure _) fun _ => ?_))
    fun _ => .bind .lastEnd fun stop => .pure _
  exact .bind (.classMember hg hinner) fun _ => .pure _

def classExpr : Routine around (classExpr g ctx) :=
  .bind (.classDefinition hg h _) fun _ => .pure _

end

end Program
end ModuleBundler
