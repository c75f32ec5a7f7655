import ModuleBundler.Proofs.Ending.Expression

/-!
# The loops of statements end

* `ends_labels`, `ends_variableDeclaration`, `ends_switchStatement`, … : one lemma for each reader
  of statements;
* `Grammar.ending_ofDepth` : so do the loops at every level of nesting.
-/

namespace ModuleBundler

variable {source : String} {g : Grammar}

/-! ## Readers that nothing nests in -/

theorem ends_declarationAhead : Ends source declarationAhead := by
  refine Ends.peek2.bind fun (a, b) => ?_
  dsimp only
  split <;> exact ends_pure _

theorem advancing_label (read : List Token) : Advancing source (do
    let (label, colon) ← peek2
    if label.type.isIdentifier && colon.type = .colon then
      let _ ← consume
      let _ ← consume
      pure (.again (read ++ [label]) : Round (List Token) (List Token))
    else pure (.done read)) Round.IsAgain :=
  advancing_of_round (fun _ hs => answers_label hs ⟨moduleScope, false⟩ read) rfl rfl

theorem ends_labels : Ends source labels := by
  refine ends_loop (fun read => Ends.peek2.bind fun (label, colon) => ?_) advancing_label []
  refine ends_ite (ends_consume.bind fun _ => ends_consume.bind fun _ => ?_) (ends_pure _)
  exact ends_pure _

theorem ends_labelContext (isLoop : Bool) (ctx : Context) (labels : List Token) :
    Ends source (labelContext isLoop ctx labels) := by
  induction labels generalizing ctx with
  | nil => exact ends_pure _
  | cons label rest ih => exact ends_ite (ends_fail label _) (ih _)

theorem ends_checkJump (ctx : Context) (keyword : Token) (label : Option Token) :
    Ends source (checkJump ctx keyword label) := by
  unfold checkJump
  dsimp only
  split
  · exact ends_ite (ends_pure _) (ends_fail keyword _)
  · split
    · exact ends_fail _ _
    · exact ends_ite (ends_fail keyword _) (ends_pure _)

theorem ends_jumpStatement (ctx : Context) : Ends source (jumpStatement ctx) := by
  refine ends_consume.bind fun keyword => ends_peek.bind fun t => ends_ite ?_ ?_
  · refine ends_consume.bind fun label => (ends_checkJump ..).bind fun _ => ?_
    exact ends_requireSemicolon
  · exact (ends_checkJump ..).bind fun _ => ends_requireSemicolon

section
variable (hg : g.Ending source)
include hg

/-! ## Statements -/

theorem ends_block (ctx : Context) : Ends source (block g ctx) := by
  refine (ends_require _).bind fun _ => (ends_enterScope _ _).bind fun scope => ?_
  exact (ends_statements hg _ _).bind fun _ => (ends_require _).bind fun _ => ends_pure _

theorem ends_parenthesizedCondition (ctx : Context) :
    Ends source (parenthesizedCondition g ctx) := by
  refine (ends_require _).bind fun _ => (ends_expression hg _).bind fun _ => ?_
  exact (ends_require _).bind fun _ => ends_pure _

theorem ends_expressionStatement (ctx : Context) :
    Ends source (expressionStatement g ctx) :=
  (ends_expression hg ctx).bind fun _ => ends_requireSemicolon

theorem ends_variableDeclaration (ctx : Context) (kind : DeclarationKind) (inForHead : Bool) :
    Ends source (variableDeclaration g ctx kind inForHead) := by
  have hdeclarator : Ends source (declarator g ctx kind inForHead) := by
    refine (hg.pattern _ _).bind fun _ => (ends_consumeIf _).bind fun _ => ?_
    refine ends_ite ((hg.assignExpr ctx).bind fun _ => ends_pure _) ?_
    refine ends_ite (ends_peek.bind fun next => ?_) (ends_pure _)
    exact ends_ite (ends_pure _) (ends_fail next _)
  refine ends_consume.bind fun _ => ends_loopWhile (hdeclarator.bind fun _ => ends_consumeIf _) ?_
  exact hdeclarator.bindAdvancing fun _ => advancing_consumeIf isProper_comma

theorem ends_variableStatement (ctx : Context) (kind : DeclarationKind) :
    Ends source (variableStatement g ctx kind) :=
  (ends_variableDeclaration hg ctx kind false).bind fun _ => ends_requireSemicolon

theorem ends_ifStatement (ctx : Context) : Ends source (ifStatement g ctx) := by
  refine ends_consume.bind fun _ => (ends_parenthesizedCondition hg ctx).bind fun _ => ?_
  refine (hg.statement ctx).bind fun _ => (ends_consumeIf _).bind fun _ => ?_
  exact ends_ite (hg.statement ctx) (ends_pure _)

theorem ends_whileStatement (ctx : Context) :
    Ends source (whileStatement g ctx) := by
  refine ends_consume.bind fun _ => (ends_parenthesizedCondition hg ctx).bind fun _ => ?_
  exact hg.statement _

theorem ends_doStatement (ctx : Context) : Ends source (doStatement g ctx) := by
  refine ends_consume.bind fun _ => (hg.statement _).bind fun _ => ?_
  refine (ends_require _).bind fun _ => ?_
  refine (ends_parenthesizedCondition hg ctx).bind fun _ => ?_
  exact (ends_consumeIf _).bind fun _ => ends_pure _

theorem ends_forInit (ctx : Context) : Ends source (forInit g ctx) := by
  refine (Ends.peekIn (by decide)).bind fun t => ?_
  split
  · exact ends_pure _
  any_goals exact ends_variableDeclaration hg ctx _ true
  · exact (ends_expression hg ctx).bind fun _ => ends_pure _

theorem ends_expressionUnless (ctx : Context) (type : TokenType) :
    Ends source (expressionUnless g ctx type) := by
  refine (Ends.peekIn (by decide)).bind fun t => ends_ite ?_ (ends_pure _)
  exact (ends_expression hg ctx).bind fun _ => ends_pure _

theorem ends_forRest (ctx : Context) : Ends source (forRest g ctx) := by
  refine (ends_consumeIf _).bind fun _ => ends_ite ?_ ?_
  · exact (hg.assignExpr ctx).bind fun _ => ends_pure _
  refine (ends_consumeIf _).bind fun _ => ends_ite ?_ ?_
  · exact (ends_expression hg ctx).bind fun _ => ends_pure _
  refine (ends_require _).bind fun _ => (ends_expressionUnless hg ctx _).bind fun _ => ?_
  exact (ends_require _).bind fun _ => ends_expressionUnless hg ctx _

theorem ends_forStatement (ctx : Context) :
    Ends source (forStatement g ctx) := by
  refine ends_consume.bind fun _ => ends_optional (ends_consumeIf _) ?_
  refine (ends_require _).bind fun _ => (ends_enterScope _ _).bind fun scope => ?_
  refine (ends_forInit hg _).bind fun _ => (ends_forRest hg _).bind fun _ => ?_
  exact (ends_require _).bind fun _ => hg.statement _

theorem ends_caseLabel (ctx : Context) : Ends source (caseLabel g ctx) := by
  refine ends_consume.bind fun t => ?_
  have hcolon : Ends source (do
      let _ ← require .colon
      pure ()) := (ends_require _).bind fun _ => ends_pure _
  dsimp only
  split
  · exact (ends_expression hg _).bind fun _ => hcolon
  · exact hcolon
  · exact (ends_fail t _).bind fun _ => hcolon
  · exact (ends_fail t _).bind fun _ => hcolon

theorem advancing_caseLabel (ctx : Context) : Advancing source (caseLabel g ctx) fun _ => True :=
  advancing_of_parses (fun _ hs => parses_caseLabel hg.conforms ctx hs) fun _ => ⟨rfl, rfl⟩

theorem ends_caseBody (ctx : Context) : Ends source (caseBody g ctx) := by
  refine ends_loopWhile (ends_peek.bind fun t => ?_) (ends_peek.bindAdvancing fun t => ?_)
  · split
    any_goals exact ends_pure _
    · exact ends_fail t _
    · exact (hg.statement ctx).bind fun _ => ends_pure _
  · split
    any_goals exact advancing_pure nofun
    · exact advancing_fail t _
    · exact (hg.advancing_statement ctx).bind (hg.statement ctx) fun _ => ends_pure _

theorem ends_switchStatement (ctx : Context) :
    Ends source (switchStatement g ctx) := by
  refine ends_consume.bind fun _ => (ends_parenthesizedCondition hg ctx).bind fun _ => ?_
  refine (ends_require _).bind fun _ => (ends_enterScope _ _).bind fun scope => ?_
  have hbody : ∀ _ : Unit, Ends source (do
      caseBody g (ctx.within scope).switchBody
      pure true) := fun _ => (ends_caseBody hg _).bind fun _ => ends_pure _
  refine (ends_loopWhile ?_ ?_).bind fun _ => ends_pure _
  · refine (ends_consumeIf _).bind fun _ => ends_ite (ends_pure _) ?_
    exact (ends_caseLabel hg _).bind hbody
  · refine (ends_consumeIf _).bindAdvancing fun _ => advancing_ite (advancing_pure nofun) ?_
    exact (advancing_caseLabel hg _).bind (ends_caseLabel hg _) hbody

theorem ends_returnStatement (ctx : Context) :
    Ends source (returnStatement g ctx) := by
  refine ends_consume.bind fun keyword => ends_ite ?_ (ends_fail keyword _)
  refine (Ends.peekIn (by decide)).bind fun t => ?_
  exact ends_optional (ends_expression hg ctx) ends_requireSemicolon

theorem ends_throwStatement (ctx : Context) :
    Ends source (throwStatement g ctx) := by
  refine ends_consume.bind fun _ => (Ends.peekIn (by decide)).bind fun t => ?_
  exact ends_ite (ends_fail t _) (ends_expressionStatement hg ctx)

theorem ends_catchClause (ctx : Context) :
    Ends source (catchClause g ctx) := by
  refine (ends_enterScope _ _).bind fun scope => (ends_consumeIf _).bind fun _ => ?_
  have hblock := (ends_block hg (ctx.within scope)).bind fun _ => ends_pure ()
  exact ends_ite ((hg.pattern _ _).bind fun _ => (ends_require _).bind fun _ => hblock) hblock

theorem ends_tryStatement (ctx : Context) :
    Ends source (tryStatement g ctx) := by
  refine ends_consume.bind fun keyword => (ends_block hg ctx).bind fun _ => ?_
  refine (ends_consumeIf _).bind fun caught => ends_optional (ends_catchClause hg ctx) ?_
  refine (ends_consumeIf _).bind fun finalized => ends_optional (ends_block hg ctx) ?_
  exact ends_ite (ends_pure _) (ends_fail keyword _)

theorem ends_labelledStatement (ctx : Context) :
    Ends source (labelledStatement g ctx) := by
  refine ends_labels.bind fun read => ends_peek.bind fun t => ?_
  exact (ends_labelContext _ ctx read).bind fun inner => hg.statement inner

theorem ends_functionStatement (ctx : Context) :
    Ends source (functionStatement g ctx) :=
  (ends_function hg ctx _).bind fun _ => ends_pure _

theorem ends_openStatement (ctx : Context) (first : TokenType) :
    Ends source (openStatement g ctx first) := by
  refine ends_ite (Ends.peek2.bind fun (_, next) => ?_) (ends_expressionStatement hg ctx)
  exact ends_ite (ends_labelledStatement hg ctx) (ends_expressionStatement hg ctx)

theorem ends_statementLevel (ctx : Context) :
    Ends source (statementLevel g ctx) := by
  refine (Ends.peekIn (by decide)).bind fun t => ?_
  split
  · exact (ends_block hg ctx).bind fun _ => ends_pure _
  · exact ends_consume.bind fun _ => ends_pure _
  · exact ends_variableStatement hg ctx _
  · exact ends_variableStatement hg ctx _
  · exact ends_variableStatement hg ctx _
  · exact ends_functionStatement hg ctx
  · refine ends_declarationAhead.bind fun _ => ?_
    exact ends_ite (ends_functionStatement hg ctx) (ends_openStatement hg ctx _)
  · exact (ends_classDefinition hg ctx _).bind fun _ => ends_pure _
  · exact ends_ifStatement hg ctx
  · exact ends_forStatement hg ctx
  · exact ends_whileStatement hg ctx
  · exact ends_doStatement hg ctx
  · exact ends_returnStatement hg ctx
  · exact ends_jumpStatement ctx
  · exact ends_jumpStatement ctx
  · exact ends_throwStatement hg ctx
  · exact ends_tryStatement hg ctx
  · exact ends_switchStatement hg ctx
  · exact ends_consume.bind fun _ => ends_requireSemicolon
  · exact ends_fail t _
  · refine Ends.peek2.bind fun (_, next) => ?_
    exact ends_ite (ends_expressionStatement hg ctx) (ends_fail t _)
  · exact ends_fail t _
  · exact ends_openStatement hg ctx _

end

/-! ## Levels of nesting -/

theorem ends_tooDeep {α : Type} : Ends source (tooDeep : Parse α) :=
  ends_peek.bind fun t => ends_fail t _

theorem Grammar.ending_ofDepth (depth : Nat) : (Grammar.ofDepth depth).Ending source := by
  induction depth with
  | zero =>
    exact {
      conforms := Grammar.conforms_ofDepth 0
      assignExpr _ := ends_tooDeep
      unaryExpr _ := ends_tooDeep
      lhsExpr _ := ends_tooDeep
      newExpr _ := ends_tooDeep
      pattern _ _ := ends_tooDeep
      statement _ := ends_tooDeep }
  | succ depth ih =>
    exact {
      conforms := Grammar.conforms_ofDepth (depth + 1)
      assignExpr := ends_assignLevel ih
      unaryExpr := ends_unaryLevel ih
      lhsExpr := ends_lhsLevel ih
      newExpr := ends_newLevel ih
      pattern := ends_patternLevel ih
      statement := ends_statementLevel ih }

end ModuleBundler
