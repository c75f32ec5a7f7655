import ModuleBundler.Grammar.Nesting
import ModuleBundler.Proofs.Productions.Expression

/-!
# What the grammar reads: statements

* `reads_statementLevel` : a statement or declaration steps in the text;
* `Grammar.steps_ofDepth` : so do all productions, however deep the text nests.
-/

namespace ModuleBundler

variable {kinds : DeclarationKind → Prop} {scope : ScopeId} {g : Grammar}

theorem keeps_declarationAhead : Keeps kinds declarationAhead scope := by
  refine keeps_peek2.bind fun (a, b) => ?_
  dsimp only
  split
  all_goals exact keeps_pure _

theorem reads_block (hg : g.Steps) (ctx : Context) : Reads OwnKind (block g ctx) ctx.scope := by
  refine (reads_require _).bind fun _ => keeps_enterScope fun id => ?_
  refine (keeps_statements hg (ctx.within id) _).bind fun _ => ?_
  exact (reads_require _).keeps.bind fun _ => keeps_pure _

theorem reads_parenthesizedCondition (hg : g.Steps) (ctx : Context) :
    Reads OwnKind (parenthesizedCondition g ctx) ctx.scope := by
  refine (reads_require _).bind fun _ => (reads_expression hg _).keeps.bind fun _ => ?_
  exact (reads_require _).keeps.bind fun _ => keeps_pure _

theorem reads_expressionStatement (hg : g.Steps) (ctx : Context) :
    Reads OwnKind (expressionStatement g ctx) ctx.scope :=
  (reads_expression hg ctx).bind fun _ => keeps_requireSemicolon

/-! ## Variables -/

theorem reads_declarator (hg : g.Steps) (ctx : Context) {kind : DeclarationKind}
    (hkind : OwnKind kind) (inForHead : Bool) :
    Reads OwnKind (declarator g ctx kind inForHead) ctx.scope := by
  refine (hg.pattern ctx kind hkind).bind fun _ => (keeps_consumeIf _).bind fun _ => ?_
  refine keeps_ite ((hg.assignExpr ctx).keeps.bind fun _ => keeps_pure _) ?_
  refine keeps_ite (keeps_peek.bind fun next => ?_) (keeps_pure _)
  exact keeps_ite (keeps_pure _) (reads_fail next _).keeps

theorem reads_variableDeclaration (hg : g.Steps) (ctx : Context) {kind : DeclarationKind}
    (hkind : OwnKind kind) (inForHead : Bool) :
    Reads OwnKind (variableDeclaration g ctx kind inForHead) ctx.scope := by
  refine reads_consume.bind fun _ => keeps_loopWhile ?_
  exact (reads_declarator hg ctx hkind inForHead).keeps.bind fun _ => keeps_consumeIf _

theorem reads_variableStatement (hg : g.Steps) (ctx : Context) {kind : DeclarationKind}
    (hkind : OwnKind kind) : Reads OwnKind (variableStatement g ctx kind) ctx.scope :=
  (reads_variableDeclaration hg ctx hkind false).bind fun _ => keeps_requireSemicolon

/-! ## Branches and loops -/

theorem reads_ifStatement (hg : g.Steps) (ctx : Context) :
    Reads OwnKind (ifStatement g ctx) ctx.scope := by
  refine reads_consume.bind fun _ => (reads_parenthesizedCondition hg ctx).keeps.bind fun _ => ?_
  refine (hg.statement ctx).keeps.bind fun _ => (keeps_consumeIf _).bind fun _ => ?_
  exact keeps_ite (hg.statement ctx).keeps (keeps_pure _)

theorem reads_whileStatement (hg : g.Steps) (ctx : Context) :
    Reads OwnKind (whileStatement g ctx) ctx.scope := by
  refine reads_consume.bind fun _ => (reads_parenthesizedCondition hg ctx).keeps.bind fun _ => ?_
  exact (hg.statement _).keeps

theorem reads_doStatement (hg : g.Steps) (ctx : Context) :
    Reads OwnKind (doStatement g ctx) ctx.scope := by
  refine reads_consume.bind fun _ => (hg.statement _).keeps.bind fun _ => ?_
  refine (reads_require _).keeps.bind fun _ => ?_
  refine (reads_parenthesizedCondition hg ctx).keeps.bind fun _ => ?_
  exact (keeps_consumeIf _).bind fun _ => keeps_pure _

theorem keeps_forInit (hg : g.Steps) (ctx : Context) : Keeps OwnKind (forInit g ctx) ctx.scope := by
  refine (keeps_peekIn _).bind fun t => ?_
  split
  · exact keeps_pure _
  · exact (reads_variableDeclaration hg ctx (by decide) true).keeps
  · exact (reads_variableDeclaration hg ctx (by decide) true).keeps
  · exact (reads_variableDeclaration hg ctx (by decide) true).keeps
  · exact (reads_expression hg ctx).keeps.bind fun _ => keeps_pure _

theorem keeps_expressionUnless (hg : g.Steps) (ctx : Context) (type : TokenType) :
    Keeps OwnKind (expressionUnless g ctx type) ctx.scope := by
  refine (keeps_peekIn _).bind fun t => keeps_ite ?_ (keeps_pure _)
  exact (reads_expression hg ctx).keeps.bind fun _ => keeps_pure _

theorem keeps_forRest (hg : g.Steps) (ctx : Context) : Keeps OwnKind (forRest g ctx) ctx.scope := by
  refine (keeps_consumeIf _).bind fun _ => keeps_ite ?_ ?_
  · exact (hg.assignExpr ctx).keeps.bind fun _ => keeps_pure _
  refine (keeps_consumeIf _).bind fun _ => keeps_ite ?_ ?_
  · exact (reads_expression hg ctx).keeps.bind fun _ => keeps_pure _
  refine (reads_require _).keeps.bind fun _ => (keeps_expressionUnless hg ctx _).bind fun _ => ?_
  exact (reads_require _).keeps.bind fun _ => keeps_expressionUnless hg ctx _

theorem reads_forStatement (hg : g.Steps) (ctx : Context) :
    Reads OwnKind (forStatement g ctx) ctx.scope := by
  refine reads_consume.bind fun _ => keeps_optional (keeps_consumeIf _) ?_
  refine (reads_require _).keeps.bind fun _ => keeps_enterScope fun id => ?_
  refine (keeps_forInit hg ((ctx.within id).withIn false)).bind fun _ => ?_
  refine (keeps_forRest hg ((ctx.within id).withIn true)).bind fun _ => ?_
  exact (reads_require _).keeps.bind fun _ => (hg.statement (ctx.within id).loopBody).keeps

theorem reads_caseLabel (hg : g.Steps) (ctx : Context) :
    Reads OwnKind (caseLabel g ctx) ctx.scope := by
  refine reads_consume.bind fun t => ?_
  have hcolon : Keeps OwnKind (require .colon >>= fun _ => pure ()) ctx.scope :=
    (reads_require _).keeps.bind fun _ => keeps_pure _
  dsimp only
  split
  · exact (reads_expression hg _).keeps.bind fun _ => hcolon
  · exact hcolon
  · exact (reads_fail t _).keeps.bind fun _ => hcolon
  · exact (reads_fail t _).keeps.bind fun _ => hcolon

theorem keeps_caseBody (hg : g.Steps) (ctx : Context) :
    Keeps OwnKind (caseBody g ctx) ctx.scope := by
  refine keeps_loopWhile (keeps_peek.bind fun t => ?_)
  split
  · exact keeps_pure _
  · exact keeps_pure _
  · exact keeps_pure _
  · exact (reads_fail t _).keeps
  · exact (hg.statement ctx).keeps.bind fun _ => keeps_pure _

theorem reads_switchStatement (hg : g.Steps) (ctx : Context) :
    Reads OwnKind (switchStatement g ctx) ctx.scope := by
  refine reads_consume.bind fun _ => (reads_parenthesizedCondition hg ctx).keeps.bind fun _ => ?_
  refine (reads_require _).keeps.bind fun _ => keeps_enterScope fun id => ?_
  refine (keeps_loopWhile ?_).bind fun _ => keeps_pure _
  refine (keeps_consumeIf _).bind fun _ => keeps_ite (keeps_pure _) ?_
  refine (reads_caseLabel hg (ctx.within id).switchBody).keeps.bind fun _ => ?_
  exact (keeps_caseBody hg (ctx.within id).switchBody).bind fun _ => keeps_pure _

/-! ## Jumps -/

theorem keeps_checkJump (ctx : Context) (keyword : Token) (label : Option Token) :
    Keeps kinds (checkJump ctx keyword label) scope := by
  unfold checkJump
  dsimp only
  split
  · exact keeps_ite (keeps_pure _) (reads_fail keyword _).keeps
  · split
    · exact (reads_fail _ _).keeps
    · exact keeps_ite (reads_fail keyword _).keeps (keeps_pure _)

theorem reads_jumpStatement (ctx : Context) : Reads kinds (jumpStatement ctx) scope := by
  refine reads_consume.bind fun keyword => keeps_peek.bind fun t => ?_
  refine keeps_ite (reads_consume.keeps.bind fun label => ?_) ?_
  · exact (keeps_checkJump ctx keyword _).bind fun _ => keeps_requireSemicolon
  · exact (keeps_checkJump ctx keyword _).bind fun _ => keeps_requireSemicolon

theorem reads_returnStatement (hg : g.Steps) (ctx : Context) :
    Reads OwnKind (returnStatement g ctx) ctx.scope := by
  refine reads_consume.bind fun keyword => keeps_ite ?_ (reads_fail keyword _).keeps
  refine (keeps_peekIn _).bind fun t => ?_
  exact keeps_optional (reads_expression hg ctx).keeps keeps_requireSemicolon

theorem reads_throwStatement (hg : g.Steps) (ctx : Context) :
    Reads OwnKind (throwStatement g ctx) ctx.scope := by
  refine reads_consume.bind fun _ => (keeps_peekIn _).bind fun t => ?_
  exact keeps_ite (reads_fail t _).keeps (reads_expressionStatement hg ctx).keeps

theorem keeps_catchClause (hg : g.Steps) (ctx : Context) :
    Keeps OwnKind (catchClause g ctx) ctx.scope := by
  refine keeps_enterScope fun id => (keeps_consumeIf _).bind fun _ => ?_
  have hblock : Keeps OwnKind (block g (ctx.within id) >>= fun _ => pure ()) id :=
    (reads_block hg (ctx.within id)).keeps.bind fun _ => keeps_pure _
  have hpattern := hg.pattern (ctx.within id) .catchParam (by decide)
  refine keeps_ite (hpattern.keeps.bind fun _ => ?_) hblock
  exact (reads_require _).keeps.bind fun _ => hblock

theorem reads_tryStatement (hg : g.Steps) (ctx : Context) :
    Reads OwnKind (tryStatement g ctx) ctx.scope := by
  refine reads_consume.bind fun keyword => (reads_block hg ctx).keeps.bind fun _ => ?_
  refine (keeps_consumeIf _).bind fun caught => keeps_optional (keeps_catchClause hg ctx) ?_
  refine (keeps_consumeIf _).bind fun finalized => keeps_optional (reads_block hg ctx).keeps ?_
  exact keeps_ite (keeps_pure _) (reads_fail keyword _).keeps

/-! ## Labels -/

theorem keeps_labels : Keeps kinds labels scope := by
  refine keeps_loop (fun read => keeps_peek2.bind fun (label, colon) => ?_) []
  refine keeps_ite ?_ (keeps_pure _)
  exact reads_consume.keeps.bind fun _ => reads_consume.keeps.bind fun _ => keeps_pure _

/-- Labels leave the scope as it is. -/
theorem answers_labelContext (isLoop : Bool) (ctx : Context) (labels : List Token)
    (s : ParserState) : Answers s (labelContext isLoop ctx labels) fun inner s' =>
      s = s' ∧ inner.scope = ctx.scope := by
  induction labels generalizing ctx with
  | nil => exact answers_pure ⟨rfl, rfl⟩
  | cons label rest ih => exact answers_ite (fun _ => answers_fail label _) fun _ => ih _

theorem reads_labelledStatement (hg : g.Steps) (ctx : Context) :
    Reads OwnKind (labelledStatement g ctx) ctx.scope := by
  refine keeps_labels.bindReads fun read => keeps_peek.bindReads fun t => ?_
  refine reads_of_answers fun s hs => ?_
  refine (answers_labelContext _ ctx read s).bind fun inner _ ⟨hs', hscope⟩ => ?_
  subst hs'
  have hstatement := hg.statement inner
  rw [hscope] at hstatement
  exact fun _ _ heq => hstatement hs heq

/-! ## Any statement -/

theorem reads_functionStatement (hg : g.Steps) (ctx : Context) :
    Reads OwnKind (functionStatement g ctx) ctx.scope := by
  refine reads_of_answers fun s hs => (answers_function hg ctx _ hs).bind fun _ s' h => ?_
  exact answers_pure ⟨h.step, h.reads⟩

theorem reads_classStatement (hg : g.Steps) (ctx : Context) : Reads OwnKind (do
    let _ ← classDefinition g ctx .declaration
    pure false) ctx.scope := by
  refine reads_of_answers fun s hs => (answers_classDefinition hg ctx _ hs).bind fun _ s' h => ?_
  exact answers_pure ⟨h.step, h.reads⟩

theorem reads_openStatement (hg : g.Steps) (ctx : Context) (first : TokenType) :
    Reads OwnKind (openStatement g ctx first) ctx.scope := by
  refine reads_ite ?_ (reads_expressionStatement hg ctx)
  refine keeps_peek2.bindReads fun (_, next) => ?_
  exact reads_ite (reads_labelledStatement hg ctx) (reads_expressionStatement hg ctx)

/-- A statement steps if what nests in it does. -/
theorem reads_statementLevel (hg : g.Steps) (ctx : Context) :
    Reads OwnKind (statementLevel g ctx) ctx.scope := by
  refine (keeps_peekIn _).bindReads fun t => ?_
  split
  · exact (reads_block hg ctx).bind fun _ => keeps_pure _
  · exact reads_consume.bind fun _ => keeps_pure _
  · exact reads_variableStatement hg ctx (by decide)
  · exact reads_variableStatement hg ctx (by decide)
  · exact reads_variableStatement hg ctx (by decide)
  · exact reads_functionStatement hg ctx
  · exact keeps_declarationAhead.bindReads fun _ =>
      reads_ite (reads_functionStatement hg ctx) (reads_openStatement hg ctx _)
  · exact reads_classStatement hg ctx
  · exact reads_ifStatement hg ctx
  · exact reads_forStatement hg ctx
  · exact reads_whileStatement hg ctx
  · exact reads_doStatement hg ctx
  · exact reads_returnStatement hg ctx
  · exact reads_jumpStatement ctx
  · exact reads_jumpStatement ctx
  · exact reads_throwStatement hg ctx
  · exact reads_tryStatement hg ctx
  · exact reads_switchStatement hg ctx
  · exact reads_consume.bind fun _ => keeps_requireSemicolon
  · exact reads_fail t _
  · refine keeps_peek2.bindReads fun (_, next) => ?_
    exact reads_ite (reads_expressionStatement hg ctx) (reads_fail t _)
  · exact reads_fail t _
  · exact reads_openStatement hg ctx _

/-! ## Levels of nesting -/

theorem Grammar.Steps.over (hg : g.Steps) : g.over.Steps where
  assignExpr := reads_assignLevel hg
  unaryExpr := reads_unaryLevel hg
  lhsExpr := reads_lhsLevel hg
  newExpr := reads_newLevel hg
  pattern ctx _ hkind := reads_patternLevel hg ctx hkind
  statement := reads_statementLevel hg

/-- All productions step in the text, however deep it nests. -/
theorem Grammar.steps_ofDepth (depth : Nat) : (Grammar.ofDepth depth).Steps := by
  induction depth with
  | zero => exact Grammar.steps_exhausted
  | succ depth ih => exact ih.over

end ModuleBundler
