import ModuleBundler.Proofs.Ending.Function

/-!
# The loops of expressions end

* `ends_template`, `ends_callChain`, `ends_arrayLiteral`, `ends_binaryExpr`, … : one lemma for each
  reader of expressions.
-/

namespace ModuleBundler

variable {source : String} {g : Grammar}

/-! ## Readers that nothing nests in -/

theorem ends_memberName : Ends source memberName := ends_requireThat _ _

theorem ends_asyncFunctionAhead : Ends source asyncFunctionAhead :=
  Ends.peek2.bind fun (_, _) => ends_pure _

theorem ends_variableUse (ctx : Context) : Ends source (variableUse ctx) :=
  ends_slash.bind fun _ => (ends_refer ..).bind fun _ => ends_pure _

theorem ends_metaProperty (keyword : Token) (spelling whole : String) :
    Ends source (metaProperty keyword spelling whole) :=
  (ends_require _).bind fun t => ends_ite (ends_pure _) (ends_fail t _)

theorem ends_recordDynamicImport (ctx : Context) (first : Token) (argument call : Span) :
    Ends source (recordDynamicImport ctx first argument call) := by
  refine ends_ite ?_ (ends_pure _)
  split
  · exact ends_modify fun _ => rfl
  · exact ends_pure _

theorem ends_arrowFunctionAhead (t : Token) : Ends source (arrowFunctionAhead t) :=
  ends_ite (ends_pure _) (ends_ite (Ends.peek2.bind fun (_, _) => ends_pure _) (ends_pure _))

section
variable (hg : g.Ending source)
include hg

/-! ## Operands -/

theorem advancing_expression (ctx : Context) : Advancing source (expression g ctx) fun _ => True :=
  advancing_of_parses (fun _ hs => parses_expression hg.conforms ctx hs) fun _ => ⟨rfl, rfl⟩

theorem ends_template (ctx : Context) : Ends source (template g ctx) := by
  have hcontinue : ∀ _ : Expr, Ends source (do
      let _ ← require .braceClose
      let next ← consumeIn .templateContinue
      pure (.again next : Round Token Nat)) := fun _ => .templateContinue fun _ => ends_pure _
  refine ends_consume.bind fun first => ends_loop (fun t => ?_) (fun t => ?_) first
  · split
    · exact ends_pure _
    · exact (ends_expression hg _).bind hcontinue
    · exact ends_fail t _
    · exact ends_fail t _
    · exact ends_fail t _
  · -- What is substituted is gone past before the text of the template goes on.
    split
    · exact advancing_pure id
    · exact (advancing_expression hg _).bind (ends_expression hg _) hcontinue
    · exact advancing_fail t _
    · exact advancing_fail t _
    · exact advancing_fail t _

theorem advancing_template (ctx : Context) : Advancing source (template g ctx) fun _ => True :=
  advancing_of_parses (fun _ hs => parses_template hg.conforms ctx hs) fun _ => ⟨rfl, rfl⟩

theorem ends_callArguments (ctx : Context) :
    Ends source (callArguments g ctx) := by
  refine (ends_require _).bind fun _ => ?_
  refine (ends_separatedList isProper_comma _ ?_).bind fun _ => ends_lastEnd
  exact (ends_consumeIf _).bind fun _ => (hg.assignExpr _).bind fun _ => ends_pure _

theorem ends_computedMember (ctx : Context) (e : Expr) :
    Ends source (computedMember g ctx e) := by
  refine ends_consume.bind fun _ => (ends_expression hg _).bind fun _ => ?_
  exact (ends_require _).bind fun _ => ends_pure _

theorem ends_call (ctx : Context) (e : Expr) : Ends source (call g ctx e) := by
  refine (ends_callArguments hg ctx).bind fun _ => (ends_markSideEffect ctx).bind fun _ => ?_
  exact ends_pure _

theorem advancing_computedMember (ctx : Context) (e : Expr) :
    Advancing source (computedMember g ctx e) fun _ => True :=
  ends_consume.bindAdvancing fun _ => (advancing_expression hg _).bind (ends_expression hg _)
    fun _ => (ends_require _).bind fun _ => ends_pure _

theorem advancing_call (ctx : Context) (e : Expr) :
    Advancing source (call g ctx e) fun _ => True :=
  advancing_of_parses (fun _ hs => parses_call hg.conforms ctx e hs) fun _ => ⟨rfl, rfl⟩

/-- One more member, call or template after an operand goes past some text. -/
theorem ends_callChain (ctx : Context) (callsAllowed : Bool) (first : Expr) :
    Ends source (callChain g ctx callsAllowed first) := by
  have hname (e : Expr) : ∀ name : Token, Ends source
      (pure (.again ⟨e.span.join name.span, .member⟩ : Round Expr Expr) : Parse _) :=
    fun _ => ends_pure _
  have htemplate (e : Expr) : ∀ stop : Nat, Ends source (do
      markSideEffect ctx
      pure (.again ⟨⟨e.span.start, stop⟩, .call⟩ : Round Expr Expr)) :=
    fun _ => (ends_markSideEffect ctx).bind fun _ => ends_pure _
  have hpast : Advancing source memberName fun _ => True :=
    advancing_of_parses (fun _ hs => parses_memberName hs ⟨moduleScope, false⟩) fun _ => ⟨rfl, rfl⟩
  refine ends_loop (fun e => ends_peek.bind fun t => ?_)
    (fun e => ends_peek.bindAdvancing fun t => ?_) first
  · split
    · exact ends_consume.bind fun _ => ends_memberName.bind (hname e)
    · refine ends_ite (ends_consume.bind fun _ => ends_peek.bind fun next => ?_) (ends_pure _)
      split
      · exact (ends_call hg ctx e).map _
      · exact (ends_computedMember hg ctx e).map _
      · exact ends_memberName.bind (hname e)
    · exact (ends_computedMember hg ctx e).map _
    · exact ends_ite ((ends_call hg ctx e).map _) (ends_pure _)
    · exact (ends_template hg ctx).bind (htemplate e)
    · exact (ends_template hg ctx).bind (htemplate e)
    · exact ends_pure _
  · split
    · exact ends_consume.bindAdvancing fun _ => hpast.bind ends_memberName (hname e)
    · refine advancing_ite (ends_consume.bindAdvancing fun _ => ?_) (advancing_pure id)
      refine ends_peek.bindAdvancing fun next => ?_
      split
      · exact (advancing_call hg ctx e).map (ends_call hg ctx e) _
      · exact (advancing_computedMember hg ctx e).map (ends_computedMember hg ctx e) _
      · exact hpast.bind ends_memberName (hname e)
    · exact (advancing_computedMember hg ctx e).map (ends_computedMember hg ctx e) _
    · refine advancing_ite ?_ (advancing_pure id)
      exact (advancing_call hg ctx e).map (ends_call hg ctx e) _
    · exact (advancing_template hg ctx).bind (ends_template hg ctx) (htemplate e)
    · exact (advancing_template hg ctx).bind (ends_template hg ctx) (htemplate e)
    · exact advancing_pure id

/-! ## Literals of arrays and objects -/

theorem ends_arrayLiteral (ctx : Context) : Ends source (arrayLiteral g ctx) := by
  refine (ends_requireIn (by decide) _).bind fun opening => ?_
  refine (ends_loopWhile ?_ ?_).bind fun _ => ends_lastEnd.bind fun _ => ends_pure _
  · refine (ends_consumeIf _).bind fun _ => ends_ite (ends_pure _) ?_
    refine (ends_consumeIf _).bind fun _ => ends_ite (ends_pure _) ?_
    refine (ends_consumeIf _).bind fun _ => (hg.assignExpr _).bind fun _ => ?_
    exact ends_separator _ _
  · refine (ends_consumeIf _).bindAdvancing fun _ => advancing_ite (advancing_pure nofun) ?_
    refine advancing_consumeIfElse isProper_comma (fun _ => ends_pure _) fun _ => ?_
    refine (ends_consumeIf _).bindAdvancing fun _ => (hg.assignExpr _).bindAdvancing fun _ => ?_
    exact advancing_separator isProper_comma _

theorem ends_objectMember (ctx : Context) :
    Ends source (objectMember g ctx) := by
  have hvalue := (hg.assignExpr ctx).bind fun _ => ends_pure ()
  refine (ends_consumeIf _).bind fun _ => ends_ite hvalue ?_
  refine ends_methodModifiers.bind fun modifiers => ends_peek.bind fun t => ?_
  refine (ends_propertyKey hg _).bind fun key => ends_peek.bind fun next => ?_
  refine ends_ite ((ends_method hg _ _ _).bind fun _ => ends_pure _) ?_
  refine ends_ite (ends_fail next _) ((ends_consumeIf _).bind fun _ => ends_ite hvalue ?_)
  refine ends_ite ((ends_refer ..).bind fun _ => (ends_consumeIf _).bind fun _ => ?_)
    (ends_fail next _)
  exact ends_ite hvalue (ends_pure _)

theorem ends_objectLiteral (ctx : Context) :
    Ends source (objectLiteral g ctx) := by
  refine (ends_requireIn (by decide) _).bind fun opening => ?_
  refine (ends_separatedList isProper_comma _ (ends_objectMember hg _)).bind fun _ => ?_
  exact ends_lastEnd.bind fun _ => ends_pure _

theorem ends_parenthesized (ctx : Context) :
    Ends source (parenthesized g ctx) := by
  refine ends_slash.bind fun _ => (ends_expression hg _).bind fun _ => ?_
  exact (ends_require _).bind fun _ => ends_pure _

theorem ends_primaryExpr (ctx : Context) : Ends source (primaryExpr g ctx) := by
  refine (Ends.peekIn (by decide)).bind fun t => ?_
  have hliteral : Ends source (do
      let _ ← consumeIn .slashIsRegex
      pure (.other t.span : Expr)) := ends_slash.bind fun _ => ends_pure _
  have htemplate := (ends_template hg ctx).bind fun stop =>
    ends_pure (Expr.other ⟨t.span.start, stop⟩)
  split
  · refine ends_asyncFunctionAhead.bind fun _ => ?_
    exact ends_ite (ends_functionExpr hg ctx) (ends_variableUse ctx)
  any_goals exact hliteral
  any_goals exact htemplate
  · exact ends_parenthesized hg ctx
  · exact ends_arrayLiteral hg ctx
  · exact ends_objectLiteral hg ctx
  · exact ends_functionExpr hg ctx
  · exact ends_classExpr hg ctx
  · refine ends_slash.bind fun _ => ends_peek.bind fun _ => ?_
    exact ends_ite (ends_pure _) (ends_fail t _)
  · exact ends_fail t _
  · exact ends_fail t _
  · exact ends_ite (ends_variableUse ctx) (ends_fail t _)

theorem ends_newLevel (ctx : Context) : Ends source (newLevel g ctx) := by
  refine ends_slash.bind fun keyword => (ends_consumeIf _).bind fun _ => ?_
  refine ends_ite (ends_metaProperty keyword _ _) ((ends_markSideEffect ctx).bind fun _ => ?_)
  refine (Ends.peekIn (by decide)).bind fun t => ?_
  refine ends_choice (hg.newExpr ctx) (ends_primaryExpr hg ctx) fun operand => ?_
  refine (ends_callChain hg ctx _ operand).bind fun callee => ends_peek.bind fun next => ?_
  exact ends_choice (ends_callArguments hg ctx) (ends_pure _) fun _ => ends_pure _

theorem ends_importExpr (ctx : Context) : Ends source (importExpr g ctx) := by
  refine ends_slash.bind fun keyword => (ends_consumeIf _).bind fun _ => ?_
  refine ends_ite (ends_metaProperty keyword _ _) ((ends_require _).bind fun _ => ?_)
  refine (ends_markSideEffect ctx).bind fun _ => (Ends.peekIn (by decide)).bind fun first => ?_
  refine (hg.assignExpr _).bind fun argument => (ends_consumeIf _).bind fun _ => ?_
  have hclose : Ends source (do
      let close ← require .parenthesisClose
      recordDynamicImport ctx first argument.span (keyword.span.join close.span)
      pure (⟨keyword.span.join close.span, .call⟩ : Expr)) :=
    (ends_require _).bind fun _ => (ends_recordDynamicImport ..).bind fun _ => ends_pure _
  refine ends_ite (ends_peek.bind fun next => ends_ite ?_ hclose) hclose
  exact (hg.assignExpr _).bind fun _ => (ends_consumeIf _).bind fun _ => hclose

theorem ends_lhsLevel (ctx : Context) : Ends source (lhsLevel g ctx) := by
  refine (Ends.peekIn (by decide)).bind fun t => ?_
  have hchain := fun operand => ends_callChain hg ctx true operand
  split
  · exact (ends_newLevel hg ctx).bind hchain
  · exact ends_slash.bind fun _ => hchain _
  · exact (ends_importExpr hg ctx).bind hchain
  · exact (ends_primaryExpr hg ctx).bind hchain

theorem ends_unaryOperation (ctx : Context) (isObservable : Bool) :
    Ends source (unaryOperation g ctx isObservable) := by
  refine ends_slash.bind fun operator => ends_optional (ends_markSideEffect ctx) ?_
  exact (hg.unaryExpr ctx).bind fun _ => ends_pure _

theorem ends_postfixExpr (ctx : Context) : Ends source (postfixExpr g ctx) := by
  refine (hg.lhsExpr ctx).bind fun operand => ends_peek.bind fun t => ends_ite ?_ (ends_pure _)
  exact ends_consume.bind fun _ => (ends_markSideEffect ctx).bind fun _ => ends_pure _

theorem ends_unaryLevel (ctx : Context) : Ends source (unaryLevel g ctx) := by
  refine (Ends.peekIn (by decide)).bind fun t => ?_
  split
  any_goals exact ends_unaryOperation hg ctx _
  · exact ends_ite (ends_unaryOperation hg ctx _) (ends_postfixExpr hg ctx)
  · exact ends_postfixExpr hg ctx

/-! ## Operators and arrow functions -/

theorem ends_binaryExpr (ctx : Context) : Ends source (binaryExpr g ctx) := by
  have hoperand (e : Expr) : Ends source (do
      let right ← g.unaryExpr ctx
      pure (.again (.other (e.span.join right.span)) : Round Expr Expr)) :=
    (hg.unaryExpr ctx).bind fun _ => ends_pure _
  refine (hg.unaryExpr ctx).bind fun first => ends_loop (fun e => ?_) (fun e => ?_) first
  · refine ends_peek.bind fun t => ends_ite (ends_pure _) ?_
    exact ends_consume.bind fun _ => hoperand e
  · refine ends_peek.bindAdvancing fun t => advancing_ite (advancing_pure id) ?_
    refine ends_consume.bindAdvancing fun _ => ?_
    exact (hg.advancing_unaryExpr ctx).bind (hg.unaryExpr ctx) fun _ => ends_pure _

theorem ends_conditionalExpr (ctx : Context) : Ends source (conditionalExpr g ctx) := by
  refine (ends_binaryExpr hg ctx).bind fun test => (ends_consumeIf _).bind fun _ => ?_
  refine ends_ite ((hg.assignExpr _).bind fun _ => (ends_require _).bind fun _ => ?_) (ends_pure _)
  exact (hg.assignExpr ctx).bind fun _ => ends_pure _

theorem ends_yieldExpr (ctx : Context) : Ends source (yieldExpr g ctx) := by
  refine ends_consume.bind fun keyword => (ends_markSideEffect ctx).bind fun _ => ?_
  refine ends_peek.bind fun next => ?_
  refine ends_choice (ends_pure _) (ends_consumeIf _) fun delegates => ?_
  refine (Ends.peekIn (by decide)).bind fun operand => ends_ite ?_ (ends_pure _)
  exact (hg.assignExpr ctx).bind fun _ => ends_pure _

theorem ends_arrowParameters (ctx : Context) :
    Ends source (arrowParameters g ctx) := by
  refine ends_peek.bind fun t => ends_ite ?_ (ends_ite ?_ (ends_pure _))
  · exact ends_consume.bind fun _ => (ends_declare ..).bind fun _ => ends_pure _
  · exact Ends.succeeds (ends_functionParameters hg ctx)

theorem ends_arrowHead (ctx : Context) : Ends source (arrowHead g ctx) := by
  refine Ends.peek2.bind fun (a, b) => ends_optional ends_consume ?_
  refine (ends_enterScope _ _).bind fun scope => (ends_arrowParameters hg _).bind fun found => ?_
  refine ends_ite (ends_peek.bind fun arrow => ends_ite ?_ (ends_pure _)) (ends_pure _)
  exact ends_consume.bind fun _ => ends_ite (ends_fail arrow _) (ends_pure _)

theorem ends_arrowBody (ctx : Context) (inAllowed : Bool) :
    Ends source (arrowBody g ctx inAllowed) := by
  refine ends_peek.bind fun t => ends_ite (ends_functionBody hg ctx) ?_
  exact (hg.assignExpr _).bind fun _ => ends_pure _

theorem ends_arrowFunction (ctx : Context) :
    Ends source (arrowFunction g ctx) := by
  refine ends_peek.bind fun start => (Ends.attempt (ends_arrowHead hg ctx)).bind fun head => ?_
  split
  · exact ends_pure _
  · exact (ends_arrowBody hg _ _).bind fun _ => ends_pure _

theorem ends_assignment (ctx : Context) : Ends source (assignment g ctx) := by
  refine (ends_conditionalExpr hg ctx).bind fun target => ends_peek.bind fun operator => ?_
  refine ends_ite (ends_ite ?_ (ends_throw fun h => nomatch h.1)) (ends_pure _)
  refine ends_consume.bind fun _ => (ends_markSideEffect ctx).bind fun _ => ?_
  exact (hg.assignExpr ctx).bind fun _ => ends_pure _

theorem ends_assignLevel (ctx : Context) : Ends source (assignLevel g ctx) := by
  refine (Ends.peekIn (by decide)).bind fun t => ends_ite (ends_yieldExpr hg ctx) ?_
  refine (ends_arrowFunctionAhead t).bind fun _ => ?_
  refine ends_choice (ends_arrowFunction hg ctx) (ends_pure _) fun arrow => ?_
  cases arrow with
  | some e => exact ends_pure e
  | none => exact ends_assignment hg ctx

end

end ModuleBundler
