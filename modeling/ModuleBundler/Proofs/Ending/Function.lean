import ModuleBundler.Proofs.Ending.Rounds

/-!
# The loops of patterns, functions and classes end

* `Grammar.Ending` : what is known of the readers that a level of nesting is written over: they go
  past some text, and their loops come to an end;
* `ends_expression`, `ends_patternLevel`, `ends_functionParameters`, `ends_classDefinition`, … : one
  lemma for each reader that is written over them.
-/

namespace ModuleBundler

variable {source : String} {g : Grammar}

/-- The readers of a level read what they should, and their loops come to an end. -/
structure Grammar.Ending (source : String) (g : Grammar) : Prop where
  conforms : g.Conforms
  assignExpr : ∀ ctx, Ends source (g.assignExpr ctx)
  unaryExpr : ∀ ctx, Ends source (g.unaryExpr ctx)
  lhsExpr : ∀ ctx, Ends source (g.lhsExpr ctx)
  newExpr : ∀ ctx, Ends source (g.newExpr ctx)
  pattern : ∀ ctx kind, Ends source (g.pattern ctx kind)
  statement : ∀ ctx, Ends source (g.statement ctx)

namespace Grammar.Ending

variable (hg : g.Ending source)
include hg

theorem advancing_unaryExpr (ctx : Context) : Advancing source (g.unaryExpr ctx) fun _ => True :=
  advancing_of_parses (fun _ hs => hg.conforms.unaryExpr ctx hs) fun _ => ⟨rfl, rfl⟩

theorem advancing_statement (ctx : Context) : Advancing source (g.statement ctx) fun _ => True :=
  advancing_of_parses (fun _ hs => hg.conforms.statement ctx hs) fun _ => ⟨rfl, rfl⟩

end Grammar.Ending

/-! ## Readers that nothing nests in -/

theorem ends_methodModifiers : Ends source methodModifiers := by
  refine Ends.peek2.bind fun (a, b) => ends_ite ?_ ?_
  · exact ends_consume.bind fun _ => (ends_consumeIf _).bind fun _ => ends_pure _
  · exact (ends_consumeIf _).bind fun _ => ends_pure _

theorem ends_bindingIdentifier : Ends source bindingIdentifier :=
  ends_peek.bind fun t => ends_ite (ends_consume.bind fun _ => ends_pure _) (ends_fail t _)

theorem ends_definitionName (ctx : Context) (kind : DefinitionKind) (declared : DeclarationKind) :
    Ends source (definitionName ctx kind declared) := by
  refine ends_peek.bind fun t => ends_ite (ends_consume.bind fun _ => ?_) ?_
  · exact ends_optional (ends_declare ..) (ends_pure _)
  · exact ends_ite (ends_fail t _) (ends_pure _)

theorem ends_enterNameScope (ctx : Context) (kind : DefinitionKind) (declared : DeclarationKind)
    (name : Option (String × Span)) : Ends source (enterNameScope ctx kind declared name) := by
  refine (ends_enterScope _ _).bind fun scope => ?_
  dsimp only
  split
  · exact (ends_declare ..).bind fun _ => ends_pure _
  · exact ends_pure _

section
variable (hg : g.Ending source)
include hg

/-! ## Expressions and properties -/

theorem ends_expression (ctx : Context) : Ends source (expression g ctx) := by
  have hnext (e : Expr) : Ends source (do
      let next ← g.assignExpr ctx
      pure (.again (.other (e.span.join next.span)) : Round Expr Expr)) :=
    (hg.assignExpr ctx).bind fun _ => ends_pure _
  refine (hg.assignExpr ctx).bind fun first => ends_loop (fun e => ?_) (fun e => ?_) first
  · exact (ends_consumeIf _).bind fun _ => ends_ite (hnext e) (ends_pure _)
  · exact advancing_consumeIfElse isProper_comma (fun _ => hnext e) fun _ => advancing_pure id

theorem ends_propertyKey (ctx : Context) : Ends source (propertyKey g ctx) := by
  refine ends_consume.bind fun t => ?_
  split
  · refine (hg.assignExpr _).bind fun _ => (ends_require _).bind fun _ => ends_pure _
  any_goals exact ends_pure _
  · exact ends_ite (ends_pure _) (ends_fail t _)

/-! ## Patterns -/

theorem ends_patternWithDefault (ctx : Context) (kind : DeclarationKind) :
    Ends source (patternWithDefault g ctx kind) := by
  refine (hg.pattern _ _).bind fun _ => (ends_consumeIf _).bind fun _ => ?_
  exact ends_ite ((hg.assignExpr _).bind fun _ => ends_pure _) (ends_pure _)

theorem ends_arrayPattern (ctx : Context) (kind : DeclarationKind) :
    Ends source (arrayPattern g ctx kind) := by
  have hitem := ends_patternWithDefault hg ctx kind
  refine (ends_require _).bind fun _ => ends_loopWhile ?_ ?_
  · refine (ends_consumeIf _).bind fun _ => ends_ite (ends_pure _) ?_
    refine (ends_consumeIf _).bind fun _ => ends_ite (ends_pure _) ?_
    refine (ends_consumeIf _).bind fun _ => ends_ite ?_ ?_
    · exact (hg.pattern _ _).bind fun _ => (ends_require _).bind fun _ => ends_pure _
    · exact hitem.bind fun _ => ends_separator _ _
  · -- Another round comes after a comma alone.
    refine (ends_consumeIf _).bindAdvancing fun _ => advancing_ite (advancing_pure nofun) ?_
    refine advancing_consumeIfElse isProper_comma (fun _ => ends_pure _) fun _ => ?_
    refine (ends_consumeIf _).bindAdvancing fun _ => advancing_ite ?_ ?_
    · refine (hg.pattern _ _).bindAdvancing fun _ => (ends_require _).bindAdvancing fun _ => ?_
      exact advancing_pure nofun
    · exact hitem.bindAdvancing fun _ => advancing_separator isProper_comma _

theorem ends_propertyPattern (ctx : Context) (kind : DeclarationKind) :
    Ends source (propertyPattern g ctx kind) := by
  refine (ends_consumeIf _).bind fun _ => ends_ite ?_ (Ends.peek2.bind fun (key, next) => ?_)
  · exact ends_bindingIdentifier.bind fun (name, span) => ends_declare ..
  dsimp only
  refine ends_ite ?_ ?_
  · refine ends_bindingIdentifier.bind fun (name, span) => (ends_declare ..).bind fun _ => ?_
    refine (ends_consumeIf _).bind fun _ => ends_ite ?_ (ends_pure _)
    exact (hg.assignExpr _).bind fun _ => ends_pure _
  · refine (ends_propertyKey hg _).bind fun _ => (ends_require _).bind fun _ => ?_
    exact ends_patternWithDefault hg _ _

theorem ends_patternLevel (ctx : Context) (kind : DeclarationKind) :
    Ends source (patternLevel g ctx kind) := by
  refine ends_peek.bind fun t => ?_
  split
  · exact ends_arrayPattern hg _ _
  · refine (ends_require _).bind fun _ => ?_
    exact ends_separatedList isProper_comma _ (ends_propertyPattern hg _ _)
  · exact ends_fail t _
  · exact ends_ite (ends_bindingIdentifier.bind fun _ => ends_declare ..) (ends_fail t _)

/-! ## Functions -/

theorem ends_statements (ctx : Context) (close : TokenType) :
    Ends source (statements g ctx close) := by
  refine ends_loopWhile (ends_peek.bind fun t => ends_ite (ends_pure _) ?_) ?_
  · exact ends_ite (ends_fail t _) ((hg.statement _).bind fun _ => ends_pure _)
  · refine ends_peek.bindAdvancing fun t => advancing_ite (advancing_pure nofun) ?_
    refine advancing_ite (advancing_fail t _) ?_
    exact (hg.advancing_statement _).bind (hg.statement _) fun _ => ends_pure _

theorem ends_functionParameters (ctx : Context) :
    Ends source (functionParameters g ctx) := by
  refine (ends_require _).bind fun _ => ends_separatedList isProper_comma _ ?_
  refine (ends_consumeIf _).bind fun _ => ends_ite (hg.pattern _ _) ?_
  exact ends_patternWithDefault hg _ _

theorem ends_functionBody (ctx : Context) :
    Ends source (functionBody g ctx) := by
  refine (ends_require _).bind fun _ => (ends_statements hg _ _).bind fun _ => ?_
  exact (ends_require _).bind fun _ => ends_pure _

theorem ends_method (ctx : Context) (isAsync isGenerator : Bool) :
    Ends source (method g ctx isAsync isGenerator) := by
  refine (ends_enterScope _ _).bind fun scope => ?_
  exact (ends_functionParameters hg _).bind fun _ => ends_functionBody hg _

theorem ends_function (ctx : Context) (kind : DefinitionKind) :
    Ends source (function g ctx kind) := by
  refine ends_peek.bind fun start => (ends_consumeIf _).bind fun isAsync => ?_
  refine (ends_require _).bind fun _ => (ends_consumeIf _).bind fun isGenerator => ?_
  refine ends_lastEnd.bind fun nameAt => (ends_definitionName ..).bind fun name => ?_
  refine (ends_enterNameScope ..).bind fun outer => (ends_method hg _ _ _).bind fun stop => ?_
  exact ends_pure _

theorem ends_functionExpr (ctx : Context) : Ends source (functionExpr g ctx) :=
  (ends_function hg ctx _).bind fun _ => ends_pure _

/-! ## Classes -/

theorem ends_staticBlock (ctx : Context) : Ends source (staticBlock g ctx) := by
  refine (ends_enterScope _ _).bind fun scope => (ends_require _).bind fun _ => ?_
  exact (ends_statements hg _ _).bind fun _ => (ends_require _).bind fun _ => ends_pure _

theorem ends_fieldValue (ctx : Context) (isStatic : Bool) :
    Ends source (fieldValue g ctx isStatic) := by
  refine (ends_enterScope _ _).bind fun scope => ?_
  exact (hg.assignExpr _).bind fun _ => ends_pure _

theorem ends_classProperty (ctx : Context) (isStatic : Bool) :
    Ends source (classProperty g ctx isStatic) := by
  refine ends_methodModifiers.bind fun modifiers => ?_
  refine (ends_propertyKey hg _).bind fun _ => ends_peek.bind fun next => ?_
  refine ends_ite ((ends_method hg _ _ _).bind fun _ => ends_pure _) ?_
  refine ends_ite (ends_fail next _) ((ends_consumeIf _).bind fun _ => ?_)
  exact ends_optional (ends_fieldValue hg _ _) (ends_requireSemicolon.bind fun _ => ends_pure _)

theorem ends_classMember (ctx : Context) : Ends source (classMember g ctx) := by
  refine (ends_consumeIf _).bind fun _ => ends_ite (ends_pure _) ?_
  refine Ends.peek2.bind fun (a, b) => ends_ite (ends_fail a _) (ends_ite ?_ ?_)
  · refine ends_consume.bind fun _ => ends_peek.bind fun next => ?_
    exact ends_ite (ends_staticBlock hg _) (ends_classProperty hg _ _)
  · exact ends_classProperty hg _ _

theorem advancing_classMember (ctx : Context) :
    Advancing source (classMember g ctx) fun _ => True :=
  advancing_of_parses (fun _ hs => parses_classMember hg.conforms ctx hs) fun _ => ⟨rfl, rfl⟩

theorem ends_classDefinition (ctx : Context) (kind : DefinitionKind) :
    Ends source (classDefinition g ctx kind) := by
  refine (ends_require _).bind fun keyword => (ends_definitionName ..).bind fun name => ?_
  refine (ends_enterNameScope ..).bind fun inner => (ends_consumeIf _).bind fun _ => ?_
  have hmembers : Ends source (loopWhile do
        if ← consumeIf .braceClose then pure false
        else
          classMember g inner
          pure true) :=
    ends_loopWhile
      ((ends_consumeIf _).bind fun _ => ends_ite (ends_pure _)
        ((ends_classMember hg _).bind fun _ => ends_pure _))
      ((ends_consumeIf _).bindAdvancing fun _ => advancing_ite (advancing_pure nofun)
        ((advancing_classMember hg _).bind (ends_classMember hg _) fun _ => ends_pure _))
  have hrest := (ends_require .braceOpen).bind fun _ => hmembers.bind fun _ =>
    ends_lastEnd.bind fun stop =>
      ends_pure (⟨⟨keyword.span.start, stop⟩, name, keyword.span.stop⟩ : Definition)
  exact ends_ite ((hg.lhsExpr _).bind fun _ => hrest) hrest

theorem ends_classExpr (ctx : Context) : Ends source (classExpr g ctx) :=
  (ends_classDefinition hg ctx _).bind fun _ => ends_pure _

end

end ModuleBundler
