import ModuleBundler.Grammar.Nesting
import ModuleBundler.Proofs.Syntax.Expression

/-!
# Texts of statements

* `parses_block`, `parses_forStatement`, `parses_switchStatement`, … : the forms of statements;
* `answers_forInit`, `answers_forRest` : the two parts of the head of a loop;
* `parses_statementLevel` : any statement or declaration;
* `Grammar.conforms_ofDepth` : all readers read what the grammar says, however deep the text nests.
-/

namespace ModuleBundler

open Phrase

variable {g : Grammar} {s : ParserState}

theorem parses_block (hg : g.Conforms) (ctx : Context) (hs : s.Steady) :
    Parses s ctx.setting (block g ctx) fun _ => Phrase.block := by
  refine (parses_require hs _).andThen fun _ s₁ hs₁ => Parses.last ?_
  refine parses_enterScope rfl hs₁ fun id s₂ hs₂ => ?_
  refine (parses_statements hg (ctx.within id) _ hs₂).andThen fun _ s₃ hs₃ => ?_
  exact (parses_require hs₃ _).andThen fun _ s₄ hs₄ => parses_done hs₄ _

theorem parses_parenthesizedCondition (hg : g.Conforms) (ctx : Context) (hs : s.Steady) :
    Parses s ctx.setting (parenthesizedCondition g ctx) fun _ => condition := by
  refine (parses_require hs _).andThen fun _ s₁ hs₁ => ?_
  refine (parses_expression hg (ctx.withIn true) hs₁).andThen fun _ s₂ hs₂ => ?_
  exact (parses_require hs₂ _).andThen fun _ s₃ hs₃ => parses_done hs₃ _

theorem parses_expressionStatement (hg : g.Conforms) (ctx : Context) (hs : s.Steady) :
    Parses s ctx.setting (expressionStatement g ctx) fun _ => Phrase.expressionStatement :=
  (parses_expression hg ctx hs).andThen fun _ _ hs₁ => (parses_requireSemicolon hs₁).last

/-! ## Variables -/

theorem parses_declarator (hg : g.Conforms) (ctx : Context) (kind : DeclarationKind)
    (inForHead : Bool) (hs : s.Steady) :
    Parses s ctx.setting (declarator g ctx kind inForHead) fun _ =>
      Phrase.patternWithDefault kind := by
  refine (hg.pattern ctx kind hs).andThen fun _ s₁ hs₁ => Parses.last ?_
  refine parses_consumeIf hs₁ (fun s₂ h => ?_) fun s₂ hs₂ _ => ?_
  · refine Answers.bind (hg.assignExpr ctx h.steady) fun _ s₃ hvalue => answers_pure ?_
    exact (h.cons hvalue.single).some
  · refine parses_ite (fun _ => ?_) fun _ => parses_pure (parsed_none hs₂ _ _)
    refine parses_peek hs₂ fun s hs => parses_ite (fun _ => ?_) fun _ => parses_fail _ _
    exact parses_pure (parsed_none hs _ _)

theorem parses_declarators (hg : g.Conforms) (ctx : Context) (kind : DeclarationKind)
    (inForHead : Bool) {keyword : TokenType} (hs : s.Steady)
    (htype : (s.next .standard).token.type = keyword) :
    Parses s ctx.setting (variableDeclaration g ctx kind inForHead) fun _ =>
      declarators keyword kind := by
  refine (parses_tok hs (by decide) htype).andThen fun _ s₁ hs₁ => ?_
  refine parses_loopWhile (fun s hs => ?_) hs₁
  refine Answers.bind (parses_declarator hg ctx kind inForHead hs) fun _ s₁ hdeclarator => ?_
  refine Answers.mono (hdeclarator.steady.answers_consumeIf .comma ctx.setting) fun more s₂ h => ?_
  cases more with
  | true => exact hdeclarator.cons (Parsed.single h)
  | false => exact hdeclarator.before h.1

theorem parses_variableStatement (hg : g.Conforms) (ctx : Context) (kind : DeclarationKind)
    {keyword : TokenType} (hs : s.Steady) (htype : (s.next .standard).token.type = keyword)
    (hkind : declarators keyword kind ∈ [declarators .keywordVar .var, declarators .keywordLet .let,
      declarators .keywordConst .const]) :
    Parses s ctx.setting (variableStatement g ctx kind) fun _ =>
      row [Phrase.variableDeclaration, semicolon] := by
  refine Parses.andThen ((parses_declarators hg ctx kind false hs htype).oneOf hkind)
    fun _ s₁ hs₁ => ?_
  exact (parses_requireSemicolon hs₁).last

/-! ## Branches and loops -/

theorem parses_ifStatement (hg : g.Conforms) (ctx : Context) (hs : s.Steady)
    (htype : (s.next .standard).token.type = .keywordIf) :
    Parses s ctx.setting (ifStatement g ctx) fun _ => Phrase.ifStatement := by
  refine (parses_tok hs (by decide) htype).andThen fun _ s₁ hs₁ => ?_
  refine (parses_parenthesizedCondition hg ctx hs₁).andThen fun _ s₂ hs₂ => ?_
  refine (hg.statement ctx hs₂).andThen fun missing s₃ hs₃ => Parses.last ?_
  refine parses_consumeIf hs₃ (fun s₄ h => ?_) fun s₄ hs₄ _ => parses_pure (parsed_none hs₄ _ _)
  refine Answers.mono (hg.statement ctx h.steady) fun _ s₅ hstatement => ?_
  exact (h.cons hstatement.single).some

theorem parses_whileStatement (hg : g.Conforms) (ctx : Context) (hs : s.Steady)
    (htype : (s.next .standard).token.type = .keywordWhile) :
    Parses s ctx.setting (whileStatement g ctx) fun _ => Phrase.whileStatement := by
  refine (parses_tok hs (by decide) htype).andThen fun _ s₁ hs₁ => ?_
  refine (parses_parenthesizedCondition hg ctx hs₁).andThen fun _ s₂ hs₂ => ?_
  exact Parses.last (hg.statement ctx.loopBody hs₂)

theorem parses_doStatement (hg : g.Conforms) (ctx : Context) (hs : s.Steady)
    (htype : (s.next .standard).token.type = .keywordDo) :
    Parses s ctx.setting (doStatement g ctx) fun _ => Phrase.doStatement := by
  refine (parses_tok hs (by decide) htype).andThen fun _ s₁ hs₁ => ?_
  refine Parses.andThen (hg.statement ctx.loopBody hs₁) fun _ s₂ hs₂ => ?_
  refine (parses_require hs₂ _).andThen fun _ s₃ hs₃ => ?_
  refine (parses_parenthesizedCondition hg ctx hs₃).andThen fun _ s₄ hs₄ => ?_
  exact (parses_optionalToken hs₄ _).done.last

/-- A loop begins with a declaration, an expression, or nothing but a semicolon after it. -/
theorem answers_forInit (hg : g.Conforms) (ctx : Context) (hs : s.Steady) :
    Answers s (forInit g ctx) fun _ s' =>
      Parsed Phrase.variableDeclaration ctx.setting s s' ∨
        Parsed Phrase.expression ctx.setting s s' ∨
          (Unread s s' ∧ (s'.next .standard).token.type = .semicolon) := by
  refine Answers.bind (hs.unread_peekIn (by decide)) fun t s₁ ⟨hunread, ht⟩ => ?_
  rw [ht, ← hunread.next]
  have hs₁ := hunread.steady
  split <;> rename_i htype
  · exact answers_pure (.inr (.inr ⟨hunread, ParserState.next_type htype (by decide)⟩))
  · refine Answers.mono (parses_declarators hg ctx .var true hs₁
      (ParserState.next_type htype (by decide))) fun _ _ h => .inl ?_
    exact (h.after hunread).oneOf (by simp)
  · refine Answers.mono (parses_declarators hg ctx .let true hs₁
      (ParserState.next_type htype (by decide))) fun _ _ h => .inl ?_
    exact (h.after hunread).oneOf (by simp)
  · refine Answers.mono (parses_declarators hg ctx .const true hs₁
      (ParserState.next_type htype (by decide))) fun _ _ h => .inl ?_
    exact (h.after hunread).oneOf (by simp)
  · refine Answers.bind (parses_expression hg ctx hs₁) fun _ _ h => answers_pure ?_
    exact .inr (.inl (h.after hunread))

theorem parses_expressionUnless (hg : g.Conforms) (ctx : Context) (type : TokenType)
    (hs : s.Steady) :
    Parses s ctx.setting (expressionUnless g ctx type) fun _ => optional Phrase.expression := by
  refine parses_peekIn hs (by decide) fun s hs => parses_ite (fun _ => ?_) fun _ => ?_
  · exact (parses_expression hg ctx hs).some.done
  · exact parses_pure (parsed_none hs _ _)

/-- After its beginning a loop goes over something, or has conditions after a semicolon. -/
theorem answers_forRest (hg : g.Conforms) (ctx : Context) (hs : s.Steady) :
    Answers s (forRest g ctx) fun _ s' =>
      ((s.next .standard).token.type ≠ .semicolon ∧ Parsed loopRange ctx.setting s s') ∨
        Parsed loopConditions ctx.setting s s' := by
  have hof := (hs.answers_consumeIf .keywordOf ctx.setting).and (hs.type_of_consumeIf .keywordOf)
  refine Answers.bind hof fun taken s₁ ⟨hof, htype⟩ => ?_
  cases taken with
  | true =>
    refine Answers.bind (hg.assignExpr ctx (Parsed.steady hof)) fun _ s₂ hrange => answers_pure ?_
    refine .inl ⟨by simp [htype], (Parsed.cons hof hrange.single).oneOf (by simp)⟩
  | false =>
    obtain ⟨hunread, -⟩ := hof
    have hs₁ := hunread.steady
    have hin :=
      (hs₁.answers_consumeIf .keywordIn ctx.setting).and (hs₁.type_of_consumeIf .keywordIn)
    refine Answers.bind hin fun taken s₂ ⟨hin, htype⟩ => ?_
    rw [hunread.next] at htype
    cases taken with
    | true =>
      refine Answers.bind (parses_expression hg ctx (Parsed.steady hin)) fun _ s₃ hrange => ?_
      have hrange := (Parsed.cons hin hrange.single).after hunread
      exact answers_pure (.inl ⟨by simp [htype], hrange.oneOf (by simp)⟩)
    | false =>
      have hunread := hunread.trans hin.1
      have hconditions : Parses s₂ ctx.setting (do
          let _ ← require .semicolon
          expressionUnless g ctx .semicolon
          let _ ← require .semicolon
          expressionUnless g ctx .parenthesisClose) fun _ => loopConditions := by
        refine (parses_require hunread.steady _).andThen fun _ s hs => ?_
        refine (parses_expressionUnless hg ctx _ hs).andThen fun _ s hs => ?_
        refine (parses_require hs _).andThen fun _ s hs => ?_
        exact (parses_expressionUnless hg ctx _ hs).last
      exact Answers.mono hconditions fun _ _ h => .inr (h.after hunread)

/-- The head of a loop. One over something assigns to what it begins with, unless that is a
declaration. -/
theorem parses_forHead (hg : g.Conforms) (ctx : Context) (hs : s.Steady) {rest : Parse Bool}
    {after : List Phrase}
    (hrest : ∀ s₁, s₁.Steady → Parses s₁ ctx.setting rest fun _ => row after) :
    Parses s ctx.setting (do
      forInit g (ctx.withIn false)
      forRest g (ctx.withIn true)
      rest) fun _ => row (forHead :: after) := by
  refine Answers.bind (answers_forInit hg (ctx.withIn false) hs) fun _ s₁ hinit => ?_
  have hs₁ : s₁.Steady := by
    rcases hinit with h | h | h
    · exact h.steady
    · exact h.steady
    · exact h.1.steady
  refine Answers.bind (answers_forRest hg (ctx.withIn true) hs₁) fun _ s₂ hhead => ?_
  have hhead : Parsed forHead ctx.setting s s₂ := by
    rcases hinit with hdeclaration | hexpression | ⟨hunread, htype⟩
    · have hrest : Parsed (oneOf [loopRange, loopConditions]) ctx.setting s₁ s₂ := by
        rcases hhead with ⟨-, h⟩ | h
        · exact Parsed.oneOf h (by simp)
        · exact Parsed.oneOf h (by simp)
      exact (Parsed.cons hdeclaration hrest.single).oneOf (by simp)
    · have hrest : Parsed (oneOf [row [effect .loopTarget, loopRange], loopConditions])
          ctx.setting s₁ s₂ := by
        rcases hhead with ⟨-, h⟩ | h
        · have htarget := parsed_effect hs₁ ctx.setting (e := .loopTarget) rfl
          exact (htarget.cons (Parsed.single h)).oneOf (by simp)
        · exact Parsed.oneOf h (by simp)
      exact (Parsed.cons hexpression hrest.single).oneOf (by simp)
    · rcases hhead with ⟨hother, -⟩ | h
      · exact absurd htype hother
      · exact (Parsed.after h hunread).oneOf (by simp)
  exact hhead.andThen (hrest s₂)

theorem parses_forStatement (hg : g.Conforms) (ctx : Context) (hs : s.Steady)
    (htype : (s.next .standard).token.type = .keywordFor) :
    Parses s ctx.setting (forStatement g ctx) fun _ => Phrase.forStatement := by
  refine (parses_tok hs (by decide) htype).andThen fun _ s₁ hs₁ => ?_
  have hloop : ∀ s₂,
      Parsed (optional (row [tok .keywordAwait, effect .loopAwait])) ctx.setting s₁ s₂ →
      Answers s₂ (do
        let _ ← require .parenthesisOpen
        let scope ← enterScope ctx.scope .block
        let inner := ctx.within scope
        forInit g (inner.withIn false)
        forRest g (inner.withIn true)
        let _ ← require .parenthesisClose
        g.statement inner.loopBody) fun _ s' => Parsed (row [optional (row [tok .keywordAwait,
          effect .loopAwait]), tok .parenthesisOpen, node (.scope .block) (row [forHead,
            tok .parenthesisClose, rule .statement])]) ctx.setting s₁ s' := by
    intro s₂ hawait
    refine hawait.andThen fun hs₂ => ?_
    refine (parses_require hs₂ _).andThen fun _ s₃ hs₃ => Parses.last ?_
    refine parses_enterScope rfl hs₃ fun id s₄ hs₄ => ?_
    refine parses_forHead hg (ctx.within id) hs₄ fun s hs => ?_
    refine (parses_require hs _).andThen fun _ s hs => ?_
    exact Parses.last (hg.statement (ctx.within id).loopBody hs)
  refine parses_ite (fun _ => ?_) fun _ => hloop s₁ (parsed_none hs₁ _ _)
  refine Answers.bind (hs₁.answers_consumeIf .keywordAwait ctx.setting)
    fun taken s₂ h => hloop s₂ ?_
  cases taken with
  | true =>
    have hawait := parsed_effect (Parsed.steady h) ctx.setting (e := .loopAwait) rfl
    exact (Parsed.cons h hawait.single).some
  | false => exact (parsed_none h.1.steady _ _).after h.1

/-! ## Cases -/

theorem parses_caseLabel (hg : g.Conforms) (ctx : Context) (hs : s.Steady) :
    Parses s ctx.setting (caseLabel g ctx) fun _ => Phrase.caseLabel := by
  refine Answers.bind (hs.taken_consume (by decide)) fun t s₁ ⟨ht, htaken⟩ => ?_
  rw [ht]
  have hcolon : ∀ {p : Phrase} {s₂ : ParserState}, Parsed p ctx.setting s s₂ →
      p ∈ [row [tok .keywordCase, Phrase.expression], tok .keywordDefault] →
        Answers s₂ (require .colon >>= fun _ => pure ()) fun _ s' =>
          Parsed Phrase.caseLabel ctx.setting s s' := fun h hp =>
    (h.oneOf hp).followedBy fun hs₂ => (parses_require hs₂ _).done.last
  split <;> rename_i htype
  · refine Answers.bind (parses_expression hg (ctx.withIn true) htaken.steady) fun _ s₂ h => ?_
    exact hcolon ((htaken.tok nofun htype ctx.setting).cons h.single) (by simp)
  · exact hcolon (htaken.tok nofun htype ctx.setting) (by simp)
  · exact answers_fail _ _
  · exact answers_fail _ _

theorem parses_caseBody (hg : g.Conforms) (ctx : Context) (hs : s.Steady) :
    Parses s ctx.setting (caseBody g ctx) fun _ => many (rule .statement) := by
  refine parses_roundsWhile (fun s hs => ?_) hs
  refine Answers.bind (hs.unread_peekIn (by decide)) fun t s₁ ⟨hunread, _⟩ => ?_
  split
  iterate 3 exact answers_pure hunread
  · exact answers_fail t _
  · refine Answers.bind (hg.statement ctx hunread.steady) fun _ s₂ h => answers_pure ?_
    exact Parsed.after h hunread

theorem parses_switchStatement (hg : g.Conforms) (ctx : Context) (hs : s.Steady)
    (htype : (s.next .standard).token.type = .keywordSwitch) :
    Parses s ctx.setting (switchStatement g ctx) fun _ => Phrase.switchStatement := by
  refine (parses_tok hs (by decide) htype).andThen fun _ s₁ hs₁ => ?_
  refine (parses_parenthesizedCondition hg ctx hs₁).andThen fun _ s₂ hs₂ => ?_
  refine (parses_require hs₂ _).andThen fun _ s₃ hs₃ => Parses.last ?_
  refine parses_enterScope rfl hs₃ fun id s₄ hs₄ => ?_
  refine Parses.done (parses_loopWhile (fun s hs => ?_) hs₄)
  refine parses_consumeIf hs (fun s₁ h => answers_pure h) fun s₁ hs₁ _ => ?_
  refine Answers.bind (parses_caseLabel hg (ctx.within id).switchBody hs₁) fun _ s₂ hlabel => ?_
  refine Answers.bind (parses_caseBody hg (ctx.within id).switchBody hlabel.steady)
    fun _ s₃ hbody => ?_
  exact answers_pure (hlabel.cons hbody.single)

/-! ## Jumps -/

theorem unread_checkJump (ctx : Context) (keyword : Token) (label : Option Token) (hs : s.Steady) :
    Answers s (checkJump ctx keyword label) fun _ s' => Unread s s' := by
  cases label with
  | none => exact answers_ite (fun _ => answers_pure (.refl hs)) fun _ => answers_fail keyword _
  | some label =>
    unfold checkJump
    dsimp only
    cases ctx.jumps.label? label.text with
    | none => exact answers_fail label _
    | some isLoop =>
      exact answers_ite (fun _ => answers_fail keyword _) fun _ => answers_pure (.refl hs)

theorem parses_jumpStatement (ctx : Context) (hs : s.Steady)
    (htype : isJump (s.next .standard).token.type = true) :
    Parses s ctx.setting (jumpStatement ctx) fun _ => Phrase.jumpStatement := by
  refine (parses_word hs (by decide) htype).andThen fun keyword s₁ hs₁ => ?_
  refine parses_peek hs₁ fun s hs => parses_ite (fun hlabel => ?_) fun _ => ?_
  · have hname := (Bool.and_eq_true_iff.mp hlabel).1
    refine Answers.bind (parses_word (c := ctx.setting) hs (by decide) hname)
      fun label s₂ hword => ?_
    refine Answers.bind (unread_checkJump ctx keyword _ hword.steady) fun _ s₃ hunread => ?_
    exact (hword.before hunread).some.andThen fun hs₃ => (parses_requireSemicolon hs₃).last
  · refine Answers.bind (unread_checkJump ctx keyword _ hs) fun _ s₂ hunread => ?_
    have hnone :=
      (parsed_none hunread.steady (word TokenType.isIdentifier) ctx.setting).after hunread
    exact hnone.andThen fun hs₂ => (parses_requireSemicolon hs₂).last

theorem parses_returnStatement (hg : g.Conforms) (ctx : Context) (hs : s.Steady)
    (htype : (s.next .standard).token.type = .keywordReturn) :
    Parses s ctx.setting (returnStatement g ctx) fun _ => Phrase.returnStatement := by
  refine (parses_tok hs (by decide) htype).andThen fun keyword s₁ hs₁ => ?_
  refine parses_ite (fun _ => ?_) fun _ => parses_fail _ _
  refine parses_peekIn hs₁ (by decide) fun s hs => parses_ite (fun _ => ?_) fun _ => ?_
  · refine Answers.bind (parses_expression hg ctx hs) fun _ s₂ hvalue => ?_
    exact (Parsed.some hvalue).andThen fun hs₂ => (parses_requireSemicolon hs₂).last
  · exact (parsed_none hs _ _).andThen fun hs => (parses_requireSemicolon hs).last

theorem parses_throwStatement (hg : g.Conforms) (ctx : Context) (hs : s.Steady)
    (htype : (s.next .standard).token.type = .keywordThrow) :
    Parses s ctx.setting (throwStatement g ctx) fun _ => Phrase.throwStatement := by
  refine (parses_tok hs (by decide) htype).andThen fun keyword s₁ hs₁ => Parses.last ?_
  refine parses_peekIn hs₁ (by decide) fun s hs => ?_
  exact parses_ite (fun _ => parses_fail _ _) fun _ => parses_expressionStatement hg ctx hs

theorem parses_catchClause (hg : g.Conforms) (ctx : Context) (hs : s.Steady) :
    Parses s ctx.setting (catchClause g ctx) fun _ => Phrase.catchClause := by
  refine parses_enterScope rfl hs fun id s₁ hs₁ => ?_
  have hblock : ∀ s₂ : ParserState, s₂.Steady → Parses s₂ (ctx.within id).setting
      (block g (ctx.within id) >>= fun _ => pure ()) fun _ => row [Phrase.block] := fun s₂ hs₂ =>
    (parses_block hg (ctx.within id) hs₂).andThen fun _ _ hs => parses_done hs _
  refine parses_consumeIf hs₁ (fun s₂ hopen => ?_) fun s₂ hs₂ _ => ?_
  · refine Answers.bind (hg.pattern (ctx.within id) .catchParam hopen.steady)
      fun _ s₃ hpattern => ?_
    refine Answers.bind (parses_require (c := (ctx.within id).setting) hpattern.steady _)
      fun _ s₄ hclose => ?_
    exact (hopen.cons (hpattern.cons hclose.single)).some.andThen fun hs₄ => hblock s₄ hs₄
  · exact (parsed_none hs₂ _ _).andThen fun hs₂ => hblock s₂ hs₂

theorem parses_tryStatement (hg : g.Conforms) (ctx : Context) (hs : s.Steady)
    (htype : (s.next .standard).token.type = .keywordTry) :
    Parses s ctx.setting (tryStatement g ctx) fun _ => Phrase.tryStatement := by
  refine (parses_tok hs (by decide) htype).andThen fun keyword s₁ hs₁ => ?_
  refine (parses_block hg ctx hs₁).andThen fun _ s₂ hs₂ => ?_
  have hfinally : ∀ (caught : Bool) (s₃ : ParserState), s₃.Steady → Parses s₃ ctx.setting (do
      let finalized ← consumeIf .keywordFinally
      if finalized then
        let _ ← block g ctx
      if caught || finalized then pure false else keyword.fail .tryWithoutHandler) fun _ =>
        row [optional (row [tok .keywordFinally, Phrase.block])] := by
    intro caught s₃ hs₃
    have hend : ∀ {p : Phrase} {s s' : ParserState} (finalized : Bool),
        Parsed p ctx.setting s s' →
          Answers s' (if caught || finalized then pure false else keyword.fail .tryWithoutHandler)
            fun (_ : Bool) s' => Parsed (row [p]) ctx.setting s s' := fun _ h =>
      answers_ite (fun _ => answers_pure h.single) fun _ => answers_fail keyword _
    refine parses_consumeIf hs₃ (fun s₄ hkeyword => ?_) fun s₄ hs₄ _ => ?_
    · refine Answers.bind (parses_block hg ctx hkeyword.steady) fun _ s₅ hblock => ?_
      exact hend true (hkeyword.cons hblock.single).some
    · exact hend false (parsed_none hs₄ _ ctx.setting)
  refine parses_consumeIf hs₂ (fun s₃ hkeyword => ?_) fun s₃ hs₃ _ => ?_
  · refine Answers.bind (parses_catchClause hg ctx hkeyword.steady) fun _ s₄ hclause => ?_
    exact (hkeyword.cons hclause.single).some.andThen fun hs₄ => hfinally true s₄ hs₄
  · exact (parsed_none hs₃ _ _).andThen fun hs₃ => hfinally false s₃ hs₃

/-! ## Labels -/

/-- A round of the loop over labels reads a label, or finds nothing more. -/
theorem answers_label (hs : s.Steady) (c : Setting) (read : List Token) :
    Answers s (do
      let (label, colon) ← peek2
      if label.type.isIdentifier && colon.type = .colon then
        let _ ← consume
        let _ ← consume
        pure (.again (read ++ [label]) : Round (List Token) (List Token))
      else pure (.done read))
      (RoundParsed (row [word TokenType.isIdentifier, tok .colon]) c s) := by
  refine Answers.bind hs.unread_peek2 fun pair s₁ hpeeked => ?_
  obtain ⟨hunread, rfl⟩ := hpeeked
  refine answers_ite (fun hlabel => ?_) fun _ => answers_pure hunread
  simp only [Bool.and_eq_true, decide_eq_true_eq] at hlabel
  refine Answers.bind (hunread.steady.taken_consume (by decide)) fun _ s₂ hconsumed => ?_
  have htaken := hconsumed.2
  have hcolon : (s₂.next .standard).token.type = .colon := by
    rw [htaken.next_eq, ParserState.afterNext, hunread.next]
    exact hlabel.2
  refine Answers.bind (parses_tok (c := c) htaken.steady (by decide) hcolon) fun _ s₃ hcolon => ?_
  have hname : (s₁.next .standard).token.type.isIdentifier = true := hunread.next _ ▸ hlabel.1
  have hmode : (s₁.next .standard).mode ≠ .templateContinue := by
    intro h
    cases h
  exact answers_pure (((htaken.word hmode hname c).cons hcolon.single).after hunread)

theorem parses_labels (hs : s.Steady) (c : Setting) :
    Parses s c labels fun _ => many (row [word TokenType.isIdentifier, tok .colon]) :=
  parses_rounds (fun read _ hs => answers_label hs c read) hs []

theorem unread_labelContext (isLoop : Bool) (ctx : Context) (labels : List Token) (hs : s.Steady) :
    Answers s (labelContext isLoop ctx labels) fun inner s' =>
      Unread s s' ∧ inner.setting = ctx.setting := by
  induction labels generalizing ctx with
  | nil => exact answers_pure ⟨.refl hs, rfl⟩
  | cons label rest ih => exact answers_ite (fun _ => answers_fail label _) fun _ => ih _

theorem parses_labelledStatement (hg : g.Conforms) (ctx : Context) (hs : s.Steady) :
    Parses s ctx.setting (labelledStatement g ctx) fun _ => Phrase.labelledStatement := by
  refine (parses_labels hs ctx.setting).andThen fun read s₁ hs₁ => Parses.last ?_
  refine parses_peek hs₁ fun s hs => ?_
  refine Answers.bind (unread_labelContext _ ctx read hs) fun inner s₂ ⟨hunread, hsetting⟩ => ?_
  refine Answers.mono (hg.statement inner hunread.steady) fun _ s₃ h => ?_
  exact Parsed.after (hsetting ▸ h) hunread

/-! ## Any statement -/

theorem parses_functionStatement (hg : g.Conforms) (ctx : Context) (hs : s.Steady) :
    Parses s ctx.setting (functionStatement g ctx) fun _ => functionText .declaration true := by
  refine Answers.bind (answers_functionParsed hg ctx .declaration hs) fun definition s₁ h => ?_
  have hparsed := h.parsed
  rw [h.1 rfl] at hparsed
  exact answers_pure hparsed

theorem parses_openStatement (hg : g.Conforms) (ctx : Context) (first : TokenType)
    (hs : s.Steady) :
    Parses s ctx.setting (openStatement g ctx first) fun _ => statementText := by
  have hexpression : ∀ s₁ : ParserState, s₁.Steady →
      Parses s₁ ctx.setting (expressionStatement g ctx) fun _ => statementText := fun s₁ hs₁ =>
    (parses_expressionStatement hg ctx hs₁).oneOf (by simp)
  refine parses_ite (fun _ => ?_) fun _ => hexpression s hs
  refine parses_peek2 hs fun s hs => parses_ite (fun _ => ?_) fun _ => hexpression s hs
  exact (parses_labelledStatement hg ctx hs).oneOf (by simp)

theorem unread_declarationAhead (hs : s.Steady) :
    Answers s declarationAhead fun _ s' => Unread s s' := by
  refine Answers.bind hs.unread_peek2 fun (a, b) s₁ ⟨hunread, _⟩ => ?_
  dsimp only
  split
  all_goals exact answers_pure hunread

theorem parses_statementLevel (hg : g.Conforms) (ctx : Context) (hs : s.Steady) :
    Parses s ctx.setting (statementLevel g ctx) fun _ => rule .statement := by
  refine Parses.rule (parses_peekIn hs (by decide) fun s hs => ?_)
  have hfunction : ∀ s₁ : ParserState, s₁.Steady →
      Parses s₁ ctx.setting (functionStatement g ctx) fun _ => statementText := fun s₁ hs₁ =>
    (parses_functionStatement hg ctx hs₁).oneOf (by simp)
  split <;> rename_i htype
  · exact Parses.oneOf (parses_block hg ctx hs).done (by simp)
  · have htype := ParserState.next_type htype (by decide)
    exact Parses.oneOf (parses_tok hs (by decide) htype).done (by simp)
  · have htype := ParserState.next_type htype (by decide)
    exact (parses_variableStatement hg ctx .var hs htype (by simp)).oneOf (by simp)
  · have htype := ParserState.next_type htype (by decide)
    exact (parses_variableStatement hg ctx .let hs htype (by simp)).oneOf (by simp)
  · have htype := ParserState.next_type htype (by decide)
    exact (parses_variableStatement hg ctx .const hs htype (by simp)).oneOf (by simp)
  · exact hfunction s hs
  · refine Answers.bind (unread_declarationAhead hs) fun _ s₁ hunread => ?_
    refine answers_ite (fun _ => ?_) fun _ => ?_
    · exact (hfunction s₁ hunread.steady).after hunread
    · exact (parses_openStatement hg ctx _ hunread.steady).after hunread
  · refine Answers.bind (answers_classParsed hg ctx .declaration hs) fun definition s₁ h => ?_
    have hparsed := h.parsed
    rw [h.1 rfl] at hparsed
    exact answers_pure (hparsed.oneOf (by simp))
  · have htype := ParserState.next_type htype (by decide)
    exact (parses_ifStatement hg ctx hs htype).oneOf (by simp)
  · have htype := ParserState.next_type htype (by decide)
    exact (parses_forStatement hg ctx hs htype).oneOf (by simp)
  · have htype := ParserState.next_type htype (by decide)
    exact (parses_whileStatement hg ctx hs htype).oneOf (by simp)
  · have htype := ParserState.next_type htype (by decide)
    exact (parses_doStatement hg ctx hs htype).oneOf (by simp)
  · have htype := ParserState.next_type htype (by decide)
    exact (parses_returnStatement hg ctx hs htype).oneOf (by simp)
  · have htype := ParserState.next_type htype (by decide)
    exact (parses_jumpStatement ctx hs (by rw [htype]; rfl)).oneOf (by simp)
  · have htype := ParserState.next_type htype (by decide)
    exact (parses_jumpStatement ctx hs (by rw [htype]; rfl)).oneOf (by simp)
  · have htype := ParserState.next_type htype (by decide)
    exact (parses_throwStatement hg ctx hs htype).oneOf (by simp)
  · have htype := ParserState.next_type htype (by decide)
    exact (parses_tryStatement hg ctx hs htype).oneOf (by simp)
  · have htype := ParserState.next_type htype (by decide)
    exact (parses_switchStatement hg ctx hs htype).oneOf (by simp)
  · have htype := ParserState.next_type htype (by decide)
    refine Parses.oneOf (p := debuggerStatement) ?_ (by simp)
    refine (parses_tok hs (by decide) htype).andThen fun _ s₁ hs₁ => ?_
    exact (parses_requireSemicolon hs₁).last
  · exact parses_fail _ _
  · refine parses_peek2 hs fun s hs => parses_ite (fun _ => ?_) fun _ => parses_fail _ _
    exact (parses_expressionStatement hg ctx hs).oneOf (by simp)
  · exact parses_fail _ _
  · exact parses_openStatement hg ctx _ hs

/-! ## Levels of nesting -/

theorem parses_tooDeep {α : Type} {c : Setting} {p : Phrase} :
    Parses s c (tooDeep : Parse α) fun _ => p := Answers.after fun t _ => answers_fail t _

/-- The readers of every level read what the grammar says. -/
theorem Grammar.conforms_ofDepth (depth : Nat) : (Grammar.ofDepth depth).Conforms := by
  induction depth with
  | zero =>
    exact {
      assignExpr _ _ _ := parses_tooDeep
      unaryExpr _ _ _ := parses_tooDeep
      lhsExpr _ _ _ := parses_tooDeep
      newExpr _ _ _ _ := parses_tooDeep
      pattern _ _ _ _ := parses_tooDeep
      statement _ _ _ := parses_tooDeep }
  | succ depth ih =>
    exact {
      assignExpr ctx _ := parses_assignLevel ih ctx
      unaryExpr ctx _ := parses_unaryLevel ih ctx
      lhsExpr ctx _ := parses_lhsLevel ih ctx
      newExpr ctx _ hs hnew := (parses_newLevel ih ctx hs hnew).rule
      pattern ctx kind _ := parses_patternLevel ih ctx kind
      statement ctx _ := parses_statementLevel ih ctx }

theorem moduleGrammar_conforms : moduleGrammar.Conforms := Grammar.conforms_ofDepth maxNesting

end ModuleBundler
