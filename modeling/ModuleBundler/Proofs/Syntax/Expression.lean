import ModuleBundler.Grammar.Expression
import ModuleBundler.Proofs.Syntax.Function

/-!
# Texts of expressions

* `parses_template` : templates, whose text goes on after what is substituted;
* `parses_primaryExpr`, `parses_newLevel`, `parses_lhsLevel`, `parses_unaryLevel` : operands;
* `parses_importExpr` : dynamic imports, which are recorded with where they stand;
* `parsed_arrowFunction` : arrow functions, of which nothing is left if they are none;
* `parses_assignLevel` : expressions without commas at their top.
-/

namespace ModuleBundler

open Phrase

variable {g : Grammar} {s : ParserState}

theorem parses_expression (hg : g.Conforms) (ctx : Context) (hs : s.Steady) :
    Parses s ctx.setting (expression g ctx) fun _ => Phrase.expression := by
  refine (hg.assignExpr ctx hs).andThen fun e s₁ hs₁ => Parses.last ?_
  refine parses_rounds (fun e s hs => ?_) hs₁ e
  refine Answers.bind (hs.answers_consumeIf .comma ctx.setting) fun taken s₁ h => ?_
  cases taken with
  | true =>
    refine Answers.bind (hg.assignExpr ctx (Parsed.steady h)) fun next s₂ hnext => answers_pure ?_
    exact Parsed.cons h hnext.single
  | false => exact answers_pure h.1

/-! ## Templates and arguments -/

/-- The last token that was read is of a template, after parts of it. -/
def TemplateParsed (c : Setting) (s : ParserState) (t : Token) (s' : ParserState) : Prop :=
  ∃ o b, Derives syntaxRules (many templatePart) o ∧ t = b.token ∧
    TextRead c (o ++ .leaf (.token b .plain) .nil) s s'

/-- After what is substituted the text of the template goes on. -/
theorem TemplateParsed.answers_substitution (hg : g.Conforms) (ctx : Context) {t : Token}
    {s' : ParserState} (h : TemplateParsed ctx.setting s t s')
    (htype : t.type = .literalTemplatePartString) :
    Answers s' (do
      let _ ← expression g (ctx.withIn true)
      let _ ← require .braceClose
      let next ← consumeIn .templateContinue
      pure (Round.again next : Round Token Nat)) fun round s' =>
        ∃ next, round = .again next ∧ TemplateParsed ctx.setting s next s' := by
  obtain ⟨before, b, hbefore, rfl, htext⟩ := h
  refine Answers.bind (parses_expression hg (ctx.withIn true) htext.steady)
    fun _ s₁ ⟨value, hvalue, htextValue⟩ => ?_
  refine Answers.bind (htextValue.steady.taken_requireIn (by decide) _)
    fun close s₂ ⟨hclose, hcloseType, htaken⟩ => ?_
  rw [hclose] at hcloseType
  have hadmits : s₂.tokens.Admits .templateContinue := by
    rw [TokenStream.Admits, htaken.behind]
    exact fun _ => ⟨_, rfl, hcloseType⟩
  refine Answers.bind (htaken.steady.taken_consumeIn hadmits) fun next s₃ ⟨hnext, hcontinues⟩ => ?_
  have hbrace := htaken.textRead nofun ctx.setting
  have hall := (htext.trans htextValue).trans hbrace
  refine answers_pure ⟨next, rfl, _, _, ?_, hnext, hcontinues.continued hall (by simp)⟩
  rw [Outline.append_assoc, Outline.append_assoc]
  refine .more hbefore (.seq (.token (decide_eq_true htype)) (.seq hvalue ?_))
  exact .seq (.token (decide_eq_true hcloseType)) .empty

theorem parses_template (hg : g.Conforms) (ctx : Context) (hs : s.Steady) :
    Parses s ctx.setting (template g ctx) fun _ => Phrase.template := by
  refine Answers.bind (hs.taken_consume (by decide)) fun first s₁ ⟨hfirst, htaken⟩ => ?_
  refine answers_loop (TemplateParsed ctx.setting s) (fun t s' h => ?_) first
    ⟨.nil, _, .none, hfirst, htaken.textRead nofun ctx.setting⟩
  split
  · rename_i htype
    obtain ⟨before, b, hbefore, rfl, htext⟩ := h
    refine answers_pure ⟨_, .seq hbefore (.seq (.token (decide_eq_true htype)) .empty), htext⟩
  · rename_i htype
    refine (h.answers_substitution hg ctx htype).mono fun round s'' ⟨next, hround, hnext⟩ => ?_
    subst hround
    exact hnext
  · exact answers_fail t _
  · exact answers_fail t _
  · exact answers_fail t _

theorem parses_callArguments (hg : g.Conforms) (ctx : Context) (hs : s.Steady) :
    Parses s ctx.setting (callArguments g ctx) fun _ => Phrase.callArguments := by
  refine (parses_require hs _).andThen fun _ s₁ hs₁ => ?_
  refine Answers.bind (parses_separatedList (c := ctx.setting) (fun s hs => ?_) hs₁)
    fun _ s₂ h => answers_afterLastEnd fun _ => answers_pure h.single
  refine (parses_optionalToken hs _).andThen fun _ s hs => ?_
  exact (hg.assignExpr (ctx.withIn true) hs).andThen fun _ s hs => parses_done hs _

theorem parses_memberName (hs : s.Steady) (c : Setting) :
    Parses s c memberName fun _ => Phrase.memberName := parses_requireThat hs _ _

theorem parses_computedMember (hg : g.Conforms) (ctx : Context) (e : Expr) (hs : s.Steady)
    (htype : (s.next .standard).token.type = .bracketOpen) :
    Parses s ctx.setting (computedMember g ctx e) fun _ => Phrase.computedMember := by
  refine (parses_tok hs (by decide) htype).andThen fun _ s₁ hs₁ => ?_
  refine (parses_expression hg (ctx.withIn true) hs₁).andThen fun _ s₂ hs₂ => ?_
  exact (parses_require hs₂ _).andThen fun _ s₃ hs₃ => parses_done hs₃ _

theorem parses_call (hg : g.Conforms) (ctx : Context) (e : Expr) (hs : s.Steady) :
    Parses s ctx.setting (call g ctx e) fun _ => Phrase.call := by
  refine (parses_callArguments hg ctx hs).andThen fun _ s₁ hs₁ => ?_
  exact (parses_markSideEffect hs₁ ctx rfl).andThen fun _ s₂ hs₂ => parses_done hs₂ _

theorem answers_taggedTemplate (hg : g.Conforms) (ctx : Context) {callsAllowed : Bool} (e : Expr)
    (hs : s.Steady) :
    Answers s (do
      let stop ← template g ctx
      markSideEffect ctx
      pure (Round.again ⟨⟨e.span.start, stop⟩, .call⟩ : Round Expr Expr))
      (RoundParsed (link callsAllowed) ctx.setting s) := by
  refine Answers.bind (parses_template hg ctx hs) fun stop s₁ htemplate => ?_
  have hmark := parses_markSideEffect htemplate.steady ctx (e := .taggedTemplate) rfl
  refine Answers.bind hmark fun _ s₂ heffect => ?_
  have htagged : Parsed taggedTemplate ctx.setting s s₂ := htemplate.cons heffect.single
  exact answers_pure (htagged.oneOf (by simp))

/-- Members, calls and templates after an operand. -/
theorem parses_callChain (hg : g.Conforms) (ctx : Context) (callsAllowed : Bool) (first : Expr)
    (hs : s.Steady) : Parses s ctx.setting (callChain g ctx callsAllowed first) fun _ =>
      many (link callsAllowed) := by
  refine parses_rounds (fun e s hs => answers_peekRound hs fun s hs => ?_) hs first
  split
  · rename_i htype
    have hdot := parses_tok (c := ctx.setting) hs (by decide) htype
    refine Answers.bind hdot fun _ s₁ hdot => ?_
    refine Answers.bind (parses_memberName hdot.steady ctx.setting) fun _ s₂ hname => ?_
    exact answers_pure ((hdot.cons hname.single).oneOf (by simp))
  · rename_i htype
    refine answers_ite (fun hallowed => ?_) fun _ => answers_pure (.refl hs)
    subst hallowed
    have hquestion := parses_tok (c := ctx.setting) hs (by decide) htype
    refine Answers.bind hquestion fun _ s₁ hquestion => ?_
    have hlink : ∀ {p : Phrase} {s' : ParserState}, Parsed p ctx.setting s₁ s' →
        p ∈ [Phrase.call, Phrase.computedMember, Phrase.memberName] →
          Parsed (link true) ctx.setting s s' := fun h hp =>
      (hquestion.cons (h.oneOf hp).single).oneOf (by simp)
    refine Answers.bind (hquestion.steady.unread_peekIn (by decide))
      fun next s₂ ⟨hunread, hnext⟩ => ?_
    rw [hnext, ← hunread.next]
    split
    · refine Answers.bind (parses_call hg ctx e hunread.steady) fun _ s₃ h => answers_pure ?_
      exact hlink (h.after hunread) (by simp)
    · rename_i htype
      refine Answers.bind (parses_computedMember hg ctx e hunread.steady htype)
        fun _ s₃ h => answers_pure ?_
      exact hlink (h.after hunread) (by simp)
    · refine Answers.bind (parses_memberName hunread.steady ctx.setting) fun _ s₃ h => ?_
      exact answers_pure (hlink (h.after hunread) (by simp))
  · rename_i htype
    refine Answers.bind (parses_computedMember hg ctx e hs htype) fun _ s₃ h => answers_pure ?_
    exact Parsed.oneOf h (by simp)
  · refine answers_ite (fun hallowed => ?_) fun _ => answers_pure (.refl hs)
    subst hallowed
    refine Answers.bind (parses_call hg ctx e hs) fun _ s₃ h => answers_pure ?_
    exact Parsed.oneOf h (by simp)
  · exact answers_taggedTemplate hg ctx e hs
  · exact answers_taggedTemplate hg ctx e hs
  · exact answers_pure (.refl hs)

/-! ## Literals of arrays and objects -/

theorem parses_arrayLiteral (hg : g.Conforms) (ctx : Context) (hs : s.Steady) :
    Parses s ctx.setting (arrayLiteral g ctx) fun _ => Phrase.arrayLiteral := by
  refine (parses_requireIn hs (by decide) _).andThen fun _ s₁ hs₁ => ?_
  refine Answers.bind (parses_loopWhile (c := ctx.setting) (fun s hs => ?_) hs₁)
    fun _ s₂ h => answers_afterLastEnd fun _ => answers_pure h
  refine parses_consumeIf hs (fun s₁ h => answers_pure (h.oneOf (by simp))) fun s hs _ => ?_
  refine parses_consumeIf hs (fun s₁ h => answers_pure (h.oneOf (by simp))) fun s hs _ => ?_
  refine Answers.bind (parses_optionalToken (c := ctx.setting) hs _) fun _ s₁ hspread => ?_
  refine Answers.bind (hg.assignExpr (ctx.withIn true) hspread.steady) fun _ s₂ hvalue => ?_
  have helement : Parsed element ctx.setting s s₂ := hspread.cons hvalue.single
  exact helement.answers_separator _ _ (fun _ => .oneOf (by simp)) fun _ => .oneOf (by simp)

theorem answers_keyToken (hs : s.Steady) (ctx : Context) :
    Answers s (propertyKey g ctx) fun key s' => key.type.isIdentifier = true →
      Taken (s.next .standard) s s' ∧ (s.next .standard).token.type.isIdentifier = true ∧
        key.span = (s.next .standard).token.span := by
  refine Answers.bind (hs.taken_consume (by decide)) fun t s₁ ⟨ht, htaken⟩ => ?_
  rw [← ht]
  split
  · exact Answers.after fun _ _ => Answers.after fun _ _ => answers_pure fun h => nomatch h
  · exact answers_pure fun h => ⟨htaken, h, rfl⟩
  · exact answers_pure fun h => ⟨htaken, h, rfl⟩
  · exact answers_pure fun h => ⟨htaken, h, rfl⟩
  · exact answers_pure fun h => ⟨htaken, h, rfl⟩
  · exact answers_ite (fun _ => answers_pure fun h => ⟨htaken, h, rfl⟩) fun _ => answers_fail t _

/-- A lone name in an object literal is the use of a variable. -/
theorem Taken.parses_loneName (hg : g.Conforms) {b : BufferedToken} {s₁ : ParserState}
    (h : Taken b s s₁) (hb : b.mode ≠ .templateContinue)
    (hname : b.token.type.isIdentifier = true) (ctx : Context) :
    Answers s₁ (do
      refer ctx (decodeName b.token.text) b.token.span true
      if ← consumeIf .equals then
        let _ ← g.assignExpr ctx) fun _ s' => Parsed Phrase.objectMember ctx.setting s s' := by
  refine Answers.bind (h.parses_refer hb hname ctx true) fun _ s₂ hname => ?_
  refine hname.goesOn (.tail _ (.tail _ (.tail _ (.head _)))) fun hs₂ => Parses.last ?_
  refine parses_consumeIf hs₂ (fun s₃ hequals => ?_) fun s₃ hs₃ _ => ?_
  · refine Answers.bind (hg.assignExpr ctx hequals.steady) fun _ s₄ hvalue => answers_pure ?_
    exact (hequals.cons hvalue.single).some
  · exact parses_pure (parsed_none hs₃ _ _)

theorem parses_objectMember (hg : g.Conforms) (ctx : Context) (hs : s.Steady) :
    Parses s ctx.setting (objectMember g ctx) fun _ => Phrase.objectMember := by
  refine parses_consumeIf hs (fun s₁ h => ?_) fun s hs _ => ?_
  · refine Answers.bind (hg.assignExpr ctx h.steady) fun _ s₂ hvalue => answers_pure ?_
    exact (h.cons hvalue.single).oneOf (by simp)
  refine Answers.bind (answers_methodModifiers hs ctx.setting) fun modifiers s₁ hwords => ?_
  obtain ⟨hwords, hnone⟩ := hwords
  refine Answers.bind (hwords.steady.unread_peekIn (by decide)) fun t s₂ ⟨hunread, ht⟩ => ?_
  rw [← hunread.next] at ht
  have hkey := (parses_propertyKey hg ctx hunread.steady).and (answers_keyToken hunread.steady ctx)
  refine Answers.bind hkey fun key s₃ ⟨hkey, hname⟩ => ?_
  refine Answers.bind (hkey.steady.unread_peekIn (by decide)) fun next s₄ ⟨hunread', _⟩ => ?_
  have hkey := (hkey.after hunread).before hunread'
  refine answers_ite (fun _ => ?_) fun _ =>
    answers_ite (fun _ => answers_fail next _) fun hplain => ?_
  · refine Answers.bind (parses_method hg ctx _ _ hunread'.steady) fun _ s₅ hmethod => ?_
    exact answers_pure ((hwords.cons (hkey.cons hmethod.single)).oneOf (by simp))
  · have hnone := hnone ((Bool.not_eq_true _).mp hplain)
    have hafter : ∀ {s' : ParserState}, Parsed Phrase.objectMember ctx.setting s₁ s' →
        Parsed Phrase.objectMember ctx.setting s s' := fun h => h.after hnone
    refine Answers.bind (hunread'.steady.answers_consumeIf .colon ctx.setting) fun taken s₅ h => ?_
    cases taken with
    | true =>
      refine Answers.bind (hg.assignExpr ctx (Parsed.steady h)) fun _ s₆ hvalue => answers_pure ?_
      exact hafter ((hkey.cons (Parsed.cons h hvalue.single)).oneOf (by simp))
    | false =>
      refine answers_ite nofun fun _ => ?_
      refine answers_ite (fun hidentifier => ?_) fun _ => answers_fail next _
      obtain ⟨htaken, hword, hspan⟩ := hname hidentifier
      have htaken := (htaken.after hunread').after h.1
      rw [ht, hspan]
      refine (htaken.parses_loneName hg nofun hword ctx).mono fun _ s' h => ?_
      exact hafter (h.after hunread)

theorem parses_objectLiteral (hg : g.Conforms) (ctx : Context) (hs : s.Steady) :
    Parses s ctx.setting (objectLiteral g ctx) fun _ => Phrase.objectLiteral := by
  refine (parses_requireIn hs (by decide) _).andThen fun _ s₁ hs₁ => ?_
  refine Answers.bind (parses_separatedList (c := ctx.setting) (fun s hs => ?_) hs₁)
    fun _ s₂ h => answers_afterLastEnd fun _ => answers_pure h.single
  exact parses_objectMember hg (ctx.withIn true) hs

/-! ## Operands -/

theorem parses_parenthesized (hg : g.Conforms) (ctx : Context) (hs : s.Steady)
    (htype : (s.next .slashIsRegex).token.type = .parenthesisOpen) :
    Parses s ctx.setting (parenthesized g ctx) fun _ => Phrase.parenthesized := by
  refine (parses_tok hs (by decide) htype).andThen fun _ s₁ hs₁ => ?_
  refine (parses_expression hg (ctx.withIn true) hs₁).andThen fun _ s₂ hs₂ => ?_
  exact (parses_require hs₂ _).andThen fun _ s₃ hs₃ => parses_done hs₃ _

theorem parses_variableUse (ctx : Context) (hs : s.Steady)
    (hname : (s.next .slashIsRegex).token.type.isIdentifier = true) :
    Parses s ctx.setting (variableUse ctx) fun _ => Phrase.variableUse := by
  refine Answers.bind (hs.taken_consume (by decide)) fun t s₁ ⟨ht, htaken⟩ => ?_
  rw [ht]
  exact Answers.bind (htaken.parses_refer nofun hname ctx false) fun _ _ h => answers_pure h

theorem unread_asyncFunctionAhead (hs : s.Steady) :
    Answers s asyncFunctionAhead fun _ s' => Unread s s' :=
  Answers.bind hs.unread_peek2 fun _ _ ⟨hunread, _⟩ => answers_pure hunread

theorem parses_primaryExpr (hg : g.Conforms) (ctx : Context) (hs : s.Steady) :
    Parses s ctx.setting (primaryExpr g ctx) fun _ => Phrase.primary := by
  refine parses_peekIn hs (by decide) fun s hs => ?_
  have hplain : isPlainOperand (s.next .slashIsRegex).token.type = true →
      ∀ {f : Token → Parse Expr}, (∀ t s₁, s₁.Steady →
        Answers s₁ (f t) fun _ s' => Unread s₁ s') →
          Parses s ctx.setting (consumeIn .slashIsRegex >>= f) fun _ => Phrase.primary :=
    fun h f hf => Answers.bind (parses_word hs (by decide) h) fun t s₁ hword =>
      (hf t s₁ hword.steady).mono fun _ _ hunread => (hword.before hunread).oneOf (by simp)
  have hother : ∀ (e : Expr) {s₁ : ParserState}, s₁.Steady →
      Answers s₁ (pure e) fun _ s' => Unread s₁ s' := fun _ _ hs₁ => answers_pure (.refl hs₁)
  have hname : ∀ {s₁ : ParserState}, Unread s s₁ →
      (s.next .slashIsRegex).token.type.isIdentifier = true →
        Answers s₁ (variableUse ctx) fun _ s' => Parsed Phrase.primary ctx.setting s s' := by
    intro s₁ hunread h
    rw [← hunread.next] at h
    refine Answers.mono (parses_variableUse ctx hunread.steady h) fun _ _ h => ?_
    exact (h.after hunread).oneOf (by simp)
  have htemplate : Answers s (do
      let stop ← template g ctx
      pure (.other ⟨(s.next .slashIsRegex).token.span.start, stop⟩ : Expr))
      fun _ s' => Parsed Phrase.primary ctx.setting s s' :=
    Answers.bind (parses_template hg ctx hs) fun _ _ h => answers_pure (h.oneOf (by simp))
  split <;> rename_i htype
  · refine Answers.bind (unread_asyncFunctionAhead hs) fun _ s₁ hunread => ?_
    refine answers_ite (fun _ => ?_) fun _ => hname hunread (by rw [htype]; rfl)
    refine Answers.mono (parses_functionExpr hg ctx hunread.steady) fun _ _ h => ?_
    exact (h.after hunread).oneOf (by simp)
  iterate 8 exact hplain (by rw [htype]; rfl) fun _ _ hs₁ => hother _ hs₁
  · exact htemplate
  · exact htemplate
  · exact (parses_parenthesized hg ctx hs htype).oneOf (by simp)
  · exact (parses_arrayLiteral hg ctx hs).oneOf (by simp)
  · exact (parses_objectLiteral hg ctx hs).oneOf (by simp)
  · exact (parses_functionExpr hg ctx hs).oneOf (by simp)
  · exact (parses_classExpr hg ctx hs).oneOf (by simp)
  · refine hplain (by rw [htype]; rfl) fun _ s₁ hs₁ => ?_
    refine Answers.bind (hs₁.unread_peekIn (by decide)) fun next s₂ ⟨hunread, _⟩ => ?_
    exact answers_ite (fun _ => answers_pure hunread) fun _ => answers_fail _ _
  · exact parses_fail _ _
  · exact parses_fail _ _
  · exact answers_ite (hname (.refl hs)) fun _ => answers_fail _ _

/-! ## `new` and `import` -/

theorem parses_metaProperty (keyword : Token) (spelling whole : String) (hs : s.Steady)
    (c : Setting) : Parses s c (metaProperty keyword spelling whole) fun _ => tok .identifier := by
  refine Answers.bind (parses_require (c := c) hs _) fun t s₁ h => ?_
  exact answers_ite (fun _ => answers_pure h) fun _ => answers_fail t _

theorem parses_newLevel (hg : g.Conforms) (ctx : Context) (hs : s.Steady)
    (htype : (s.next .slashIsRegex).token.type = .keywordNew) :
    Parses s ctx.setting (newLevel g ctx) fun _ => newText := by
  refine Answers.bind (parses_tok (c := ctx.setting) hs (by decide) htype)
    fun keyword s₁ hkeyword => ?_
  refine hkeyword.followedBy fun hs₁ => Parses.last ?_
  refine parses_consumeIf hs₁ (fun s₂ hdot => ?_) fun s hs _ => ?_
  · exact hdot.goesOn List.mem_cons_self fun hs₂ =>
      (parses_metaProperty keyword _ _ hs₂ ctx.setting).last
  refine Parses.oneOf (p := row [effect .construct, oneOf [rule .new, primary], many (link false),
    optional Phrase.callArguments]) ?_ (by simp)
  refine (parses_markSideEffect hs ctx rfl).andThen fun _ s hs => parses_peekIn hs (by decide) ?_
  intro s hs
  have hrest : ∀ (operand : Expr) (s₁ : ParserState),
      Parsed (oneOf [rule .new, primary]) ctx.setting s s₁ → Answers s₁ (do
        let callee ← callChain g ctx false operand
        let next ← peek
        let stop ←
          if next.type = .parenthesisOpen then callArguments g ctx else pure callee.span.stop
        pure (⟨⟨keyword.span.start, stop⟩, .call⟩ : Expr)) fun _ s' =>
          Parsed (row [oneOf [rule .new, primary], many (link false),
            optional Phrase.callArguments]) ctx.setting s s' := by
    intro operand s₁ hoperand
    refine hoperand.andThen fun hs₁ => ?_
    refine (parses_callChain hg ctx false operand hs₁).andThen fun callee s hs => Parses.last ?_
    refine parses_peek hs fun s hs => parses_ite (fun _ => ?_) fun _ => ?_
    · exact (parses_callArguments hg ctx hs).some.done
    · exact parses_pure (parsed_none hs _ _)
  refine answers_ite (fun hnew => ?_) fun _ => ?_
  · refine Answers.bind (hg.newExpr ctx hs hnew) fun operand s₁ h => ?_
    exact hrest operand s₁ (Parsed.oneOf h (by simp))
  · refine Answers.bind (parses_primaryExpr hg ctx hs) fun operand s₁ h => ?_
    exact hrest operand s₁ (Parsed.oneOf h (by simp))

/-- A dynamic import is recorded where it stands. -/
theorem TextRead.answers_recordDynamicImport {c : Setting} {o : Outline} {s' : ParserState}
    (h : TextRead c o s s') (ctx : Context) (first : Token) (argument call : Span)
    (hfirst : first.type = .literalString → TokenEdges s'.tokens.behind first.span)
    (hcall : ∀ d : DynamicImport, d.span = call →
      CallsRecorded o.tokens s.dynamicImports (s'.dynamicImports.push d)) :
    Answers s' (recordDynamicImport ctx first argument call) fun _ s'' => TextRead c o s s'' := by
  unfold recordDynamicImport
  refine answers_ite (fun ⟨htype, hspan⟩ => ?_) fun _ => answers_pure h
  cases decodeString first.text with
  | none => exact answers_pure h
  | some specifier =>
    refine answers_modify.mono fun _ s'' heq => ?_
    subst heq
    exact { h with
      steady := ⟨h.steady.chained, h.steady.ahead⟩
      dynamicImports := hcall _ rfl
      placed := fun hplaced => { h.placed hplaced with
        dynamicImports := Array.forall_mem_push.mpr
          ⟨hspan ▸ hfirst htype, (h.placed hplaced).dynamicImports⟩ } }

/-- A dynamic import goes from its word to the closing parenthesis, and is recorded after those
between them. -/
theorem TextRead.callsRecorded_around {c : Setting} {o : Outline} {b close : BufferedToken}
    {s₁ s₂ s' : ParserState} (h : TextRead c o s₁ s₂) (hopens : Taken b s s₁)
    (hb : b.mode ≠ .templateContinue) (htype : b.token.type = .keywordImport)
    (hcloses : Taken close s₂ s') (hclose : close.mode ≠ .templateContinue) {d : DynamicImport}
    (hd : d.span = b.token.span.join close.token.span) :
    CallsRecorded (b :: (o.tokens ++ [close])) s.dynamicImports (s'.dynamicImports.push d) := by
  have hopen := hopens.textRead hb c
  have hlast := hcloses.textRead hclose c
  have hlt := hopen.chain.start_lt_stop List.mem_cons_self (by rw [htype]; exact ⟨nofun, nofun⟩)
  have hle := hlast.chain.start_le_stop List.mem_cons_self
  have hbefore : ∀ a ∈ o.tokens ++ [close], b.token.span.stop ≤ a.token.span.start := by
    intro a ha
    exact hopen.apart (h.trans hlast) b List.mem_cons_self a (by simpa using ha)
  have hcall : b.token.span.join close.token.span =
      ⟨b.token.span.start, close.token.span.stop⟩ := by
    have := hbefore close (by simp)
    exact congrArg₂ Span.mk (Nat.min_eq_left (by omega)) (Nat.max_eq_right (by omega))
  have hinner := h.dynamicImports
  rw [hopens.dynamicImports] at hinner
  rw [hcloses.dynamicImports]
  refine hinner.push htype (fun a ha => ?_) (fun a ha => ?_) (hd.trans hcall)
  · exact Nat.lt_of_lt_of_le hlt (hbefore a (List.mem_append_left _ ha))
  · exact Nat.le_trans (h.apart hlast a ha close List.mem_cons_self) hle

/-- A dynamic import ends with its closing parenthesis, and is recorded. -/
theorem Parsed.answers_importEnd {b : BufferedToken} {s₁ s₂ : ParserState} {ctx : Context}
    (h : Parsed importArguments ctx.setting s₁ s₂) (htaken : Taken b s s₁)
    (hb : b.mode ≠ .templateContinue) (htype : b.token.type = .keywordImport) {first : Token}
    (hfirst : first.type = .literalString → TokenEdges s₂.tokens.behind first.span)
    (argument : Span) : Answers s₂ (do
      let close ← require .parenthesisClose
      recordDynamicImport ctx first argument (b.token.span.join close.span)
      pure (⟨b.token.span.join close.span, .call⟩ : Expr)) fun _ s' =>
        Parsed importText ctx.setting s s' := by
  obtain ⟨o, ho, htext⟩ := h
  refine Answers.bind (htext.steady.taken_requireIn (by decide) _)
    fun close s₃ ⟨hclose, hcloseType, hcloses⟩ => ?_
  rw [hclose] at hcloseType ⊢
  have hrecord := ((htaken.textRead hb ctx.setting).trans
    (htext.trans (hcloses.textRead nofun ctx.setting))).answers_recordDynamicImport ctx first
      argument _ (fun hstring => hcloses.edges (hfirst hstring))
      fun d hd => by simpa using htext.callsRecorded_around htaken hb htype hcloses nofun hd
  refine Answers.bind hrecord fun _ s₄ htext => answers_pure ⟨_, ?_, htext⟩
  have harguments : Derives syntaxRules (row [importArguments, tok .parenthesisClose]) _ :=
    .seq ho (.seq (.token (decide_eq_true hcloseType)) .empty)
  have hall : Derives syntaxRules importText _ :=
    .seq (.token (decide_eq_true htype)) (.seq (.oneOf (by simp) harguments) .empty)
  simpa using hall

theorem parses_importExpr (hg : g.Conforms) (ctx : Context) (hs : s.Steady)
    (htype : (s.next .slashIsRegex).token.type = .keywordImport) :
    Parses s ctx.setting (importExpr g ctx) fun _ => importText := by
  refine Answers.bind (hs.taken_consume (by decide)) fun keyword s₁ ⟨hword, htaken⟩ => ?_
  rw [hword]
  refine Answers.bind (htaken.steady.answers_consumeIf .dot ctx.setting) fun taken s₂ hdot => ?_
  cases taken with
  | true =>
    refine Answers.mono (parses_metaProperty _ "meta" _ (Parsed.steady hdot) ctx.setting)
      fun _ s₃ hname => ?_
    have hmeta : Parsed metaName ctx.setting s₁ s₃ := Parsed.cons hdot hname.single
    exact (htaken.tok nofun htype ctx.setting).cons (hmeta.oneOf (by simp)).single
  | false =>
    obtain ⟨hunread, -⟩ := hdot
    refine Answers.bind (parses_require (c := ctx.setting) hunread.steady _) fun _ s₃ hopen => ?_
    have hmark := parses_markSideEffect hopen.steady ctx (e := .importCall) rfl
    refine Answers.bind hmark fun _ s₄ hmark => ?_
    refine Answers.bind (hmark.steady.unread_peekIn (by decide))
      fun first s₅ ⟨hlook, hfirst⟩ => ?_
    refine Answers.bind (hg.assignExpr (ctx.withIn true) hlook.steady) fun argument s₆ h => ?_
    have hargument := Parsed.after h hlook
    have hstring : first.type = .literalString → TokenEdges s₆.tokens.behind first.span := by
      intro htype
      rw [hfirst] at htype ⊢
      rw [← hlook.next] at htype ⊢
      exact Parsed.edges_next h rfl (htype ▸ by decide)
    have hend : ∀ s₇, Parsed importOptions ctx.setting s₆ s₇ → Answers s₇ (do
        let close ← require .parenthesisClose
        recordDynamicImport ctx first argument.span
          ((s.next .slashIsRegex).token.span.join close.span)
        pure (⟨(s.next .slashIsRegex).token.span.join close.span, .call⟩ : Expr)) fun _ s' =>
          Parsed importText ctx.setting s s' := fun s₇ hoptions =>
      have harguments : Parsed importArguments ctx.setting s₂ s₇ :=
        hopen.cons (hmark.cons (hargument.cons hoptions.single))
      harguments.answers_importEnd (htaken.after hunread) nofun htype
        (fun h => hoptions.edges (hstring h)) argument.span
    refine Answers.bind (hargument.steady.answers_consumeIf .comma ctx.setting)
      fun taken s₇ hcomma => ?_
    cases taken with
    | true =>
      have hoptions : ∀ {s₈ : ParserState},
          Parsed (optional (row [rule .assignment, optional (tok .comma)])) ctx.setting s₇ s₈ →
            Parsed importOptions ctx.setting s₆ s₈ := fun h => (Parsed.cons hcomma h.single).some
      refine Answers.bind ((Parsed.steady hcomma).unread_peekIn (by decide))
        fun next s₈ ⟨hunread, _⟩ => ?_
      refine answers_ite (fun _ => ?_) fun _ => ?_
      · refine Answers.bind (hg.assignExpr (ctx.withIn true) hunread.steady) fun _ s₉ hvalue => ?_
        refine Answers.bind (parses_optionalToken (c := ctx.setting) hvalue.steady _)
          fun _ s' hcomma => ?_
        exact hend s' (hoptions ((Parsed.after hvalue hunread).cons hcomma.single).some)
      · exact hend s₈ (hoptions ((parsed_none hunread.steady _ _).after hunread))
    | false => exact hend s₇ ((parsed_none hcomma.1.steady _ _).after hcomma.1)

/-! ## Operators before and after an operand -/

theorem parses_lhsLevel (hg : g.Conforms) (ctx : Context) (hs : s.Steady) :
    Parses s ctx.setting (lhsLevel g ctx) fun _ => rule .leftHandSide := by
  refine Parses.rule (parses_peekIn hs (by decide) fun s hs => ?_)
  have hrest : ∀ {p : Phrase} {operand : Expr} {s₁ : ParserState}, Parsed p ctx.setting s s₁ →
      p ∈ [newText, tok .keywordSuper, importText, primary] →
        Answers s₁ (callChain g ctx true operand) fun _ s' =>
          Parsed leftHandSideText ctx.setting s s' := fun h hp =>
    (h.oneOf hp).followedBy fun hs₁ =>
      (parses_callChain hg ctx true _ hs₁).last
  split <;> rename_i htype
  · exact Answers.bind (parses_newLevel hg ctx hs htype) fun _ _ h => hrest h (by simp)
  · exact Answers.bind (parses_tok hs (by decide) htype) fun _ _ h => hrest h (by simp)
  · exact Answers.bind (parses_importExpr hg ctx hs htype) fun _ _ h => hrest h (by simp)
  · exact Answers.bind (parses_primaryExpr hg ctx hs) fun _ _ h => hrest h (by simp)

/-- An operator of the word or mark before an operand. -/
theorem parses_unaryOperation (hg : g.Conforms) (ctx : Context) {word : Phrase} {e : Effect}
    (he : e.isNoted = true)
    (hword : Parses s ctx.setting (consumeIn .slashIsRegex) fun _ => word) :
    Parses s ctx.setting (unaryOperation g ctx true) fun _ =>
      row [word, effect e, rule .unary] := by
  refine hword.andThen fun _ s₁ hs₁ => ?_
  refine (parses_markSideEffect hs₁ ctx he).andThen fun _ s₂ hs₂ => ?_
  exact (hg.unaryExpr ctx hs₂).andThen fun _ s₃ hs₃ => parses_done hs₃ _

theorem parses_postfixExpr (hg : g.Conforms) (ctx : Context) (hs : s.Steady) :
    Parses s ctx.setting (postfixExpr g ctx) fun _ => postfixText := by
  refine (hg.lhsExpr ctx hs).andThen fun operand s₁ hs₁ => Parses.last ?_
  refine parses_peek hs₁ fun s hs => parses_ite (fun hupdate => ?_) fun _ => ?_
  · have haccepts : isUpdate (s.next .standard).token.type = true :=
      (Bool.and_eq_true_iff.mp hupdate).1
    refine Parses.some ((parses_word hs (by decide) haccepts).andThen fun _ s₂ hs₂ => ?_)
    exact (parses_markSideEffect hs₂ ctx rfl).andThen fun _ s₃ hs₃ => parses_done hs₃ _
  · exact parses_pure (parsed_none hs _ _)

theorem parses_unaryLevel (hg : g.Conforms) (ctx : Context) (hs : s.Steady) :
    Parses s ctx.setting (unaryLevel g ctx) fun _ => rule .unary := by
  refine Parses.rule (parses_peekIn hs (by decide) fun s hs => ?_)
  have hpostfix : Parses s ctx.setting (postfixExpr g ctx) fun _ => unaryText :=
    (parses_postfixExpr hg ctx hs).oneOf (by simp)
  have hupdate : isUpdate (s.next .slashIsRegex).token.type = true →
      Parses s ctx.setting (unaryOperation g ctx true) fun _ => unaryText := fun h =>
    (parses_unaryOperation hg ctx (e := .update) rfl (parses_word hs (by decide) h)).oneOf
      (by simp)
  have hplain : isPlainUnary (s.next .slashIsRegex).token.type = true →
      Parses s ctx.setting (unaryOperation g ctx false) fun _ => unaryText := by
    intro h
    refine Parses.oneOf (p := row [word isPlainUnary, rule .unary]) ?_ (by simp)
    refine (parses_word hs (by decide) h).andThen fun _ s₁ hs₁ => ?_
    exact (hg.unaryExpr ctx hs₁).andThen fun _ s₂ hs₂ => parses_done hs₂ _
  split <;> rename_i htype
  · have hword := parses_tok (c := ctx.setting) hs (by decide) htype
    exact (parses_unaryOperation hg ctx (e := .delete) rfl hword).oneOf (by simp)
  iterate 2 exact hupdate (by rw [htype]; rfl)
  · refine parses_ite (fun _ => ?_) fun _ => hpostfix
    have hword := parses_tok (c := ctx.setting) hs (by decide) htype
    exact (parses_unaryOperation hg ctx (e := .await) rfl hword).oneOf (by simp)
  iterate 6 exact hplain (by rw [htype]; rfl)
  · exact hpostfix

/-! ## Operators between operands -/

theorem parses_binaryExpr (hg : g.Conforms) (ctx : Context) (hs : s.Steady) :
    Parses s ctx.setting (binaryExpr g ctx) fun _ => binaryText := by
  refine (hg.unaryExpr ctx hs).andThen fun first s₁ hs₁ => Parses.last ?_
  refine parses_rounds (fun e s hs => answers_peekRound hs fun s hs => ?_) hs₁ first
  refine answers_ite (fun _ => answers_pure (.refl hs)) fun hoperator => ?_
  have haccepts : isBinaryOperator (s.next .standard).token.type = true := by
    rw [Bool.or_eq_true, not_or] at hoperator
    simpa [isBinaryOperator, Option.isSome_iff_ne_none] using hoperator.1
  refine Answers.bind (parses_word (c := ctx.setting) hs (by decide) haccepts) fun _ s₁ hword => ?_
  refine Answers.bind (hg.unaryExpr ctx hword.steady) fun _ s₂ hoperand => answers_pure ?_
  exact hword.cons hoperand.single

theorem parses_conditionalExpr (hg : g.Conforms) (ctx : Context) (hs : s.Steady) :
    Parses s ctx.setting (conditionalExpr g ctx) fun _ => conditional := by
  refine (parses_binaryExpr hg ctx hs).andThen fun test s₁ hs₁ => Parses.last ?_
  refine parses_consumeIf hs₁ (fun s₂ hquestion => ?_) fun s₂ hs₂ _ => ?_
  · refine Answers.mono (hquestion.followedBy fun hs₂ => ?_)
      fun _ _ => Parsed.some
    refine (hg.assignExpr (ctx.withIn true) hs₂).andThen fun _ s₃ hs₃ => ?_
    refine (parses_require hs₃ _).andThen fun _ s₄ hs₄ => ?_
    exact (hg.assignExpr ctx hs₄).andThen fun _ s₅ hs₅ => parses_done hs₅ _
  · exact parses_pure (parsed_none hs₂ _ _)

theorem parses_yieldExpr (hg : g.Conforms) (ctx : Context) (hs : s.Steady)
    (htype : (s.next .slashIsRegex).token.type = .keywordYield) :
    Parses s ctx.setting (yieldExpr g ctx) fun _ => yieldText := by
  have htype := ParserState.next_type htype (by decide)
  refine (parses_tok hs (by decide) htype).andThen fun keyword s₁ hs₁ => ?_
  refine (parses_markSideEffect hs₁ ctx rfl).andThen fun _ s₂ hs₂ => Parses.last ?_
  refine parses_peek hs₂ fun s hs => ?_
  have hrest : ∀ (delegates : Bool) (s₃ : ParserState),
      (if delegates = true then Parsed (tok .asterisk) ctx.setting s s₃ else Unread s s₃) →
        Answers s₃ (do
          let operand ← peekIn .slashIsRegex
          if delegates || (!operand.afterLineBreak && !endsExpression operand.type) then
            let value ← g.assignExpr ctx
            pure (.other (keyword.span.join value.span))
          else pure (.other keyword.span : Expr)) fun _ s' =>
            Parsed (optional (row [optional (tok .asterisk), rule .assignment]))
              ctx.setting s s' := by
    intro delegates s₃ h
    have hmark : Parsed (optional (tok .asterisk)) ctx.setting s s₃ := by
      cases delegates with
      | true => exact Parsed.some h
      | false => exact (parsed_none (Unread.steady h) _ _).after h
    refine Answers.bind (hmark.steady.unread_peekIn (by decide)) fun operand s₄ ⟨hunread, _⟩ => ?_
    refine answers_ite (fun _ => ?_) fun hbare => answers_pure ?_
    · refine Answers.bind (hg.assignExpr ctx hunread.steady) fun _ s₅ hvalue => answers_pure ?_
      exact (hmark.cons (Parsed.after hvalue hunread).single).some
    · cases delegates with
      | true => exact absurd (Bool.true_or _) hbare
      | false => exact (parsed_none hunread.steady _ _).after (Unread.trans h hunread)
  refine answers_ite (fun _ => hrest false s (.refl hs)) fun _ => ?_
  refine Answers.bind (hs.answers_consumeIf .asterisk ctx.setting) fun delegates s₃ h => ?_
  refine hrest delegates s₃ ?_
  cases delegates with
  | true => exact h
  | false => exact h.1

/-! ## Arrow functions -/

/-- The parameters of an arrow function are read, or they are none. -/
theorem parsed_arrowParameters (hg : g.Conforms) (ctx : Context) (hs : s.Steady) :
    Answers s (arrowParameters g ctx) fun found s' => found = true →
      Parsed Phrase.arrowParameters ctx.setting s s' := by
  refine Answers.bind (hs.unread_peekIn (by decide)) fun t s₁ ⟨hunread, ht⟩ => ?_
  rw [ht, ← hunread.next]
  have hs₁ := hunread.steady
  have hnode : ∀ {p : Phrase} {s' : ParserState}, Parsed p ctx.setting s₁ s' →
      p ∈ [declared .param false, parametersText] →
        Parsed Phrase.arrowParameters ctx.setting s s' := fun h hp =>
    Parsed.part rfl ((h.oneOf hp).after hunread)
  refine answers_ite (fun hname => ?_) fun _ => answers_ite (fun _ => ?_) fun _ => ?_
  · refine Answers.bind (hs₁.taken_consume (by decide)) fun _ s₂ ⟨_, htaken⟩ => ?_
    refine Answers.bind (htaken.parses_declare nofun hname ctx .param false) fun _ s₃ h => ?_
    exact answers_pure fun _ => hnode h (by simp)
  · intro found s' heq hfound
    unfold succeeds at heq
    split at heq
    · rename_i hread
      cases heq
      exact hnode (parses_functionParameters hg ctx hs₁ hread) (by simp)
    · cases heq
      cases hfound
  · exact answers_pure nofun

/-- What comes before the body of an arrow function was read, with the scope that it opens. -/
def HeadParsed (ctx : Context) (s : ParserState) (inner : Context) (s' : ParserState) : Prop :=
  ∃ s₁, Parsed (optional (tok .keywordAsync)) ctx.setting s s₁ ∧
    inner.setting = ⟨s₁.scopes.size, ctx.isDeferred⟩ ∧
      Parsed (Phrase.arrowHead) inner.setting
        (s₁.opening ⟨some ctx.scope, .function⟩) s'

theorem parsed_arrow (hg : g.Conforms) (ctx : Context) (hs : s.Steady) :
    Answers s (do
      if ← arrowParameters g ctx then
        let arrow ← peek
        if arrow.type = .equalsChevronRight then
          let _ ← consume
          if arrow.afterLineBreak then arrow.fail .lineTerminatorAfterArrowParameters
          else pure (some ctx)
        else pure none
      else pure none) fun inner? s' => ∀ inner ∈ inner?, inner = ctx ∧
        Parsed (Phrase.arrowHead) ctx.setting s s' := by
  have hnone : ∀ s₁ : ParserState, Answers s₁ (pure none : Parse (Option Context))
      fun inner? s' => ∀ inner ∈ inner?, inner = ctx ∧
        Parsed (Phrase.arrowHead) ctx.setting s s' :=
    fun _ => answers_pure fun _ h => nomatch h
  refine Answers.bind (parsed_arrowParameters hg ctx hs) fun found s₁ hparameters => ?_
  refine answers_ite (fun hfound => ?_) fun _ => hnone _
  have hparameters := hparameters hfound
  refine Answers.bind (hparameters.steady.unread_peekIn (by decide))
    fun arrow s₂ ⟨hunread, ht⟩ => ?_
  refine answers_ite (fun htype => ?_) fun _ => hnone _
  rw [ht, ← hunread.next] at htype
  refine Answers.bind (parses_tok (c := ctx.setting) hunread.steady (by decide) htype)
    fun _ s₃ harrow => ?_
  refine answers_ite (fun _ => answers_fail arrow _) fun _ => answers_pure fun inner hinner => ?_
  exact ⟨(Option.mem_some.mp hinner).symm, hparameters.cons (harrow.single.after hunread)⟩

theorem headParsed_arrowHead (hg : g.Conforms) (ctx : Context) (hs : s.Steady) :
    Answers s (arrowHead g ctx) fun inner? s' => ∀ inner ∈ inner?, HeadParsed ctx s inner s' := by
  have hrest : ∀ (isAsync : Bool) {s₂ : ParserState},
      Parsed (optional (tok .keywordAsync)) ctx.setting s s₂ → Answers s₂ (do
        let scope ← enterScope ctx.scope .function
        let inner := (ctx.forFunction isAsync false).within scope
        if ← arrowParameters g inner then
          let arrow ← peek
          if arrow.type = .equalsChevronRight then
            let _ ← consume
            if arrow.afterLineBreak then arrow.fail .lineTerminatorAfterArrowParameters
            else pure (some inner)
          else pure none
        else pure none) fun inner? s' => ∀ inner ∈ inner?, HeadParsed ctx s inner s' := by
    intro isAsync s₂ hasync inner? s' heq inner hinner
    obtain ⟨id, s₃, hopened, heq⟩ := stateBind_eq_ok.mp heq
    cases hopened
    have hopening := hasync.steady.opening ⟨some ctx.scope, .function⟩
    obtain ⟨rfl, hparsed⟩ := parsed_arrow hg _ hopening heq inner hinner
    exact ⟨s₂, hasync, rfl, hparsed⟩
  refine Answers.bind hs.unread_peek2 fun (a, b) s₁ ⟨hunread, hpair⟩ => ?_
  obtain ⟨rfl, rfl⟩ := Prod.mk.inj hpair
  refine answers_ite (fun hasync => ?_) fun _ => ?_
  · simp only [Bool.and_eq_true, decide_eq_true_eq] at hasync
    rw [← hunread.next] at hasync
    have hword := parses_tok (c := ctx.setting) hunread.steady (by decide) hasync.1.1
    exact Answers.bind hword fun _ s₂ hword => hrest _ (Parsed.after hword.some hunread)
  · exact hrest _ ((parsed_none hunread.steady _ _).after hunread)

theorem parses_arrowBody (hg : g.Conforms) (inner : Context) (inAllowed : Bool) (hs : s.Steady) :
    Parses s inner.setting (arrowBody g inner inAllowed) fun _ =>
      oneOf [statementsText, rule .assignment] := by
  refine parses_peek hs fun s hs => parses_ite (fun _ => ?_) fun _ => ?_
  · exact (parses_functionBody hg inner hs).oneOf (by simp)
  · exact Parses.oneOf (hg.assignExpr (inner.withIn inAllowed) hs).done (by simp)

/-- An arrow function is read, or nothing at all. -/
theorem parsed_arrowFunction (hg : g.Conforms) (ctx : Context) (hs : s.Steady) :
    Answers s (arrowFunction g ctx) fun arrow? s' =>
      if arrow?.isSome then Parsed Phrase.arrowFunction ctx.setting s s' else Unread s s' := by
  refine Answers.bind (hs.unread_peekIn (by decide)) fun start s₁ ⟨hunread, _⟩ => ?_
  refine Answers.bind (answers_tried (headParsed_arrowHead hg ctx hunread.steady))
    fun head? s₂ h => ?_
  rcases h with ⟨rfl, rfl⟩ | ⟨inner, rfl, s₃, hasync, hsetting, hhead⟩
  · exact answers_pure hunread
  · refine Answers.bind (parses_arrowBody hg inner.deferred ctx.inAllowed hhead.steady)
      fun _ s' hbody => answers_pure ?_
    have hbody : Parsed Phrase.arrowBody inner.setting s₂ s' := Parsed.part rfl hbody
    have hinside := hhead.cons hbody.single
    rw [hsetting] at hinside
    have hnode : Parsed (node .arrow _) ctx.setting s₃ s' := Parsed.scope rfl hinside
    exact (hasync.cons hnode.single).after hunread

/-! ## Expressions -/

theorem parses_assignment (hg : g.Conforms) (ctx : Context) (hs : s.Steady) :
    Parses s ctx.setting (assignment g ctx) fun _ => row [conditional,
      optional (row [word TokenType.isAssignmentOperator, effect .assignment,
        rule .assignment])] := by
  refine (parses_conditionalExpr hg ctx hs).andThen fun target s₁ hs₁ => Parses.last ?_
  refine parses_peek hs₁ fun s hs => parses_ite (fun hoperator => ?_) fun _ => ?_
  · refine parses_ite (fun _ => ?_) fun _ => ?_
    · refine Parses.some ((parses_word hs (by decide) hoperator).andThen fun _ s₂ hs₂ => ?_)
      refine (parses_markSideEffect hs₂ ctx rfl).andThen fun _ s₃ hs₃ => ?_
      exact (hg.assignExpr ctx hs₃).andThen fun _ s₄ hs₄ => parses_done hs₄ _
    · exact fun _ _ h => nomatch h
  · exact parses_pure (parsed_none hs _ _)

theorem unread_arrowFunctionAhead (t : Token) (hs : s.Steady) :
    Answers s (arrowFunctionAhead t) fun _ s' => Unread s s' := by
  refine answers_ite (fun _ => answers_pure (.refl hs)) fun _ => ?_
  refine answers_ite (fun _ => ?_) fun _ => answers_pure (.refl hs)
  exact Answers.bind hs.unread_peek2 fun _ _ ⟨hunread, _⟩ => answers_pure hunread

theorem parses_assignLevel (hg : g.Conforms) (ctx : Context) (hs : s.Steady) :
    Parses s ctx.setting (assignLevel g ctx) fun _ => rule .assignment := by
  refine Parses.rule (parses_peekIn hs (by decide) fun s hs => ?_)
  refine parses_ite (fun hyield => ?_) fun _ => ?_
  · have htype : (s.next .slashIsRegex).token.type = .keywordYield :=
      of_decide_eq_true (Bool.and_eq_true_iff.mp hyield).1
    exact (parses_yieldExpr hg ctx hs htype).oneOf (by simp)
  · have hassignment : ∀ s₁, Unread s s₁ → Answers s₁ (assignment g ctx) fun _ s' =>
        Parsed assignmentText ctx.setting s s' := by
      intro s₁ hunread
      refine Answers.mono (parses_assignment hg ctx hunread.steady) fun _ _ h => ?_
      exact (h.after hunread).oneOf (by simp)
    refine Answers.bind (unread_arrowFunctionAhead _ hs) fun ahead s₁ hunread => ?_
    refine answers_ite (fun _ => ?_) fun _ => hassignment s₁ hunread
    refine Answers.bind (parsed_arrowFunction hg ctx hunread.steady) fun arrow? s₂ h => ?_
    cases arrow? with
    | none => exact hassignment s₂ (hunread.trans h)
    | some e => exact answers_pure ((Parsed.after h hunread).oneOf (by simp))

end ModuleBundler
