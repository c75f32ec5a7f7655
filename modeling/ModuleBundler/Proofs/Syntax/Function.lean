import ModuleBundler.Grammar.Class
import ModuleBundler.Proofs.Syntax.Pattern

/-!
# Texts of functions and classes

* `parses_method` : parameters and body, in a scope of their own;
* `DefinitionParsed` : a function or class was read, with or without a name;
* `answers_functionParsed`, `answers_classParsed` : functions and classes.
-/

namespace ModuleBundler

open Phrase

variable {g : Grammar} {s : ParserState}

theorem parses_statements (hg : g.Conforms) (ctx : Context) (close : TokenType) (hs : s.Steady) :
    Parses s ctx.setting (statements g ctx close) fun _ => many (rule .statement) := by
  refine parses_roundsWhile (fun s hs => ?_) hs
  refine Answers.bind (hs.unread_peekIn (by decide)) fun t s₁ ⟨hunread, _⟩ => ?_
  refine answers_ite (fun _ => answers_pure hunread) fun _ => ?_
  refine answers_ite (fun _ => answers_fail t _) fun _ => ?_
  refine Answers.bind (hg.statement ctx hunread.steady) fun _ s₂ h => answers_pure ?_
  exact h.after hunread

theorem parses_functionParameters (hg : g.Conforms) (ctx : Context) (hs : s.Steady) :
    Parses s ctx.setting (functionParameters g ctx) fun _ => parametersText := by
  refine (parses_require hs _).andThen fun _ s₁ hs₁ => Parses.last ?_
  refine parses_separatedList (fun s hs => ?_) hs₁
  refine parses_consumeIf hs (fun s₁ h => ?_) fun s₁ hs₁ _ => ?_
  · exact h.goesOn List.mem_cons_self fun hs₁ => (hg.pattern ctx .param hs₁).last
  · exact (parses_patternWithDefault hg ctx .param hs₁).oneOf (by simp)

theorem parses_functionBody (hg : g.Conforms) (ctx : Context) (hs : s.Steady) :
    Parses s ctx.setting (functionBody g ctx) fun _ => statementsText := by
  refine (parses_require hs _).andThen fun _ s₁ hs₁ => ?_
  refine (parses_statements hg ctx _ hs₁).andThen fun _ s₂ hs₂ => ?_
  exact (parses_require hs₂ _).andThen fun _ s₃ hs₃ => parses_done hs₃ _

/-- Parameters and body are evaluated later, in a scope of their own. -/
theorem parses_method (hg : g.Conforms) (ctx : Context) (isAsync isGenerator : Bool)
    (hs : s.Steady) :
    Parses s ctx.setting (method g ctx isAsync isGenerator) fun _ => Phrase.method := by
  refine parses_enterScope rfl hs fun id s₁ hs₁ => ?_
  have hparameters := parses_functionParameters hg
    ((ctx.forFunction isAsync isGenerator).within id).deferred hs₁
  refine Parses.andThen (hparameters.part rfl) fun _ s₂ hs₂ => Parses.last ?_
  exact (parses_functionBody hg _ hs₂).part rfl

/-! ## Names of functions and classes -/

/-- What was read of the name of a function or class: nothing, unless it is a declaration, or a name
that is declared unless it is that of an expression. -/
def NameParsed (ctx : Context) (kind : DefinitionKind) (declares : DeclarationKind)
    (s : ParserState) (name : Option (String × Span)) (s' : ParserState) : Prop :=
  match name with
  | none => kind ≠ .declaration ∧ Unread s s'
  | some named => ∃ b s₁, Unread s s₁ ∧ b.mode ≠ .templateContinue ∧
      b.token.type.isIdentifier = true ∧ named = (decodeName b.token.text, b.token.span) ∧
        if kind = .expression then Taken b s₁ s' else
          Parsed (declared declares false) ctx.setting s₁ s'

theorem answers_nameParsed (ctx : Context) (kind : DefinitionKind) (declares : DeclarationKind)
    (hs : s.Steady) :
    Answers s (definitionName ctx kind declares) (NameParsed ctx kind declares s) := by
  refine Answers.bind (hs.unread_peekIn (by decide)) fun t s₁ ⟨hunread, ht⟩ => ?_
  refine answers_ite (fun hname => ?_) fun _ => ?_
  · refine Answers.bind (hunread.steady.taken_consume (by decide)) fun _ s₂ ⟨_, htaken⟩ => ?_
    rw [hunread.next] at htaken
    rw [ht] at hname ⊢
    refine answers_ite (fun hkind => ?_) fun hkind => answers_pure ?_
    · refine Answers.bind (htaken.parses_declare nofun hname ctx declares false) fun _ s₃ h => ?_
      refine answers_pure ⟨s.next .standard, s₁, hunread, nofun, hname, rfl, ?_⟩
      rw [if_neg hkind]
      exact h
    · refine ⟨s.next .standard, s₁, hunread, nofun, hname, rfl, ?_⟩
      rw [if_pos (Decidable.not_not.mp hkind)]
      exact htaken
  · exact answers_ite (fun _ => answers_fail t _) fun hkind => answers_pure ⟨hkind, hunread⟩

theorem Taken.opened {b : BufferedToken} {s₁ : ParserState} (h : Taken b s s₁) (scope : Scope) :
    Taken b (s.opening scope) (s₁.opening scope) := by
  have hscopes : s₁.scopes.push scope = s.scopes.push scope := by rw [h.scopes]
  exact ⟨h.steady.opening scope, h.source, h.behind, hscopes, h.declarations, h.references,
    h.dynamicImports, h.sideEffects, fun hplaced => { h.placed { hplaced with } with }⟩

/-- The name of a function or class and what comes after it, within a scope for the name. -/
theorem answers_definition {ctx : Context} {kind : DefinitionKind} {declares : DeclarationKind}
    {p : Phrase} {β : Type} {f : Option (String × Span) → Context → Parse β}
    (property : Option (String × Span) → β → Prop)
    (hf : ∀ name id s₁, s₁.Steady → Answers s₁ (f name (ctx.within id)) fun b s' =>
      Parsed p (ctx.within id).setting s₁ s' ∧ property name b) (hs : s.Steady) :
    Answers s (do
      let name ← definitionName ctx kind declares
      let outer ← enterNameScope ctx kind declares name
      f name outer) fun b s' => ∃ name, (kind = .declaration → name.isSome = true) ∧
        Parsed (definition kind declares name.isSome p) ctx.setting s s' ∧ property name b := by
  refine Answers.bind (answers_nameParsed ctx kind declares hs) fun name s₂ hname => ?_
  intro result s' heq
  obtain ⟨outer, s₃, hopened, heq⟩ := stateBind_eq_ok.mp heq
  -- Unless the name is that of an expression, what comes after it is all that the scope holds.
  have hplain : s₂.Steady → enterNameScope ctx kind declares name s₂ =
      .ok (ctx.within s₂.scopes.size, s₂.opening ⟨some ctx.scope, .expressionName⟩) →
        Parsed (node (.scope .expressionName) p) ctx.setting s₂ s' ∧ property name result := by
    intro hs₂ heq'
    rw [hopened] at heq'
    cases heq'
    obtain ⟨hparsed, hproperty⟩ := hf name _ _ (hs₂.opening _) heq
    exact ⟨hparsed.scope rfl, hproperty⟩
  cases name with
  | none =>
    obtain ⟨hkind, hunread⟩ : kind ≠ .declaration ∧ Unread s s₂ := hname
    obtain ⟨hparsed, hproperty⟩ := hplain hunread.steady (by cases kind <;> rfl)
    exact ⟨none, fun h => absurd h hkind, hparsed.after hunread, hproperty⟩
  | some named =>
    obtain ⟨b, s₁, hunread, hmode, hidentifier, rfl, hname⟩ := hname
    cases kind with
    | expression =>
      obtain ⟨_, s₄, hopened', hopened⟩ := stateBind_eq_ok.mp hopened
      cases hopened'
      obtain ⟨_, s₅, hdeclared, hopened⟩ := stateBind_eq_ok.mp hopened
      cases hopened
      have hdeclared := (hname.opened ⟨some ctx.scope, .expressionName⟩).parses_declare hmode
        hidentifier (ctx.within s₂.scopes.size) declares false hdeclared
      obtain ⟨hparsed, hproperty⟩ := hf _ _ s₃ hdeclared.steady heq
      have hinside := hdeclared.cons hparsed.single
      rw [hname.scopes] at hinside
      have hparsed : Parsed (node (.scope .expressionName) _) ctx.setting s₁ s' :=
        hinside.scope rfl
      exact ⟨some _, fun _ => rfl, hparsed.after hunread, hproperty⟩
    | declaration | defaultExport =>
      rw [if_neg (by decide)] at hname
      obtain ⟨hparsed, hproperty⟩ := hplain hname.steady rfl
      exact ⟨some _, fun _ => rfl, (hname.cons hparsed.single).after hunread, hproperty⟩

/-! ## Functions and classes -/

/-- The first token of a text begins at the offset. -/
def Outline.StartsAt (o : Outline) (offset : Nat) : Prop :=
  ∃ b, o.tokens.head? = some b ∧ b.token.span.start = offset

/-- A bare part of a text ends at the offset, and after it the text goes on with a token. -/
def Outline.BareUpTo (o : Outline) (offset : Nat) : Prop :=
  ∃ head rest, o = head ++ rest ∧ head.Bare ∧ ∃ last, head.tokens.getLast? = some last ∧
    last.token.span.stop = offset ∧ last.after.offset = offset ∧
      rest.StartsAt last.after.tokenStart.offset

theorem Outline.BareUpTo.edge {o : Outline} {offset : Nat} (h : o.BareUpTo offset) :
    TokenEdge o.tokens offset := by
  obtain ⟨head, rest, rfl, -, last, hlast, hstop, -⟩ := h
  rw [Outline.tokens_append]
  exact ⟨last, List.mem_append_left _ (List.mem_of_getLast? hlast), .inr hstop.symm⟩

/-- What comes after the text makes no difference. -/
theorem Outline.BareUpTo.append {o : Outline} {offset : Nat} (h : o.BareUpTo offset)
    (o' : Outline) : (o ++ o').BareUpTo offset := by
  obtain ⟨head, rest, rfl, hbare, last, hlast, hstop, hafter, next, hnext, hstart⟩ := h
  refine ⟨head, rest ++ o', Outline.append_assoc .., hbare, last, hlast, hstop, hafter, next, ?_,
    hstart⟩
  rw [Outline.tokens_append, List.head?_append, hnext]
  rfl

theorem TextRead.startsAt {c : Setting} {o : Outline} {s' : ParserState} (h : TextRead c o s s')
    (hne : o.tokens ≠ []) : o.StartsAt s.place.tokenStart.offset := by
  obtain ⟨b, rest, htokens⟩ := List.exists_cons_of_ne_nil hne
  have hb : o.tokens.head? = some b := by rw [htokens]; rfl
  exact ⟨b, hb, h.head_start hb⟩

/-- After a bare text with tokens another one goes on. -/
theorem TextRead.bareUpTo {c : Setting} {o o' : Outline} {s₁ s' : ParserState}
    (h : TextRead c o s s₁) (hbare : o.Bare) (hne : o.tokens ≠ []) (h' : TextRead c o' s₁ s')
    (hne' : o'.tokens ≠ []) : (o ++ o').BareUpTo s₁.place.offset := by
  obtain ⟨init, last, htokens⟩ : ∃ init last, o.tokens = init ++ [last] :=
    ⟨_, _, (List.dropLast_append_getLast hne).symm⟩
  have hbehind : s₁.tokens.behind = last :: (init.reverse ++ s.tokens.behind) := by
    rw [h.behind, htokens, List.reverse_append]
    rfl
  have hplace : s₁.place = last.after := by
    unfold ParserState.place TokenStream.position
    rw [hbehind]
  have hend := h.steady.chained.lastEnd_eq
  unfold TokenStream.lastEnd at hend
  rw [hbehind] at hend
  refine ⟨o, o', rfl, hbare, last, by rw [htokens, List.getLast?_concat], hend,
    congrArg Cursor.offset hplace.symm, ?_⟩
  rw [← hplace]
  exact h'.startsAt hne'

/-- A function or class of a form was read, with a name if it is a declaration. Before the offset
where a name can be put there is nothing but words. -/
def DefinitionParsed (kind : DefinitionKind) (form : DefinitionKind → Bool → Phrase) (c : Setting)
    (s : ParserState) (definition : Definition) (s' : ParserState) : Prop :=
  (kind = .declaration → definition.name.isSome = true) ∧
    ∃ o, Derives syntaxRules (form kind definition.name.isSome) o ∧ TextRead c o s s' ∧
      o.BareUpTo definition.nameAt

theorem DefinitionParsed.parsed {kind : DefinitionKind} {form : DefinitionKind → Bool → Phrase}
    {c : Setting} {definition : Definition} {s' : ParserState}
    (h : DefinitionParsed kind form c s definition s') :
    Parsed (form kind definition.name.isSome) c s s' := by
  obtain ⟨-, o, hderives, htext, -⟩ := h
  exact ⟨o, hderives, htext⟩

/-- The text of a definition has tokens if what comes after the name has. -/
theorem Phrase.isNullable_definition {p : Phrase} (hp : p.isNullable = false)
    (kind : DefinitionKind) (declares : DeclarationKind) (isNamed : Bool) :
    (definition kind declares isNamed p).isNullable = false := by
  cases isNamed with
  | true => cases kind <;> rfl
  | false => exact hp

theorem answers_functionParsed (hg : g.Conforms) (ctx : Context) (kind : DefinitionKind)
    (hs : s.Steady) : Answers s (function g ctx kind)
      (DefinitionParsed kind functionText ctx.setting s) := by
  refine Answers.bind (hs.unread_peekIn (by decide)) fun start s₁ ⟨hunread, _⟩ => ?_
  have hasync := parses_optionalToken (c := ctx.setting) hunread.steady .keywordAsync
  refine Answers.bind (hasync.after hunread) fun isAsync s₂ ⟨before, hbefore, hasync⟩ => ?_
  refine Answers.bind (parses_require (c := ctx.setting) hasync.steady _) fun _ s₃ hkeyword => ?_
  obtain ⟨keyword, hderives, hkeyword⟩ := hkeyword
  have hne := hderives.tokens_ne_nil syntaxRules_not_nullable rfl
  refine Answers.bind (parses_optionalToken (c := ctx.setting) hkeyword.steady _)
    fun isGenerator s₄ ⟨mark, hmark, hstar⟩ => ?_
  have hhead := hasync.trans (hkeyword.trans hstar)
  have hbare := (hbefore.bare rfl).append ((hderives.bare rfl).append (hmark.bare rfl))
  refine Answers.bind (answers_lastEnd hstar.steady.chained) fun nameAt _ ⟨hs₄, hnameAt⟩ => ?_
  subst hs₄ hnameAt
  let property (name : Option (String × Span)) (definition : Definition) : Prop :=
    definition.name = name ∧ definition.nameAt = s₄.place.offset
  refine Answers.mono (answers_definition property (p := Phrase.method) (f := fun name outer => do
      let stop ← method g outer isAsync isGenerator
      pure (⟨⟨start.span.start, stop⟩, name, s₄.place.offset⟩ : Definition))
    (fun name id s₅ hs₅ => ?_) hstar.steady) fun definition s₅ h => ?_
  · refine Answers.bind (parses_method hg (ctx.within id) isAsync isGenerator hs₅) fun _ _ h => ?_
    exact answers_pure ⟨h, rfl, rfl⟩
  · obtain ⟨name, hnamed, ⟨o, ho, htext⟩, rfl, hnameAt⟩ := h
    have hne' := ho.tokens_ne_nil syntaxRules_not_nullable (isNullable_definition rfl ..)
    have hall := hhead.bareUpTo hbare (by simp [hne]) htext hne'
    rw [Outline.append_assoc, Outline.append_assoc] at hall
    refine ⟨hnamed, before ++ (keyword ++ (mark ++ (o ++ .nil))), ?_, ?_, ?_⟩
    · exact .seq hbefore (.seq hderives (.seq hmark (.seq ho .empty)))
    · rw [Outline.append_nil]
      exact hasync.trans (hkeyword.trans (hstar.trans htext))
    · rwa [hnameAt, Outline.append_nil]

theorem parses_functionExpr (hg : g.Conforms) (ctx : Context) (hs : s.Steady) :
    Parses s ctx.setting (functionExpr g ctx) fun _ => functionExpression := by
  refine Answers.bind (answers_functionParsed hg ctx .expression hs) fun definition s₁ h => ?_
  exact answers_pure (h.parsed.oneOf (by cases definition.name <;> simp))

/-! ## Classes -/

theorem parses_staticBlock (hg : g.Conforms) (ctx : Context) (hs : s.Steady) :
    Parses s ctx.setting (staticBlock g ctx) fun _ => Phrase.staticBlock := by
  refine parses_enterScope rfl hs fun id s₁ hs₁ => ?_
  refine (parses_require hs₁ _).andThen fun _ s₂ hs₂ => ?_
  refine (parses_statements hg _ _ hs₂).andThen fun _ s₃ hs₃ => ?_
  exact (parses_require hs₃ _).andThen fun _ s₄ hs₄ => parses_done hs₄ _

theorem parses_fieldValue (hg : g.Conforms) (ctx : Context) (isStatic : Bool) (hs : s.Steady) :
    Parses s ctx.setting (fieldValue g ctx isStatic) fun _ => Phrase.fieldValue isStatic := by
  cases isStatic with
  | true =>
    have hkind : (NodeKind.scope .function).scopeType? = some .function := rfl
    refine parses_enterScope hkind hs fun id s₁ hs₁ => ?_
    exact (hg.assignExpr ((ctx.forFunction false false).within id) hs₁).done
  | false =>
    have hkind : NodeKind.instanceField.scopeType? = some .function := rfl
    refine parses_enterScope hkind hs fun id s₁ hs₁ => ?_
    exact (hg.assignExpr ((ctx.forFunction false false).within id).deferred hs₁).done

theorem parses_classProperty (hg : g.Conforms) (ctx : Context) (isStatic : Bool)
    (hs : s.Steady) :
    Parses s ctx.setting (classProperty g ctx isStatic) fun _ =>
      Phrase.classProperty isStatic := by
  refine Answers.bind (answers_methodModifiers hs ctx.setting) fun modifiers s₁ ⟨h, _⟩ => ?_
  refine h.andThen fun hs₁ => ?_
  refine (parses_propertyKey hg ctx hs₁).andThen fun _ s₂ hs₂ => Parses.last ?_
  refine parses_peek hs₂ fun s hs => parses_ite (fun _ => ?_) fun _ => ?_
  · exact (parses_method hg ctx _ _ hs).done.oneOf (by simp)
  · refine parses_ite (fun _ => parses_fail _ _) fun _ => ?_
    have hsemicolon : ∀ s₁ : ParserState, s₁.Steady → Parses s₁ ctx.setting
        (requireSemicolon >>= fun _ => pure ()) fun _ => row [semicolon] := fun s₁ hs₁ =>
      (parses_requireSemicolon hs₁).andThen fun _ s₂ hs₂ => parses_done hs₂ _
    refine Parses.oneOf (p := row [optional (row [tok .equals, Phrase.fieldValue isStatic]),
      semicolon]) ?_ (by simp)
    refine parses_consumeIf hs (fun s₁ h => ?_) fun s₁ hs₁ _ => ?_
    · refine Answers.bind (parses_fieldValue hg ctx isStatic h.steady) fun _ s₂ hvalue => ?_
      exact (h.cons hvalue.single).some.andThen fun hs₂ => hsemicolon s₂ hs₂
    · exact (parsed_none hs₁ _ _).andThen fun hs₁ => hsemicolon s₁ hs₁

theorem parses_classMember (hg : g.Conforms) (ctx : Context) (hs : s.Steady) :
    Parses s ctx.setting (classMember g ctx) fun _ => Phrase.classMember := by
  refine parses_consumeIf hs (fun s₁ h => answers_pure (h.oneOf (by simp))) fun s hs _ => ?_
  refine parses_peek2 hs fun s hs => parses_ite (fun _ => parses_fail _ _) fun _ => ?_
  refine parses_ite (fun hstatic => ?_) fun _ =>
    (parses_classProperty hg ctx false hs).oneOf (by simp)
  have htype : (s.next .standard).token.type = .keywordStatic :=
    of_decide_eq_true (Bool.and_eq_true_iff.mp hstatic).1
  refine Parses.oneOf (p := row [tok .keywordStatic,
    oneOf [Phrase.staticBlock, Phrase.classProperty true]]) ?_ (by simp)
  refine (parses_tok hs (by decide) htype).andThen fun _ s₁ hs₁ => Parses.last ?_
  refine parses_peek hs₁ fun s hs => parses_ite (fun _ => ?_) fun _ => ?_
  · exact (parses_staticBlock hg ctx hs).oneOf (by simp)
  · exact (parses_classProperty hg ctx true hs).oneOf (by simp)

theorem parses_members (hg : g.Conforms) (ctx : Context) (hs : s.Steady) :
    Parses s ctx.setting (loopWhile do
      if ← consumeIf .braceClose then pure false
      else
        classMember g ctx
        pure true) fun _ => row [many Phrase.classMember, tok .braceClose] := by
  refine parses_loopWhile (fun s hs => ?_) hs
  refine parses_consumeIf hs (fun s₁ h => answers_pure h) fun s₁ hs₁ _ => ?_
  exact Answers.bind (parses_classMember hg ctx hs₁) fun _ _ h => answers_pure h

theorem answers_classBody (hg : g.Conforms) (ctx : Context) (keyword : Token)
    (name : Option (String × Span)) (hs : s.Steady) :
    Answers s (do
      if ← consumeIf .keywordExtends then
        let _ ← g.lhsExpr ctx
      let _ ← require .braceOpen
      loopWhile do
        if ← consumeIf .braceClose then pure false
        else
          classMember g ctx
          pure true
      let stop ← lastEnd
      pure (⟨⟨keyword.span.start, stop⟩, name, keyword.span.stop⟩ : Definition))
      fun definition s' => Parsed classBody ctx.setting s s' ∧ definition.name = name ∧
        definition.nameAt = keyword.span.stop := by
  have hmembers : ∀ {heritage : Phrase} {s₁ : ParserState}, Parsed heritage ctx.setting s s₁ →
      Answers s₁ (do
        let _ ← require .braceOpen
        loopWhile do
          if ← consumeIf .braceClose then pure false
          else
            classMember g ctx
            pure true
        let stop ← lastEnd
        pure (⟨⟨keyword.span.start, stop⟩, name, keyword.span.stop⟩ : Definition))
      fun definition s' => Parsed (row [heritage, tok .braceOpen, many Phrase.classMember,
        tok .braceClose]) ctx.setting s s' ∧ definition.name = name ∧
          definition.nameAt = keyword.span.stop := by
    intro heritage s₁ h
    refine Answers.bind (parses_require (c := ctx.setting) h.steady _) fun _ s₂ hopen => ?_
    refine Answers.bind (parses_members hg ctx hopen.steady) fun _ s₃ hrest => ?_
    refine Answers.bind (answers_lastEnd hrest.steady.chained) fun stop _ ⟨hs₃, _⟩ => ?_
    subst hs₃
    exact answers_pure ⟨h.cons (hopen.cons hrest), rfl, rfl⟩
  refine Answers.bind (hs.answers_consumeIf .keywordExtends ctx.setting) fun taken s₁ h => ?_
  cases taken with
  | true =>
    refine Answers.bind (hg.lhsExpr ctx (Parsed.steady h)) fun _ s₂ hheritage => ?_
    exact hmembers (Parsed.cons h hheritage.single).some
  | false => exact hmembers ((parsed_none h.1.steady _ ctx.setting).after h.1)

theorem answers_classParsed (hg : g.Conforms) (ctx : Context) (kind : DefinitionKind)
    (hs : s.Steady) : Answers s (classDefinition g ctx kind)
      (DefinitionParsed kind classText ctx.setting s) := by
  refine Answers.bind (hs.taken_requireIn (by decide) _) fun keyword s₁ ⟨ht, htype, htaken⟩ => ?_
  let property (name : Option (String × Span)) (definition : Definition) : Prop :=
    definition.name = name ∧ definition.nameAt = keyword.span.stop
  refine Answers.mono (answers_definition property (p := classBody)
    (fun name id s₂ hs₂ => answers_classBody hg (ctx.within id) keyword name hs₂) htaken.steady)
    fun definition s' h => ?_
  obtain ⟨name, hnamed, ⟨o, ho, htext⟩, rfl, hnameAt⟩ := h
  have hkeyword := htaken.textRead nofun ctx.setting
  have hword : Derives syntaxRules (tok .keywordClass)
      (.leaf (.token (s.next .standard) .plain) .nil) := .token (decide_eq_true (ht ▸ htype))
  have hne := ho.tokens_ne_nil syntaxRules_not_nullable (isNullable_definition rfl ..)
  have hall := hkeyword.bareUpTo (hword.bare rfl) (List.cons_ne_nil _ _) htext hne
  refine ⟨hnamed, .leaf (.token (s.next .standard) .plain) .nil ++ (o ++ .nil),
    .seq hword (.seq ho .empty), ?_, ?_⟩
  · rw [Outline.append_nil]
    exact hkeyword.trans htext
  · have hplace : (s.next .standard).token.span.stop = s₁.place.offset := by
      have hend := htaken.steady.chained.lastEnd_eq
      unfold TokenStream.lastEnd at hend
      rwa [htaken.behind] at hend
    rwa [hnameAt, ht, Outline.append_nil, hplace]

theorem parses_classExpr (hg : g.Conforms) (ctx : Context) (hs : s.Steady) :
    Parses s ctx.setting (classExpr g ctx) fun _ => classExpression := by
  refine Answers.bind (answers_classParsed hg ctx .expression hs) fun definition s₁ h => ?_
  exact answers_pure (h.parsed.oneOf (by cases definition.name <;> simp))

end ModuleBundler
