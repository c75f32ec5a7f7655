import ModuleBundler.Proofs.Syntax.Parsing

/-!
# Texts of patterns

* `parses_bindingIdentifier` : a name that is declared where it was read;
* `parses_propertyKey`, `parses_methodModifiers` : what begins a property;
* `parses_patternLevel` : patterns.
-/

namespace ModuleBundler

open Phrase

variable {g : Grammar} {s : ParserState}

/-- A name is read. -/
theorem ParserState.Steady.taken_bindingIdentifier (hs : s.Steady) :
    Answers s bindingIdentifier fun named s' => ∃ b s₁, Unread s s₁ ∧ Taken b s₁ s' ∧
      b.mode ≠ .templateContinue ∧ b.token.type.isIdentifier = true ∧
        named = (decodeName b.token.text, b.token.span) := by
  refine Answers.bind (hs.unread_peekIn (by decide)) fun t s₁ ⟨hunread, ht⟩ => ?_
  refine answers_ite (fun hname => ?_) fun _ => answers_fail t _
  refine Answers.bind (hunread.steady.taken_consume (by decide)) fun _ s₂ ⟨_, htaken⟩ => ?_
  rw [hunread.next] at htaken
  rw [ht] at hname
  exact answers_pure ⟨_, s₁, hunread, htaken, nofun, hname, by rw [ht]⟩

/-- A name is read and declared. -/
theorem parses_bindingIdentifier (hs : s.Steady) (ctx : Context) (kind : DeclarationKind)
    (shorthand : Bool) {α : Type} {rest : Parse α} {phrases : List Phrase}
    (hrest : ∀ s₁, s₁.Steady → Parses s₁ ctx.setting rest fun _ => row phrases) :
    Parses s ctx.setting (do
      let (name, span) ← bindingIdentifier
      declare ctx name span kind shorthand
      rest) fun _ => row (declared kind shorthand :: phrases) := by
  refine Answers.bind hs.taken_bindingIdentifier fun named s₂ hnamed => ?_
  obtain ⟨b, s₁, hunread, htaken, hmode, hname, rfl⟩ := hnamed
  refine Answers.bind (htaken.parses_declare hmode hname ctx kind shorthand) fun _ s₃ h => ?_
  exact (h.after hunread).andThen fun hs₃ => hrest s₃ hs₃

theorem parses_name (hs : s.Steady) (ctx : Context) (kind : DeclarationKind) (shorthand : Bool) :
    Parses s ctx.setting (do
      let (name, span) ← bindingIdentifier
      declare ctx name span kind shorthand) fun _ => declared kind shorthand := by
  refine Answers.bind hs.taken_bindingIdentifier fun named s₂ hnamed => ?_
  obtain ⟨b, s₁, hunread, htaken, hmode, hname, rfl⟩ := hnamed
  refine Answers.mono (htaken.parses_declare hmode hname ctx kind shorthand) fun _ s₃ h => ?_
  exact h.after hunread

/-- A value after `=`. -/
theorem parses_initializer (hg : g.Conforms) (ctx : Context) (hs : s.Steady) :
    Parses s ctx.setting (do
      if ← consumeIf .equals then
        let _ ← g.assignExpr (ctx.withIn true)) fun _ => initializer := by
  refine parses_consumeIf hs (fun s₁ h => ?_) fun s₁ hs₁ _ => parses_pure (parsed_none hs₁ _ _)
  refine Answers.mono (h.andThen fun hs₁ => ?_) fun _ _ => Parsed.some
  exact (hg.assignExpr (ctx.withIn true) hs₁).andThen fun _ s₂ hs₂ => parses_done hs₂ _

theorem parses_patternWithDefault (hg : g.Conforms) (ctx : Context) (kind : DeclarationKind)
    (hs : s.Steady) :
    Parses s ctx.setting (patternWithDefault g ctx kind) fun _ => Phrase.patternWithDefault kind :=
  (hg.pattern ctx kind hs).andThen fun _ _ hs => (parses_initializer hg ctx hs).last

theorem parses_arrayPattern (hg : g.Conforms) (ctx : Context) (kind : DeclarationKind)
    (hs : s.Steady) :
    Parses s ctx.setting (arrayPattern g ctx kind) fun _ => Phrase.arrayPattern kind := by
  refine (parses_require hs _).andThen fun _ s₁ hs₁ => ?_
  refine parses_loopWhile (fun s hs => ?_) hs₁
  refine parses_consumeIf hs (fun s₁ h => answers_pure (h.oneOf (by simp))) fun s hs _ => ?_
  refine parses_consumeIf hs (fun s₁ h => answers_pure (h.oneOf (by simp))) fun s hs _ => ?_
  refine parses_consumeIf hs (fun s₁ h => ?_) fun s hs _ => ?_
  · refine Answers.bind (hg.pattern ctx kind h.steady) fun _ s₂ hpattern => ?_
    refine Answers.bind (parses_require (c := ctx.setting) hpattern.steady _) fun _ s₃ hclose => ?_
    exact answers_pure ((h.cons (hpattern.cons hclose.single)).oneOf (by simp))
  · refine Answers.bind (parses_patternWithDefault hg ctx kind hs) fun _ s₁ hitem => ?_
    exact hitem.answers_separator _ _ (fun _ => .oneOf (by simp)) fun _ => .oneOf (by simp)

/-! ## Properties -/

theorem parses_propertyKey (hg : g.Conforms) (ctx : Context) (hs : s.Steady) :
    Parses s ctx.setting (propertyKey g ctx) fun _ => Phrase.propertyKey := by
  refine Answers.bind (hs.taken_consume (by decide)) fun t s₁ ⟨ht, htaken⟩ => ?_
  have hword : isPropertyName t.type = true → Parsed Phrase.propertyKey ctx.setting s s₁ := by
    intro hname
    rw [ht] at hname
    exact (htaken.word nofun hname ctx.setting).oneOf (by simp)
  split
  · rename_i htype
    rw [ht] at htype
    have hopen := htaken.tok nofun htype ctx.setting
    refine hopen.goesOn List.mem_cons_self fun hs₁ => ?_
    refine (hg.assignExpr (ctx.withIn true) hs₁).andThen fun _ s₂ hs₂ => ?_
    exact (parses_require hs₂ _).andThen fun _ s₃ hs₃ => parses_done hs₃ _
  all_goals rename_i htype
  · exact answers_pure (hword (by rw [htype]; rfl))
  · exact answers_pure (hword (by rw [htype]; rfl))
  · exact answers_pure (hword (by rw [htype]; rfl))
  · exact answers_pure (hword (by rw [htype]; rfl))
  · refine answers_ite (fun hname => answers_pure (hword ?_)) fun _ => answers_fail t _
    unfold isPropertyName
    rw [hname]
    rfl

/-- The words and marks before the name of a method. Without any of them nothing is read. -/
theorem answers_methodModifiers (hs : s.Steady) (c : Setting) :
    Answers s methodModifiers fun modifiers s' => Parsed Phrase.methodModifiers c s s' ∧
      (modifiers.any = false → Unread s s') := by
  refine Answers.bind (hs.unread_peek2) fun (a, b) s₁ ⟨hunread, hpair⟩ => ?_
  obtain ⟨rfl, rfl⟩ := Prod.mk.inj hpair
  refine answers_ite (fun hword => ?_) fun _ => ?_
  · have haccepts : isMethodModifier (s.next .standard).token.type = true := by
      unfold isMethodModifier
      simp only [Bool.or_eq_true, Bool.and_eq_true, decide_eq_true_eq] at hword ⊢
      tauto
    rw [← hunread.next] at haccepts
    have hmode : LexMode.standard ≠ .templateContinue := by decide
    have hfirst := (parses_word (c := c) hunread.steady hmode haccepts).after hunread
    refine Answers.bind hfirst fun _ s₂ h₂ => ?_
    refine Answers.bind (parses_optionalToken (c := c) h₂.steady .asterisk) fun mark s₃ h₃ => ?_
    refine answers_pure ⟨h₂.some.cons h₃.single, fun hany => ?_⟩
    simp only [MethodModifiers.any, Bool.or_eq_false_iff] at hany
    rw [hany.1.1, hany.2] at hword
    cases hword
  · refine Answers.bind (hunread.steady.answers_consumeIf .asterisk c) fun mark s₂ hmark => ?_
    have hnone := (parsed_none hunread.steady (word isMethodModifier) c).after hunread
    refine answers_pure ?_
    cases mark with
    | true =>
      refine ⟨hnone.cons (Parsed.some hmark).single, fun hany => ?_⟩
      simp [MethodModifiers.any] at hany
    | false =>
      obtain ⟨hunread', -⟩ := hmark
      have hmark := (parsed_none hunread'.steady (tok .asterisk) c).after hunread'
      exact ⟨hnone.cons hmark.single, fun _ => hunread.trans hunread'⟩

theorem parses_propertyPattern (hg : g.Conforms) (ctx : Context) (kind : DeclarationKind)
    (hs : s.Steady) :
    Parses s ctx.setting (propertyPattern g ctx kind) fun _ => Phrase.propertyPattern kind := by
  refine parses_consumeIf hs (fun s₁ h => ?_) fun s hs _ => ?_
  · exact h.goesOn List.mem_cons_self fun hs₁ => (parses_name hs₁ ctx kind false).last
  · refine parses_peek2 hs fun s hs => parses_ite (fun _ => ?_) fun _ => ?_
    · refine Parses.oneOf (p := row [declared kind true, initializer]) ?_ (by simp)
      exact parses_bindingIdentifier hs ctx kind true fun s₁ hs₁ =>
        (parses_initializer hg ctx hs₁).last
    · refine Parses.oneOf
        (p := row [Phrase.propertyKey, tok .colon, Phrase.patternWithDefault kind]) ?_ (by simp)
      refine (parses_propertyKey hg ctx hs).andThen fun _ s₁ hs₁ => ?_
      refine (parses_require hs₁ _).andThen fun _ s₂ hs₂ => ?_
      exact (parses_patternWithDefault hg ctx kind hs₂).last

theorem parses_objectPattern (hg : g.Conforms) (ctx : Context) (kind : DeclarationKind)
    (hs : s.Steady) :
    Parses s ctx.setting (objectPattern g ctx kind) fun _ => Phrase.objectPattern kind :=
  (parses_require hs _).andThen fun _ _ hs₁ =>
    (parses_separatedList (fun _ => parses_propertyPattern hg ctx kind) hs₁).last

theorem parses_patternLevel (hg : g.Conforms) (ctx : Context) (kind : DeclarationKind)
    (hs : s.Steady) :
    Parses s ctx.setting (patternLevel g ctx kind) fun _ => rule (.pattern kind) := by
  refine Parses.rule (parses_peek hs fun s hs => ?_)
  split
  · exact (parses_arrayPattern hg ctx kind hs).oneOf (by simp)
  · exact (parses_objectPattern hg ctx kind hs).oneOf (by simp)
  · exact parses_fail _ _
  · exact parses_ite (fun _ => (parses_name hs ctx kind false).oneOf (by simp)) fun _ =>
      parses_fail _ _

end ModuleBundler
