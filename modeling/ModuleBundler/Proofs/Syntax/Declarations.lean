import ModuleBundler.Proofs.Syntax.ImportExport
import ModuleBundler.Proofs.Syntax.VarPlaces

/-!
# Statements that are declarations

* `nextToken_slashIsRegex` : what a slash means makes no difference to a word;
* `ParserState.AtDeclaration` : a declaration stands where the parser is, by the next two tokens,
  and `answers_declarationAhead` : the parser can tell;
* `parses_declaration` : the statement that is read there is a declaration, and no expression.
-/

namespace ModuleBundler

open Phrase

variable {g : Grammar} {s : ParserState}

/-! ## Words -/

/-- No operator is a word. -/
theorem isIdentifierName_of_operator {entry : String × TokenType} (h : entry ∈ operators) :
    entry.2.isIdentifierName = false := by
  revert entry
  decide

/-- What a slash means makes no difference to a word. -/
theorem scanToken_of_isIdentifierName {c : Cursor}
    (h : (scanToken false c).type.isIdentifierName = true) :
    scanToken true c = scanToken false c := by
  obtain ⟨offset, rest⟩ := c
  cases rest with
  | nil => rfl
  | cons first rest =>
    by_cases hslash : first = '/'
    · subst hslash
      -- Without regular expressions a slash begins an operator.
      have hoperator : scanToken false ⟨offset, '/' :: rest⟩ =
          scanOperator ⟨offset, '/' :: rest⟩ := rfl
      rw [hoperator] at h
      rcases scanOperator_type ⟨offset, '/' :: rest⟩ with ⟨entry, hentry, htype⟩ | htype
      · rw [htype, isIdentifierName_of_operator hentry] at h
        cases h
      · rw [htype] at h
        cases h
    · simp only [scanToken, hslash, decide_false, Bool.false_and]

theorem nextToken_slashIsRegex {c : Cursor}
    (h : (nextToken .standard c).1.type.isIdentifierName = true) :
    nextToken .slashIsRegex c = nextToken .standard c := by
  have heq : scanToken true c.tokenStart = scanToken false c.tokenStart :=
    scanToken_of_isIdentifierName h
  unfold Cursor.tokenStart at heq
  unfold nextToken
  dsimp only
  rw [heq]

theorem ParserState.next_word {type : TokenType} (h : (s.next .standard).token.type = type)
    (hword : type.isIdentifierName = true) : (s.next .slashIsRegex).token.type = type := by
  subst h
  exact congrArg (fun read => read.1.type) (nextToken_slashIsRegex hword)

/-! ## Declarations -/

/-- Whether tokens begin a declaration. -/
def beginDeclaration (first second : Token) : Bool :=
  match first.type with
  | .keywordVar | .keywordLet | .keywordConst | .keywordFunction | .keywordClass => true
  | .keywordAsync => second.type = .keywordFunction && !second.afterLineBreak
  | _ => false

theorem declarationAhead_eq :
    declarationAhead = peek2 >>= fun pair => pure (beginDeclaration pair.1 pair.2) := by
  unfold declarationAhead
  congr
  funext ⟨a, b⟩
  unfold beginDeclaration
  dsimp only
  generalize a.type = type
  cases type <;> rfl

/-- A declaration stands where the parser is. -/
def ParserState.AtDeclaration (s : ParserState) : Prop :=
  beginDeclaration (s.next .standard).token s.afterNext = true

theorem Unread.atDeclaration {s' : ParserState} (h : Unread s s') (hs : s.AtDeclaration) :
    s'.AtDeclaration := by
  unfold ParserState.AtDeclaration ParserState.afterNext
  rw [h.next]
  exact hs

/-- The parser can tell whether a declaration stands where it is. -/
theorem answers_declarationAhead (hs : s.Steady) :
    Answers s declarationAhead fun ahead s' => Unread s s' ∧ (ahead = true ↔ s.AtDeclaration) := by
  rw [declarationAhead_eq]
  refine Answers.bind hs.unread_peek2 fun pair s₁ ⟨hunread, hpair⟩ => answers_pure ⟨hunread, ?_⟩
  rw [hpair]
  exact Iff.rfl

/-- The statement that is read where a declaration stands is one. -/
theorem parses_declaration (hg : g.Conforms) (ctx : Context) (hs : s.Steady)
    (hahead : s.AtDeclaration) :
    Parses s ctx.setting (statementLevel g ctx) fun _ => declarationText := by
  refine Answers.bind (hs.unread_peekIn (by decide)) fun t s₁ ⟨hunread, ht⟩ => ?_
  have hs₁ := hunread.steady
  have htype : ∀ {type : TokenType}, (s.next .standard).token.type = type →
      type.isIdentifierName = true → t.type = type := fun h hword => by
    rw [ht]
    exact ParserState.next_word h hword
  have hvariable : ∀ {keyword : TokenType} {kind : DeclarationKind},
      (s.next .standard).token.type = keyword →
        declarators keyword kind ∈ [declarators .keywordVar .var, declarators .keywordLet .let,
          declarators .keywordConst .const] →
            Answers s₁ (variableStatement g ctx kind) fun _ s' =>
              Parsed declarationText ctx.setting s s' := by
    intro keyword kind h hkind
    rw [← hunread.next] at h
    have hparses := parses_variableStatement hg ctx kind hs₁ h hkind
    exact (hparses.oneOf (by simp)).after hunread
  have hfunction : ∀ s₂ : ParserState, Unread s s₂ →
      Answers s₂ (functionStatement g ctx) fun _ s' => Parsed declarationText ctx.setting s s' :=
    fun s₂ h => ((parses_functionStatement hg ctx h.steady).oneOf (by simp)).after h
  have hbegins := hahead
  unfold ParserState.AtDeclaration beginDeclaration at hbegins
  split at hbegins
  · rename_i h
    rw [htype h rfl]
    exact hvariable h (by simp)
  · rename_i h
    rw [htype h rfl]
    exact hvariable h (by simp)
  · rename_i h
    rw [htype h rfl]
    exact hvariable h (by simp)
  · rename_i h
    rw [htype h rfl]
    exact hfunction s₁ hunread
  · rename_i h
    rw [htype h rfl]
    refine Answers.bind (answers_classParsed hg ctx .declaration hs₁) fun definition s₂ h => ?_
    have hparsed := h.parsed
    rw [h.1 rfl] at hparsed
    exact answers_pure ((hparsed.oneOf (by simp)).after hunread)
  · rename_i h
    rw [htype h rfl]
    -- The parser looks ahead once more, and sees the same.
    refine Answers.bind (answers_declarationAhead hs₁) fun ahead s₂ ⟨hunread', hagain⟩ => ?_
    rw [hagain.mpr (hunread.atDeclaration hahead)]
    exact hfunction s₂ (hunread.trans hunread')
  · cases hbegins

end ModuleBundler
