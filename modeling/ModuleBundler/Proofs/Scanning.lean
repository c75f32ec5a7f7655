import ModuleBundler.Proofs.Place
import ModuleBundler.Token.Lexer

/-!
# Scanning goes forward

* `leads_skipTrivia`, `leads_scanToken` : trivia and tokens end at or after where they begin;
* `Cursor.tokenStart` : where the next token begins, unless the text of a template goes on;
* `nextToken_span` : where the next token begins and ends;
* `scanToken_kinds` : a token is the end of the text, a word, a punctuator or a literal;
* `nextToken_eof` : the end of a text is a token only where nothing follows;
* `scanString_skipWhile`, `scanTemplate_skipWhile` : where the reading of quoted text looks closer.
-/

namespace ModuleBundler

open Cursor (Leads)

/-! ## Characters of one byte -/

theorem utf8Size_eq_one {c : Char} (h : c.toNat < 0x80) : c.utf8Size = 1 := by
  rw [Char.utf8Size, if_pos]
  rw [UInt32.le_iff_toNat_le]
  exact Nat.le_of_lt_succ h

theorem utf8Size_of_isHexDigit {c : Char} (h : isHexDigit c = true) : c.utf8Size = 1 := by
  refine utf8Size_eq_one (Nat.lt_of_not_le fun hlarge => ?_)
  have hle : ∀ d : Char, d.toNat < 0x80 → ¬ c ≤ d := by
    intro d hd hcd
    have : c.toNat ≤ d.toNat := hcd
    omega
  have h9 := hle '9' (by decide)
  have hz := hle 'z' (by decide)
  have hZ := hle 'Z' (by decide)
  simp [isHexDigit, digitValue?, h9, hz, hZ] at h

/-! ## Trivia -/

theorem leads_skipTrivia (state : Trivia) (lineBreak : Bool) (offset : Nat) (cs : List Char) :
    Leads ⟨offset, cs⟩ (skipTrivia state lineBreak offset cs).2 := by
  fun_induction skipTrivia state lineBreak offset cs with
  | case1 lineBreak offset rest ih => exact .trans ⟨['/', '*'], rfl, rfl⟩ ih
  | case2 lineBreak offset rest ih => exact .trans ⟨['/', '/'], rfl, rfl⟩ ih
  | case3 lineBreak offset rest ih => exact .trans ⟨['*', '/'], rfl, rfl⟩ ih
  | case4 => exact .refl _
  | case5 state lineBreak offset c rest _ _ _ _ ih => exact (Leads.cons offset c rest).trans ih
  | case6 lineBreak offset c rest _ _ _ _ _ ih => exact (Leads.cons offset c rest).trans ih
  | case7 => exact .refl _
  | case8 lineBreak offset c rest _ _ _ _ ih => exact (Leads.cons offset c rest).trans ih
  | case9 lineBreak offset c rest _ _ _ _ ih => exact (Leads.cons offset c rest).trans ih

/-- Where the next token begins, unless the text of a template goes on. -/
def Cursor.tokenStart (c : Cursor) : Cursor := c.skipTrivia.2

theorem leads_tokenStart (c : Cursor) : c.Leads c.tokenStart := by
  obtain ⟨offset, rest⟩ := c
  unfold Cursor.tokenStart Cursor.skipTrivia
  dsimp only
  split
  · exact leads_skipTrivia ..
  · exact leads_skipTrivia ..

/-! ## Names -/

/-- The place up to which something was read, well or badly. -/
def placeRead : Except Cursor Cursor → Cursor
  | .ok stop | .error stop => stop

theorem leads_scanName (state : NameState) (offset : Nat) (cs : List Char) :
    Leads ⟨offset, cs⟩ (placeRead (scanName state offset cs)) := by
  fun_induction scanName state offset cs with
  | case1 => exact .refl _
  | case2 offset rest ih => exact (Leads.cons offset '\\' rest).trans ih
  | case3 offset c rest _ _ ih => exact (Leads.cons offset c rest).trans ih
  | case4 => exact .refl _
  | case5 offset rest ih => exact (Leads.cons offset 'u' rest).trans ih
  | case6 offset c rest => exact .cons offset c rest
  | case7 offset rest ih => exact (Leads.cons offset '{' rest).trans ih
  | case8 offset c rest _ hc ih =>
    have hcons := Leads.cons offset c rest
    rw [utf8Size_of_isHexDigit hc] at hcons
    exact hcons.trans ih
  | case9 offset c rest => exact .cons offset c rest
  | case10 left offset c rest hc ih =>
    have hcons := Leads.cons offset c rest
    rw [utf8Size_of_isHexDigit hc] at hcons
    exact hcons.trans ih
  | case11 left offset c rest => exact .cons offset c rest
  | case12 any offset c rest hc ih =>
    have hcons := Leads.cons offset c rest
    rw [utf8Size_of_isHexDigit hc] at hcons
    exact hcons.trans ih
  | case13 => exact .refl _
  | case14 any offset rest _ _ ih => exact (Leads.cons offset '}' rest).trans ih
  | case15 any offset c rest => exact .cons offset c rest
  | case16 => exact .refl _

theorem leads_scanString (quote : Char) (offset : Nat) (cs : List Char) :
    Leads ⟨offset, cs⟩ (scanString quote offset cs).stop := by
  fun_induction scanString quote offset cs with
  | case1 => exact .refl _
  | case2 offset => exact ⟨['\\'], rfl, rfl⟩
  | case3 offset rest ih => exact .trans ⟨['\\', '\r', '\n'], rfl, rfl⟩ ih
  | case4 offset c rest _ ih =>
    exact (Leads.cons offset '\\' (c :: rest)).trans ((Leads.cons _ c rest).trans ih)
  | case5 offset rest => exact .cons offset '\n' rest
  | case6 offset rest => exact .cons offset quote rest
  | case7 offset c rest _ _ _ _ _ ih => exact (Leads.cons offset c rest).trans ih

theorem leads_scanTemplate (offset : Nat) (cs : List Char) :
    Leads ⟨offset, cs⟩ (scanTemplate offset cs).stop := by
  fun_induction scanTemplate offset cs with
  | case1 => exact .refl _
  | case2 offset => exact ⟨['\\'], rfl, rfl⟩
  | case3 offset c rest ih =>
    exact (Leads.cons offset '\\' (c :: rest)).trans ((Leads.cons _ c rest).trans ih)
  | case4 offset rest => exact ⟨['$', '{'], rfl, rfl⟩
  | case5 offset rest => exact .cons offset '\x60' rest
  | case6 offset c rest _ _ _ _ ih => exact (Leads.cons offset c rest).trans ih

theorem leads_scanRegex (inSet : Bool) (offset : Nat) (cs : List Char) :
    Leads ⟨offset, cs⟩ (scanRegex inSet offset cs).stop := by
  fun_induction scanRegex inSet offset cs with
  | case1 => exact .refl _
  | case2 offset => exact ⟨['\\'], rfl, rfl⟩
  | case3 inSet offset c rest =>
    exact (Leads.cons offset '\\' (c :: rest)).trans (Leads.cons _ c rest)
  | case4 inSet offset c rest _ ih =>
    exact (Leads.cons offset '\\' (c :: rest)).trans ((Leads.cons _ c rest).trans ih)
  | case5 inSet offset c rest _ _ h =>
    rw [Bool.and_eq_true, decide_eq_true_eq] at h
    rw [h.1]
    exact (Leads.cons offset '/' rest).trans (Cursor.leads_skipWhile _ _)
  | case6 inSet offset c rest => exact .cons offset c rest
  | case7 inSet offset c rest _ _ _ _ ih => exact (Leads.cons offset c rest).trans ih

/-! ## Words, numbers and punctuators -/

theorem Cursor.leads_scanName (c : Cursor) : c.Leads (placeRead c.scanName) := by
  unfold Cursor.scanName
  dsimp only
  split
  · exact ModuleBundler.leads_scanName ..
  · exact c.leads_skip.trans (ModuleBundler.leads_scanName ..)

theorem leads_scanWord (c : Cursor) : c.Leads (scanWord c).stop := by
  have h := c.leads_scanName
  unfold scanWord
  cases hname : c.scanName with
  | ok stop => rwa [hname] at h
  | error stop => rwa [hname] at h

theorem leads_scanPrivateName (c : Cursor) : c.Leads (scanPrivateName c).stop := by
  have h := c.skip.leads_scanName
  unfold scanPrivateName
  dsimp only
  split
  · exact c.leads_skip
  · split
    · cases hname : c.skip.scanName with
      | ok stop =>
        rw [hname] at h
        exact c.leads_skip.trans h
      | error stop =>
        rw [hname] at h
        exact c.leads_skip.trans h
    · exact c.leads_skip

theorem leads_scanExponent (c : Cursor) : c.Leads (placeRead (scanExponent c)) := by
  have hdigits : ∀ digits : Cursor, c.Leads digits →
      c.Leads (placeRead (if (digits.skipWhile (isDigit 10)).offset = digits.offset then
        .error (digits.skipWhile (isDigit 10)) else .ok (digits.skipWhile (isDigit 10)))) := by
    intro digits h
    split
    · exact h.trans (Cursor.leads_skipWhile _ _)
    · exact h.trans (Cursor.leads_skipWhile _ _)
  have hsign : ∀ sign : Char,
      c.Leads (if sign = '+' || sign = '-' then c.skip.skip else c.skip) := by
    intro sign
    split
    · exact c.leads_skip.trans (Cursor.leads_skip _)
    · exact c.leads_skip
  unfold scanExponent
  split
  · split
    · exact c.leads_skip
    · exact hdigits _ (hsign _)
  · split
    · exact c.leads_skip
    · exact hdigits _ (hsign _)
  · exact .refl _

theorem leads_finishNumber (fraction : Cursor) : fraction.Leads (finishNumber fraction).stop := by
  have hexponent := leads_scanExponent fraction
  unfold finishNumber
  cases hstop : scanExponent fraction with
  | error stop => rwa [hstop] at hexponent
  | ok stop =>
    rw [hstop] at hexponent
    dsimp only
    split
    · exact hexponent
    · exact hexponent

theorem leads_scanNumber (c : Cursor) : c.Leads (scanNumber c).stop := by
  have hwhole := c.leads_skipWhile (isDigit 10)
  unfold scanNumber
  dsimp only
  split
  · exact hwhole.trans (Cursor.leads_skip _)
  · refine Cursor.Leads.trans ?_ (leads_finishNumber _)
    split
    · exact (hwhole.trans (Cursor.leads_skip _)).trans (Cursor.leads_skipWhile _ _)
    · exact hwhole

theorem leads_scanRadixNumber (radix : Nat) (c : Cursor) :
    c.Leads (scanRadixNumber radix c).stop := by
  have hstop : c.Leads (c.skip.skip.skipWhile (isDigit radix)) :=
    (c.leads_skip.trans (Cursor.leads_skip _)).trans (Cursor.leads_skipWhile _ _)
  unfold scanRadixNumber
  dsimp only
  split
  · exact hstop
  · split
    · exact hstop.trans (Cursor.leads_skip _)
    · exact hstop

theorem leads_scanOperator (c : Cursor) : c.Leads (scanOperator c).stop := by
  unfold scanOperator
  split
  · exact Cursor.leads_advanceTo ..
  · exact .refl _

/-! ## Tokens -/

theorem leads_scanToken (slashIsRegex : Bool) (c : Cursor) :
    c.Leads (scanToken slashIsRegex c).stop := by
  obtain ⟨offset, rest⟩ := c
  have hfirst : ∀ (first : Char) (rest : List Char) (stop : Cursor), first.toNat < 0x80 →
      Leads ⟨offset + 1, rest⟩ stop → Leads ⟨offset, first :: rest⟩ stop := by
    intro first rest stop hsize h
    have hcons := Leads.cons offset first rest
    rw [utf8Size_eq_one hsize] at hcons
    exact hcons.trans h
  unfold scanToken
  cases rest with
  | nil => exact .refl _
  | cons first rest =>
    dsimp only
    split
    · exact leads_scanWord _
    split
    · split <;> first | exact leads_scanRadixNumber .. | exact leads_scanNumber _
    split
    · rename_i hquote
      rw [Bool.or_eq_true, decide_eq_true_eq, decide_eq_true_eq] at hquote
      refine hfirst _ _ _ ?_ (leads_scanString ..)
      rcases hquote with rfl | rfl
      · decide
      · decide
    split
    · rename_i hquote
      exact hfirst _ _ _ (by rw [hquote]; decide) (leads_scanTemplate ..)
    split
    · exact leads_scanPrivateName _
    split
    · rename_i hslash
      rw [Bool.and_eq_true, decide_eq_true_eq] at hslash
      exact hfirst _ _ _ (by rw [hslash.1]; decide) (leads_scanRegex ..)
    · split
      · split
        · exact leads_scanNumber _
        · exact leads_scanOperator _
      · split
        · exact Cursor.leads_skip _
        · exact leads_scanOperator _
      · exact leads_scanOperator _

/-- Where the next token in a mode begins. -/
def Cursor.tokenStartIn (mode : LexMode) (c : Cursor) : Cursor :=
  if mode = .templateContinue then c else c.tokenStart

theorem leads_tokenStartIn (mode : LexMode) (c : Cursor) : c.Leads (c.tokenStartIn mode) := by
  unfold Cursor.tokenStartIn
  split
  · exact .refl _
  · exact leads_tokenStart c

/-- The next token begins where trivia end, and what follows it begins where it ends. -/
theorem nextToken_span (mode : LexMode) (c : Cursor) :
    (c.tokenStartIn mode).Leads (nextToken mode c).2 ∧
      (nextToken mode c).1.span = ⟨(c.tokenStartIn mode).offset, (nextToken mode c).2.offset⟩ := by
  cases mode with
  | templateContinue => exact ⟨leads_scanTemplate .., rfl⟩
  | slashIsRegex => exact ⟨leads_scanToken .., rfl⟩
  | standard => exact ⟨leads_scanToken .., rfl⟩

theorem leads_nextToken (mode : LexMode) (c : Cursor) : c.Leads (nextToken mode c).2 :=
  (leads_tokenStartIn mode c).trans (nextToken_span mode c).1

/-! ## Kinds of tokens -/

/-- Whether a type is one of the tokens that are neither words nor punctuators. A question mark
before a number that begins with a dot is read on its own. -/
def TokenType.isLiteral : TokenType → Bool
  | literalString | literalTemplatePartString | literalTemplatePartStringEnd | literalRegex
  | literalNumber | literalBigInt | privateMember | question | invalid => true
  | _ => false

theorem scanString_isLiteral (quote : Char) (offset : Nat) (cs : List Char) :
    (scanString quote offset cs).type.isLiteral = true := by
  fun_induction scanString quote offset cs with
  | case1 | case2 | case5 | case6 => rfl
  | case3 _ _ ih | case4 _ _ _ _ ih | case7 _ _ _ _ _ _ _ _ ih => exact ih

theorem scanRegex_type (inSet : Bool) (offset : Nat) (cs : List Char) :
    (scanRegex inSet offset cs).type = .literalRegex ∨
      (scanRegex inSet offset cs).type = .invalid := by
  fun_induction scanRegex inSet offset cs <;> simp_all

theorem scanTemplate_isLiteral (offset : Nat) (cs : List Char) :
    (scanTemplate offset cs).type.isLiteral = true := by
  fun_induction scanTemplate offset cs with
  | case1 | case2 | case4 | case5 => rfl
  | case3 _ _ _ ih | case6 _ _ _ _ _ _ _ ih => exact ih

theorem scanPrivateName_isLiteral (c : Cursor) : (scanPrivateName c).type.isLiteral = true := by
  unfold scanPrivateName
  dsimp only
  split
  · rfl
  · split
    · cases c.skip.scanName with
      | ok stop => rfl
      | error stop => rfl
    · rfl

theorem finishNumber_isLiteral (c : Cursor) : (finishNumber c).type.isLiteral = true := by
  unfold finishNumber
  cases scanExponent c with
  | error stop => rfl
  | ok stop =>
    dsimp only
    split
    · dsimp only
      split
      · rfl
      · rfl
    · rfl

theorem scanNumber_isLiteral (c : Cursor) : (scanNumber c).type.isLiteral = true := by
  unfold scanNumber
  dsimp only
  split
  · rfl
  · exact finishNumber_isLiteral _

theorem scanRadixNumber_isLiteral (radix : Nat) (c : Cursor) :
    (scanRadixNumber radix c).type.isLiteral = true := by
  unfold scanRadixNumber
  dsimp only
  split
  · rfl
  · split
    · rfl
    · rfl

/-- All that is written like a name has a type of names. -/
theorem isIdentifierName_wordType (text : String) : (wordType text).isIdentifierName = true := by
  have hkeywords : ∀ entry ∈ keywords, entry.2.isIdentifierName = true := by decide
  unfold wordType
  cases h : keywords.lookup text with
  | none => rfl
  | some type =>
    obtain ⟨before, after, heq, -⟩ := List.lookup_eq_some_iff.mp h
    exact hkeywords (text, type) (by simp [heq])

theorem scanWord_type (c : Cursor) :
    (scanWord c).type.isIdentifierName = true ∨ (scanWord c).type = .invalid := by
  unfold scanWord
  cases c.scanName with
  | ok stop => exact .inl (isIdentifierName_wordType _)
  | error stop => exact .inr rfl

theorem scanOperator_type (c : Cursor) :
    (∃ entry ∈ operators, (scanOperator c).type = entry.2) ∨ (scanOperator c).type = .invalid := by
  unfold scanOperator
  split
  · rename_i text type heq
    obtain ⟨entry, hentry, heq⟩ := List.mem_map.mp (List.mem_of_find?_eq_some heq)
    cases heq
    exact .inl ⟨entry, hentry, rfl⟩
  · exact .inr rfl

/-- A token is the end of the text, a word, a punctuator or a literal. -/
theorem scanToken_kinds (slashIsRegex : Bool) (c : Cursor) :
    c.rest = [] ∨
      (∃ first, c.rest.head? = some first ∧ (first = '\\' ∨ isIdentifierStart first = true) ∧
        scanToken slashIsRegex c = scanWord c) ∨
      scanToken slashIsRegex c = scanOperator c ∨
      (scanToken slashIsRegex c).type.isLiteral = true := by
  obtain ⟨offset, rest⟩ := c
  cases rest with
  | nil => exact .inl rfl
  | cons first rest =>
    refine .inr ?_
    unfold scanToken
    dsimp only
    split
    · rename_i hfirst
      refine .inl ⟨first, rfl, ?_, rfl⟩
      simpa using hfirst
    refine .inr ?_
    split
    · split <;> first
        | exact .inr (scanRadixNumber_isLiteral ..)
        | exact .inr (scanNumber_isLiteral _)
    split
    · exact .inr (scanString_isLiteral ..)
    split
    · exact .inr (scanTemplate_isLiteral ..)
    split
    · exact .inr (scanPrivateName_isLiteral _)
    split
    · refine .inr ?_
      rcases scanRegex_type false (offset + 1) rest with h | h
      · rw [h]
        rfl
      · rw [h]
        rfl
    · split
      · split
        · exact .inr (scanNumber_isLiteral _)
        · exact .inl rfl
      · split
        · exact .inr rfl
        · exact .inl rfl
      · exact .inl rfl

/-! ## The end of a text -/

/-- The end of a text is a token only where nothing follows. -/
theorem scanToken_eof {slashIsRegex : Bool} {c : Cursor}
    (h : (scanToken slashIsRegex c).type = .eof) : c.rest = [] := by
  have hoperators : ∀ entry ∈ operators, TokenType.eof ≠ entry.2 := by decide
  rcases scanToken_kinds slashIsRegex c with hnil | ⟨-, -, -, hword⟩ | hoperator | hliteral
  · exact hnil
  · rw [hword] at h
    have htype := scanWord_type c
    rw [h] at htype
    exact absurd htype (by decide)
  · rw [hoperator] at h
    have htype := scanOperator_type c
    rw [h] at htype
    rcases htype with ⟨entry, hentry, heq⟩ | heq
    · exact absurd heq (hoperators entry hentry)
    · cases heq
  · rw [h] at hliteral
    cases hliteral

/-- In any mode the end of a text is a token only where nothing follows. -/
theorem nextToken_eof {mode : LexMode} {c : Cursor} (h : (nextToken mode c).1.type = .eof) :
    (c.tokenStartIn mode).rest = [] := by
  cases mode with
  | templateContinue =>
    have htype : (nextToken .templateContinue c).1.type.isLiteral = true :=
      scanTemplate_isLiteral _ _
    rw [h] at htype
    cases htype
  | slashIsRegex => exact scanToken_eof h
  | standard => exact scanToken_eof h

/-! ## Where the reading of quoted text looks closer -/

/-- Past the last of the characters that have a property there is none with it. -/
theorem Cursor.head_skipWhile (p : Char → Bool) (c : Cursor) {ch : Char}
    (h : (c.skipWhile p).rest.head? = some ch) : p ch = false := by
  obtain ⟨offset, rest⟩ := c
  change (skipWhile.go p offset rest).rest.head? = some ch at h
  induction rest generalizing offset with
  | nil => cases h
  | cons first rest ih =>
    rw [skipWhile.go] at h
    split at h
    · exact ih _ h
    · rename_i hfirst
      cases h
      simpa using hfirst

/-- A character of a string that is just passed over. -/
def plainInString (quote c : Char) : Bool := c ≠ '\\' && c ≠ '\n' && c ≠ quote

/-- A character of a template that is just passed over. -/
def plainInTemplate (c : Char) : Bool := c ≠ '\\' && c ≠ '\x60' && c ≠ '$'

/-- A string goes on up to a backslash, a line feed or its quote, and there looks closer. -/
theorem scanString_skipWhile (quote : Char) (c : Cursor) :
    scanString quote c.offset c.rest = scanString quote (c.skipWhile (plainInString quote)).offset
      (c.skipWhile (plainInString quote)).rest := by
  obtain ⟨offset, rest⟩ := c
  change _ = scanString quote (Cursor.skipWhile.go (plainInString quote) offset rest).offset
    (Cursor.skipWhile.go (plainInString quote) offset rest).rest
  induction rest generalizing offset with
  | nil => rfl
  | cons first rest ih =>
    rw [Cursor.skipWhile.go]
    split
    · rename_i hplain
      simp only [plainInString, Bool.and_eq_true, decide_eq_true_eq] at hplain
      rw [← ih, scanString, if_neg hplain.1.2, if_neg hplain.2]
      all_goals simp [hplain.1.1]
    · rfl

/-- A template goes on up to a backslash, a backquote or a dollar sign, and there looks closer. -/
theorem scanTemplate_skipWhile (c : Cursor) :
    scanTemplate c.offset c.rest = scanTemplate (c.skipWhile plainInTemplate).offset
      (c.skipWhile plainInTemplate).rest := by
  obtain ⟨offset, rest⟩ := c
  change _ = scanTemplate (Cursor.skipWhile.go plainInTemplate offset rest).offset
    (Cursor.skipWhile.go plainInTemplate offset rest).rest
  induction rest generalizing offset with
  | nil => rfl
  | cons first rest ih =>
    rw [Cursor.skipWhile.go]
    split
    · rename_i hplain
      simp only [plainInTemplate, Bool.and_eq_true, decide_eq_true_eq] at hplain
      rw [← ih, scanTemplate, if_neg hplain.1.2]
      all_goals simp [hplain.1.1, hplain.2]
    · rfl

end ModuleBundler
