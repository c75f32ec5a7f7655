import ModuleBundler.Proofs.Scanning

/-!
# The text of a token

* `scanToken_lt` : a token has a text, unless the text of the module is over or it is none at all;
* `nextToken_lt` : so tokens that have a meaning are not empty;
* `nextToken_of_rest_eq_nil` : after the end of a text there is only its end;
* `nextToken_standard` : what a slash means makes no difference to other tokens.
-/

namespace ModuleBundler

open Cursor (Leads)

theorem Cursor.lt_skip {c : Cursor} (h : c.rest ≠ []) : c.offset < c.skip.offset := by
  obtain ⟨offset, rest⟩ := c
  cases rest with
  | nil => exact absurd rfl h
  | cons ch rest => exact Nat.lt_add_of_pos_right ch.utf8Size_pos

theorem Cursor.Leads.lt_of_skip {c stop : Cursor} (h : c.skip.Leads stop) (hrest : c.rest ≠ []) :
    c.offset < stop.offset := Nat.lt_of_lt_of_le (Cursor.lt_skip hrest) h.offset_le

/-- A character that has the property is passed. -/
theorem Cursor.lt_skipWhile {p : Char → Bool} {c : Cursor} {ch : Char}
    (hhead : c.rest.head? = some ch) (hp : p ch = true) : c.offset < (c.skipWhile p).offset := by
  obtain ⟨offset, rest⟩ := c
  cases rest with
  | nil => cases hhead
  | cons first rest =>
    cases hhead
    have hskip : Cursor.skipWhile p ⟨offset, ch :: rest⟩ =
        Cursor.skipWhile p ⟨offset + ch.utf8Size, rest⟩ := if_pos hp
    rw [hskip]
    have hle := (Cursor.leads_skipWhile p ⟨offset + ch.utf8Size, rest⟩).offset_le
    exact Nat.lt_of_lt_of_le (Nat.lt_add_of_pos_right ch.utf8Size_pos) hle

theorem lt_scanName {c stop : Cursor} (hrest : c.rest ≠ []) (h : c.scanName = .ok stop) :
    c.offset < stop.offset := by
  unfold Cursor.scanName at h
  obtain ⟨offset, rest⟩ := c
  cases rest with
  | nil => exact absurd rfl hrest
  | cons first rest =>
    by_cases hfirst : first = '\\'
    · subst hfirst
      have hstep :
          scanName .between offset ('\\' :: rest) = scanName .backslash (offset + 1) rest := rfl
      change scanName .between offset ('\\' :: rest) = _ at h
      rw [hstep] at h
      have hle := (leads_scanName .backslash (offset + 1) rest).offset_le
      rw [h] at hle
      exact hle
    · have hhead : ¬ (first :: rest).head? = some '\\' := by simpa using hfirst
      dsimp only at h
      rw [if_neg hhead] at h
      have hle := leads_scanName .between (offset + first.utf8Size) rest
      change scanName .between (offset + first.utf8Size) rest = _ at h
      rw [h] at hle
      exact Cursor.Leads.lt_of_skip (c := ⟨offset, first :: rest⟩) hle hrest

/-- The lexeme is none at all, or has a text from the place on. -/
def HasText (c : Cursor) (lexeme : Lexeme) : Prop :=
  lexeme.type = .invalid ∨ c.offset < lexeme.stop.offset

theorem hasText_scanWord {c : Cursor} (hrest : c.rest ≠ []) : HasText c (scanWord c) := by
  unfold scanWord
  cases h : c.scanName with
  | ok stop => exact .inr (lt_scanName hrest h)
  | error stop => exact .inl rfl

theorem hasText_scanPrivateName {c : Cursor} (hrest : c.rest ≠ []) :
    HasText c (scanPrivateName c) := by
  unfold scanPrivateName
  dsimp only
  split
  · exact .inl rfl
  · split
    · cases h : c.skip.scanName with
      | ok stop =>
        have hle := c.skip.leads_scanName
        rw [h] at hle
        exact .inr (hle.lt_of_skip hrest)
      | error stop => exact .inl rfl
    · exact .inl rfl

theorem hasText_scanRadixNumber (radix : Nat) (c : Cursor) :
    HasText c (scanRadixNumber radix c) := by
  have hdigits := (c.leads_skip.trans c.skip.leads_skip).offset_le
  have hstop := (Cursor.leads_skipWhile (isDigit radix) c.skip.skip).offset_le
  unfold scanRadixNumber
  dsimp only
  split
  · exact .inl rfl
  · rename_i hne
    have hlt : c.offset < (c.skip.skip.skipWhile (isDigit radix)).offset := by omega
    split
    · exact .inr (Nat.lt_of_lt_of_le hlt (Cursor.leads_skip _).offset_le)
    · exact .inr hlt

/-- A number begins with a digit, or with a dot. -/
theorem hasText_scanNumber {c : Cursor} {first : Char} (hfirst : c.rest.head? = some first)
    (hdigit : isDigit 10 first = true ∨ first = '.') : HasText c (scanNumber c) := by
  have hwhole := c.leads_skipWhile (isDigit 10)
  have hskip : ∀ {ch}, (c.skipWhile (isDigit 10)).rest.head? = some ch →
      c.offset < (c.skipWhile (isDigit 10)).skip.offset := by
    intro ch hhead
    refine Nat.lt_of_le_of_lt hwhole.offset_le (Cursor.lt_skip fun hnil => ?_)
    rw [hnil] at hhead
    cases hhead
  unfold scanNumber
  dsimp only
  split
  · rename_i hhead
    exact .inr (hskip hhead)
  · refine .inr (Nat.lt_of_lt_of_le ?_ (leads_finishNumber _).offset_le)
    split
    · rename_i hdot
      have hhead := of_decide_eq_true (Bool.and_eq_true_iff.mp hdot).1
      exact Nat.lt_of_lt_of_le (hskip hhead) (Cursor.leads_skipWhile _ _).offset_le
    · rename_i hdot
      rcases hdigit with hdigit | rfl
      · exact Cursor.lt_skipWhile hfirst hdigit
      · -- The dot is the first character, so that no digits come before it.
        refine absurd ?_ hdot
        obtain ⟨offset, rest⟩ := c
        cases rest with
        | nil => cases hfirst
        | cons first rest =>
          cases hfirst
          simp [Cursor.skipWhile, Cursor.skipWhile.go, Cursor.upTo, Cursor.upTo.go, isDigit,
            digitValue?]

theorem hasText_scanOperator (c : Cursor) : HasText c (scanOperator c) := by
  have hlonger : ∀ entry ∈ operatorTable, entry.1 ≠ [] := by decide
  unfold scanOperator
  cases h : operatorTable.find? fun entry => entry.1.isPrefixOf c.rest with
  | none => exact .inl rfl
  | some entry =>
    obtain ⟨offset, rest⟩ := c
    obtain ⟨text, type⟩ := entry
    have hne := hlonger _ (List.mem_of_find?_eq_some h)
    have hpre := List.isPrefixOf_iff_prefix.mp
      (List.find?_some (p := fun entry : List Char × TokenType => entry.1.isPrefixOf rest) h)
    obtain ⟨first, text, rfl⟩ := List.exists_cons_of_ne_nil hne
    obtain ⟨after, rfl⟩ := hpre
    refine .inr ?_
    -- The place to go on to lies beyond the first character.
    change offset < (Cursor.advanceTo.go (offset + (text.length + 1)) offset
      (first :: (text ++ after))).offset
    rw [Cursor.advanceTo.go, if_neg (by omega)]
    have hle := (Cursor.leads_advanceTo (offset + (text.length + 1))
      ⟨offset + first.utf8Size, text ++ after⟩).offset_le
    exact Nat.lt_of_lt_of_le (Nat.lt_add_of_pos_right first.utf8Size_pos) hle

theorem isDigit_of_isDigit {c : Char} (h : c.isDigit = true) : isDigit 10 c = true := by
  unfold Char.isDigit at h
  obtain ⟨hzero, hnine⟩ := Bool.and_eq_true_iff.mp h
  have hle : '0' ≤ c ∧ c ≤ '9' := ⟨of_decide_eq_true hzero, of_decide_eq_true hnine⟩
  have hlt : c.toNat - '0'.toNat < 10 := by
    have hupto : c.toNat ≤ '9'.toNat := hle.2
    have h9 : '9'.toNat = 57 := rfl
    have h0 : '0'.toNat = 48 := rfl
    omega
  unfold isDigit digitValue?
  dsimp only
  rw [if_pos hle, if_pos hlt]
  exact Bool.or_true _

/-- A token has a text, unless the text of the module is over or it is none at all. -/
theorem hasText_scanToken (slashIsRegex : Bool) {c : Cursor} (hrest : c.rest ≠ []) :
    HasText c (scanToken slashIsRegex c) := by
  obtain ⟨offset, rest⟩ := c
  unfold scanToken
  cases rest with
  | nil => exact absurd rfl hrest
  | cons first rest =>
    dsimp only
    split
    · exact hasText_scanWord hrest
    split
    · rename_i hdigit
      have hnumber := hasText_scanNumber (c := ⟨offset, first :: rest⟩) rfl
        (.inl (isDigit_of_isDigit hdigit))
      split <;> first | exact hasText_scanRadixNumber .. | exact hnumber
    split
    · exact .inr (leads_scanString ..).offset_le
    split
    · exact .inr (leads_scanTemplate ..).offset_le
    split
    · exact hasText_scanPrivateName hrest
    split
    · exact .inr (leads_scanRegex ..).offset_le
    · split
      · split
        · exact hasText_scanNumber (c := ⟨offset, '.' :: _⟩) rfl (.inr rfl)
        · exact hasText_scanOperator _
      · split
        · exact .inr (Cursor.lt_skip hrest)
        · exact hasText_scanOperator _
      · exact hasText_scanOperator _

theorem hasText_scanTemplate (offset : Nat) (cs : List Char) :
    HasText ⟨offset, cs⟩ (scanTemplate offset cs) := by
  fun_cases scanTemplate offset cs with
  | case1 => exact .inl rfl
  | case2 => exact .inl rfl
  | case3 offset c rest =>
    have hle := (leads_scanTemplate (offset + 1 + c.utf8Size) rest).offset_le
    refine .inr (Nat.lt_of_lt_of_le ?_ hle)
    dsimp only
    omega
  | case4 offset rest => exact .inr (Nat.lt_add_of_pos_right (by decide))
  | case5 offset rest => exact .inr (Nat.lt_succ_self offset)
  | case6 offset c rest =>
    have hle := (leads_scanTemplate (offset + c.utf8Size) rest).offset_le
    exact .inr (Nat.lt_of_lt_of_le (Nat.lt_add_of_pos_right c.utf8Size_pos) hle)

/-- A token with a meaning is not empty. -/
theorem nextToken_lt {mode : LexMode} {c : Cursor} (heof : (nextToken mode c).1.type ≠ .eof)
    (hinvalid : (nextToken mode c).1.type ≠ .invalid) :
    (nextToken mode c).1.span.start < (nextToken mode c).1.span.stop := by
  have htoken : ∀ slashIsRegex, (scanToken slashIsRegex c.tokenStart).type ≠ .eof →
      (scanToken slashIsRegex c.tokenStart).type ≠ .invalid →
        c.tokenStart.offset < (scanToken slashIsRegex c.tokenStart).stop.offset := by
    intro slashIsRegex heof hinvalid
    refine (hasText_scanToken slashIsRegex fun hnil => heof ?_).resolve_left hinvalid
    unfold scanToken
    rw [hnil]
  cases mode with
  | standard => exact htoken false heof hinvalid
  | slashIsRegex => exact htoken true heof hinvalid
  | templateContinue => exact (hasText_scanTemplate c.offset c.rest).resolve_left hinvalid

/-- After the end of a text there is only its end. -/
theorem nextToken_of_rest_eq_nil {mode : LexMode} {c : Cursor} (hmode : mode ≠ .templateContinue)
    (h : c.rest = []) : (nextToken mode c).1.type = .eof ∧ (nextToken mode c).2.rest = [] := by
  have hstart : c.tokenStart.rest = [] := by
    obtain ⟨passed, hpassed, -⟩ := leads_tokenStart c
    rw [h] at hpassed
    exact (List.append_eq_nil_iff.mp hpassed.symm).2
  have htoken : ∀ slashIsRegex, scanToken slashIsRegex c.tokenStart = ⟨.eof, c.tokenStart⟩ := by
    intro slashIsRegex
    unfold scanToken
    rw [hstart]
  cases mode with
  | standard =>
    change (scanToken false c.tokenStart).type = _ ∧ (scanToken false c.tokenStart).stop.rest = []
    rw [htoken]
    exact ⟨rfl, hstart⟩
  | slashIsRegex =>
    change (scanToken true c.tokenStart).type = _ ∧ (scanToken true c.tokenStart).stop.rest = []
    rw [htoken]
    exact ⟨rfl, hstart⟩
  | templateContinue => exact absurd rfl hmode

/-! ## Slashes -/

/-- The types of the tokens that a slash cannot begin. -/
def TokenType.IsPlain (type : TokenType) : Prop := type ≠ .literalRegex ∧ type ≠ .invalid

instance (type : TokenType) : Decidable type.IsPlain :=
  inferInstanceAs (Decidable (type ≠ .literalRegex ∧ type ≠ .invalid))

/-- What a slash means makes no difference to a token that a slash does not begin. -/
theorem scanToken_eq {c : Cursor} (h : (scanToken true c).type.IsPlain) :
    scanToken false c = scanToken true c := by
  obtain ⟨offset, rest⟩ := c
  cases rest with
  | nil => rfl
  | cons first rest =>
    by_cases hslash : first = '/'
    · subst hslash
      have hregex : scanToken true ⟨offset, '/' :: rest⟩ = scanRegex false (offset + 1) rest := by
        rfl
      rw [hregex] at h
      exact (scanRegex_type false (offset + 1) rest).elim (absurd · h.1) (absurd · h.2)
    · simp only [scanToken, hslash, decide_false, Bool.false_and]

/-- What a slash means makes no difference to a token that a slash does not begin. -/
theorem nextToken_standard {c : Cursor} (h : (nextToken .slashIsRegex c).1.type.IsPlain) :
    nextToken .standard c = nextToken .slashIsRegex c := by
  have heq : scanToken false c.tokenStart = scanToken true c.tokenStart := scanToken_eq h
  unfold Cursor.tokenStart at heq
  unfold nextToken
  dsimp only
  rw [heq]

end ModuleBundler
