import ModuleBundler.Proofs.WholeTokens

/-!
# Names as they are written

* `NamePiece`, `WrittenName` : a name as characters and escapes, each with the character that it
  stands for;
* `decode_piece` : what an escape is decoded to;
* `WrittenName.isBindingName_iff` : a name can be written without escapes if each escape stands for
  a character that a name may have there, and no reserved word is written with them;
* `scanName_pieces` : what the reading of a name goes over is written so;
* `exists_writtenName` : so is every token that can name a variable.
-/

namespace ModuleBundler

/-! ## Pieces of names -/

/-- A character of a name, or an escape for one with four digits or with digits in braces. -/
inductive NamePiece where
  | plain (c : Char)
  | unit (a b c d : Char)
  | braces (digits : List Char)
  deriving DecidableEq

namespace NamePiece

/-- How the piece is written. -/
def text : NamePiece → List Char
  | plain c => [c]
  | unit a b c d => ['\\', 'u', a, b, c, d]
  | braces digits => '\\' :: 'u' :: '\x7b' :: (digits ++ ['\x7d'])

/-- The character that the piece stands for, if its number is one of a character. -/
def char? : NamePiece → Option Char
  | plain c => some c
  | unit a b c d => charOf? (hexValue [a, b, c, d])
  | braces digits => charOf? (hexValue digits)

def isEscape : NamePiece → Bool
  | plain _ => false
  | unit .. | braces _ => true

/-- The characters that a name may have at its start, or after it. -/
def admits (atStart : Bool) (c : Char) : Bool :=
  if atStart then isIdentifierStart c else isIdentifierContinue c

/-- The piece is well-formed. Nothing is said about the character that an escape stands for. -/
def isProper (atStart : Bool) : NamePiece → Bool
  | plain c => admits atStart c
  | unit a b c d => isHexDigit a && isHexDigit b && isHexDigit c && isHexDigit d
  | braces digits => !digits.isEmpty && digits.all isHexDigit

/-- The piece stands for a character that a name may have there. -/
def fits (atStart : Bool) (p : NamePiece) : Bool := p.char?.any (admits atStart)

end NamePiece

/-- A name as it is written. -/
structure WrittenName where
  first : NamePiece
  rest : List NamePiece
  proper_first : first.isProper true = true
  proper_rest : ∀ p ∈ rest, p.isProper false = true

namespace WrittenName

def pieces (w : WrittenName) : List NamePiece := w.first :: w.rest

/-- The text of the name. -/
def text (w : WrittenName) : List Char := w.pieces.flatMap NamePiece.text

/-- The name that is written. -/
def name (w : WrittenName) : String := decodeName (String.ofList w.text)

/-- Every escape stands for a character that a name may have there. -/
def EscapesFit (w : WrittenName) : Prop :=
  w.first.fits true = true ∧ ∀ p ∈ w.rest, p.fits false = true

/-- The escapes do no more than to write a name in another way: each stands for a character that a
name may have there, and with them no reserved word is written. -/
structure EscapesAllowed (w : WrittenName) : Prop where
  fit : w.EscapesFit
  unreserved : (∃ p ∈ w.pieces, p.isEscape = true) → (wordType w.name).isIdentifier = true

end WrittenName

/-! ## What no name has -/

/-- No name has the character for what is none. -/
theorem not_admits_replacementChar (atStart : Bool) :
    NamePiece.admits atStart replacementChar = false := by
  have hletters : (alphabeticRanges.toList.all fun r =>
      Nat.blt r.2 0xfffd || Nat.blt 0xfffd r.1) = true := by decide +kernel
  have hnumbers : (numericRanges.toList.all fun r =>
      Nat.blt r.2 0xfffd || Nat.blt 0xfffd r.1) = true := by decide +kernel
  simp only [List.all_eq_true, Bool.or_eq_true, Nat.blt_eq] at hletters hnumbers
  have halphabetic : isAlphabetic replacementChar = false := not_in_ranges hletters
  have hnumeric : isNumeric replacementChar = false := not_in_ranges hnumbers
  have hascii : replacementChar.isAlpha = false ∧ replacementChar.isAlphanum = false ∧
      replacementChar ∉ ['$', '_', '\u200c', '\u200d'] := by decide
  obtain ⟨hletter, halphanum, hne⟩ := hascii
  simp only [List.mem_cons, List.not_mem_nil, or_false, not_or] at hne
  cases atStart with
  | true => simp [NamePiece.admits, isIdentifierStart, hletter, halphabetic, hne]
  | false => simp [NamePiece.admits, isIdentifierContinue, halphanum, halphabetic, hnumeric, hne]

/-- A backslash belongs to an escape. -/
theorem not_admits_backslash (atStart : Bool) : NamePiece.admits atStart '\\' = false := by
  cases atStart with
  | true => rfl
  | false => rfl

/-! ## What pieces are decoded to -/

theorem decode_plain {cs : List Char} (h : '\\' ∉ cs) (rest : List Char) :
    decodeNameChars .text (cs ++ rest) = cs ++ decodeNameChars .text rest := by
  induction cs with
  | nil => rfl
  | cons c cs ih =>
    rw [List.mem_cons, not_or] at h
    rw [List.cons_append, decodeNameChars, ih h.2, List.cons_append]
    all_goals
      intros
      exact h.1 (Eq.symm ‹c = '\\'›)

/-- What is decoded where a piece stands: first the character that it stands for, or the one for
what is none. In the latter case more of its text may follow. -/
def DecodedTo (char? : Option Char) (rest decoded : List Char) : Prop :=
  ∃ more, decoded = char?.getD replacementChar :: (more ++ decodeNameChars .text rest) ∧
    (char?.isSome = true → more = [])

theorem le_foldl_digits (digits : List Char) (value : Nat) :
    value ≤ digits.foldl (fun value d => value * 16 + (digitValue? 16 d).getD 0) value := by
  induction digits generalizing value with
  | nil => exact Nat.le_refl value
  | cons d digits ih =>
    refine Nat.le_trans ?_ (ih (value * 16 + (digitValue? 16 d).getD 0))
    omega

theorem charOf?_eq_none {code : Nat} (h : 0x110000 ≤ code) : charOf? code = none := by
  have hno : ¬ code.isValidChar := by
    unfold Nat.isValidChar
    omega
  rw [charOf?, if_neg hno]

theorem decode_bracedDigits {digits : List Char} (h : ∀ d ∈ digits, isHexDigit d = true)
    (value : Nat) (rest : List Char) :
    DecodedTo (charOf? (digits.foldl (fun value d => value * 16 + (digitValue? 16 d).getD 0) value))
      rest (decodeNameChars (.braces value) (digits ++ '\x7d' :: rest)) := by
  induction digits generalizing value with
  | nil =>
    refine ⟨[], ?_, fun _ => rfl⟩
    change decodeNameChars (.braces value) ('\x7d' :: rest) = _
    rw [decodeNameChars, if_pos rfl]
    rfl
  | cons d digits ih =>
    obtain ⟨hd, hdigits⟩ := List.forall_mem_cons.mp h
    obtain ⟨v, hv⟩ := exists_digitValue hd
    rw [List.cons_append, decodeNameChars, if_neg (ne_brace_of_isHexDigit hd).2, List.foldl_cons,
      hv, Option.getD_some]
    dsimp only
    by_cases hlarge : UInt32.size ≤ value * 16
    · -- The number has become too large, so that its last digits are taken for characters.
      have hsize : UInt32.size = 0x100000000 := rfl
      have hle := le_foldl_digits digits (value * 16 + v)
      have hbackslash : '\\' ∉ digits ++ ['\x7d'] := by
        rw [List.mem_append, not_or]
        refine ⟨fun hmem => ?_, by decide⟩
        have hdigit := hdigits _ hmem
        revert hdigit
        decide
      refine ⟨digits ++ ['\x7d'], ?_, fun hsome => ?_⟩
      · rw [if_pos hlarge, charOf?_eq_none (by omega), ← decode_plain hbackslash, List.append_assoc]
        rfl
      · rw [charOf?_eq_none (by omega)] at hsome
        cases hsome
    · rw [if_neg hlarge]
      exact ih hdigits _

theorem decode_unitDigits {a b c d : Char} (h : (NamePiece.unit a b c d).isProper true = true)
    (rest : List Char) :
    decodeNameChars .text ('\\' :: 'u' :: a :: b :: c :: d :: rest) =
      (charOf? (hexValue [a, b, c, d])).getD replacementChar :: decodeNameChars .text rest := by
  have hbrace : a ≠ '\x7b' := by
    simp only [NamePiece.isProper, Bool.and_eq_true] at h
    exact (ne_brace_of_isHexDigit h.1.1.1).1
  obtain ⟨a', b', c', d', ha, hb, hc, hd, hvalue⟩ := exists_fourDigits h
  rw [hvalue, decodeNameChars]
  · simp only [decodeNameChars, ha, hb, hc, hd]
    rfl
  · exact fun _ h => hbrace (List.cons.inj h).1

/-- A piece is decoded to the character that it stands for. -/
theorem decode_piece {atStart : Bool} {p : NamePiece} (h : p.isProper atStart = true)
    (rest : List Char) : DecodedTo p.char? rest (decodeNameChars .text (p.text ++ rest)) := by
  cases p with
  | plain c =>
    have hbackslash : '\\' ∉ [c] := by
      intro hmem
      rw [← List.mem_singleton.mp hmem] at h
      exact Bool.false_ne_true ((not_admits_backslash atStart).symm.trans h)
    exact ⟨[], decode_plain hbackslash rest, fun _ => rfl⟩
  | unit a b c d => exact ⟨[], decode_unitDigits h rest, fun _ => rfl⟩
  | braces digits =>
    simp only [NamePiece.isProper, Bool.and_eq_true, List.all_eq_true] at h
    have htext : (NamePiece.braces digits).text ++ rest =
        '\\' :: 'u' :: '\x7b' :: (digits ++ '\x7d' :: rest) := by
      simp [NamePiece.text]
    rw [htext, decodeNameChars]
    exact decode_bracedDigits h.2 0 rest

theorem DecodedTo.cases {char? : Option Char} {rest decoded : List Char}
    (h : DecodedTo char? rest decoded) :
    (∃ c, char? = some c ∧ decoded = c :: decodeNameChars .text rest) ∨
      (char? = none ∧ ∃ more, decoded = replacementChar :: more) := by
  obtain ⟨more, rfl, hnone⟩ := h
  cases char? with
  | some c =>
    obtain rfl := hnone rfl
    exact .inl ⟨c, rfl, rfl⟩
  | none => exact .inr ⟨rfl, _, rfl⟩

/-- A piece that fits is decoded to one character. -/
theorem decode_fitting {atStart : Bool} {p : NamePiece} (h : p.isProper atStart = true)
    (hfits : p.fits atStart = true) (rest : List Char) :
    ∃ c, p.char? = some c ∧
      decodeNameChars .text (p.text ++ rest) = c :: decodeNameChars .text rest := by
  rcases (decode_piece h rest).cases with hone | ⟨hnone, -⟩
  · exact hone
  · rw [NamePiece.fits, hnone] at hfits
    cases hfits

/-- A name goes on as names do if its pieces fit. -/
theorem all_decoded_iff {pieces : List NamePiece} (h : ∀ p ∈ pieces, p.isProper false = true) :
    (decodeNameChars .text (pieces.flatMap NamePiece.text)).all isIdentifierContinue = true ↔
      ∀ p ∈ pieces, p.fits false = true := by
  induction pieces with
  | nil => exact ⟨fun _ => List.forall_mem_nil _, fun _ => rfl⟩
  | cons p pieces ih =>
    obtain ⟨hp, hpieces⟩ := List.forall_mem_cons.mp h
    rw [List.flatMap_cons, List.forall_mem_cons, NamePiece.fits]
    rcases (decode_piece hp (pieces.flatMap NamePiece.text)).cases with ⟨c, hc, heq⟩ |
      ⟨hnone, more, heq⟩
    · rw [heq, hc, List.all_cons, Bool.and_eq_true, ih hpieces]
      rfl
    · have hno := not_admits_replacementChar false
      rw [heq, hnone, List.all_cons]
      change (NamePiece.admits false replacementChar && _) = true ↔ false = true ∧ _
      rw [hno, Bool.false_and]
      simp only [Bool.false_eq_true, false_and]

theorem toList_decodeName (raw : String) :
    (decodeName raw).toList = decodeNameChars .text raw.toList := by
  rw [decodeName]
  cases hescape : raw.toList.contains '\\' with
  | true => exact String.toList_ofList
  | false =>
    have hplain : '\\' ∉ raw.toList := by
      rw [← List.contains_iff_mem, hescape]
      exact Bool.false_ne_true
    have hdecoded := decode_plain hplain []
    rw [List.append_nil] at hdecoded
    rw [if_neg Bool.false_ne_true, hdecoded]
    exact (List.append_nil _).symm

namespace WrittenName

variable (w : WrittenName)

theorem toList_name : w.name.toList = decodeNameChars .text w.text := by
  rw [name, toList_decodeName, String.toList_ofList]

/-- A name is made of the characters of names if its escapes fit. -/
theorem isIdentifierName_iff : isIdentifierName w.name.toList = true ↔ w.EscapesFit := by
  rw [toList_name, text, pieces, List.flatMap_cons, EscapesFit, NamePiece.fits]
  rcases (decode_piece w.proper_first (w.rest.flatMap NamePiece.text)).cases with ⟨c, hc, heq⟩ |
    ⟨hnone, more, heq⟩
  · rw [heq, hc, isIdentifierName, Bool.and_eq_true, all_decoded_iff w.proper_rest]
    rfl
  · have hno := not_admits_replacementChar true
    rw [heq, hnone, isIdentifierName]
    change (NamePiece.admits true replacementChar && _) = true ↔ false = true ∧ _
    rw [hno, Bool.false_and]
    simp only [Bool.false_eq_true, false_and]

/-- A name that fits consists of the characters that its pieces stand for. -/
theorem name_eq {w : WrittenName} (h : w.EscapesFit) :
    w.name = String.ofList (w.pieces.filterMap NamePiece.char?) := by
  have hrest : ∀ {pieces : List NamePiece}, (∀ p ∈ pieces, p.isProper false = true) →
      (∀ p ∈ pieces, p.fits false = true) →
        decodeNameChars .text (pieces.flatMap NamePiece.text) =
          pieces.filterMap NamePiece.char? := by
    intro pieces hproper hfits
    induction pieces with
    | nil => rfl
    | cons p pieces ih =>
      obtain ⟨hp, hpieces⟩ := List.forall_mem_cons.mp hproper
      obtain ⟨hfit, hfits⟩ := List.forall_mem_cons.mp hfits
      obtain ⟨c, hc, heq⟩ := decode_fitting hp hfit (pieces.flatMap NamePiece.text)
      rw [List.flatMap_cons, heq, ih hpieces hfits, List.filterMap_cons_some hc]
  obtain ⟨c, hc, heq⟩ := decode_fitting w.proper_first h.1 (w.rest.flatMap NamePiece.text)
  rw [← String.ofList_toList (s := w.name), toList_name, text, pieces, List.flatMap_cons, heq,
    hrest w.proper_rest h.2, List.filterMap_cons_some hc]

/-- The characters of a name without escapes are as names have them. -/
theorem escapesFit_of_plain {w : WrittenName} (h : ∀ p ∈ w.pieces, p.isEscape = false) :
    w.EscapesFit := by
  have hplain : ∀ {p : NamePiece} {b}, p.isEscape = false → p.isProper b = true →
      p.fits b = true := by
    intro p b hp hproper
    cases p with
    | plain c => exact hproper
    | unit | braces => cases hp
  obtain ⟨hfirst, hrest⟩ := List.forall_mem_cons.mp h
  exact ⟨hplain hfirst w.proper_first, fun p hp => hplain (hrest p hp) (w.proper_rest p hp)⟩

/-- A name without escapes is its own text. -/
theorem name_of_plain {w : WrittenName} (h : ∀ p ∈ w.pieces, p.isEscape = false) :
    w.name = String.ofList w.text := by
  have hpieces : ∀ {pieces : List NamePiece}, (∀ p ∈ pieces, p.isEscape = false) →
      pieces.filterMap NamePiece.char? = pieces.flatMap NamePiece.text := by
    intro pieces hplain
    induction pieces with
    | nil => rfl
    | cons p pieces ih =>
      obtain ⟨hp, hpieces⟩ := List.forall_mem_cons.mp hplain
      cases p with
      | plain c => exact congrArg (c :: ·) (ih hpieces)
      | unit | braces => cases hp
  rw [name_eq (escapesFit_of_plain h), hpieces h, text]

theorem escapesAllowed_of_plain {w : WrittenName} (h : ∀ p ∈ w.pieces, p.isEscape = false) :
    w.EscapesAllowed := by
  refine ⟨escapesFit_of_plain h, fun ⟨p, hp, hescape⟩ => ?_⟩
  rw [h p hp] at hescape
  cases hescape

/-- What is written without backslashes has no escapes in it. -/
theorem isEscape_of_noBackslash {w : WrittenName} (h : '\\' ∉ w.text) :
    ∀ p ∈ w.pieces, p.isEscape = false := by
  intro p hp
  cases p with
  | plain c => rfl
  | unit | braces => exact absurd (List.mem_flatMap.mpr ⟨_, hp, List.mem_cons_self⟩) h

/-- What is written as a name that is not reserved is such a name if its escapes are allowed. -/
theorem isBindingName_iff {w : WrittenName}
    (h : (wordType (String.ofList w.text)).isIdentifier = true) :
    isBindingName w.name = true ↔ w.EscapesAllowed := by
  rw [isBindingName, Bool.and_eq_true, isIdentifierName_iff]
  refine ⟨fun ⟨hfit, hunreserved⟩ => ⟨hfit, fun _ => hunreserved⟩, fun hallowed => ?_⟩
  refine ⟨hallowed.fit, ?_⟩
  by_cases hescape : ∃ p ∈ w.pieces, p.isEscape = true
  · exact hallowed.unreserved hescape
  · rw [name_of_plain fun p hp => Bool.eq_false_iff.mpr fun htrue => hescape ⟨p, hp, htrue⟩]
    exact h

end WrittenName

/-! ## What is read as a name -/

/-- How much of an escape is read in a state. -/
inductive NameState.Began : NameState → List Char → Prop where
  | between : Began .between []
  | backslash : Began .backslash ['\\']
  | unicode : Began .unicode ['\\', 'u']
  | digits {left : Nat} (read : List Char) (hex : ∀ d ∈ read, isHexDigit d = true)
      (more : 0 < left) (four : read.length + left = 4) :
      Began (.digits left) ('\\' :: 'u' :: read)
  | braces {any : Bool} (read : List Char) (hex : ∀ d ∈ read, isHexDigit d = true)
      (some : any = !read.isEmpty) : Began (.braces any) ('\\' :: 'u' :: '\x7b' :: read)

/-- From some text on, pieces of a name are read up to a place. -/
def PiecesTo (front cs rest : List Char) : Prop :=
  ∃ pieces : List NamePiece, (∀ p ∈ pieces, p.isProper false = true) ∧
    front ++ cs = pieces.flatMap NamePiece.text ++ rest ∧
      (front ≠ [] → ∃ p others, pieces = p :: others ∧ p.isEscape = true)

/-- One more piece stands before others. -/
theorem PiecesTo.cons {front cs cs' rest : List Char} {p : NamePiece} (h : PiecesTo [] cs' rest)
    (hp : p.isProper false = true) (htext : front ++ cs = p.text ++ cs')
    (hescape : front ≠ [] → p.isEscape = true) : PiecesTo front cs rest := by
  obtain ⟨pieces, hpieces, heq, -⟩ := h
  refine ⟨p :: pieces, List.forall_mem_cons.mpr ⟨hp, hpieces⟩, ?_, fun hne => ?_⟩
  · rw [htext, List.flatMap_cons, List.append_assoc, ← heq, List.nil_append]
  · exact ⟨p, pieces, rfl, hescape hne⟩

/-- More of an escape is read before the rest. -/
theorem PiecesTo.shift {front cs rest : List Char} {c : Char}
    (h : PiecesTo (front ++ [c]) cs rest) : PiecesTo front (c :: cs) rest := by
  obtain ⟨pieces, hpieces, heq, hescape⟩ := h
  have hne : front ++ [c] ≠ [] := List.append_ne_nil_of_right_ne_nil _ (List.cons_ne_nil _ _)
  refine ⟨pieces, hpieces, ?_, fun _ => hescape hne⟩
  rw [← heq, List.append_assoc]
  rfl

/-- What is read of a name are pieces of it. -/
theorem scanName_pieces {state : NameState} {offset : Nat} {cs : List Char} {stop : Cursor}
    (h : scanName state offset cs = .ok stop) {front : List Char} (hbegan : state.Began front) :
    PiecesTo front cs stop.rest := by
  fun_induction scanName state offset cs generalizing front with
  | case1 =>
    cases hbegan
    cases h
    exact ⟨[], List.forall_mem_nil _, rfl, fun hne => absurd rfl hne⟩
  | case2 offset rest ih =>
    cases hbegan
    refine PiecesTo.shift ?_
    exact ih h .backslash
  | case3 offset c rest hbackslash hc ih =>
    cases hbegan
    exact (ih h .between).cons (p := .plain c) hc rfl fun hne => absurd rfl hne
  | case4 offset c rest =>
    cases hbegan
    cases h
    exact ⟨[], List.forall_mem_nil _, rfl, fun hne => absurd rfl hne⟩
  | case5 offset rest ih =>
    cases hbegan
    refine PiecesTo.shift ?_
    exact ih h .unicode
  | case7 offset rest ih =>
    cases hbegan
    refine PiecesTo.shift ?_
    exact ih h (.braces [] (List.forall_mem_nil _) rfl)
  | case8 offset c rest hbrace hc ih =>
    cases hbegan
    refine PiecesTo.shift ?_
    exact ih h (.digits [c] (List.forall_mem_singleton.mpr hc) (by decide) rfl)
  | case10 left offset c rest hc ih =>
    cases hbegan with
    | digits read hex more four =>
      by_cases hlast : left ≤ 1
      · -- The fourth digit ends the escape.
        rw [if_pos hlast] at ih h
        obtain ⟨a, b, d, rfl⟩ := List.length_eq_three.mp (by omega : read.length = 3)
        refine (ih h .between).cons (p := .unit a b d c) ?_ rfl fun _ => rfl
        simp only [NamePiece.isProper, Bool.and_eq_true]
        exact ⟨⟨⟨hex a (by simp), hex b (by simp)⟩, hex d (by simp)⟩, hc⟩
      · rw [if_neg hlast] at ih h
        refine PiecesTo.shift ?_
        refine ih h (.digits (read ++ [c]) ?_ (by omega) ?_)
        · exact List.forall_mem_append.mpr ⟨hex, List.forall_mem_singleton.mpr hc⟩
        · rw [List.length_append, List.length_singleton]
          omega
  | case12 any offset c rest hc ih =>
    cases hbegan with
    | braces read hex some =>
      refine PiecesTo.shift ?_
      refine ih h (.braces (read ++ [c]) ?_ ?_)
      · exact List.forall_mem_append.mpr ⟨hex, List.forall_mem_singleton.mpr hc⟩
      · simp
  | case14 any offset rest hany hc ih =>
    cases hbegan with
    | braces read hex some =>
      refine (ih h .between).cons (p := .braces read) ?_ ?_ fun _ => rfl
      · simp only [NamePiece.isProper, Bool.and_eq_true, List.all_eq_true]
        exact ⟨some ▸ by simpa using hany, hex⟩
      · simp [NamePiece.text]
  | case6 | case9 | case11 | case13 | case15 | case16 => cases h

/-- What is read as a name from a character that may begin one is written as one. -/
theorem exists_writtenName_of_scanName {place stop : Cursor} {first : Char}
    (hhead : place.rest.head? = some first)
    (hfirst : first = '\\' ∨ isIdentifierStart first = true) (h : place.scanName = .ok stop) :
    ∃ w : WrittenName, place.rest = w.text ++ stop.rest := by
  obtain ⟨offset, cs⟩ := place
  obtain ⟨rest, rfl⟩ := List.head?_eq_some_iff.mp hhead
  by_cases hbackslash : first = '\\'
  · subst hbackslash
    have hscan : scanName .backslash (offset + 1) rest = .ok stop := h
    obtain ⟨pieces, hpieces, heq, hescape⟩ := scanName_pieces hscan .backslash
    obtain ⟨p, others, rfl, hp⟩ := hescape (List.cons_ne_nil _ _)
    obtain ⟨hproper, hothers⟩ := List.forall_mem_cons.mp hpieces
    have hstart : p.isProper true = true := by
      cases p with
      | plain c => cases hp
      | unit | braces => exact hproper
    exact ⟨⟨p, others, hstart, hothers⟩, heq⟩
  · have hstart : isIdentifierStart first = true := hfirst.resolve_left hbackslash
    have hhead : ¬ (first :: rest).head? = some '\\' := fun heq => hbackslash (Option.some.inj heq)
    have hscan : scanName .between (offset + first.utf8Size) rest = .ok stop := by
      unfold Cursor.scanName at h
      dsimp only at h
      rw [if_neg hhead] at h
      exact h
    obtain ⟨pieces, hpieces, heq, -⟩ := scanName_pieces hscan .between
    rw [List.nil_append] at heq
    refine ⟨⟨.plain first, pieces, hstart, hpieces⟩, ?_⟩
    exact congrArg (first :: ·) heq

theorem isIdentifier_of_isLiteral {type : TokenType} (h : type.isLiteral = true) :
    type.isIdentifier = false := by
  revert h
  cases type <;> decide

/-- Only words can name variables. -/
theorem scanToken_of_isIdentifier {slashIsRegex : Bool} {c : Cursor}
    (h : (scanToken slashIsRegex c).type.isIdentifier = true) :
    ∃ first, c.rest.head? = some first ∧ (first = '\\' ∨ isIdentifierStart first = true) ∧
      scanToken slashIsRegex c = scanWord c := by
  have hoperators : ∀ entry ∈ operators, entry.2.isIdentifier = false := by decide
  rcases scanToken_kinds slashIsRegex c with hnil | hword | hoperator | hliteral
  · unfold scanToken at h
    rw [hnil] at h
    cases h
  · exact hword
  · rw [hoperator] at h
    rcases scanOperator_type c with ⟨entry, hentry, htype⟩ | htype
    · rw [htype, hoperators entry hentry] at h
      cases h
    · rw [htype] at h
      cases h
  · rw [isIdentifier_of_isLiteral hliteral] at h
    cases h

/-- A word that can name a variable is written as a name, and is not reserved as it stands. -/
theorem exists_writtenName_of_scanWord {place : Cursor} {first : Char}
    (hhead : place.rest.head? = some first)
    (hfirst : first = '\\' ∨ isIdentifierStart first = true)
    (h : (scanWord place).type.isIdentifier = true) :
    ∃ w : WrittenName, place.rest = w.text ++ (scanWord place).stop.rest ∧
      (wordType (place.textUpTo (scanWord place).stop.offset)).isIdentifier = true := by
  unfold scanWord at h ⊢
  cases hname : place.scanName with
  | error stop =>
    rw [hname] at h
    cases h
  | ok stop =>
    rw [hname] at h
    obtain ⟨w, hw⟩ := exists_writtenName_of_scanName hhead hfirst hname
    exact ⟨w, hw, h⟩

/-- A token that can name a variable is written as a name, and is not reserved as it stands. -/
theorem exists_writtenName {mode : LexMode} {place : Cursor}
    (h : (nextToken mode place).1.type.isIdentifier = true) :
    ∃ w : WrittenName, (nextToken mode place).1.text = String.ofList w.text ∧
      (wordType (nextToken mode place).1.text).isIdentifier = true := by
  have hscan : ∃ slashIsRegex, place.tokenStartIn mode = place.tokenStart ∧
      (nextToken mode place).1.type = (scanToken slashIsRegex place.tokenStart).type ∧
      (nextToken mode place).2 = (scanToken slashIsRegex place.tokenStart).stop ∧
      (nextToken mode place).1.text =
        place.tokenStart.textUpTo (scanToken slashIsRegex place.tokenStart).stop.offset := by
    cases mode with
    | standard => exact ⟨false, rfl, rfl, rfl, rfl⟩
    | slashIsRegex => exact ⟨true, rfl, rfl, rfl, rfl⟩
    | templateContinue =>
      have hliteral : (nextToken .templateContinue place).1.type.isLiteral = true :=
        scanTemplate_isLiteral _ _
      rw [isIdentifier_of_isLiteral hliteral] at h
      cases h
  obtain ⟨slashIsRegex, hstart, htype, hstop, htext⟩ := hscan
  rw [htype] at h
  obtain ⟨first, hhead, hfirst, hword⟩ := scanToken_of_isIdentifier h
  rw [hword] at h hstop htext
  obtain ⟨w, hw, hunreserved⟩ := exists_writtenName_of_scanWord hhead hfirst h
  have hown := (nextToken_text mode place).1
  rw [hstart, hw, hstop] at hown
  refine ⟨w, ?_, htext ▸ hunreserved⟩
  rw [List.append_cancel_right hown, String.ofList_toList]

end ModuleBundler
