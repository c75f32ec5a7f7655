import Mathlib.Data.List.Chain
import ModuleBundler.Proofs.LossyUtf16
import ModuleBundler.Token.Lexer

/-!
# What string literals denote

* `StringPart`, `StringLiteral` : string literals of strict code by their parts, with the text of
  each part and the UTF-16 code units that it denotes;
* `StringPart.Writes`, `StringPart.Stands` : the part is decoded to a character, or to the text of
  its code units, whatever comes before and after it;
* `StringPart.kinds` : all parts are so but line continuations, first halves of surrogate pairs and
  halves in braces;
* `StringPart.decode_bodyText` : what parts in a row are decoded to, by induction on them. A first
  half right before another one is forgotten (`StringPart.keptUnits`);
* `StringLiteral.decodeString_eq_denoted_iff` : which literals are decoded to what they denote.
-/

namespace ModuleBundler

/-! ## Parts of literals -/

/-- The number that hexadecimal digits write. -/
def hexValue (digits : List Char) : Nat :=
  digits.foldl (fun value d => value * 16 + (digitValue? 16 d).getD 0) 0

/-- What a backslash makes of a character that it does not leave as it is. -/
def controlEscapes : List (Char × Char) :=
  [('b', '\x08'), ('t', '\x09'), ('n', '\x0a'), ('v', '\x0b'), ('f', '\x0c'), ('r', '\x0d')]

/-- What is written between the quotes of a string literal. -/
inductive StringPart where
  | plain (c : Char)
  /-- A backslash before a character. -/
  | escaped (c : Char)
  /-- A backslash before the digit zero. -/
  | null
  /-- An escape with two hexadecimal digits. -/
  | hex (a b : Char)
  /-- An escape with four hexadecimal digits. -/
  | unit (a b c d : Char)
  /-- An escape with hexadecimal digits in braces. -/
  | braces (digits : List Char)
  /-- A backslash before the end of a line. -/
  | lineContinuation (lineEnd : List Char)
  deriving DecidableEq

namespace StringPart

/-- How the part is written. -/
def text : StringPart → List Char
  | plain c => [c]
  | escaped c => ['\\', c]
  | null => ['\\', '0']
  | hex a b => ['\\', 'x', a, b]
  | unit a b c d => ['\\', 'u', a, b, c, d]
  | braces digits => '\\' :: 'u' :: '\x7b' :: (digits ++ ['\x7d'])
  | lineContinuation lineEnd => '\\' :: lineEnd

/-- The UTF-16 code units that the part denotes. -/
def units : StringPart → List Nat
  | plain c => codePointUnits c.toNat
  | escaped c => codePointUnits ((controlEscapes.lookup c).getD c).toNat
  | null => [0]
  | hex a b => [hexValue [a, b]]
  | unit a b c d => [hexValue [a, b, c, d]]
  | braces digits => codePointUnits (hexValue digits)
  | lineContinuation _ => []

/-- Strict code may have the part in a literal with these quotes. -/
def isProper (quote : Char) : StringPart → Bool
  | plain c => c != quote && c != '\\' && c != '\n' && c != '\r'
  | escaped c => !isLineTerminator c && !c.isDigit && c != 'x' && c != 'u'
  | null => true
  | hex a b => isHexDigit a && isHexDigit b
  | unit a b c d => isHexDigit a && isHexDigit b && isHexDigit c && isHexDigit d
  | braces digits => !digits.isEmpty && digits.all isHexDigit && hexValue digits ≤ 0x10ffff
  | lineContinuation lineEnd =>
    [['\n'], ['\r'], ['\r', '\n'], ['\u2028'], ['\u2029']].contains lineEnd

/-- The part is the digit that may not stand after a null character. -/
def isPlainDigit : StringPart → Bool
  | plain c => c.isDigit
  | _ => false

/-- The part writes one half of a surrogate pair in braces. -/
def isBracedHalf : StringPart → Bool
  | braces digits => isFirstHalf (hexValue digits) || isSecondHalf (hexValue digits)
  | _ => false

/-- The part writes the first half of a surrogate pair with four digits. -/
def isUnitHalf : StringPart → Bool
  | unit a b c d => isFirstHalf (hexValue [a, b, c, d])
  | _ => false

/-- The text of parts. -/
def bodyText (parts : List StringPart) : List Char := parts.flatMap text

end StringPart

/-- A string literal of strict code. -/
structure StringLiteral where
  quote : Char
  parts : List StringPart
  isQuote : quote = '"' ∨ quote = '\''
  proper : ∀ p ∈ parts, p.isProper quote = true
  /-- No digit comes right after a null character. -/
  nulls : parts.IsChain fun p q => p = .null → q.isPlainDigit = false

namespace StringLiteral

/-- The source text of the literal. -/
def text (l : StringLiteral) : String :=
  String.ofList (l.quote :: (StringPart.bodyText l.parts ++ [l.quote]))

/-- The UTF-16 code units that the literal denotes. -/
def units (l : StringLiteral) : List Nat := l.parts.flatMap StringPart.units

end StringLiteral

/-! ## Digits -/

variable {quote : Char}

theorem exists_digitValue {c : Char} (h : isHexDigit c = true) : ∃ d, digitValue? 16 c = some d :=
  Option.isSome_iff_exists.mp h

theorem digitValue_lt {radix : Nat} {c : Char} {d : Nat} (h : digitValue? radix c = some d) :
    d < radix := by
  obtain ⟨hlt, hvalue⟩ := Option.ite_none_right_eq_some.mp h
  exact Option.some.inj hvalue ▸ hlt

theorem hexValue_two_lt {a b : Char} (ha : isHexDigit a = true) (hb : isHexDigit b = true) :
    hexValue [a, b] < 0x100 := by
  obtain ⟨a', ha⟩ := exists_digitValue ha
  obtain ⟨b', hb⟩ := exists_digitValue hb
  have := digitValue_lt ha
  have := digitValue_lt hb
  simp only [hexValue, List.foldl_cons, List.foldl_nil, ha, hb, Option.getD_some]
  omega

/-- Four digits, with the number that they write. -/
theorem exists_fourDigits {a b c d : Char}
    (h : (isHexDigit a && isHexDigit b && isHexDigit c && isHexDigit d) = true) :
    ∃ a' b' c' d', digitValue? 16 a = some a' ∧ digitValue? 16 b = some b' ∧
      digitValue? 16 c = some c' ∧ digitValue? 16 d = some d' ∧
      hexValue [a, b, c, d] = (((0 * 16 + a') * 16 + b') * 16 + c') * 16 + d' := by
  simp only [Bool.and_eq_true] at h
  obtain ⟨⟨⟨ha, hb⟩, hc⟩, hd⟩ := h
  obtain ⟨a', ha⟩ := exists_digitValue ha
  obtain ⟨b', hb⟩ := exists_digitValue hb
  obtain ⟨c', hc⟩ := exists_digitValue hc
  obtain ⟨d', hd⟩ := exists_digitValue hd
  refine ⟨a', b', c', d', ha, hb, hc, hd, ?_⟩
  simp only [hexValue, List.foldl_cons, List.foldl_nil, ha, hb, hc, hd, Option.getD_some]

theorem hexUnit_eq {a b c d : Char} (h : (StringPart.unit a b c d).isProper quote = true) :
    hexUnit? a b c d = some (hexValue [a, b, c, d]) ∧ hexValue [a, b, c, d] < 0x10000 := by
  obtain ⟨a', b', c', d', ha, hb, hc, hd, hvalue⟩ := exists_fourDigits h
  have := digitValue_lt ha
  have := digitValue_lt hb
  have := digitValue_lt hc
  have := digitValue_lt hd
  rw [hexUnit?, ha, hb, hc, hd, hvalue]
  constructor
  · simp
  · omega

/-- A number that is no half of a pair is that of a character, with its code units. -/
theorem exists_char {code : Nat} (hle : code ≤ 0x10ffff) (hfirst : isFirstHalf code = false)
    (hsecond : isSecondHalf code = false) :
    charOf? code = some (Char.ofNat code) ∧ codePointUnits code = utf16Units (Char.ofNat code) := by
  rw [Bool.eq_false_iff, ne_eq, isFirstHalf_iff] at hfirst
  rw [Bool.eq_false_iff, ne_eq, isSecondHalf_iff] at hsecond
  have hvalid : code.isValidChar := by
    unfold Nat.isValidChar
    omega
  have hcode : (Char.ofNat code).toNat = code := by
    rw [Char.ofNat, dif_pos hvalid]
    rfl
  rw [charOf?, if_pos hvalid, utf16Units_eq, hcode]
  exact ⟨rfl, rfl⟩

/-! ## One part -/

/-- Nothing pends, or the first half of a surrogate pair. -/
def PendsHalf (pending : Option Nat) : Prop := ∀ u, pending = some u → isFirstHalf u = true

theorem pendsHalf_none : PendsHalf none := fun _ h => nomatch h

theorem flush_cons {pending : Option Nat} (h : PendsHalf pending) (c : Char) (rest : List Char) :
    flush pending (c :: rest) = ofUtf16 (pending.toList ++ utf16Units c) ++ rest := by
  cases pending with
  | none =>
    change c :: rest = ofUtf16 (utf16Units c) ++ rest
    rw [ofUtf16_utf16Units]
    rfl
  | some u =>
    change replacementChar :: c :: rest = ofUtf16 (u :: utf16Units c) ++ rest
    rw [ofUtf16_cons_of_isFirstHalf (h u rfl) fun v hv => head?_utf16Units c hv, ofUtf16_utf16Units]
    rfl

theorem decode_lineContinuation {lineEnd : List Char}
    (h : (StringPart.lineContinuation lineEnd).isProper quote = true) (pending : Option Nat)
    {rest : List Char} (hrest : rest.head? ≠ some '\n') :
    decodeStringChars none pending ((StringPart.lineContinuation lineEnd).text ++ rest) =
      decodeStringChars none pending rest := by
  have hends : lineEnd = ['\n'] ∨ lineEnd = ['\r'] ∨ lineEnd = ['\r', '\n'] ∨
      lineEnd = ['\u2028'] ∨ lineEnd = ['\u2029'] := by
    simpa [StringPart.isProper] using h
  rcases hends with rfl | rfl | rfl | rfl | rfl
  · simp [StringPart.text, decodeStringChars, simpleEscape, isLineTerminator]
  · cases rest with
    | nil => simp [StringPart.text, decodeStringChars, simpleEscape, isLineTerminator, flush]
    | cons c rest =>
      have hc : c ≠ '\n' := fun hc => hrest (congrArg some hc)
      simp [StringPart.text, decodeStringChars, simpleEscape, isLineTerminator, hc]
  · simp [StringPart.text, decodeStringChars]
  · simp [StringPart.text, decodeStringChars, simpleEscape, isLineTerminator]
  · simp [StringPart.text, decodeStringChars, simpleEscape, isLineTerminator]

theorem ne_brace_of_isHexDigit {c : Char} (h : isHexDigit c = true) : c ≠ '\x7b' ∧ c ≠ '\x7d' := by
  constructor
  · rintro rfl
    revert h
    decide
  · rintro rfl
    revert h
    decide

/-- Four digits are decoded by the number that they write. -/
theorem decode_unit {a b c d : Char} (h : (StringPart.unit a b c d).isProper quote = true)
    (pending : Option Nat) (rest : List Char) :
    decodeStringChars none pending ((StringPart.unit a b c d).text ++ rest) =
      if isFirstHalf (hexValue [a, b, c, d]) then
        decodeStringChars none (some (hexValue [a, b, c, d])) rest
      else (decodeStringChars none none rest).map
        ((if isSecondHalf (hexValue [a, b, c, d]) then
            [pending.elim replacementChar fun first => pairChar first (hexValue [a, b, c, d])]
          else flush pending [Char.ofNat (hexValue [a, b, c, d])]) ++ ·) := by
  have hbrace : a ≠ '\x7b' := by
    simp only [StringPart.isProper, Bool.and_eq_true] at h
    exact (ne_brace_of_isHexDigit h.1.1.1).1
  change decodeStringChars none pending ('\\' :: 'u' :: a :: b :: c :: d :: rest) = _
  rw [decodeStringChars, (hexUnit_eq h).1, Option.bind_eq_bind, Option.bind_some]
  · by_cases hfirst : isFirstHalf (hexValue [a, b, c, d]) = true
    · rw [if_pos hfirst, if_pos (isFirstHalf_iff.mp hfirst)]
    · rw [if_neg hfirst, if_neg (mt isFirstHalf_iff.mpr hfirst), Option.map_eq_bind]
      by_cases hsecond : isSecondHalf (hexValue [a, b, c, d]) = true
      · rw [if_pos hsecond, if_pos (isSecondHalf_iff.mp hsecond)]
        cases pending with
        | none => rfl
        | some first =>
          rw [Option.elim_some, pairChar]
          rfl
      · rw [if_neg hsecond, if_neg (mt isSecondHalf_iff.mpr hsecond)]
        cases pending with
        | none => rfl
        | some first => rfl
  · exact hbrace

/-- Digits in braces are decoded by the number that they write. -/
theorem decode_digits {digits : List Char} (h : ∀ d ∈ digits, isHexDigit d = true) (value : Nat)
    (pending : Option Nat) (rest : List Char) :
    decodeStringChars (some value) pending (digits ++ '\x7d' :: rest) =
      (charOf? (digits.foldl (fun value d => value * 16 + (digitValue? 16 d).getD 0) value)).bind
        fun c => (decodeStringChars none none rest).map (flush pending [c] ++ ·) := by
  induction digits generalizing value with
  | nil =>
    change decodeStringChars (some value) pending ('\x7d' :: rest) = _
    rw [decodeStringChars, if_pos rfl, Option.bind_eq_bind]
    refine Option.bind_congr fun c _ => ?_
    rw [Option.map_eq_bind]
    cases pending with
    | none => rfl
    | some first => rfl
  | cons d digits ih =>
    obtain ⟨hd, hdigits⟩ := List.forall_mem_cons.mp h
    obtain ⟨v, hv⟩ := exists_digitValue hd
    rw [List.cons_append, decodeStringChars, if_neg (ne_brace_of_isHexDigit hd).2, hv,
      Option.bind_eq_bind, Option.bind_some, ih hdigits, List.foldl_cons, hv, Option.getD_some]

theorem decode_braces {digits : List Char} (h : (StringPart.braces digits).isProper quote = true)
    (pending : Option Nat) (rest : List Char) :
    decodeStringChars none pending ((StringPart.braces digits).text ++ rest) =
      (charOf? (hexValue digits)).bind
        fun c => (decodeStringChars none none rest).map (flush pending [c] ++ ·) := by
  have hdigits : ∀ d ∈ digits, isHexDigit d = true := by
    simp only [StringPart.isProper, Bool.and_eq_true, List.all_eq_true] at h
    exact h.1.2
  have htext : (StringPart.braces digits).text ++ rest =
      '\\' :: 'u' :: '\x7b' :: (digits ++ '\x7d' :: rest) := by
    simp [StringPart.text]
  rw [htext, decodeStringChars, decode_digits hdigits]
  rfl

/-- The part denotes a character, and is decoded to it where the text goes on so. -/
structure StringPart.Writes (p : StringPart) (c : Char) (rest : List Char) : Prop where
  units : p.units = utf16Units c
  decoded : ∀ pending, decodeStringChars none pending (p.text ++ rest) =
    (decodeStringChars none none rest).map (flush pending [c] ++ ·)

theorem map_flush_append (pending : Option Nat) (c : Char) (decoded : Option (List Char)) :
    (do
      let rest ← decoded
      pure (flush pending (c :: rest))) = decoded.map (flush pending [c] ++ ·) := by
  rw [Option.map_eq_bind]
  cases pending with
  | none => rfl
  | some first => rfl

theorem writes_plain {c : Char} (h : c ≠ '\\') (rest : List Char) :
    (StringPart.plain c).Writes c rest where
  units := rfl
  decoded pending := by
    change decodeStringChars none pending (c :: rest) = _
    rw [decodeStringChars, map_flush_append]
    all_goals
      intros
      exact h ‹c = '\\'›

/-- A backslash before a character that begins no longer escape. -/
theorem decode_backslash {c : Char} (hx : c ≠ 'x') (hu : c ≠ 'u') (hreturn : c ≠ '\r')
    (pending : Option Nat) (rest : List Char) :
    decodeStringChars none pending ('\\' :: c :: rest) =
      if c = '0' ∧ ¬ rest.head?.any Char.isDigit then
        (decodeStringChars none none rest).map (flush pending ['\x00'] ++ ·)
      else
        (simpleEscape c).elim (decodeStringChars none pending rest) fun decoded =>
          (decodeStringChars none none rest).map (flush pending [decoded] ++ ·) := by
  rw [decodeStringChars, map_flush_append]
  · cases simpleEscape c with
    | none => rfl
    | some decoded =>
      dsimp only
      rw [map_flush_append]
      rfl
  · exact hx
  · exact fun _ h => absurd h hu
  · exact fun _ _ _ _ _ h => absurd h hu
  · exact hu
  · exact fun _ h => absurd h hreturn

theorem writes_null {rest : List Char} (h : ∀ c, rest.head? = some c → c.isDigit = false) :
    StringPart.null.Writes '\x00' rest where
  units := rfl
  decoded pending := by
    have hdigit : ¬ rest.head?.any Char.isDigit = true := by
      rw [Option.any_eq_true]
      rintro ⟨c, hc, hdigit⟩
      rw [h c hc] at hdigit
      cases hdigit
    exact (decode_backslash (by decide) (by decide) (by decide) pending rest).trans
      (if_pos ⟨rfl, hdigit⟩)

theorem simpleEscape_eq {c : Char} (h : isLineTerminator c = false) :
    simpleEscape c = some ((controlEscapes.lookup c).getD c) := by
  unfold simpleEscape
  split
  · rfl
  · rfl
  · rfl
  · rfl
  · rfl
  · rfl
  · rename_i hb hf hn hr ht hv
    have hnone : controlEscapes.lookup c = none := by
      rw [List.lookup_eq_none_iff]
      simp only [controlEscapes, List.forall_mem_cons, bne_iff_ne, ne_eq]
      exact ⟨hb, ht, hn, hv, hf, hr, nofun⟩
    rw [h, hnone]
    rfl

theorem writes_escaped {c : Char} (h : (StringPart.escaped c).isProper quote = true)
    (rest : List Char) :
    (StringPart.escaped c).Writes ((controlEscapes.lookup c).getD c) rest where
  units := rfl
  decoded pending := by
    simp only [StringPart.isProper, Bool.and_eq_true, Bool.not_eq_true', bne_iff_ne] at h
    obtain ⟨⟨⟨hterminator, hdigit⟩, hx⟩, hu⟩ := h
    have hzero : c ≠ '0' := by
      rintro rfl
      cases hdigit
    have hreturn : c ≠ '\r' := by
      rintro rfl
      cases hterminator
    change decodeStringChars none pending ('\\' :: c :: rest) = _
    rw [decode_backslash hx hu hreturn, if_neg fun hc => hzero hc.1, simpleEscape_eq hterminator]
    rfl

theorem writes_hex {a b : Char} (h : (StringPart.hex a b).isProper quote = true)
    (rest : List Char) :
    (StringPart.hex a b).Writes (Char.ofNat (hexValue [a, b])) rest := by
  simp only [StringPart.isProper, Bool.and_eq_true] at h
  have hlt := hexValue_two_lt h.1 h.2
  have hfirst : isFirstHalf (hexValue [a, b]) = false := by
    rw [Bool.eq_false_iff, ne_eq, isFirstHalf_iff]
    omega
  have hsecond : isSecondHalf (hexValue [a, b]) = false := by
    rw [Bool.eq_false_iff, ne_eq, isSecondHalf_iff]
    omega
  constructor
  · rw [← (exists_char (by omega) hfirst hsecond).2, codePointUnits, if_pos (by omega)]
    rfl
  · intro pending
    obtain ⟨a', ha⟩ := exists_digitValue h.1
    obtain ⟨b', hb⟩ := exists_digitValue h.2
    have hvalue : hexValue [a, b] = a' * 16 + b' := by
      simp only [hexValue, List.foldl_cons, List.foldl_nil, ha, hb, Option.getD_some, Nat.zero_mul,
        Nat.zero_add]
    change decodeStringChars none pending ('\\' :: 'x' :: a :: b :: rest) = _
    rw [decodeStringChars, ha, hb, hvalue, ← map_flush_append]
    rfl

theorem writes_unit {a b c d : Char} (h : (StringPart.unit a b c d).isProper quote = true)
    (hfirst : isFirstHalf (hexValue [a, b, c, d]) = false)
    (hsecond : isSecondHalf (hexValue [a, b, c, d]) = false) (rest : List Char) :
    (StringPart.unit a b c d).Writes (Char.ofNat (hexValue [a, b, c, d])) rest := by
  have hlt := (hexUnit_eq h).2
  constructor
  · rw [← (exists_char (by omega) hfirst hsecond).2, codePointUnits, if_pos hlt]
    rfl
  · intro pending
    rw [decode_unit h, if_neg (Bool.eq_false_iff.mp hfirst), if_neg (Bool.eq_false_iff.mp hsecond)]

theorem writes_braces {digits : List Char} (h : (StringPart.braces digits).isProper quote = true)
    (hfirst : isFirstHalf (hexValue digits) = false)
    (hsecond : isSecondHalf (hexValue digits) = false) (rest : List Char) :
    (StringPart.braces digits).Writes (Char.ofNat (hexValue digits)) rest := by
  have hle : hexValue digits ≤ 0x10ffff := by
    simp only [StringPart.isProper, Bool.and_eq_true, decide_eq_true_eq] at h
    exact h.2
  obtain ⟨hchar, hunits⟩ := exists_char hle hfirst hsecond
  constructor
  · exact hunits
  · intro pending
    rw [decode_braces h, hchar]
    rfl

/-- The part is decoded to the text of its code units and of what pends before it. -/
structure StringPart.Stands (p : StringPart) (rest : List Char) : Prop where
  denotes : p.units.isEmpty = false
  noPairAcross (second : List Nat) : NoPairAcross p.units second
  decoded {pending : Option Nat} (h : PendsHalf pending) :
    decodeStringChars none pending (p.text ++ rest) =
      (decodeStringChars none none rest).map (ofUtf16 (pending.toList ++ p.units) ++ ·)

theorem StringPart.Writes.stands {p : StringPart} {c : Char} {rest : List Char}
    (h : p.Writes c rest) : p.Stands rest where
  denotes := by
    rw [h.units, List.isEmpty_eq_false_iff]
    exact codePointUnits_ne_nil c.toNat
  noPairAcross second := h.units ▸ noPairAcross_utf16Units c second
  decoded hpending := by
    rw [h.decoded, h.units, flush_cons hpending, List.append_nil]

/-- A second half is decoded together with the first half that pends. -/
theorem stands_secondHalf {a b c d : Char} (h : (StringPart.unit a b c d).isProper quote = true)
    (hfirst : isFirstHalf (hexValue [a, b, c, d]) = false)
    (hsecond : isSecondHalf (hexValue [a, b, c, d]) = true) (rest : List Char) :
    (StringPart.unit a b c d).Stands rest where
  denotes := rfl
  noPairAcross second := by
    intro u hu v _
    have hu : hexValue [a, b, c, d] = u := Option.some.inj hu
    rw [← hu, hfirst, Bool.false_and]
  decoded {pending} hpending := by
    rw [decode_unit h, if_neg (Bool.eq_false_iff.mp hfirst), if_pos hsecond]
    cases pending with
    | none =>
      change _ = Option.map (ofUtf16 [hexValue [a, b, c, d]] ++ ·) _
      rw [ofUtf16, unitChar_of_half (.inr hsecond)]
      rfl
    | some first =>
      have hunits : (some first).toList ++ (StringPart.unit a b c d).units =
          [first, hexValue [a, b, c, d]] := rfl
      rw [hunits, ofUtf16_pair (hpending first rfl) hsecond, Option.elim_some, ofUtf16]

/-- A part denotes nothing, or stands for itself, or is one half of a pair that does not. -/
theorem StringPart.kinds {p : StringPart} (h : p.isProper quote = true) {rest : List Char}
    (hnull : p = .null → ∀ c, rest.head? = some c → c.isDigit = false) :
    (p.isUnitHalf = false ∧ p.isBracedHalf = false ∧
        ((∃ lineEnd, p = .lineContinuation lineEnd) ∨ p.Stands rest)) ∨
      (∃ a b c d, p = .unit a b c d ∧ isFirstHalf (hexValue [a, b, c, d]) = true) ∨
      p.isBracedHalf = true := by
  cases p with
  | plain c =>
    simp only [isProper, Bool.and_eq_true, bne_iff_ne] at h
    exact .inl ⟨rfl, rfl, .inr (writes_plain h.1.1.2 rest).stands⟩
  | escaped c => exact .inl ⟨rfl, rfl, .inr (writes_escaped h rest).stands⟩
  | null => exact .inl ⟨rfl, rfl, .inr (writes_null (hnull rfl)).stands⟩
  | hex a b => exact .inl ⟨rfl, rfl, .inr (writes_hex h rest).stands⟩
  | unit a b c d =>
    cases hfirst : isFirstHalf (hexValue [a, b, c, d]) with
    | true => exact .inr (.inl ⟨a, b, c, d, rfl, hfirst⟩)
    | false =>
      refine .inl ⟨hfirst, rfl, .inr ?_⟩
      cases hsecond : isSecondHalf (hexValue [a, b, c, d]) with
      | true => exact stands_secondHalf h hfirst hsecond rest
      | false => exact (writes_unit h hfirst hsecond rest).stands
  | braces digits =>
    cases hhalf : (braces digits).isBracedHalf with
    | true => exact .inr (.inr rfl)
    | false =>
      obtain ⟨hfirst, hsecond⟩ := Bool.or_eq_false_iff.mp hhalf
      exact .inl ⟨rfl, rfl, .inr (writes_braces h hfirst hsecond rest).stands⟩
  | lineContinuation lineEnd => exact .inl ⟨rfl, rfl, .inl ⟨lineEnd, rfl⟩⟩

/-- One half of a pair in braces denotes no character. -/
theorem decode_bracedHalf {p : StringPart} (h : p.isProper quote = true)
    (hhalf : p.isBracedHalf = true) (pending : Option Nat) (rest : List Char) :
    decodeStringChars none pending (p.text ++ rest) = none := by
  cases p with
  | braces digits =>
    rw [decode_braces h]
    have hhalf : isFirstHalf (hexValue digits) = true ∨ isSecondHalf (hexValue digits) = true := by
      simpa [StringPart.isBracedHalf] using hhalf
    rw [isFirstHalf_iff, isSecondHalf_iff] at hhalf
    have hno : ¬ (hexValue digits).isValidChar := by
      unfold Nat.isValidChar
      omega
    rw [charOf?, if_neg hno]
    rfl
  | _ => cases hhalf

/-! ## The parts of a literal -/

namespace StringPart

/-- The first of the parts that denotes anything is a first half with four digits. -/
def leadsWithHalf : List StringPart → Bool
  | [] => false
  | p :: rest => p.isUnitHalf || (p.units.isEmpty && leadsWithHalf rest)

/-- The first half is forgotten that such a part writes right before another one. -/
def isForgotten (p : StringPart) (rest : List StringPart) : Bool :=
  p.isUnitHalf && leadsWithHalf rest

/-- The code units that are not forgotten. -/
def keptUnits : List StringPart → List Nat
  | [] => []
  | p :: rest => (if p.isForgotten rest then [] else p.units) ++ keptUnits rest

/-- How many code units are forgotten. -/
def forgotten : List StringPart → Nat
  | [] => 0
  | p :: rest => (if p.isForgotten rest then 1 else 0) + forgotten rest

/-- A part begins with a backslash, unless it is a plain character. -/
theorem exists_text_eq (p : StringPart) :
    ∃ c cs, p.text = c :: cs ∧ (p = .plain c ∨ c = '\\') := by
  cases p with
  | plain c => exact ⟨c, [], rfl, .inl rfl⟩
  | _ => exact ⟨_, _, rfl, .inr rfl⟩

theorem head?_bodyText_ne {parts : List StringPart} (h : ∀ p ∈ parts, p.isProper quote = true) :
    (bodyText parts).head? ≠ some '\n' := by
  cases parts with
  | nil => exact nofun
  | cons p rest =>
    obtain ⟨c, cs, htext, hc⟩ := p.exists_text_eq
    change (p.text ++ bodyText rest).head? ≠ _
    rw [htext]
    rintro ⟨⟩
    rcases hc with rfl | hc
    · have hproper := h _ List.mem_cons_self
      simp [isProper] at hproper
    · cases hc

theorem isDigit_head?_bodyText {p : StringPart} {parts : List StringPart}
    (h : (p :: parts).IsChain fun p q => p = .null → q.isPlainDigit = false) (hnull : p = .null)
    {c : Char} (hc : (bodyText parts).head? = some c) : c.isDigit = false := by
  cases parts with
  | nil => cases hc
  | cons q rest =>
    have hq := (List.isChain_cons_cons.mp h).1 hnull
    obtain ⟨d, cs, htext, hd⟩ := q.exists_text_eq
    change (q.text ++ bodyText rest).head? = some c at hc
    rw [htext] at hc
    cases hc
    rcases hd with rfl | rfl
    · exact hq
    · rfl

/-- The parts of a literal are decoded to the text of the code units that are kept, with the first
half that pends if it is not forgotten. -/
theorem decode_bodyText {parts : List StringPart} (h : ∀ p ∈ parts, p.isProper quote = true)
    (hnulls : parts.IsChain fun p q => p = .null → q.isPlainDigit = false) {pending : Option Nat}
    (hpending : PendsHalf pending) :
    decodeStringChars none pending (bodyText parts) =
      if parts.any isBracedHalf then none
      else some (ofUtf16
        ((if leadsWithHalf parts then [] else pending.toList) ++ keptUnits parts)) := by
  induction parts generalizing pending with
  | nil =>
    cases pending with
    | none => rfl
    | some first =>
      change some [replacementChar] = some [unitChar first]
      rw [unitChar_of_half (.inl (hpending first rfl))]
  | cons p rest ih =>
    obtain ⟨hp, hrest⟩ := List.forall_mem_cons.mp h
    have ih := fun {pending} => @ih hrest hnulls.tail pending
    have hnull : p = .null → ∀ c, (bodyText rest).head? = some c → c.isDigit = false :=
      fun hnull _ => isDigit_head?_bodyText hnulls hnull
    change decodeStringChars none pending (p.text ++ bodyText rest) = _
    rcases kinds hp hnull with ⟨hunit, hbraced, ⟨lineEnd, rfl⟩ | hstands⟩ |
      ⟨a, b, c, d, rfl, hhalf⟩ | hbraced
    · rw [decode_lineContinuation hp _ (head?_bodyText_ne hrest), ih hpending]
      rfl
    · have hacross : NoPairAcross (pending.toList ++ p.units) (keptUnits rest) := by
        unfold NoPairAcross
        rw [List.getLast?_append_of_ne_nil _ (List.isEmpty_eq_false_iff.mp hstands.denotes)]
        exact hstands.noPairAcross _
      have hleads : leadsWithHalf (p :: rest) = false := by
        rw [leadsWithHalf, hunit, hstands.denotes]
        rfl
      have hkept : keptUnits (p :: rest) = p.units ++ keptUnits rest := by
        rw [keptUnits, isForgotten, hunit]
        rfl
      rw [hstands.decoded hpending, ih pendsHalf_none, List.any_cons, hbraced, hleads, hkept,
        ← List.append_assoc, if_neg Bool.false_ne_true, ofUtf16_append hacross, Bool.false_or]
      cases rest.any isBracedHalf with
      | true => rfl
      | false =>
        simp only [Option.toList_none, ite_self, List.nil_append]
        rfl
    · have hpends : PendsHalf (some (hexValue [a, b, c, d])) := by
        intro u hu
        cases hu
        exact hhalf
      have hleads : leadsWithHalf (unit a b c d :: rest) = true := by
        rw [leadsWithHalf, isUnitHalf, hhalf]
        rfl
      have hkept : keptUnits (unit a b c d :: rest) =
          (if leadsWithHalf rest then [] else [hexValue [a, b, c, d]]) ++ keptUnits rest := by
        rw [keptUnits, isForgotten, isUnitHalf, hhalf]
        rfl
      rw [decode_unit hp, if_pos hhalf, ih hpends, hleads, hkept]
      rfl
    · rw [decode_bracedHalf hp hbraced, List.any_cons, hbraced]
      rfl

/-! ## What is forgotten -/

theorem isFirstHalf_head?_of_leadsWithHalf {parts : List StringPart}
    (h : leadsWithHalf parts = true) :
    ∃ u rest, parts.flatMap units = u :: rest ∧ isFirstHalf u = true := by
  induction parts with
  | nil => cases h
  | cons p rest ih =>
    rw [leadsWithHalf, Bool.or_eq_true, Bool.and_eq_true] at h
    rcases h with hunit | ⟨hnone, hleads⟩
    · cases p with
      | unit a b c d => exact ⟨_, _, rfl, hunit⟩
      | _ => cases hunit
    · obtain ⟨u, others, heq, hu⟩ := ih hleads
      refine ⟨u, others, ?_, hu⟩
      rw [List.flatMap_cons, List.isEmpty_iff.mp hnone]
      exact heq

/-- What denotes nothing is no first half. -/
theorem isUnitHalf_eq_false {p : StringPart} (h : p.units.isEmpty = true) :
    p.isUnitHalf = false := by
  cases p with
  | unit a b c d => cases h
  | _ => rfl

theorem leadsWithHalf_iff {parts : List StringPart} :
    leadsWithHalf parts = true ↔
      ∃ p, (parts.filter fun p => !p.units.isEmpty).head? = some p ∧ p.isUnitHalf = true := by
  induction parts with
  | nil => exact ⟨nofun, fun ⟨_, h, _⟩ => nomatch h⟩
  | cons p rest ih =>
    rw [leadsWithHalf]
    cases hnone : p.units.isEmpty with
    | true =>
      rw [List.filter_cons_of_neg (by rw [hnone]; decide), isUnitHalf_eq_false hnone,
        Bool.false_or, Bool.true_and]
      exact ih
    | false =>
      rw [List.filter_cons_of_pos (by rw [hnone]; rfl), Bool.false_and, Bool.or_false]
      exact ⟨fun h => ⟨p, rfl, h⟩, fun ⟨q, hq, h⟩ => Option.some.inj hq ▸ h⟩

/-- Nothing is forgotten if no first half comes right before another one. -/
theorem forgotten_eq_zero_iff {parts : List StringPart} :
    forgotten parts = 0 ↔
      (parts.filter fun p => !p.units.isEmpty).IsChain fun p q =>
        ¬ (p.isUnitHalf = true ∧ q.isUnitHalf = true) := by
  induction parts with
  | nil => exact ⟨fun _ => .nil, fun _ => rfl⟩
  | cons p rest ih =>
    have hone : ∀ b : Bool, (if b = true then 1 else 0) = 0 ↔ ¬ b = true := by decide
    rw [forgotten, Nat.add_eq_zero_iff, ih, hone, isForgotten, Bool.and_eq_true, leadsWithHalf_iff]
    cases hnone : p.units.isEmpty with
    | true =>
      rw [List.filter_cons_of_neg (by rw [hnone]; decide), isUnitHalf_eq_false hnone]
      simp only [Bool.false_eq_true, false_and, not_false_eq_true, true_and]
    | false =>
      rw [List.filter_cons_of_pos (by rw [hnone]; rfl), List.isChain_cons]
      refine and_congr_left fun _ => ⟨fun h q hq hboth => ?_, fun h => ?_⟩
      · exact h ⟨hboth.1, q, hq, hboth.2⟩
      · rintro ⟨hp, q, hq, hhalf⟩
        exact h q hq ⟨hp, hhalf⟩

theorem keptUnits_eq {parts : List StringPart} (h : forgotten parts = 0) :
    keptUnits parts = parts.flatMap units := by
  induction parts with
  | nil => rfl
  | cons p rest ih =>
    rw [forgotten, Nat.add_eq_zero_iff] at h
    cases hforgotten : p.isForgotten rest with
    | true => simp [hforgotten] at h
    | false =>
      rw [keptUnits, hforgotten, ih h.2]
      rfl

/-- Each first half that is forgotten would be a character of its own. -/
theorem length_ofUtf16 (before : List Nat) (parts : List StringPart) :
    (ofUtf16 (before ++ parts.flatMap units)).length =
      (ofUtf16 (before ++ keptUnits parts)).length + forgotten parts := by
  induction parts generalizing before with
  | nil => rfl
  | cons p rest ih =>
    rw [List.flatMap_cons, keptUnits, forgotten]
    cases hforgotten : p.isForgotten rest with
    | false =>
      have hp := ih (before ++ p.units)
      rw [List.append_assoc, List.append_assoc] at hp
      simpa using hp
    | true =>
      obtain ⟨hunit, hleads⟩ := Bool.and_eq_true_iff.mp hforgotten
      obtain ⟨u, others, heq, hu⟩ := isFirstHalf_head?_of_leadsWithHalf hleads
      cases p with
      | unit a b c d =>
        have hsecond := isSecondHalf_eq_false_of_isFirstHalf hu
        have hsplit : ∀ v others, isFirstHalf v = true →
            ofUtf16 (before ++ v :: others) = ofUtf16 before ++ ofUtf16 (v :: others) := by
          intro v others hv
          refine ofUtf16_append fun _ _ w hw => ?_
          rw [← Option.some.inj hw, isSecondHalf_eq_false_of_isFirstHalf hv, Bool.and_false]
        have hih := ih before
        rw [heq, hsplit u others hu] at hih
        have hlost : ofUtf16 (hexValue [a, b, c, d] :: u :: others) =
            replacementChar :: ofUtf16 (u :: others) :=
          ofUtf16_cons_of_isFirstHalf hunit fun w hw => Option.some.inj hw ▸ hsecond
        change (ofUtf16 (before ++ hexValue [a, b, c, d] :: rest.flatMap units)).length =
          (ofUtf16 (before ++ keptUnits rest)).length + (1 + forgotten rest)
        rw [heq, hsplit _ _ hunit, hlost, List.length_append, List.length_cons]
        rw [List.length_append] at hih
        omega
      | _ => cases hunit

end StringPart

/-! ## Whole literals -/

namespace StringLiteral

/-- The text that the literal denotes. A half of a surrogate pair without the other one becomes
U+FFFD. -/
def denoted (l : StringLiteral) : String := String.ofList (ofUtf16 l.units)

/-- No half of a surrogate pair is written in braces. -/
def NoBracedHalf (l : StringLiteral) : Prop := ∀ p ∈ l.parts, p.isBracedHalf = false

/-- No first half of a surrogate pair that is written with four digits comes right before another
one. Between them may be line continuations. -/
def HalvesApart (l : StringLiteral) : Prop :=
  (l.parts.filter fun p => !p.units.isEmpty).IsChain fun p q =>
    ¬ (p.isUnitHalf = true ∧ q.isUnitHalf = true)

theorem utf8Size_quote (l : StringLiteral) : l.quote.utf8Size = 1 := by
  rcases l.isQuote with h | h
  · rw [h]
    rfl
  · rw [h]
    rfl

/-- A literal is decoded to the text of the code units that are kept, if none is half of a pair in
braces. -/
theorem decodeString_text (l : StringLiteral) :
    decodeString l.text =
      if l.parts.any StringPart.isBracedHalf then none
      else some (String.ofList (ofUtf16 (StringPart.keptUnits l.parts))) := by
  unfold decodeString text
  rw [String.toList_ofList]
  dsimp only
  rw [List.getLast?_concat]
  dsimp only
  rw [if_pos ⟨l.utf8Size_quote, l.utf8Size_quote⟩, List.dropLast_concat,
    StringPart.decode_bodyText l.proper l.nulls pendsHalf_none]
  cases l.parts.any StringPart.isBracedHalf with
  | true => rfl
  | false =>
    simp only [Option.toList_none, ite_self, List.nil_append]
    rfl

/-- **What string literals denote.** A literal is decoded, unless it has half of a surrogate pair in
braces, and it is decoded to the text of its UTF-16 code units, unless it also has one first half
right before another one: of two such, the one before is forgotten. -/
theorem decodeString_eq_denoted_iff (l : StringLiteral) :
    (decodeString l.text = none ↔ ¬ l.NoBracedHalf) ∧
      (decodeString l.text = some l.denoted ↔ l.NoBracedHalf ∧ l.HalvesApart) := by
  rw [decodeString_text]
  cases hany : l.parts.any StringPart.isBracedHalf with
  | true =>
    have hbraced : ¬ l.NoBracedHalf := by
      obtain ⟨p, hp, hhalf⟩ := List.any_eq_true.mp hany
      intro hno
      rw [hno p hp] at hhalf
      cases hhalf
    exact ⟨⟨fun _ => hbraced, fun _ => rfl⟩, nofun, fun h => absurd h.1 hbraced⟩
  | false =>
    have hno : l.NoBracedHalf := fun p hp =>
      Bool.eq_false_iff.mpr (List.any_eq_false.mp hany p hp)
    refine ⟨⟨nofun, fun h => absurd hno h⟩, fun h => ⟨hno, ?_⟩, fun h => ?_⟩
    · have hkept : ofUtf16 (StringPart.keptUnits l.parts) = ofUtf16 l.units :=
        String.ofList_injective (Option.some.inj h)
      have hlength := StringPart.length_ofUtf16 [] l.parts
      rw [List.nil_append, List.nil_append, hkept] at hlength
      change (ofUtf16 l.units).length = _ at hlength
      exact StringPart.forgotten_eq_zero_iff.mp (by omega)
    · rw [StringPart.keptUnits_eq (StringPart.forgotten_eq_zero_iff.mpr h.2)]
      rfl

/-- The first one of two first halves is forgotten, and a pair in braces is not decoded at all. -/
theorem doubledHalf_denotes_more :
    (∃ l : StringLiteral, l.text = "'\\uD800\\uD800'" ∧ l.denoted = "\ufffd\ufffd" ∧
        decodeString l.text = some "\ufffd") ∧
      ∃ l : StringLiteral, l.text = "'\\u\x7bD83D\x7d\\u\x7bDE00\x7d'" ∧ l.denoted = "😀" ∧
        decodeString l.text = none := by
  refine ⟨⟨⟨'\'', [.unit 'D' '8' '0' '0', .unit 'D' '8' '0' '0'], .inr rfl, by decide, ?_⟩, ?_⟩,
    ⟨⟨'\'', [.braces ['D', '8', '3', 'D'], .braces ['D', 'E', '0', '0']], .inr rfl, by decide, ?_⟩,
      ?_⟩⟩
  · decide
  · decide
  · decide
  · decide

end StringLiteral
end ModuleBundler
