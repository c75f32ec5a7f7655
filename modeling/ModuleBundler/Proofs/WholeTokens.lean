import ModuleBundler.Proofs.StringLiterals
import ModuleBundler.Proofs.TokenGaps

/-!
# String literals and names as tokens

* `AtToken.nextToken_eq` : where no gap begins, a token begins at once;
* `StringPart.scanString_bodyText` : a string is read over its parts, however they are written;
* `StringLiteral.nextToken_text` : a string literal of strict code is one token;
* `isIdentifierStart_of_blank` : no name begins with a blank or the end of a line;
* `nextToken_name` : a name is one token, a keyword or not.
-/

namespace ModuleBundler

/-! ## Tokens without a gap before them -/

theorem atToken_cons {c : Char} (hwhitespace : isWhitespace c = false)
    (hterminator : isLineTerminator c = false) (hslash : c ≠ '/') (cs : List Char) :
    AtToken (c :: cs) where
  head d hd := by
    cases hd
    exact ⟨hwhitespace, hterminator⟩
  comment _ := ⟨fun h => hslash (List.cons.inj h).1, fun h => hslash (List.cons.inj h).1⟩

/-- Nothing is skipped where a token begins. -/
theorem AtToken.skipTrivia_eq {place : Cursor} (h : AtToken place.rest)
    (hmark : place.rest.head? ≠ some '#') : place.skipTrivia = (false, place) := by
  obtain ⟨gap, hrest, hoffset, hbreak, hgap, -⟩ := place.exists_gapAt
  have hnone : gap = [] := by
    cases hgap with
    | plain hgap => exact h.gap_eq_nil hrest hgap
    | hashbang =>
      rw [hrest] at hmark
      exact absurd rfl hmark
  subst hnone
  refine Prod.ext hbreak ?_
  obtain ⟨offset, rest⟩ := place
  change Cursor.tokenStart ⟨offset, rest⟩ = _
  cases hstart : Cursor.tokenStart ⟨offset, rest⟩ with
  | mk offset' rest' =>
    rw [hstart] at hrest hoffset
    cases hrest
    cases hoffset
    rfl

/-- Where a token begins it is read up to where its text ends. -/
theorem AtToken.nextToken_eq {place : Cursor} (h : AtToken place.rest)
    (hmark : place.rest.head? ≠ some '#') {type : TokenType} {text rest : List Char}
    (hrest : place.rest = text ++ rest)
    (hscan : scanToken false place = ⟨type, ⟨place.offset + byteLength text, rest⟩⟩) :
    nextToken .standard place =
      (⟨type, ⟨place.offset, place.offset + byteLength text⟩, false, String.ofList text⟩,
        ⟨place.offset + byteLength text, rest⟩) := by
  have htext : place.textUpTo (place.offset + byteLength text) = String.ofList text :=
    congrArg String.ofList (Cursor.upTo_eq (d := ⟨place.offset + byteLength text, rest⟩) hrest rfl)
  unfold nextToken
  dsimp only
  rw [h.skipTrivia_eq hmark]
  dsimp only
  rw [hscan, htext]

/-! ## String literals -/

theorem scanString_plain {quote c : Char} (h : plainInString quote c = true) (offset : Nat)
    (rest : List Char) :
    scanString quote offset (c :: rest) = scanString quote (offset + c.utf8Size) rest := by
  simp only [plainInString, Bool.and_eq_true, decide_eq_true_eq] at h
  rw [scanString, if_neg h.1.2, if_neg h.2]
  all_goals simp [h.1.1]

theorem scanString_plains {quote : Char} {cs : List Char}
    (h : ∀ c ∈ cs, plainInString quote c = true) (offset : Nat) (rest : List Char) :
    scanString quote offset (cs ++ rest) = scanString quote (offset + byteLength cs) rest := by
  induction cs generalizing offset with
  | nil => rfl
  | cons c cs ih =>
    obtain ⟨hc, hcs⟩ := List.forall_mem_cons.mp h
    rw [List.cons_append, scanString_plain hc, ih hcs, byteLength_cons, Nat.add_assoc]

/-- What follows a backslash is passed over, two characters if they end one line. -/
theorem scanString_backslash (quote : Char) {c : Char} {rest : List Char}
    (h : c = '\r' → rest.head? ≠ some '\n') (offset : Nat) :
    scanString quote offset ('\\' :: c :: rest) =
      scanString quote (offset + 1 + c.utf8Size) rest := by
  rw [scanString]
  rintro others rfl rfl
  exact h rfl rfl

theorem plainInString_of_isHexDigit {quote c : Char} (hquote : quote = '"' ∨ quote = '\'')
    (h : isHexDigit c = true) : plainInString quote c = true := by
  have hne : ∀ d : Char, isHexDigit d = false → c ≠ d := by
    rintro d hd rfl
    rw [hd] at h
    cases h
  have hc : c ≠ quote := by
    rcases hquote with rfl | rfl
    · exact hne _ (by decide)
    · exact hne _ (by decide)
  simp [plainInString, hne '\\' (by decide), hne '\n' (by decide), hc]

/-- An escape is passed over, however many plain characters belong to it. -/
theorem scanString_escape {quote c : Char} (cs : List Char) (hreturn : c ≠ '\r')
    (hcs : ∀ d ∈ cs, plainInString quote d = true) (offset : Nat) (rest : List Char) :
    scanString quote offset ('\\' :: c :: cs ++ rest) =
      scanString quote (offset + byteLength ('\\' :: c :: cs)) rest := by
  have hsize : '\\'.utf8Size = 1 := rfl
  rw [List.cons_append, List.cons_append, scanString_backslash quote (fun h => absurd h hreturn),
    scanString_plains hcs, byteLength_cons, byteLength_cons, hsize, Nat.add_assoc, Nat.add_assoc]

/-- A part is passed over as a whole. -/
theorem StringPart.scanString_text {quote : Char} (hquote : quote = '"' ∨ quote = '\'')
    {p : StringPart} (hp : p.isProper quote = true) {rest : List Char}
    (hrest : rest.head? ≠ some '\n') (offset : Nat) :
    scanString quote offset (p.text ++ rest) =
      scanString quote (offset + byteLength p.text) rest := by
  have hdigit := @plainInString_of_isHexDigit quote
  cases p with
  | plain c =>
    simp only [isProper, Bool.and_eq_true, bne_iff_ne] at hp
    have hplain : plainInString quote c = true := by simp [plainInString, hp]
    exact scanString_plains (List.forall_mem_singleton.mpr hplain) offset rest
  | escaped c =>
    refine scanString_escape [] ?_ (List.forall_mem_nil _) offset rest
    rintro rfl
    cases hp
  | null => exact scanString_escape [] (by decide) (List.forall_mem_nil _) offset rest
  | hex a b =>
    simp only [isProper, Bool.and_eq_true] at hp
    refine scanString_escape [a, b] (by decide) ?_ offset rest
    simp [hdigit hquote hp.1, hdigit hquote hp.2]
  | unit a b c d =>
    simp only [isProper, Bool.and_eq_true] at hp
    obtain ⟨⟨⟨ha, hb⟩, hc⟩, hd⟩ := hp
    refine scanString_escape [a, b, c, d] (by decide) ?_ offset rest
    simp [hdigit hquote ha, hdigit hquote hb, hdigit hquote hc, hdigit hquote hd]
  | braces digits =>
    simp only [isProper, Bool.and_eq_true, List.all_eq_true] at hp
    refine scanString_escape ('\x7b' :: (digits ++ ['\x7d'])) (by decide) ?_ offset rest
    have hbraces : plainInString quote '\x7b' = true ∧ plainInString quote '\x7d' = true := by
      rcases hquote with rfl | rfl
      · decide
      · decide
    rw [List.forall_mem_cons, List.forall_mem_append, List.forall_mem_singleton]
    exact ⟨hbraces.1, fun d hd => hdigit hquote (hp.1.2 d hd), hbraces.2⟩
  | lineContinuation lineEnd =>
    have hends : lineEnd = ['\n'] ∨ lineEnd = ['\r'] ∨ lineEnd = ['\r', '\n'] ∨
        lineEnd = ['\u2028'] ∨ lineEnd = ['\u2029'] := by
      simpa [isProper] using hp
    rcases hends with rfl | rfl | rfl | rfl | rfl
    · exact scanString_escape [] (by decide) (List.forall_mem_nil _) offset rest
    · exact scanString_backslash quote (fun _ => hrest) offset
    · change scanString quote offset ('\\' :: '\r' :: '\n' :: rest) = _
      rw [scanString]
      rfl
    · exact scanString_escape [] (by decide) (List.forall_mem_nil _) offset rest
    · exact scanString_escape [] (by decide) (List.forall_mem_nil _) offset rest

theorem StringPart.scanString_bodyText {quote : Char} (hquote : quote = '"' ∨ quote = '\'')
    {parts : List StringPart} (h : ∀ p ∈ parts, p.isProper quote = true) {rest : List Char}
    (hrest : rest.head? ≠ some '\n') (offset : Nat) :
    scanString quote offset (bodyText parts ++ rest) =
      scanString quote (offset + byteLength (bodyText parts)) rest := by
  induction parts generalizing offset with
  | nil => rfl
  | cons p parts ih =>
    obtain ⟨hp, hparts⟩ := List.forall_mem_cons.mp h
    have hhead : (bodyText parts ++ rest).head? ≠ some '\n' := by
      rw [List.head?_append]
      cases hbody : (bodyText parts).head? with
      | none => exact hrest
      | some c => exact fun heq => head?_bodyText_ne hparts (hbody.trans heq)
    change scanString quote offset ((p.text ++ bodyText parts) ++ rest) =
      scanString quote (offset + byteLength (p.text ++ bodyText parts)) rest
    rw [List.append_assoc, scanString_text hquote hp hhead, ih hparts, byteLength_append,
      Nat.add_assoc]

/-- A quote begins a string, and ends it. -/
theorem scanToken_quote {quote : Char} (hquote : quote = '"' ∨ quote = '\'') (offset : Nat)
    (rest : List Char) :
    scanToken false ⟨offset, quote :: rest⟩ = scanString quote (offset + 1) rest := by
  rcases hquote with rfl | rfl
  · rfl
  · rfl

theorem scanString_quote {quote : Char} (hquote : quote = '"' ∨ quote = '\'') (offset : Nat)
    (rest : List Char) :
    scanString quote offset (quote :: rest) = ⟨.literalString, ⟨offset + 1, rest⟩⟩ := by
  rcases hquote with rfl | rfl
  · rfl
  · rfl

namespace StringLiteral

/-- A string literal of strict code is read as one token. -/
theorem nextToken_text (l : StringLiteral) {place : Cursor} {rest : List Char}
    (hrest : place.rest = l.text.toList ++ rest) :
    nextToken .standard place =
      (⟨.literalString, ⟨place.offset, place.offset + byteLength l.text.toList⟩, false, l.text⟩,
        ⟨place.offset + byteLength l.text.toList, rest⟩) := by
  obtain ⟨offset, cs⟩ := place
  have htext : l.text.toList = l.quote :: (StringPart.bodyText l.parts ++ [l.quote]) :=
    String.toList_ofList
  have hcs : cs = l.quote :: (StringPart.bodyText l.parts ++ l.quote :: rest) := by
    rw [htext, List.cons_append, List.append_assoc] at hrest
    exact hrest
  have hquote : isWhitespace l.quote = false ∧ isLineTerminator l.quote = false ∧
      l.quote ≠ '/' ∧ l.quote ≠ '#' ∧ l.quote ≠ '\n' := by
    rcases l.isQuote with h | h
    · rw [h]
      decide
    · rw [h]
      decide
  obtain ⟨hwhitespace, hterminator, hslash, hmark, hfeed⟩ := hquote
  have htoken : AtToken cs := hcs ▸ atToken_cons hwhitespace hterminator hslash _
  have hhead : cs.head? ≠ some '#' := by
    rw [hcs]
    exact fun heq => hmark (Option.some.inj heq)
  have hlength : byteLength l.text.toList = 1 + byteLength (StringPart.bodyText l.parts) + 1 := by
    rw [htext, byteLength_cons, byteLength_append, byteLength_cons, l.utf8Size_quote,
      byteLength_nil, Nat.add_assoc]
  have hscan : scanToken false ⟨offset, cs⟩ =
      ⟨.literalString, ⟨offset + byteLength l.text.toList, rest⟩⟩ := by
    have hbody : (l.quote :: rest).head? ≠ some '\n' := fun heq => hfeed (Option.some.inj heq)
    rw [hcs, scanToken_quote l.isQuote, StringPart.scanString_bodyText l.isQuote l.proper hbody,
      scanString_quote l.isQuote, hlength, Nat.add_assoc, Nat.add_assoc, Nat.add_assoc]
  have hall := htoken.nextToken_eq hhead hrest hscan
  rw [String.ofList_toList] at hall
  exact hall

end StringLiteral

/-! ## Names -/

/-- The blanks and line ends beyond ASCII, by the ranges of their numbers. -/
def blankRanges : List (Nat × Nat) :=
  [(0xa0, 0xa0), (0x1680, 0x1680), (0x2000, 0x200a), (0x2028, 0x2029), (0x202f, 0x202f),
    (0x205f, 0x205f), (0x3000, 0x3000), (0xfeff, 0xfeff)]

/-- A number is in none of the ranges if it comes after or before each. -/
theorem not_in_ranges {ranges : Array (Nat × Nat)} {n : Nat}
    (h : ∀ r ∈ ranges.toList, r.2 < n ∨ n < r.1) :
    (ranges.any fun r => r.1 ≤ n && n ≤ r.2) = false := by
  rw [← Array.any_toList, List.any_eq_false]
  intro r hr
  have hapart := h r hr
  simp only [Bool.and_eq_true, decide_eq_true_eq]
  omega

theorem blankRanges_disjoint :
    (alphabeticRanges.toList.all fun r =>
      blankRanges.all fun b => Nat.blt b.2 r.1 || Nat.blt r.2 b.1) = true := by decide +kernel

theorem isIdentifierStart_of_mem_blankRanges {c : Char} {b : Nat × Nat} (hb : b ∈ blankRanges)
    (hfirst : b.1 ≤ c.toNat) (hlast : c.toNat ≤ b.2) : isIdentifierStart c = false := by
  have habove : ∀ b ∈ blankRanges, 0x80 ≤ b.1 := by decide
  have hlarge : 0x80 ≤ c.toNat := Nat.le_trans (habove b hb) hfirst
  have hne : ∀ d : Char, d.toNat < 0x80 → c ≠ d := by
    rintro d hd rfl
    omega
  have hletter : c.isAlpha = false := by
    rw [Bool.eq_false_iff]
    intro hletter
    have hval : c.val.toNat = c.toNat := rfl
    rcases Bool.or_eq_true_iff.mp hletter with hupper | hlower
    · have hle : c.val.toNat ≤ 90 := (of_decide_eq_true hupper).2
      omega
    · have hle : c.val.toNat ≤ 122 := of_decide_eq_true (Bool.and_eq_true_iff.mp hlower).2
      omega
  have halphabetic : isAlphabetic c = false := by
    refine not_in_ranges fun r hr => ?_
    have hapart := List.all_eq_true.mp (List.all_eq_true.mp blankRanges_disjoint r hr) b hb
    simp only [Bool.or_eq_true, Nat.blt_eq] at hapart
    omega
  simp [isIdentifierStart, hletter, halphabetic, hne '$' (by decide), hne '_' (by decide)]

/-- No name begins with what stands between tokens. -/
theorem isIdentifierStart_of_blank {c : Char}
    (h : isWhitespace c = true ∨ isLineTerminator c = true) : isIdentifierStart c = false := by
  have hkinds : c ∈ ['\t', '\x0b', '\x0c', ' ', '\n', '\r'] ∨
      ∃ b ∈ blankRanges, b.1 ≤ c.toNat ∧ c.toNat ≤ b.2 := by
    simp only [isWhitespace, isLineTerminator, Bool.or_eq_true, Bool.and_eq_true,
      decide_eq_true_eq] at h
    rcases h with ((((((((((rfl | rfl) | rfl) | rfl) | rfl) | rfl) | hspace) | rfl) | rfl) | rfl) |
      rfl) | ((rfl | rfl) | rfl) | rfl
    case inl.inl.inl.inl.inl.inr => exact .inr ⟨(0x2000, 0x200a), by decide, hspace⟩
    all_goals decide
  rcases hkinds with hascii | ⟨b, hb, hfirst, hlast⟩
  · have hnone : (['\t', '\x0b', '\x0c', ' ', '\n', '\r'].all fun c =>
        !isIdentifierStart c) = true := by decide +kernel
    have hc := List.all_eq_true.mp hnone c hascii
    rwa [Bool.not_eq_true'] at hc
  · exact isIdentifierStart_of_mem_blankRanges hb hfirst hlast

/-- A name does not go on in the text. -/
def EndsName (rest : List Char) : Prop :=
  ∀ c, rest.head? = some c → isIdentifierContinue c = false ∧ c ≠ '\\'

theorem scanName_between {cs rest : List Char} (hcs : ∀ c ∈ cs, isIdentifierContinue c = true)
    (hrest : EndsName rest) (offset : Nat) :
    scanName .between offset (cs ++ rest) = .ok ⟨offset + byteLength cs, rest⟩ := by
  induction cs generalizing offset with
  | nil =>
    cases rest with
    | nil => rfl
    | cons c rest =>
      obtain ⟨hc, hbackslash⟩ := hrest c rfl
      change scanName .between offset (c :: rest) = _
      rw [scanName, if_neg hbackslash, if_neg (Bool.eq_false_iff.mp hc)]
      rfl
  | cons c cs ih =>
    obtain ⟨hc, hcs⟩ := List.forall_mem_cons.mp hcs
    have hbackslash : c ≠ '\\' := by
      rintro rfl
      revert hc
      decide
    rw [List.cons_append, scanName, if_neg hbackslash, if_pos hc, ih hcs, byteLength_cons,
      Nat.add_assoc]

theorem scanWord_name {first : Char} {more rest : List Char}
    (hname : isIdentifierName (first :: more) = true) (hends : EndsName rest) (offset : Nat) :
    scanWord ⟨offset, first :: more ++ rest⟩ =
      ⟨wordType (String.ofList (first :: more)),
        ⟨offset + byteLength (first :: more), rest⟩⟩ := by
  obtain ⟨hfirst, hmore⟩ := Bool.and_eq_true_iff.mp hname
  have hbackslash : ¬ (first :: more ++ rest).head? = some '\\' := by
    intro heq
    rw [Option.some.inj heq] at hfirst
    cases hfirst
  have hskip : Cursor.skip ⟨offset, first :: more ++ rest⟩ =
      ⟨offset + first.utf8Size, more ++ rest⟩ := rfl
  have hscan : Cursor.scanName ⟨offset, first :: more ++ rest⟩ =
      .ok ⟨offset + byteLength (first :: more), rest⟩ := by
    unfold Cursor.scanName
    dsimp only
    rw [if_neg hbackslash, hskip, scanName_between (List.all_eq_true.mp hmore) hends,
      byteLength_cons, Nat.add_assoc]
  have htext : Cursor.upTo (offset + byteLength (first :: more)) ⟨offset, first :: more ++ rest⟩ =
      first :: more :=
    Cursor.upTo_eq (d := ⟨offset + byteLength (first :: more), rest⟩) rfl rfl
  unfold scanWord
  rw [hscan]
  dsimp only
  rw [Cursor.textUpTo, htext]

/-- A name is read as one token. -/
theorem nextToken_name {name : String} (hname : isIdentifierName name.toList = true)
    {place : Cursor} {rest : List Char} (hrest : place.rest = name.toList ++ rest)
    (hends : EndsName rest) :
    nextToken .standard place =
      (⟨wordType name, ⟨place.offset, place.offset + byteLength name.toList⟩, false, name⟩,
        ⟨place.offset + byteLength name.toList, rest⟩) := by
  obtain ⟨offset, cs⟩ := place
  cases hchars : name.toList with
  | nil =>
    rw [hchars] at hname
    cases hname
  | cons first more =>
    rw [hchars] at hname hrest
    obtain ⟨hfirst, hmore⟩ := Bool.and_eq_true_iff.mp hname
    have hcs : cs = first :: (more ++ rest) := hrest
    have hne : ∀ d : Char, isIdentifierStart d = false → first ≠ d := by
      rintro d hd rfl
      rw [hd] at hfirst
      cases hfirst
    have htoken : AtToken cs := by
      rw [hcs]
      refine atToken_cons ?_ ?_ (hne '/' (by decide)) _
      · rw [Bool.eq_false_iff]
        intro hblank
        rw [isIdentifierStart_of_blank (.inl hblank)] at hfirst
        cases hfirst
      · rw [Bool.eq_false_iff]
        intro hblank
        rw [isIdentifierStart_of_blank (.inr hblank)] at hfirst
        cases hfirst
    have hhead : cs.head? ≠ some '#' := by
      rw [hcs]
      exact fun heq => hne '#' (by decide) (Option.some.inj heq)
    have hscan : scanToken false ⟨offset, cs⟩ =
        ⟨wordType name, ⟨offset + byteLength (first :: more), rest⟩⟩ := by
      unfold scanToken
      rw [hcs]
      dsimp only
      rw [if_pos (by rw [hfirst, Bool.or_true]), ← List.cons_append, scanWord_name hname hends,
        ← hchars, String.ofList_toList]
    have hall := htoken.nextToken_eq hhead hrest hscan
    rw [← hchars, String.ofList_toList] at hall
    rw [← hchars]
    exact hall

end ModuleBundler
