import ModuleBundler.Emit
import ModuleBundler.Grammar.ImportExport
import ModuleBundler.Proofs.Reading
import ModuleBundler.Proofs.WholeTokens

/-!
# Names that are written and read back

* `quotedLiteral` : the string literal that a text is quoted as;
* `decodeString_quoteJson` : it is decoded to the text;
* `exportName_readBack` : what is written for a name is read as that name.
-/

namespace ModuleBundler

/-! ## Quoting -/

/-- The characters that are quoted by a backslash and one character. -/
def jsonEscapes : List (Char × Char) :=
  [('"', '"'), ('\\', '\\'), ('\x08', 'b'), ('\x09', 't'), ('\x0a', 'n'), ('\x0c', 'f'),
    ('\x0d', 'r')]

/-- The part of a string literal that a character is quoted as. -/
def quotedPart (c : Char) : StringPart :=
  match jsonEscapes.lookup c with
  | some escape => .escaped escape
  | none =>
    if c.toNat < 0x20 then
      .unit '0' '0' (lowerHexDigit (c.toNat / 16)) (lowerHexDigit (c.toNat % 16))
    else .plain c

theorem quotedPart_text (c : Char) : (quotedPart c).text = quoteJsonChar c := by
  unfold quoteJsonChar
  split
  · rfl
  · rfl
  · rfl
  · rfl
  · rfl
  · rfl
  · rfl
  · rename_i hquote hbackslash hb ht hn hf hr
    have hnone : jsonEscapes.lookup c = none := by
      rw [List.lookup_eq_none_iff]
      simp only [jsonEscapes, List.forall_mem_cons, bne_iff_ne, ne_eq]
      exact ⟨hquote, hbackslash, hb, ht, hn, hf, hr, nofun⟩
    unfold quotedPart
    rw [hnone]
    dsimp only
    split
    · rfl
    · rfl

/-- A character is quoted as a part that denotes it. -/
structure Quotes (c : Char) (p : StringPart) : Prop where
  proper : p.isProper '"' = true
  units : p.units = utf16Units c
  unitHalf : p.isUnitHalf = false
  bracedHalf : p.isBracedHalf = false
  not_null : p ≠ .null

theorem quotes_quotedPart (c : Char) : Quotes c (quotedPart c) := by
  unfold quotedPart
  cases hlookup : jsonEscapes.lookup c with
  | some escape =>
    have hescapes : ∀ entry ∈ jsonEscapes, (StringPart.escaped entry.2).isProper '"' = true ∧
        (StringPart.escaped entry.2).units = utf16Units entry.1 := by decide
    obtain ⟨before, after, heq, -⟩ := List.lookup_eq_some_iff.mp hlookup
    obtain ⟨hproper, hunits⟩ := hescapes (c, escape) (by simp [heq])
    refine ⟨hproper, hunits, rfl, rfl, ?_⟩
    rintro ⟨⟩
  | none =>
    dsimp only
    split
    · rename_i hcontrol
      have hdigits : ∀ n < 0x20,
          (StringPart.unit '0' '0' (lowerHexDigit (n / 16)) (lowerHexDigit (n % 16))).isProper '"' =
              true ∧
            hexValue ['0', '0', lowerHexDigit (n / 16), lowerHexDigit (n % 16)] = n := by decide
      obtain ⟨hproper, hvalue⟩ := hdigits c.toNat hcontrol
      refine ⟨hproper, ?_, ?_, rfl, ?_⟩
      · rw [StringPart.units, hvalue, utf16Units_eq, codePointUnits, if_pos (by omega)]
      · rw [StringPart.isUnitHalf, hvalue]
        exact (not_half_toNat c).1
      · rintro ⟨⟩
    · rename_i hcontrol
      have hne : ∀ entry ∈ jsonEscapes, c ≠ entry.1 := by
        intro entry hentry
        exact bne_iff_ne.mp (List.lookup_eq_none_iff.mp hlookup entry hentry)
      refine ⟨?_, rfl, rfl, rfl, ?_⟩
      · simp only [StringPart.isProper, Bool.and_eq_true, bne_iff_ne]
        exact ⟨⟨⟨hne ('"', '"') (by decide), hne ('\\', '\\') (by decide)⟩,
          hne ('\x0a', 'n') (by decide)⟩, hne ('\x0d', 'r') (by decide)⟩
      · rintro ⟨⟩

/-- The string literal that a text is quoted as. -/
def quotedLiteral (s : String) : StringLiteral where
  quote := '"'
  parts := s.toList.map quotedPart
  isQuote := .inl rfl
  proper := List.forall_mem_map.mpr fun c _ => (quotes_quotedPart c).proper
  nulls := by
    refine List.Pairwise.isChain (List.pairwise_map.mpr (List.pairwise_of_forall ?_))
    exact fun c _ hnull => absurd hnull (quotes_quotedPart c).not_null

theorem quotedLiteral_text (s : String) : (quotedLiteral s).text = quoteJson s := by
  have hbody : StringPart.bodyText (s.toList.map quotedPart) = s.toList.flatMap quoteJsonChar := by
    unfold StringPart.bodyText
    rw [List.flatMap_map]
    exact List.flatMap_congr fun c _ => quotedPart_text c
  unfold StringLiteral.text quoteJson quotedLiteral
  dsimp only
  rw [hbody, List.cons_append]

theorem ofUtf16_flatMap_utf16Units (cs : List Char) : ofUtf16 (cs.flatMap utf16Units) = cs := by
  induction cs with
  | nil => rfl
  | cons c cs ih =>
    rw [List.flatMap_cons, ofUtf16_append (noPairAcross_utf16Units c _), ofUtf16_utf16Units, ih]
    rfl

/-- A text that is quoted is decoded to itself. -/
theorem decodeString_quoteJson (s : String) : decodeString (quoteJson s) = some s := by
  have hbraced : (quotedLiteral s).parts.any StringPart.isBracedHalf = false := by
    refine List.any_eq_false.mpr (List.forall_mem_map.mpr fun c _ => ?_)
    rw [(quotes_quotedPart c).bracedHalf]
    exact Bool.false_ne_true
  have hkept : StringPart.keptUnits (quotedLiteral s).parts = s.toList.flatMap utf16Units := by
    change StringPart.keptUnits (s.toList.map quotedPart) = _
    induction s.toList with
    | nil => rfl
    | cons c cs ih =>
      have hc := quotes_quotedPart c
      rw [List.map_cons, StringPart.keptUnits, StringPart.isForgotten, hc.unitHalf, ih, hc.units]
      rfl
  rw [← quotedLiteral_text, StringLiteral.decodeString_text, hbraced, if_neg Bool.false_ne_true,
    hkept, ofUtf16_flatMap_utf16Units, String.ofList_toList]

/-! ## Reading back -/

/-- A name is written without escapes. -/
theorem noBackslash_of_isIdentifierName {cs : List Char} (h : isIdentifierName cs = true) :
    '\\' ∉ cs := by
  cases cs with
  | nil => exact List.not_mem_nil
  | cons first more =>
    obtain ⟨hfirst, hmore⟩ := Bool.and_eq_true_iff.mp h
    rw [List.mem_cons]
    rintro (rfl | hmem)
    · cases hfirst
    · have hno := List.all_eq_true.mp hmore _ hmem
      revert hno
      decide

/-- A name without escapes stands for itself. -/
theorem decodeName_of_isIdentifierName {name : String} (h : isIdentifierName name.toList = true) :
    decodeName name = name := by
  have hbackslash : name.toList.contains '\\' = false :=
    Bool.eq_false_iff.mpr fun hmem =>
      noBackslash_of_isIdentifierName h (List.contains_iff_mem.mp hmem)
  rw [decodeName, hbackslash, if_neg Bool.false_ne_true]

/-- Reading gives the next token and goes on after it. -/
theorem exists_consume {s : ParserState} (hs : s.tokens.Chained) :
    ∃ s', consume s = .ok ((nextToken .standard s.place).1, s') ∧
      s'.place = (nextToken .standard s.place).2 := by
  obtain ⟨t, s', heq⟩ : ∃ t s', consumeIn .standard s = .ok (t, s') := ⟨_, _, rfl⟩
  have hmode : s.tokens.Admits .standard := fun h => nomatch h
  have hread := answers_consumeIn hs hmode heq
  exact ⟨s', hread.token ▸ heq, hread.place⟩

/-- What is written for a name in a list of exports is read as the name. -/
theorem moduleExportName_exportName (name : String) {s : ParserState} (hs : s.tokens.Chained)
    {rest : List Char} (hrest : s.place.rest = (exportName name).toList ++ rest)
    (hends : isIdentifierName name.toList = true → EndsName rest) :
    ∃ s', moduleExportName s =
        .ok (⟨name, ⟨s.place.offset, s'.place.offset⟩, isBindingName name⟩, s') ∧
      s'.place.rest = rest := by
  obtain ⟨s', hconsume, hplace⟩ := exists_consume hs
  by_cases hname : isIdentifierName name.toList = true
  · rw [exportName, if_pos hname] at hrest
    rw [nextToken_name hname hrest (hends hname)] at hconsume hplace
    refine ⟨s', stateBind_eq_ok.mpr ⟨_, _, hconsume, ?_⟩, by rw [hplace]⟩
    have hstring : wordType name ≠ .literalString := by
      intro heq
      have hword := isIdentifierName_wordType name
      rw [heq] at hword
      cases hword
    dsimp only
    rw [if_neg hstring, if_pos (isIdentifierName_wordType name),
      decodeName_of_isIdentifierName hname, hplace, isBindingName, hname, Bool.true_and]
    rfl
  · rw [exportName, if_neg hname, ← quotedLiteral_text] at hrest
    rw [(quotedLiteral name).nextToken_text hrest] at hconsume hplace
    refine ⟨s', stateBind_eq_ok.mpr ⟨_, _, hconsume, ?_⟩, by rw [hplace]⟩
    dsimp only
    rw [if_pos rfl, quotedLiteral_text, decodeString_quoteJson, hplace, isBindingName,
      Bool.eq_false_iff.mpr hname, Bool.false_and, quotedLiteral_text]
    rfl

/-- **What is written for names is read back.** A text that is quoted is one string literal, which
is decoded to the text, and what is written for a name in a list of exports is read as the name,
whatever the parser has read before and whatever follows that is not more of a name. -/
theorem exportName_readBack (name : String) :
    nextToken .standard (.ofString (quoteJson name)) =
        (⟨.literalString, ⟨0, (quoteJson name).utf8ByteSize⟩, false, quoteJson name⟩,
          ⟨(quoteJson name).utf8ByteSize, []⟩) ∧
      decodeString (quoteJson name) = some name ∧
      ∀ (s : ParserState) (rest : List Char), s.tokens.Chained →
        s.place.rest = (exportName name).toList ++ rest →
        (isIdentifierName name.toList = true → EndsName rest) →
        ∃ s', moduleExportName s =
            .ok (⟨name, ⟨s.place.offset, s'.place.offset⟩, isBindingName name⟩, s') ∧
          s'.place.rest = rest := by
  refine ⟨?_, decodeString_quoteJson name, fun s rest hs =>
    moduleExportName_exportName name hs⟩
  have hrest : (Cursor.ofString (quoteJson name)).rest =
      (quotedLiteral name).text.toList ++ [] := by
    rw [quotedLiteral_text, List.append_nil]
    rfl
  have hoffset : (Cursor.ofString (quoteJson name)).offset = 0 := rfl
  rw [(quotedLiteral name).nextToken_text hrest, ← utf8ByteSize_eq, quotedLiteral_text, hoffset,
    Nat.zero_add]

/-- A keyword is read as an exported name. -/
theorem default_readBack :
    (ParserState.ofString "default \x7d").tokens.Chained ∧
      ∃ s', moduleExportName (.ofString "default \x7d") =
          .ok (⟨"default", ⟨0, s'.place.offset⟩, false⟩, s') ∧ s'.place.rest = [' ', '\x7d'] := by
  have hchained := TokenStream.chained_ofString "default \x7d"
  refine ⟨hchained, (exportName_readBack "default").2.2 (.ofString "default \x7d") [' ', '\x7d']
    hchained ?_ ?_⟩
  · decide
  · intro _ c hc
    cases hc
    decide

end ModuleBundler
