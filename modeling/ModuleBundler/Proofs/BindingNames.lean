import ModuleBundler.Proofs.LinePlaces
import ModuleBundler.Proofs.QuotedNames
import ModuleBundler.Proofs.TokenText
import ModuleBundler.Proofs.WrittenNames

/-!
# Names of variables as tokens

* `ReadsAsName`, `readsAsName_of_isBindingName`, `isBindingName_of_readsAsName` : the texts that are
  read as a single token which can name a variable;
* `isBindingName_iff_readsAsName` : without backslashes these are the names that a variable may have,
  and such a name is read back wherever it stands.
-/

namespace ModuleBundler

open Cursor (Leads)

/-- From the start of a text a single token is read, which can name a variable. -/
structure ReadsAsName (text : String) : Prop where
  span : (nextToken .standard (.ofString text)).1.span = ⟨0, text.utf8ByteSize⟩
  isIdentifier : (nextToken .standard (.ofString text)).1.type.isIdentifier = true
  /-- There is nothing after it. -/
  eof : (nextToken .standard (nextToken .standard (.ofString text)).2).1.type = .eof

instance (text : String) : Decidable (ReadsAsName text) :=
  decidable_of_iff ((nextToken .standard (.ofString text)).1.span = ⟨0, text.utf8ByteSize⟩ ∧
      (nextToken .standard (.ofString text)).1.type.isIdentifier = true ∧
      (nextToken .standard (nextToken .standard (.ofString text)).2).1.type = .eof)
    ⟨fun ⟨hspan, hname, heof⟩ => ⟨hspan, hname, heof⟩, fun h => ⟨h.span, h.isIdentifier, h.eof⟩⟩

/-- A name that a variable may have is read as it stands, up to where no name can go on. -/
theorem nextToken_bindingName {name : String} (h : isBindingName name = true) {place : Cursor}
    {rest : List Char} (hrest : place.rest = name.toList ++ rest) (hends : EndsName rest) :
    (wordType name).isIdentifier = true ∧ decodeName name = name ∧
      nextToken .standard place =
        (⟨wordType name, ⟨place.offset, place.offset + name.utf8ByteSize⟩, false, name⟩,
          ⟨place.offset + name.utf8ByteSize, rest⟩) := by
  obtain ⟨hname, hunreserved⟩ := Bool.and_eq_true_iff.mp h
  rw [utf8ByteSize_eq]
  exact ⟨hunreserved, decodeName_of_isIdentifierName hname, nextToken_name hname hrest hends⟩

theorem readsAsName_of_isBindingName {text : String} (h : isBindingName text = true) :
    ReadsAsName text := by
  have hrest : (Cursor.ofString text).rest = text.toList ++ [] := (List.append_nil _).symm
  obtain ⟨hunreserved, -, hread⟩ := nextToken_bindingName h hrest fun _ hc => nomatch hc
  refine ⟨?_, ?_, ?_⟩
  · rw [hread]
    exact congrArg (Span.mk 0) (Nat.zero_add _)
  · rw [hread]
    exact hunreserved
  · rw [hread]
    exact (nextToken_of_rest_eq_nil (by decide) rfl).1

/-- A token that covers a text has it for its own text. -/
theorem text_of_covers {text : String}
    (h : (nextToken .standard (.ofString text)).1.span = ⟨0, text.utf8ByteSize⟩) :
    (nextToken .standard (.ofString text)).1.text = text := by
  obtain ⟨-, hspan⟩ := nextToken_span .standard (.ofString text)
  obtain ⟨hrest, hstop⟩ := nextToken_text .standard (.ofString text)
  obtain ⟨hzero, hsize⟩ := Span.mk.inj (hspan.symm.trans h)
  have hstart : (Cursor.ofString text).tokenStartIn .standard = .ofString text :=
    Leads.eq_of_offset_eq (leads_tokenStartIn .standard _) (.refl _) hzero
  -- What is left has no bytes.
  rw [hstart] at hrest hstop
  have hchars : text.toList = _ := hrest
  have hbytes := congrArg byteLength hchars
  rw [byteLength_append, ← utf8ByteSize_eq text, ← hsize, hstop] at hbytes
  have hnone : (nextToken .standard (.ofString text)).2.rest = [] := by
    cases hleft : (nextToken .standard (.ofString text)).2.rest with
    | nil => rfl
    | cons c more =>
      rw [hleft, byteLength_cons] at hbytes
      have hpos := c.utf8Size_pos
      change 0 + _ = _ at hbytes
      omega
  rw [hnone, List.append_nil] at hchars
  exact String.toList_inj.mp hchars.symm

/-- Without backslashes, a text that is read as a name is one that a variable may have. -/
theorem isBindingName_of_readsAsName {text : String} (hbackslash : '\\' ∉ text.toList)
    (h : ReadsAsName text) : isBindingName text = true := by
  obtain ⟨w, hw, hunreserved⟩ := exists_writtenName h.isIdentifier
  rw [text_of_covers h.span] at hw hunreserved
  have hplain : ∀ p ∈ w.pieces, p.isEscape = false := by
    refine WrittenName.isEscape_of_noBackslash fun hmem => hbackslash ?_
    rw [hw, String.toList_ofList]
    exact hmem
  have hname : w.name = text := (WrittenName.name_of_plain hplain).trans hw.symm
  rw [← hname]
  exact (WrittenName.isBindingName_iff (hw ▸ hunreserved)).mpr
    (WrittenName.escapesAllowed_of_plain hplain)

/-- **A text is a name that a variable may have if and only if it is read as one.** That is, it has
no backslash in it, and from its start a single token is read that covers it and can name a variable.
Before whatever no name can go on with, such a name is read back as itself. -/
theorem isBindingName_iff_readsAsName (text : String) :
    (isBindingName text = true ↔ '\\' ∉ text.toList ∧ ReadsAsName text) ∧
      (isBindingName text = true → ∀ (place : Cursor) (rest : List Char),
        place.rest = text.toList ++ rest → EndsName rest →
          ∃ t, nextToken .standard place = (t, ⟨place.offset + text.utf8ByteSize, rest⟩) ∧
            t.span.start = place.offset ∧ t.type.isIdentifier = true ∧ t.text = text ∧
            decodeName t.text = text) := by
  refine ⟨⟨fun h => ?_, fun ⟨hbackslash, h⟩ => isBindingName_of_readsAsName hbackslash h⟩,
    fun h place rest hrest hends => ?_⟩
  · obtain ⟨hname, -⟩ := Bool.and_eq_true_iff.mp h
    exact ⟨noBackslash_of_isIdentifierName hname, readsAsName_of_isBindingName h⟩
  · obtain ⟨hunreserved, hdecoded, hread⟩ := nextToken_bindingName h hrest hends
    exact ⟨_, hread, rfl, hunreserved, rfl, hdecoded⟩

end ModuleBundler
