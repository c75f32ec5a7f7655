import ModuleBundler.Proofs.Emission

/-!
# Edits leave tokens whole

* `OutsideTokens` : no token has an offset in its middle;
* `ReadFrom.outside_edge`, `TokenFollows.outside_gap` : where tokens begin and end, and where a name
  is put in, no token has the offset in its middle;
* `EditRead` : what is known of an edit with the tokens of its module;
* `itemEdits_read` : that is known of each edit of an item.
-/

namespace ModuleBundler

open Cursor (Leads)

/-! ## Tokens and offsets -/

/-- None of the tokens has the offset in its middle. -/
def OutsideTokens (tokens : List BufferedToken) (offset : Nat) : Prop :=
  ∀ b ∈ tokens, offset ≤ b.token.span.start ∨ b.token.span.stop ≤ offset

variable {source : Cursor} {tokens : List BufferedToken}

theorem ReadFrom.edge_le (h : ReadFrom source tokens.reverse) {offset : Nat}
    (hedge : TokenEdge tokens offset) : offset ≤ (placeAfter source tokens.reverse).offset := by
  obtain ⟨b, hb, hoffset⟩ := hedge
  have hbetween := h.between b (List.mem_reverse.mpr hb)
  have := hbetween.start_le_stop
  have := hbetween.stop_le
  omega

/-- No token of a row has an edge of another one in its middle. -/
theorem ReadFrom.outside_edge (h : ReadFrom source tokens.reverse) {offset : Nat}
    (hedge : TokenEdge tokens offset) : OutsideTokens tokens offset := by
  intro b hb
  obtain ⟨edge, hmem, hoffset⟩ := hedge
  have hlength := (h.between edge (List.mem_reverse.mpr hmem)).start_le_stop
  have hdisjoint := List.pairwise_reverse.mp h.separated
  obtain ⟨later, earlier, rfl⟩ := List.append_of_mem hmem
  rw [List.pairwise_append, List.pairwise_cons] at hdisjoint
  obtain ⟨-, ⟨hearlier, -⟩, hlater⟩ := hdisjoint
  rcases List.mem_append.mp hb with hb | hb
  · have := hlater b hb edge List.mem_cons_self
    omega
  · rcases List.mem_cons.mp hb with rfl | hb
    · omega
    · have := hearlier b hb
      omega

theorem continuesTemplates_of_append {newer earlier : List BufferedToken}
    (h : ContinuesTemplates (newer ++ earlier)) : ContinuesTemplates earlier := by
  induction newer with
  | nil => exact h
  | cons last newer ih => exact ih h.2

/-- A token that follows one that is no closing brace begins where trivia end. -/
theorem start_after {place : Cursor} {next before : BufferedToken} {others : List BufferedToken}
    (hread : ReadFrom place (next :: others))
    (htemplates : next.mode = .templateContinue → before.token.type = .braceClose)
    (htype : before.token.type ≠ .braceClose) :
    next.token.span.start = place.tokenStart.offset := by
  rw [hread.1]
  change (nextToken next.mode place).1.span.start = _
  rw [(nextToken_span next.mode place).2]
  unfold Cursor.tokenStartIn
  rw [if_neg fun hmode => htype (htemplates hmode)]

/-- The blanks that a name takes the place of end outside of tokens. -/
theorem TokenFollows.outside_gap (h : ReadFrom source tokens.reverse)
    (htemplates : ContinuesTemplates tokens) {last : Cursor} {offset : Nat}
    (hfollows : TokenFollows tokens source last offset) : OutsideTokens tokens
      (offset + byteLength ((source.advanceTo offset).rest.takeWhile isBlank)) := by
  obtain ⟨place, hplace, rfl, -, before, earlier, ⟨newer, rfl⟩, hafter, hstop, htype⟩ := hfollows
  rw [Cursor.advanceTo_eq hplace]
  intro b hb
  rcases List.mem_append.mp hb with hb | hb
  · refine .inl ?_
    -- The token that was read next begins after the blanks, and the others come after it.
    have hgap := (leads_gap place).offset_le
    have hread : ReadFrom place newer.reverse := by
      rw [List.reverse_append, List.reverse_cons, List.append_assoc] at h
      have hrest := (readFrom_append.mp h).2
      rw [List.singleton_append] at hrest
      have hnext := hrest.2
      rwa [hafter] at hnext
    rcases List.eq_nil_or_concat newer with rfl | ⟨others, next, rfl⟩
    · cases hb
    · rw [List.concat_eq_append, List.reverse_concat] at hread
      rw [List.concat_eq_append, List.append_assoc] at htemplates
      have hnext := (continuesTemplates_of_append htemplates).1
      have hclose : next.mode = .templateContinue → before.token.type = .braceClose := by
        intro hmode
        obtain ⟨close, hclose, hbrace⟩ := hnext hmode
        cases hclose
        exact hbrace
      have hstart := start_after hread hclose htype
      have hmem : b ∈ next :: others.reverse := by
        rw [List.concat_eq_append] at hb
        simpa [or_comm] using hb
      dsimp only at hgap
      rcases List.mem_cons.mp hmem with rfl | hmem
      · omega
      · have := (List.pairwise_cons.mp hread.sorted).1 b hmem
        omega
  · refine .inr ?_
    have hdisjoint := List.pairwise_reverse.mp h.separated
    have hbefore := (List.pairwise_append.mp hdisjoint).2.1
    have hle : b.token.span.stop ≤ before.token.span.stop := by
      rcases List.mem_cons.mp hb with rfl | hb
      · exact Nat.le_refl _
      · have hearlier := (List.pairwise_cons.mp hbefore).1 b hb
        have hlength := (h.between before (by simp)).start_le_stop
        omega
    omega

/-! ## Edits -/

/-- What is known of an edit, with the tokens of its module up to a place. -/
structure EditRead (source last : Cursor) (tokens : List BufferedToken) (edit : Edit) : Prop where
  between : edit.span.Between source last
  start : OutsideTokens tokens edit.span.start
  stop : OutsideTokens tokens edit.span.stop
  name : ∀ old, edit.name = some old → Spelled tokens old edit.span

variable {last : Cursor} {l : Linkage} {n : Names} {m : SourceModule} {index : Nat}
  {item : ModuleItem}

/-- An edit from one edge to another, by which no name is replaced. -/
theorem TokenEdges.editRead (h : ReadFrom source tokens.reverse) {span : Span}
    (hedges : TokenEdges tokens span) (hbetween : span.Between source last) (text : String) :
    EditRead source last tokens ⟨span, text, none⟩ :=
  ⟨hbetween, h.outside_edge hedges.1, h.outside_edge hedges.2, fun _ hname => nomatch hname⟩

/-- A name that is spelled at a span is replaced. -/
theorem rename_read (h : ReadFrom source tokens.reverse) {span : Span}
    (hbetween : span.Between source last) {old new : String} (hspelled : Spelled tokens old span)
    {shorthand : Bool} {edit : Edit} (hrename : m.rename span shorthand old new = .ok (some edit)) :
    EditRead source last tokens edit := by
  obtain ⟨written, -, hrename⟩ := bind_eq_ok.mp hrename
  split at hrename
  · cases hrename
  · cases hrename
    refine ⟨hbetween, h.outside_edge hspelled.edges.1, h.outside_edge hspelled.edges.2, ?_⟩
    intro name hname
    cases hname
    exact hspelled

section
variable (hrecord : RecordRead (.ofString m.source) tokens m.record)
  (hitem : ItemRead (.ofString m.source) last tokens m.record.scopes.declarations
    m.record.scopes.references m.record.dynamicImports item)
include hrecord hitem

theorem referenceEdit_read {reference : Nat} (hrange : reference ∈ item.references.toList)
    {edit : Edit} (h : referenceEdit? l n m index reference = .ok (some edit)) :
    EditRead (.ofString m.source) last tokens edit := by
  obtain ⟨hstart, hstop⟩ := IndexRange.mem_toList.mp hrange
  obtain ⟨r, hget, hbetween⟩ := hitem.reference reference hstart hstop
  unfold referenceEdit? at h
  rw [hget] at h
  split at h
  · rename_i hr
    cases hr
    obtain ⟨name, -, h⟩ := bind_eq_ok.mp h
    have hspelled := (hrecord.references r (Array.mem_of_getElem? hget)).1
    exact rename_read hrecord.chain hbetween hspelled h
  · cases h
  · cases h

theorem declarationEdit_read {declaration : Nat} (hrange : declaration ∈ item.declarations.toList)
    {edit : Edit} (h : declarationEdit? n m index declaration = .ok (some edit)) :
    EditRead (.ofString m.source) last tokens edit := by
  obtain ⟨hstart, hstop⟩ := IndexRange.mem_toList.mp hrange
  obtain ⟨d, hget, hbetween, -⟩ := hitem.declaration declaration hstart hstop
  unfold declarationEdit? at h
  dsimp only at h
  rw [hget] at h
  split at h
  · rename_i hd
    cases hd
    split at h
    · rename_i hrenamed
      simp only [Bool.and_eq_true, decide_eq_true_eq] at hrenamed
      obtain ⟨name, -, h⟩ := bind_eq_ok.mp h
      rcases (hrecord.declarations d (Array.mem_of_getElem? hget)).1 with hspelled | hdefault
      · exact rename_read hrecord.chain hbetween hspelled h
      · exact absurd hdefault.1 hrenamed.2
    · cases h
  · cases h

theorem exportEdits_read {edits : List Edit} (h : exportEdits n m index item.kind = .ok edits) :
    ∀ edit ∈ edits, EditRead (.ofString m.source) last tokens edit := by
  have hkind := hitem.kind
  cases hk : item.kind with
  | exportDeclaration strip =>
    rw [hk] at h hkind
    cases h
    exact List.forall_mem_singleton.mpr (hkind.2.editRead hrecord.chain hkind.1 "")
  | exportDefaultDeclaration strip nameAt =>
    rw [hk] at h hkind
    have hstrip := hkind.2.1.editRead hrecord.chain hkind.1 ""
    cases nameAt with
    | none =>
      cases h
      exact List.forall_mem_singleton.mpr hstrip
    | some offset =>
      obtain ⟨name, -, h⟩ := bind_eq_ok.mp h
      cases h
      obtain ⟨hfollows, -⟩ := hkind.2.2 offset rfl
      refine List.forall_mem_cons.mpr ⟨hstrip, List.forall_mem_singleton.mpr ?_⟩
      refine ⟨insertName_between hfollows name, hrecord.chain.outside_edge hfollows.edge, ?_, ?_⟩
      · exact hfollows.outside_gap hrecord.chain hrecord.templates
      · exact fun _ hname => nomatch hname
  | exportDefaultExpression strip expr =>
    rw [hk] at h hkind
    obtain ⟨name, -, h⟩ := bind_eq_ok.mp h
    cases h
    exact List.forall_mem_singleton.mpr (hkind.2.1.editRead hrecord.chain hkind.1 _)
  | importDeclaration | exportList | exportFrom | declaration | statement =>
    rw [hk] at h
    cases h
    exact fun _ hedit => nomatch hedit

theorem dynamicEdit_read {dynamic : DynamicImport} {slot : Slot}
    (hmem : (dynamic, slot) ∈ m.dynamicSlots)
    (hin : item.span.contains dynamic.span.start = true) {edit : Edit}
    (h : dynamicEdit n dynamic slot = .ok edit) :
    EditRead (.ofString m.source) last tokens edit := by
  obtain ⟨d, -, hd, -⟩ := SourceModule.mem_dynamicSlots.mp hmem
  have hdynamic := Array.mem_of_getElem? hd
  obtain ⟨name, -, h⟩ := bind_eq_ok.mp h
  cases h
  have hedges := (hrecord.dynamicImports dynamic hdynamic).2.1
  exact hedges.editRead hrecord.chain (hitem.dynamicImport dynamic hdynamic hin) _

/-- **The edits of an item** begin and end outside of tokens, between the beginning of the text of
its module and its own end. A name that is replaced is spelled by a token. -/
theorem itemEdits_read {edits : List Edit} (h : itemEdits l n m index item = .ok edits) :
    ∀ edit ∈ edits, EditRead (.ofString m.source) last tokens edit := by
  obtain ⟨references, hreferences, h⟩ := bind_eq_ok.mp h
  obtain ⟨declarations, hdeclarations, h⟩ := bind_eq_ok.mp h
  obtain ⟨exports, hexports, h⟩ := bind_eq_ok.mp h
  obtain ⟨dynamic, hdynamic, h⟩ := bind_eq_ok.mp h
  obtain rfl := pure_eq_ok.mp h
  simp only [List.mem_append, List.mem_filterMap, id_eq]
  rintro edit (((⟨_, hmem, rfl⟩ | ⟨_, hmem, rfl⟩) | hmem) | hmem)
  · obtain ⟨r, hr, hedit⟩ := exists_of_forall₂ (mapM_eq_ok.mp hreferences) hmem
    exact referenceEdit_read hrecord hitem hr hedit
  · obtain ⟨d, hd, hedit⟩ := exists_of_forall₂ (mapM_eq_ok.mp hdeclarations) hmem
    exact declarationEdit_read hrecord hitem hd hedit
  · exact exportEdits_read hrecord hitem hexports edit hmem
  · obtain ⟨⟨d, slot⟩, hentry, hedit⟩ := exists_of_forall₂ (mapM_eq_ok.mp hdynamic) hmem
    obtain ⟨hslot, hin⟩ := List.mem_filter.mp hentry
    exact dynamicEdit_read hrecord hitem hslot hin hedit

end
end ModuleBundler
