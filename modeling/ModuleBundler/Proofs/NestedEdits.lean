import ModuleBundler.Proofs.PartMarks
import ModuleBundler.Proofs.RecordedNames

/-!
# The edits of an item fit together

* `Outline.Marked` : the tokens of a text that declare or use something, or call an import;
* `ImportCall.apart_or_inside` : a token stands beside a dynamic import or inside of it;
* `ItemText` : the text of an item in that of its module, with what the record has of it;
* `Edit.Fit` : of two edits one comes after the other, or lies in a dynamic import that is replaced;
* `itemEdits_fit` : so it is with all edits of an item, which lie in it and leave tokens whole.
-/

namespace ModuleBundler

open Cursor (Leads)

/-! ## Spans and lists -/

/-- One of two spans ends before the other one begins. -/
def Span.Apart (a b : Span) : Prop := a.stop ≤ b.start ∨ b.stop ≤ a.start

theorem Span.Apart.symm {a b : Span} (h : a.Apart b) : b.Apart a := Or.symm h

/-- What holds of each two entries of a list, in order, holds of what is made of them. -/
theorem pairwise_of_forall₂ {α β : Type} {related : α → β → Prop} {first : α → α → Prop}
    {second : β → β → Prop} {as : List α} {bs : List β} (h : List.Forall₂ related as bs)
    (has : as.Pairwise first)
    (hstep : ∀ a a' b b', first a a' → related a b → related a' b' → second b b') :
    bs.Pairwise second := by
  induction h with
  | nil => exact .nil
  | @cons a b as bs hab hrest ih =>
    obtain ⟨hfirst, has⟩ := List.pairwise_cons.mp has
    refine List.pairwise_cons.mpr ⟨fun b' hb' => ?_, ih has⟩
    obtain ⟨a', ha', hab'⟩ := exists_of_forall₂ hrest hb'
    exact hstep a a' b b' (hfirst a' ha') hab hab'

/-- An answer that is there belongs to something. -/
theorem exists_of_forall₂_some {α β : Type} {related : α → Option β → Prop} {as : List α}
    {bs : List (Option β)} (h : List.Forall₂ related as bs) {b : β} (hb : b ∈ bs.filterMap id) :
    ∃ a ∈ as, related a (some b) := by
  obtain ⟨_, hmem, rfl⟩ := List.mem_filterMap.mp hb
  exact exists_of_forall₂ h hmem

theorem IndexRange.pairwise_toList (range : IndexRange) :
    range.toList.Pairwise fun i j => i < j := List.pairwise_lt_range'

/-- What holds of each two entries, in order, holds of those at two indices. -/
theorem rel_of_getElem? {α : Type} {related : α → α → Prop} {as : List α}
    (h : as.Pairwise related) {i j : Nat} (hlt : i < j) {a b : α} (ha : as[i]? = some a)
    (hb : as[j]? = some b) : related a b := by
  obtain ⟨hi, rfl⟩ := List.getElem?_eq_some_iff.mp ha
  obtain ⟨hj, rfl⟩ := List.getElem?_eq_some_iff.mp hb
  exact List.pairwise_iff_getElem.mp h i j hi hj hlt

/-! ## Tokens -/

section
variable {place : Cursor} {tokens : List BufferedToken} (hread : ReadFrom place tokens)
include hread

/-- Two tokens do not overlap. -/
theorem ReadFrom.apart {a b : BufferedToken} (ha : a ∈ tokens) (hb : b ∈ tokens) (hne : a ≠ b) :
    a.token.span.Apart b.token.span := by
  have hsymm : Std.Symm fun a b : BufferedToken => a.token.span.Apart b.token.span :=
    ⟨fun _ _ h => h.symm⟩
  have hpairs : tokens.Pairwise fun a b => a.token.span.Apart b.token.span :=
    hread.separated.imp .inl
  exact hpairs.forall ha hb hne

theorem ReadFrom.head_le {first b : BufferedToken} (hfirst : tokens.head? = some first)
    (hb : b ∈ tokens) : first.token.span.start ≤ b.token.span.start := by
  obtain ⟨rest, rfl⟩ := List.head?_eq_some_iff.mp hfirst
  rcases List.mem_cons.mp hb with rfl | hb
  · exact Nat.le_refl _
  · exact List.rel_of_pairwise_cons hread.sorted hb

/-- Any other token than the word of a dynamic import stands beside that or inside of it. -/
theorem ImportCall.apart_or_inside
    (hproper : ∀ b ∈ tokens, b.token.span.start < b.token.span.stop) {span : Span}
    (hcall : ImportCall tokens span) {a : BufferedToken} (ha : a ∈ tokens)
    (htype : a.token.type ≠ .keywordImport) :
    a.token.span.Apart span ∨ a.token.span.Inside span := by
  obtain ⟨b, hb, c, hc, hword, rfl⟩ := hcall
  have hne : a ≠ b := fun heq => htype (heq ▸ hword)
  rcases hread.apart ha hb hne with hbefore | hafter
  · exact .inl (.inl hbefore)
  · have hlater := Nat.lt_of_lt_of_le (hproper b hb) hafter
    by_cases hlast : a = c
    · exact .inr ⟨hlater, hlast ▸ Nat.le_refl _⟩
    · rcases hread.apart ha hc hlast with hin | hout
      · exact .inr ⟨hlater, Nat.le_trans hin (Nat.le_of_lt (hproper c hc))⟩
      · exact .inl (.inr hout)

end

namespace Outline

variable {o o' : Outline} {b : BufferedToken}

/-- A token declares or uses something, or is the word of a dynamic import. -/
def Marked (o : Outline) (b : BufferedToken) : Prop :=
  b ∈ o.names ∨ (b ∈ o.tokens ∧ b.token.type = .keywordImport)

theorem Marked.mem_tokens (h : o.Marked b) : b ∈ o.tokens :=
  h.elim mem_tokens_of_mem_names And.left

/-- What stands after a bare text has all that is marked. -/
theorem Marked.of_bare (h : (o ++ o').Marked b) (hbare : o.Bare) : o'.Marked b := by
  unfold Marked at h
  rw [names_append, hbare.names, List.nil_append, tokens_append, List.mem_append] at h
  rcases h with h | ⟨h | h, htype⟩
  · exact .inl h
  · exact absurd htype (hbare.calls b h)
  · exact .inr ⟨h, htype⟩

/-- What is marked comes after the part that is taken away. -/
theorem BareBefore.le_marked {place : Cursor} {offset : Nat} (h : o.BareBefore offset)
    (hread : ReadFrom place o.tokens) (hb : o.Marked b) : offset ≤ b.token.span.start := by
  obtain ⟨head, rest, rfl, hbare, first, hfirst, rfl⟩ := h
  rw [tokens_append] at hread
  exact (readFrom_append.mp hread).2.head_le hfirst (hb.of_bare hbare).mem_tokens

theorem BareBefore.edge {offset : Nat} (h : o.BareBefore offset) : TokenEdge o.tokens offset := by
  obtain ⟨head, rest, rfl, -, first, hfirst, rfl⟩ := h
  rw [tokens_append]
  exact ⟨first, List.mem_append_right _ (List.mem_of_head? hfirst), .inl rfl⟩

/-- Where a bare text ends is a place, and what is marked comes after the blanks there. -/
theorem BareUpTo.exists_place {place : Cursor} {offset : Nat} (h : o.BareUpTo offset)
    (hread : ReadFrom place o.tokens) : ∃ last : Cursor, place.Leads last ∧ last.offset = offset ∧
      ∀ b, o.Marked b → last.tokenStart.offset ≤ b.token.span.start := by
  obtain ⟨head, rest, rfl, hbare, last, hlast, -, rfl, first, hfirst, hstart⟩ := h
  rw [tokens_append] at hread
  obtain ⟨hhead, hrest⟩ := readFrom_append.mp hread
  have hleads := hhead.leads_placeAfter
  unfold placeAfter at hleads
  rw [hlast] at hleads
  refine ⟨last.after, hleads, rfl, fun b hb => ?_⟩
  rw [← hstart]
  exact hrest.head_le hfirst (hb.of_bare hbare).mem_tokens

end Outline

/-! ## The text of an item -/

/-- The text of an item from a place on, in that of its module, with what is recorded of it. -/
structure ItemText (m : SourceModule) (item : ModuleItem) (o own : Outline) (place : Cursor) :
    Prop where
  leads : (Cursor.ofString m.source).Leads place
  read : ReadFrom place own.tokens
  subset : own.tokens ⊆ o.tokens
  span : item.span = extent own.tokens
  head : item.kind.HeadOf item.span.start own
  names : ∀ b ∈ own.names, b.token.type.isIdentifier = true
  reference : ∀ i ∈ item.references.toList, ∃ r, m.record.scopes.references[i]? = some r ∧
    ∃ b ∈ own.names, r.span = b.token.span
  declaration : ∀ i ∈ item.declarations.toList, ∃ d, m.record.scopes.declarations[i]? = some d ∧
    (d.name ≠ defaultBinding → ∃ b ∈ own.names, d.span = b.token.span)
  call : ∀ d ∈ m.record.dynamicImports, item.span.contains d.span.start = true →
    ∃ b, own.Marked b ∧ d.span.start = b.token.span.start

/-- A token that begins between the first and the last one of some tokens is one of them. -/
theorem mem_of_start_within {place : Cursor} {before own after : List BufferedToken}
    (hread : ReadFrom place (before ++ (own ++ after))) (hne : own ≠ [])
    (hproper : ∀ b ∈ before, b.token.span.start < b.token.span.stop) {b : BufferedToken}
    (hb : b ∈ before ++ (own ++ after)) (hstart : (extent own).start ≤ b.token.span.start)
    (hstop : b.token.span.start < (extent own).stop) : b ∈ own := by
  have hseparated := hread.separated
  rw [List.pairwise_append, List.pairwise_append] at hseparated
  obtain ⟨-, ⟨-, -, hlater⟩, hearlier⟩ := hseparated
  rcases List.mem_append.mp hb with hb | hb
  · obtain ⟨first, hfirst, heq⟩ := exists_extent_start hne
    have := hearlier b hb first (List.mem_append_left _ hfirst)
    have := hproper b hb
    omega
  · rcases List.mem_append.mp hb with hb | hb
    · exact hb
    · obtain ⟨last, hlast, heq⟩ := exists_extent_stop hne
      have := hlater last hlast b hb
      omega

/-- Every item of a module has a text in that of the module. -/
theorem RecordOutlined.itemText {m : SourceModule} {o : Outline}
    (h : RecordOutlined m.source m.record o) {item : ModuleItem} (hitem : item ∈ m.record.items) :
    ∃ own place, ItemText m item o own place := by
  obtain ⟨before, own, after, ho, howned⟩ := h.items.split (Array.mem_toList_iff.mpr hitem)
  have htokens : o.tokens = before.tokens ++ (own.tokens ++ after.tokens) := by
    rw [ho, Outline.tokens_append, Outline.tokens_append]
  have hread := h.chain
  rw [htokens] at hread
  obtain ⟨hbefore, hrest⟩ := readFrom_append.mp hread
  refine ⟨own, _, {
    leads := hbefore.leads_placeAfter
    read := (readFrom_append.mp hrest).1
    subset := fun b hb => htokens ▸ List.mem_append_right _ (List.mem_append_left _ hb)
    span := howned.span
    head := howned.head
    names := howned.derives.all_names syntaxRules_isSpelled rfl
    reference := fun i hi => ?_
    declaration := fun i hi => ?_
    call := fun d hd hin => ?_ }⟩
  · rw [howned.references, Outline.references_append] at hi
    rw [← Array.getElem?_toList, h.references, ho, Outline.references_append,
      Outline.references_append]
    obtain ⟨r, hr, hget⟩ := exists_getElem?_middle hi
    obtain ⟨⟨scope, l⟩, hl, hr⟩ := List.mem_filterMap.mp hr
    obtain ⟨b, _, rfl, rfl⟩ := Leaf.eq_of_reference? hr
    exact ⟨_, hget, b, Outline.mem_names_of_mem_leaves hl rfl, rfl⟩
  · rw [howned.declarations, Outline.declarations_append] at hi
    rw [← Array.getElem?_toList, h.declarations, ho, Outline.declarations_append,
      Outline.declarations_append]
    obtain ⟨d, hd, hget⟩ := exists_getElem?_middle hi
    obtain ⟨⟨scope, l⟩, hl, hd⟩ := List.mem_filterMap.mp hd
    refine ⟨d, hget, fun hname => ?_⟩
    rcases Leaf.eq_of_declaration? hd with ⟨b, _, _, rfl, rfl⟩ | ⟨_, _, rfl, rfl⟩
    · exact ⟨b, Outline.mem_names_of_mem_leaves hl rfl, rfl⟩
    · exact absurd rfl hname
  · obtain ⟨added, hadded, hcalls, -⟩ := h.calls
    rw [List.nil_append] at hadded
    rw [← Array.mem_toList_iff, hadded] at hd
    obtain ⟨b, hb, c, -, hword, hspan⟩ := hcalls d hd
    have hstart : d.span.start = b.token.span.start := by rw [hspan]
    simp only [Span.contains, Bool.and_eq_true, decide_eq_true_eq, hstart, howned.span] at hin
    refine ⟨b, .inr ⟨?_, hword⟩, hstart⟩
    refine mem_of_start_within hread howned.tokens_ne_nil (fun a ha => ?_) (htokens ▸ hb) hin.1 hin.2
    exact h.tokens_lt (htokens ▸ List.mem_append_left _ ha)

/-! ## Edits -/

/-- By the edit a dynamic import of the module becomes a promise. -/
def SourceModule.CallEdit (m : SourceModule) (n : Names) (edit : Edit) : Prop :=
  ∃ entry ∈ m.dynamicSlots, dynamicEdit n entry.1 entry.2 = .ok edit

/-- Of two edits one comes after the other, or lies inside of one of a certain kind. -/
def Edit.Fit (isOuter : Edit → Prop) (a b : Edit) : Prop :=
  a.span.Apart b.span ∨ (isOuter a ∧ b.span.Inside a.span) ∨ (isOuter b ∧ a.span.Inside b.span)

theorem Edit.Fit.symm {isOuter : Edit → Prop} {a b : Edit} (h : Edit.Fit isOuter a b) :
    Edit.Fit isOuter b a := by
  rcases h with h | h | h
  · exact .inl h.symm
  · exact .inr (.inr h)
  · exact .inr (.inl h)

section
variable {l : Linkage} {n : Names} {m : SourceModule} {index : Nat} {item : ModuleItem}
  {edit : Edit}

theorem rename_span {span : Span} {shorthand : Bool} {old new : String}
    (h : m.rename span shorthand old new = .ok (some edit)) : edit.span = span := by
  obtain ⟨written, -, h⟩ := bind_eq_ok.mp h
  split at h
  · cases h
  · cases h
    rfl

/-- A reference is renamed where it stands. -/
theorem referenceEdit_span {i : Nat} (h : referenceEdit? l n m index i = .ok (some edit)) :
    ∃ r, m.record.scopes.references[i]? = some r ∧ edit.span = r.span := by
  unfold referenceEdit? at h
  split at h
  · rename_i hr
    obtain ⟨name, -, h⟩ := bind_eq_ok.mp h
    exact ⟨_, hr, rename_span h⟩
  · cases h
  · cases h

/-- A declaration is renamed where it stands. -/
theorem declarationEdit_span {i : Nat} (h : declarationEdit? n m index i = .ok (some edit)) :
    ∃ d, m.record.scopes.declarations[i]? = some d ∧ d.name ≠ defaultBinding ∧
      edit.span = d.span := by
  unfold declarationEdit? at h
  dsimp only at h
  split at h
  · rename_i hd
    split at h
    · rename_i hrenamed
      simp only [Bool.and_eq_true, decide_eq_true_eq] at hrenamed
      obtain ⟨name, -, h⟩ := bind_eq_ok.mp h
      exact ⟨_, hd, hrenamed.2, rename_span h⟩
    · cases h
  · cases h

theorem dynamicEdit_span {dynamic : DynamicImport} {slot : Slot}
    (h : dynamicEdit n dynamic slot = .ok edit) : edit.span = dynamic.span := by
  obtain ⟨name, -, h⟩ := bind_eq_ok.mp h
  cases h
  rfl

/-- Dynamic imports of modules of the bundle are in the order in which they were recorded. -/
theorem SourceModule.pairwise_dynamicSlots {related : DynamicImport → DynamicImport → Prop}
    (h : m.record.dynamicImports.toList.Pairwise related) :
    m.dynamicSlots.Pairwise fun entry entry' => related entry.1 entry'.1 := by
  unfold dynamicSlots
  rw [List.pairwise_filterMap]
  have hzip : (m.record.dynamicImports.toList.zip m.dynamicImports).Pairwise
      fun pair pair' => related pair.1 pair'.1 := by
    refine List.pairwise_iff_getElem.mpr fun i j hi hj hlt => ?_
    rw [List.getElem_zip, List.getElem_zip]
    exact List.pairwise_iff_getElem.mp h i j _ _ hlt
  refine hzip.imp fun hrelated entry hentry entry' hentry' => ?_
  obtain ⟨_, -, rfl⟩ := Option.map_eq_some_iff.mp hentry
  obtain ⟨_, -, rfl⟩ := Option.map_eq_some_iff.mp hentry'
  exact hrelated

end

/-! ## Names -/

namespace RecordOutlined

variable {source : String} {record : ModuleRecord} {o : Outline}

/-- No token is recorded twice. -/
theorem nodup_recorded (h : RecordOutlined source record o) :
    (((record.scopes.declarations.toList.map Declaration.span).filter fun span =>
      span.start < span.stop) ++ record.scopes.references.toList.map Reference.span).Nodup := by
  rw [h.declarations, h.references]
  exact Outline.nodup_recorded h.tokens_ne

theorem declarations_ne (h : RecordOutlined source record o) :
    record.scopes.declarations.toList.Pairwise fun d d' => d.span.start < d.span.stop →
      d'.span.start < d'.span.stop → d.span ≠ d'.span := by
  have hnodup := (List.nodup_append.mp h.nodup_recorded).1
  rw [List.Nodup, List.pairwise_filter, List.pairwise_map] at hnodup
  exact hnodup.imp fun hne hlt hlt' => hne (decide_eq_true hlt) (decide_eq_true hlt')

theorem declaration_ne_reference (h : RecordOutlined source record o) {d : Declaration}
    (hd : d ∈ record.scopes.declarations) (hlt : d.span.start < d.span.stop) {r : Reference}
    (hr : r ∈ record.scopes.references) : d.span ≠ r.span := by
  have hne := (List.nodup_append.mp h.nodup_recorded).2.2
  refine hne d.span (List.mem_filter.mpr ⟨?_, decide_eq_true hlt⟩) r.span ?_
  · exact List.mem_map_of_mem (Array.mem_toList_iff.mpr hd)
  · exact List.mem_map_of_mem (Array.mem_toList_iff.mpr hr)

end RecordOutlined

/-- The edit takes the place of a token that declares or uses something. -/
def Edit.Renames (own : Outline) (edit : Edit) : Prop := ∃ b ∈ own.names, edit.span = b.token.span

section
variable {l : Linkage} {n : Names} {m : SourceModule} {index : Nat} {item : ModuleItem}
  {o own : Outline} {place : Cursor} {edit edit' : Edit} {i j : Nat}
  (ho : RecordOutlined m.source m.record o) (ht : ItemText m item o own place)
include ht

/-- Names at two spans stand beside each other. -/
theorem ItemText.apart (h : edit.Renames own) (h' : edit'.Renames own)
    (hne : edit.span ≠ edit'.span) : edit.span.Apart edit'.span := by
  obtain ⟨b, hb, hspan⟩ := h
  obtain ⟨b', hb', hspan'⟩ := h'
  rw [hspan, hspan'] at hne ⊢
  refine ht.read.apart (Outline.mem_tokens_of_mem_names hb) (Outline.mem_tokens_of_mem_names hb') ?_
  exact fun heq => hne (heq ▸ rfl)

theorem ItemText.referenceEdit_renames (hi : i ∈ item.references.toList)
    (h : referenceEdit? l n m index i = .ok (some edit)) : edit.Renames own := by
  obtain ⟨r, hr, hspan⟩ := referenceEdit_span h
  obtain ⟨r', hr', b, hb, hb'⟩ := ht.reference i hi
  obtain rfl : r = r' := Option.some.inj (hr.symm.trans hr')
  exact ⟨b, hb, hspan.trans hb'⟩

theorem ItemText.declarationEdit_renames (hi : i ∈ item.declarations.toList)
    (h : declarationEdit? n m index i = .ok (some edit)) : edit.Renames own := by
  obtain ⟨d, hd, hname, hspan⟩ := declarationEdit_span h
  obtain ⟨d', hd', hnamed⟩ := ht.declaration i hi
  obtain rfl : d = d' := Option.some.inj (hd.symm.trans hd')
  obtain ⟨b, hb, hb'⟩ := hnamed hname
  exact ⟨b, hb, hspan.trans hb'⟩

include ho

theorem ItemText.start_lt_stop (h : edit.Renames own) : edit.span.start < edit.span.stop := by
  obtain ⟨b, hb, hspan⟩ := h
  rw [hspan]
  exact ho.tokens_lt (ht.subset (Outline.mem_tokens_of_mem_names hb))

omit ht in
/-- References are replaced in the order in which they stand. -/
theorem RecordOutlined.referenceEdits_row {edits : List (Option Edit)}
    (h : List.Forall₂ (fun i edit => referenceEdit? l n m index i = .ok edit)
      item.references.toList edits) :
    (edits.filterMap id).Pairwise fun a b => a.span.stop ≤ b.span.start := by
  have hsorted : m.record.scopes.references.toList.Pairwise fun r r' =>
      r.span.stop ≤ r'.span.start :=
    ho.references ▸ Outline.separated_references ho.chain.separated
  rw [List.pairwise_filterMap]
  refine pairwise_of_forall₂ h item.references.pairwise_toList
    fun i j _ _ hlt h h' edit hedit edit' hedit' => ?_
  cases hedit
  cases hedit'
  obtain ⟨r, hget, hspan⟩ := referenceEdit_span h
  obtain ⟨r', hget', hspan'⟩ := referenceEdit_span h'
  rw [← Array.getElem?_toList] at hget hget'
  rw [hspan, hspan']
  exact rel_of_getElem? hsorted hlt hget hget'

theorem ItemText.declarationEdits_apart {edits : List (Option Edit)}
    (h : List.Forall₂ (fun i edit => declarationEdit? n m index i = .ok edit)
      item.declarations.toList edits) :
    (edits.filterMap id).Pairwise fun a b => a.span.Apart b.span := by
  rw [List.pairwise_filterMap]
  refine pairwise_of_forall₂ h (List.Pairwise.and_mem.mp item.declarations.pairwise_toList)
    fun i j _ _ ⟨hi, hj, hlt⟩ h h' edit hedit edit' hedit' => ?_
  cases hedit
  cases hedit'
  have hrenames := ht.declarationEdit_renames hi h
  have hrenames' := ht.declarationEdit_renames hj h'
  have hspans := ht.start_lt_stop ho hrenames
  have hspans' := ht.start_lt_stop ho hrenames'
  refine ht.apart hrenames hrenames' ?_
  obtain ⟨d, hget, -, hspan⟩ := declarationEdit_span h
  obtain ⟨d', hget', -, hspan'⟩ := declarationEdit_span h'
  rw [hspan] at hspans ⊢
  rw [hspan'] at hspans' ⊢
  rw [← Array.getElem?_toList] at hget hget'
  exact rel_of_getElem? ho.declarations_ne hlt hget hget' hspans hspans'

/-- No token is replaced as a reference and as a declaration. -/
theorem ItemText.reference_apart_declaration (hi : i ∈ item.references.toList)
    (h : referenceEdit? l n m index i = .ok (some edit)) (hj : j ∈ item.declarations.toList)
    (h' : declarationEdit? n m index j = .ok (some edit')) : edit.span.Apart edit'.span := by
  have hrenames' := ht.declarationEdit_renames hj h'
  have hlt := ht.start_lt_stop ho hrenames'
  refine ht.apart (ht.referenceEdit_renames hi h) hrenames' ?_
  obtain ⟨r, hget, hspan⟩ := referenceEdit_span h
  obtain ⟨d, hget', -, hspan'⟩ := declarationEdit_span h'
  rw [hspan'] at hlt
  rw [hspan, hspan']
  exact (ho.declaration_ne_reference (Array.mem_of_getElem? hget') hlt
    (Array.mem_of_getElem? hget)).symm

/-- The names that an item declares and uses are replaced one by one. -/
theorem ItemText.renames_apart {references declarations : List (Option Edit)}
    (hreferences : item.references.toList.mapM (referenceEdit? l n m index) = .ok references)
    (hdeclarations : item.declarations.toList.mapM (declarationEdit? n m index) = .ok declarations) :
    (∀ edit ∈ references.filterMap id ++ declarations.filterMap id, edit.Renames own) ∧
      (references.filterMap id ++ declarations.filterMap id).Pairwise fun a b =>
        a.span.Apart b.span := by
  rw [mapM_eq_ok] at hreferences hdeclarations
  constructor
  · refine List.forall_mem_append.mpr ⟨fun edit hedit => ?_, fun edit hedit => ?_⟩
    · obtain ⟨i, hi, h⟩ := exists_of_forall₂_some hreferences hedit
      exact ht.referenceEdit_renames hi h
    · obtain ⟨i, hi, h⟩ := exists_of_forall₂_some hdeclarations hedit
      exact ht.declarationEdit_renames hi h
  · refine List.pairwise_append.mpr ⟨(ho.referenceEdits_row hreferences).imp .inl,
      ht.declarationEdits_apart ho hdeclarations, fun edit hedit edit' hedit' => ?_⟩
    obtain ⟨i, hi, h⟩ := exists_of_forall₂_some hreferences hedit
    obtain ⟨j, hj, h'⟩ := exists_of_forall₂_some hdeclarations hedit'
    exact ht.reference_apart_declaration ho hi h hj h'

end

/-! ## The part that is taken away -/

/-- The edit begins and ends where tokens do. That by which a default export gets its name may take
the blanks after a token as well. -/
def Edit.OnEdges (m : SourceModule) (item : ModuleItem) (tokens : List BufferedToken)
    (edit : Edit) : Prop :=
  TokenEdge tokens edit.span.start ∧ (TokenEdge tokens edit.span.stop ∨
    ∃ strip, item.kind = .exportDefaultDeclaration strip (some edit.span.start) ∧
      ∀ c ∈ (m.slice edit.span).toList, isBlank c = true)

/-- What is known of the edits that take the exporting away from an item: they stand in a row from
the beginning of the item, before all that is replaced of it. -/
structure HeadEdits (m : SourceModule) (item : ModuleItem) (own : Outline) (edits : List Edit) :
    Prop where
  row : edits.Pairwise fun a b => a.span.stop ≤ b.span.start
  start : ∀ edit ∈ edits, item.span.start ≤ edit.span.start
  marked : ∀ edit ∈ edits, ∀ b, own.Marked b → edit.span.stop ≤ b.token.span.start
  edges : ∀ edit ∈ edits, edit.OnEdges m item own.tokens

section
variable {n : Names} {m : SourceModule} {index : Nat} {item : ModuleItem} {o own : Outline}
  {place : Cursor}

theorem headEdits_singleton {edit : Edit} (hstart : edit.span.start = item.span.start)
    (hmarked : ∀ b, own.Marked b → edit.span.stop ≤ b.token.span.start)
    (hedges : edit.OnEdges m item own.tokens) : HeadEdits m item own [edit] where
  row := List.pairwise_singleton _ _
  start := List.forall_mem_singleton.mpr (Nat.le_of_eq hstart.symm)
  marked := List.forall_mem_singleton.mpr hmarked
  edges := List.forall_mem_singleton.mpr hedges

variable (ht : ItemText m item o own place)
include ht

/-- The word `export` stands at the beginning of the item. -/
theorem ItemText.headEdits_strip {strip : Span} (hstart : strip.start = item.span.start)
    (hbare : own.BareBefore strip.stop) (text : String) :
    HeadEdits m item own [⟨strip, text, none⟩] := by
  have hedge : TokenEdge own.tokens strip.start := by
    obtain ⟨head, rest, rfl, -, first, hfirst, -⟩ := hbare
    have hne : (head ++ rest).tokens ≠ [] := by
      rw [Outline.tokens_append]
      exact List.append_ne_nil_of_right_ne_nil _ (List.ne_nil_of_mem (List.mem_of_head? hfirst))
    obtain ⟨b, hb, heq⟩ := exists_extent_start hne
    exact ⟨b, hb, .inl (by rw [hstart, ht.span, heq])⟩
  exact headEdits_singleton hstart (fun b hb => hbare.le_marked ht.read hb) ⟨hedge, .inl hbare.edge⟩

/-- A name that is put in takes the place of blanks, before all that is replaced of an item. -/
theorem ItemText.insertName_blank {offset : Nat} (hbare : own.BareUpTo offset) (name : String) :
    (∀ b, own.Marked b → (insertName m offset name).span.stop ≤ b.token.span.start) ∧
      ∀ c ∈ (m.slice (insertName m offset name).span).toList, isBlank c = true := by
  obtain ⟨last, hlast, rfl, hmarked⟩ := hbare.exists_place ht.read
  have hleads := ht.leads.trans hlast
  unfold insertName
  rw [Cursor.advanceTo_eq hleads, m.slice_eq hleads]
  constructor
  · intro b hb
    exact Nat.le_trans (leads_gap last).offset_le (hmarked b hb)
  · unfold Cursor.textUpTo
    have hgap : Cursor.upTo (last.offset + byteLength (last.rest.takeWhile isBlank)) last =
        last.rest.takeWhile isBlank :=
      Cursor.upTo_eq (d := ⟨_, last.rest.dropWhile isBlank⟩)
        List.takeWhile_append_dropWhile.symm rfl
    rw [String.toList_ofList, hgap]
    exact fun c hc => List.mem_takeWhile_imp hc

/-- The exporting is taken away from an item. -/
theorem ItemText.headEdits {edits : List Edit}
    (h : exportEdits n m index item.kind = .ok edits) : HeadEdits m item own edits := by
  have hhead := ht.head
  cases hk : item.kind with
  | exportDeclaration strip =>
    rw [hk] at h hhead
    cases h
    exact ht.headEdits_strip hhead.1 hhead.2 ""
  | exportDefaultExpression strip value =>
    rw [hk] at h hhead
    obtain ⟨name, -, h⟩ := bind_eq_ok.mp h
    cases h
    exact ht.headEdits_strip hhead.1 hhead.2 _
  | exportDefaultDeclaration strip nameAt =>
    rw [hk] at h hhead
    obtain ⟨hstart, hbare, hname⟩ := hhead
    have hstrip := ht.headEdits_strip hstart hbare ""
    cases nameAt with
    | none =>
      cases h
      exact hstrip
    | some offset =>
      obtain ⟨name, -, h⟩ := bind_eq_ok.mp h
      cases h
      obtain ⟨hle, hupto⟩ := hname offset rfl
      obtain ⟨hmarked, hblank⟩ := ht.insertName_blank hupto name
      have hfrom := (ht.read.edge_within hupto.edge).1
      rw [← ht.span] at hfrom
      exact {
        row := List.pairwise_pair.mpr hle
        start := List.forall_mem_cons.mpr
          ⟨Nat.le_of_eq hstart.symm, List.forall_mem_singleton.mpr hfrom⟩
        marked := List.forall_mem_cons.mpr
          ⟨hstrip.marked _ List.mem_cons_self, List.forall_mem_singleton.mpr hmarked⟩
        edges := List.forall_mem_cons.mpr ⟨hstrip.edges _ List.mem_cons_self,
          List.forall_mem_singleton.mpr ⟨hupto.edge, .inr ⟨strip, hk, hblank⟩⟩⟩ }
  | importDeclaration | exportList | exportFrom | declaration | statement =>
    rw [hk] at h
    cases h
    exact ⟨.nil, nofun, nofun, nofun⟩

end

/-! ## All edits of an item -/

section
variable {l : Linkage} {n : Names} {m : SourceModule} {index : Nat} {item : ModuleItem}
  {o own : Outline} {place : Cursor}

/-- What is known of the edits by which dynamic imports in an item become promises. -/
structure CallEdits (m : SourceModule) (n : Names) (item : ModuleItem) (o own : Outline)
    (edits : List Edit) : Prop where
  isCall : ∀ edit ∈ edits, m.CallEdit n edit
  nested : edits.Pairwise fun a b => a.span.BeforeOrInside b.span
  call : ∀ edit ∈ edits, ImportCall o.tokens edit.span
  start : ∀ edit ∈ edits, ∃ b, own.Marked b ∧ edit.span.start = b.token.span.start

variable (ho : RecordOutlined m.source m.record o) (ht : ItemText m item o own place)
include ho ht

theorem ItemText.callEdits {edits : List Edit}
    (h : (m.dynamicSlots.filter fun entry => item.span.contains entry.1.span.start).mapM
      (fun entry => dynamicEdit n entry.1 entry.2) = .ok edits) : CallEdits m n item o own edits := by
  rw [mapM_eq_ok] at h
  obtain ⟨added, hadded, hcalls, hnested⟩ := ho.calls
  rw [List.nil_append] at hadded
  rw [← hadded] at hcalls hnested
  have hentry : ∀ edit ∈ edits, ∃ dynamic ∈ m.record.dynamicImports, edit.span = dynamic.span ∧
      item.span.contains dynamic.span.start = true := by
    intro edit hedit
    obtain ⟨⟨dynamic, slot⟩, hmem, hedit⟩ := exists_of_forall₂ h hedit
    obtain ⟨hslot, hin⟩ := List.mem_filter.mp hmem
    obtain ⟨d, -, hd, -⟩ := SourceModule.mem_dynamicSlots.mp hslot
    exact ⟨dynamic, Array.mem_of_getElem? hd, dynamicEdit_span hedit, hin⟩
  constructor
  case isCall =>
    intro edit hedit
    obtain ⟨entry, hmem, hedit⟩ := exists_of_forall₂ h hedit
    exact ⟨entry, List.mem_of_mem_filter hmem, hedit⟩
  case nested =>
    refine pairwise_of_forall₂ h ((m.pairwise_dynamicSlots hnested).filter _)
      fun entry entry' edit edit' hrelated hedit hedit' => ?_
    rw [dynamicEdit_span hedit, dynamicEdit_span hedit']
    exact hrelated
  case call =>
    intro edit hedit
    obtain ⟨dynamic, hdynamic, hspan, -⟩ := hentry edit hedit
    rw [hspan]
    exact hcalls dynamic (Array.mem_toList_iff.mpr hdynamic)
  case start =>
    intro edit hedit
    obtain ⟨dynamic, hdynamic, hspan, hin⟩ := hentry edit hedit
    rw [hspan]
    exact ht.call dynamic hdynamic hin

/-- A name that is replaced stands beside a dynamic import or inside of it. -/
theorem ItemText.renames_fit {edit edit' : Edit} (h : edit.Renames own)
    (hcall : m.CallEdit n edit') (himport : ImportCall o.tokens edit'.span) :
    edit.Fit (m.CallEdit n) edit' := by
  obtain ⟨b, hb, hspan⟩ := h
  have hmem := ht.subset (Outline.mem_tokens_of_mem_names hb)
  have htype : b.token.type ≠ .keywordImport := by
    intro heq
    have hname := ht.names b hb
    rw [heq] at hname
    cases hname
  have hfit := himport.apart_or_inside ho.chain (fun a ha => ho.tokens_lt ha) hmem htype
  rw [← hspan] at hfit
  exact hfit.imp_right fun hin => .inr ⟨hcall, hin⟩

omit ho in
/-- What is marked in an item does not begin before it. -/
theorem ItemText.start_le {b : BufferedToken} (hb : b ∈ own.tokens) :
    item.span.start ≤ b.token.span.start := by
  rw [ht.span]
  exact (ht.read.within_extent hb).1

end

/-- What is known of all edits of an item. -/
structure ItemEdited (m : SourceModule) (n : Names) (item : ModuleItem)
    (tokens : List BufferedToken) (edits : List Edit) : Prop where
  /-- One comes after the other, or lies in a dynamic import that the other one replaces. -/
  fit : edits.Pairwise (Edit.Fit (m.CallEdit n))
  start : ∀ edit ∈ edits, item.span.start ≤ edit.span.start
  edges : ∀ edit ∈ edits, edit.OnEdges m item tokens

/-- **The edits of an item** fit together: no two of them overlap, except that there may be some inside
of a dynamic import that is replaced. They leave tokens whole. -/
theorem itemEdits_fit {l : Linkage} {n : Names} {m : SourceModule} {index : Nat}
    {item : ModuleItem} {o : Outline} (ho : RecordOutlined m.source m.record o)
    (hitem : item ∈ m.record.items) {edits : List Edit}
    (h : itemEdits l n m index item = .ok edits) : ItemEdited m n item o.tokens edits := by
  obtain ⟨own, place, ht⟩ := ho.itemText hitem
  obtain ⟨references, hreferences, h⟩ := bind_eq_ok.mp h
  obtain ⟨declarations, hdeclarations, h⟩ := bind_eq_ok.mp h
  obtain ⟨exports, hexports, h⟩ := bind_eq_ok.mp h
  obtain ⟨dynamic, hdynamic, h⟩ := bind_eq_ok.mp h
  obtain rfl := pure_eq_ok.mp h
  obtain ⟨hrenames, hapart⟩ := ht.renames_apart ho hreferences hdeclarations
  have hheads := ht.headEdits hexports
  have hcalls := ht.callEdits ho hdynamic
  have hmarked : ∀ {edit : Edit}, edit.Renames own →
      ∃ b, own.Marked b ∧ edit.span.start = b.token.span.start := by
    rintro edit ⟨b, hb, hspan⟩
    exact ⟨b, .inl hb, congrArg Span.start hspan⟩
  constructor
  case fit =>
    refine List.pairwise_append.mpr ⟨List.pairwise_append.mpr ⟨?_, ?_, ?_⟩, ?_, ?_⟩
    · exact hapart.imp .inl
    · exact hheads.row.imp fun hle => .inl (.inl hle)
    · intro edit hedit head hhead
      obtain ⟨b, hb, hstart⟩ := hmarked (hrenames edit hedit)
      exact .inl (.inr (hstart ▸ hheads.marked head hhead b hb))
    · refine List.Pairwise.imp_of_mem (fun _ hb hnested => ?_) hcalls.nested
      exact hnested.imp .inl fun hin => .inr ⟨hcalls.isCall _ hb, hin⟩
    · intro edit hedit call hcall
      rcases List.mem_append.mp hedit with hedit | hedit
      · exact ht.renames_fit ho (hrenames edit hedit) (hcalls.isCall call hcall)
          (hcalls.call call hcall)
      · obtain ⟨b, hb, hstart⟩ := hcalls.start call hcall
        exact .inl (.inl (hstart ▸ hheads.marked edit hedit b hb))
  case start =>
    have hfrom : ∀ edit : Edit, (∃ b, own.Marked b ∧ edit.span.start = b.token.span.start) →
        item.span.start ≤ edit.span.start := by
      rintro edit ⟨b, hb, hstart⟩
      rw [hstart]
      exact ht.start_le hb.mem_tokens
    refine List.forall_mem_append.mpr ⟨List.forall_mem_append.mpr ⟨?_, hheads.start⟩, ?_⟩
    · exact fun edit hedit => hfrom edit (hmarked (hrenames edit hedit))
    · exact fun edit hedit => hfrom edit (hcalls.start edit hedit)
  case edges =>
    refine List.forall_mem_append.mpr ⟨List.forall_mem_append.mpr ⟨?_, ?_⟩, ?_⟩
    · intro edit hedit
      obtain ⟨b, hb, hspan⟩ := hrenames edit hedit
      have hedges := tokenEdges_of_mem (ht.subset (Outline.mem_tokens_of_mem_names hb))
      rw [← hspan] at hedges
      exact ⟨hedges.1, .inl hedges.2⟩
    · intro edit hedit
      obtain ⟨hstart, hstop⟩ := hheads.edges edit hedit
      exact ⟨hstart.mono ht.subset, hstop.imp_left fun h => h.mono ht.subset⟩
    · intro edit hedit
      have hedges := (hcalls.call edit hedit).edges
      exact ⟨hedges.1, .inl hedges.2⟩

end ModuleBundler
