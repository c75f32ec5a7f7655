import ModuleBundler.Proofs.BundleParts
import ModuleBundler.Proofs.EditEdges

/-!
# Tokens in the parts of a bundle

* `Part.Sound` : a part begins and ends outside of the tokens of its module;
* `itemParts_sound`, `itemParts_token` : the parts of an item are sound, and each token of the item
  begins in one of the edits or is copied;
* `Copies`, `Replaces`, `Stands` : a token is copied, and something is put in the place of a piece;
* `mem_marksFrom_iff` : the marks of parts are where these are;
* `marks_distinct` : and no two of them are at the same end of the output.
-/

namespace ModuleBundler

open Cursor (Leads)

/-! ## Sound parts -/

/-- The tokens of modules, the latest first. -/
abbrev TokenTable := SourceModule → List BufferedToken

/-- A part begins and ends at places of the text of its module that are outside of its tokens. -/
def Part.Sound (tokens : TokenTable) : Part → Prop
  | .written _ => True
  | .copied m span => RecordRead (.ofString m.source) (tokens m) m.record ∧
    (∃ last, span.Between (.ofString m.source) last) ∧ OutsideTokens (tokens m) span.stop ∧
    span.stop ≤ (placeAfter (.ofString m.source) (tokens m).reverse).offset
  | .replaced m edit => RecordRead (.ofString m.source) (tokens m) m.record ∧
    ∀ old, edit.name = some old → Spelled (tokens m) old edit.span

section
variable {tokens : TokenTable} {m : SourceModule} {last : Cursor}
  (hrecord : RecordRead (.ofString m.source) (tokens m) m.record)
include hrecord

/-- The parts of the text of a module with edits in it are sound. -/
theorem editParts_sound {place : Cursor} {edits : List Edit}
    (hplace : (Cursor.ofString m.source).Leads place) (hlast : place.Leads last)
    (hstop : OutsideTokens (tokens m) last.offset)
    (hend : last.offset ≤ (placeAfter (.ofString m.source) (tokens m).reverse).offset)
    (hedits : ∀ edit ∈ edits, EditRead (.ofString m.source) last (tokens m) edit) :
    ∀ part ∈ editParts m last.offset place.offset edits, part.Sound tokens := by
  induction edits generalizing place with
  | nil => exact List.forall_mem_singleton.mpr ⟨hrecord, ⟨last, .upto hplace hlast⟩, hstop, hend⟩
  | cons edit edits ih =>
    obtain ⟨hedit, hrest⟩ := List.forall_mem_cons.mp hedits
    rw [editParts]
    split
    · exact ih hplace hlast hrest
    · rename_i hge
      obtain ⟨first, after, hfirst, hafter, hupto, hspan⟩ := hedit.between
      have hbefore := hplace.total hfirst (by rw [hspan] at hge; exact Nat.le_of_not_lt hge)
      have hle := (hafter.trans hupto).offset_le
      have hstart := hedit.start
      rw [hspan] at hstart ⊢
      refine List.forall_mem_cons.mpr ⟨?_, List.forall_mem_cons.mpr ⟨⟨hrecord, hedit.name⟩, ?_⟩⟩
      · exact ⟨hrecord, ⟨first, .upto hplace hbefore⟩, hstart, Nat.le_trans hle hend⟩
      · exact ih (hfirst.trans hafter) hupto hrest

/-- The parts of an item are sound. -/
theorem itemParts_sound {l : Linkage} {n : Names} {index : Nat} {item : ModuleItem}
    {edits : List Edit} (hmem : item ∈ m.record.items)
    (hedits : itemEdits l n m index item = .ok edits) :
    ∀ part ∈ itemParts m item edits, part.Sound tokens := by
  obtain ⟨last, hitem⟩ := hrecord.items item hmem
  have hread : ∀ edit ∈ edits.mergeSort Edit.before,
      EditRead (.ofString m.source) last (tokens m) edit := fun edit hedit =>
    itemEdits_read hrecord hitem hedits edit (List.mem_mergeSort.mp hedit)
  obtain ⟨first, hfirst, hlast, hspan⟩ := hitem.span
  have hedge := hitem.edges.2
  rw [hspan] at hedge
  have hparts := editParts_sound hrecord hfirst hlast (hrecord.chain.outside_edge hedge)
    (hrecord.chain.edge_le hedge) hread
  unfold itemParts
  rw [hspan]
  refine List.forall_mem_append.mpr ⟨hparts, ?_⟩
  exact List.forall_mem_cons.mpr ⟨trivial, List.forall_mem_singleton.mpr trivial⟩

end

/-! ## Modules -/

/-- The module that the part is of. -/
def Part.module? : Part → Option SourceModule
  | .written _ => none
  | .copied m _ | .replaced m _ => some m

theorem editParts_module {m : SourceModule} {stop offset : Nat} {edits : List Edit} :
    ∀ part ∈ editParts m stop offset edits, part.module? = some m := by
  induction edits generalizing offset with
  | nil => exact List.forall_mem_singleton.mpr rfl
  | cons edit edits ih =>
    rw [editParts]
    split
    · exact ih
    · exact List.forall_mem_cons.mpr ⟨rfl, List.forall_mem_cons.mpr ⟨rfl, ih⟩⟩

/-! ## Marks -/

theorem mem_marks_copied {m : SourceModule} {span : Span} {front : String} {mark : Mark} :
    mark ∈ (Part.copied m span).marks front ↔ ∃ t ∈ m.record.tokenStarts, span.start ≤ t ∧
      t < span.stop ∧ mark = ⟨front ++ m.slice ⟨span.start, t⟩, m, t, none⟩ := by
  simp only [Part.marks, List.mem_map, List.mem_filter, Bool.and_eq_true, decide_eq_true_eq,
    and_assoc, @eq_comm _ _ mark]

theorem mem_marks_replaced {m : SourceModule} {edit : Edit} {front : String} {mark : Mark} :
    mark ∈ (Part.replaced m edit).marks front ↔
      edit.text ≠ "" ∧ mark = ⟨front, m, edit.span.start, edit.name⟩ := by
  by_cases h : edit.text = ""
  · simp [Part.marks, h]
  · simp [Part.marks, h]

theorem mem_marksFrom {front : String} {parts : List Part} {mark : Mark} :
    mark ∈ marksFrom front parts ↔
      ∃ ahead part back, parts = ahead ++ part :: back ∧
        mark ∈ part.marks (front ++ partsText ahead) := by
  induction parts generalizing front with
  | nil => simp [marksFrom]
  | cons first parts ih =>
    rw [marksFrom, List.mem_append, ih]
    constructor
    · rintro (hmem | ⟨ahead, part, back, rfl, hmem⟩)
      · refine ⟨[], first, parts, rfl, ?_⟩
        rw [partsText_nil, String.append_empty]
        exact hmem
      · refine ⟨first :: ahead, part, back, rfl, ?_⟩
        rw [partsText_cons, ← String.append_assoc]
        exact hmem
    · rintro ⟨ahead, part, back, heq, hmem⟩
      cases ahead with
      | nil =>
        cases heq
        rw [partsText_nil, String.append_empty] at hmem
        exact .inl hmem
      | cons other ahead =>
        cases heq
        rw [partsText_cons, ← String.append_assoc] at hmem
        exact .inr ⟨ahead, part, back, rfl, hmem⟩

theorem SourceModule.utf8ByteSize_slice {m : SourceModule} {a b : Cursor}
    (ha : (Cursor.ofString m.source).Leads a) (hab : a.Leads b) :
    a.offset + (m.slice ⟨a.offset, b.offset⟩).utf8ByteSize = b.offset := by
  rw [m.slice_eq ha, Cursor.utf8ByteSize_textUpTo hab]

theorem SourceModule.slice_append {m : SourceModule} {a b : Cursor}
    (ha : (Cursor.ofString m.source).Leads a) (hab : a.Leads b) {stop : Nat}
    (hstop : b.offset ≤ stop) :
    m.slice ⟨a.offset, b.offset⟩ ++ m.slice ⟨b.offset, stop⟩ = m.slice ⟨a.offset, stop⟩ := by
  rw [m.slice_eq ha, m.slice_eq (ha.trans hab), m.slice_eq ha, Cursor.textUpTo_append hab hstop]

section
variable {tokens : TokenTable} {m : SourceModule} {span : Span}

/-- A token that begins in a copy begins at a place in it. -/
theorem Part.Sound.places (h : (Part.copied m span).Sound tokens) {t : Nat}
    (ht : t ∈ m.record.tokenStarts) (hstart : span.start ≤ t) (hstop : t < span.stop) :
    ∃ start place stop : Cursor, (Cursor.ofString m.source).Leads start ∧ start.Leads place ∧
      place.Leads stop ∧ span = ⟨start.offset, stop.offset⟩ ∧ t = place.offset := by
  obtain ⟨hrecord, ⟨last, start, stop, hfirst, hspan, -, rfl⟩, -, -⟩ := h
  obtain ⟨place, hplace, rfl⟩ := hrecord.starts t ht
  refine ⟨start, place, stop, hfirst, hfirst.total hplace hstart, ?_, rfl, rfl⟩
  exact hplace.total (hfirst.trans hspan) (Nat.le_of_lt hstop)

/-- The marks of a part are of its module. -/
theorem Part.module?_of_mem_marks {part : Part} {front : String} {mark : Mark}
    (hmark : mark ∈ part.marks front) : part.module? = some mark.module := by
  cases part with
  | written text => cases hmark
  | copied m span =>
    obtain ⟨_, -, -, -, rfl⟩ := mem_marks_copied.mp hmark
    rfl
  | replaced m edit =>
    obtain ⟨-, rfl⟩ := mem_marks_replaced.mp hmark
    rfl

/-- The marks of a part are in it, before its end. -/
theorem Part.Sound.marks_within {part : Part} (h : part.Sound tokens) {front : String} {mark : Mark}
    (hmark : mark ∈ part.marks front) : front.utf8ByteSize ≤ mark.before.utf8ByteSize ∧
      mark.before.utf8ByteSize < (front ++ part.text).utf8ByteSize := by
  rw [String.utf8ByteSize_append]
  cases part with
  | written text => cases hmark
  | copied m span =>
    obtain ⟨t, ht, hle, hlt, rfl⟩ := mem_marks_copied.mp hmark
    obtain ⟨start, place, stop, hfirst, hplace, hstop, rfl, rfl⟩ := h.places ht hle hlt
    have hto := m.utf8ByteSize_slice hfirst hplace
    have hall := m.utf8ByteSize_slice hfirst (hplace.trans hstop)
    dsimp only [Part.text] at hlt ⊢
    rw [String.utf8ByteSize_append]
    omega
  | replaced m edit =>
    obtain ⟨htext, rfl⟩ := mem_marks_replaced.mp hmark
    have : edit.text.utf8ByteSize ≠ 0 := fun h => htext (String.utf8ByteSize_eq_zero_iff.mp h)
    dsimp only [Part.text]
    omega

/-- Of the marks of a part no two have the same output before them. -/
theorem Part.Sound.marks_distinct {part : Part} (h : part.Sound tokens) {front : String}
    {mark other : Mark} (hmark : mark ∈ part.marks front) (hother : other ∈ part.marks front)
    (hbefore : mark.before = other.before) : mark = other := by
  cases part with
  | written text => cases hmark
  | copied m span =>
    obtain ⟨t, ht, hle, hlt, rfl⟩ := mem_marks_copied.mp hmark
    obtain ⟨t', ht', hle', hlt', rfl⟩ := mem_marks_copied.mp hother
    obtain ⟨start, place, stop, hfirst, hplace, -, rfl, rfl⟩ := h.places ht hle hlt
    obtain ⟨start', place', stop', hfirst', hplace', -, hspan, rfl⟩ := h.places ht' hle' hlt'
    obtain ⟨hstart, -⟩ := Span.mk.inj hspan
    have hto := m.utf8ByteSize_slice hfirst hplace
    have hto' := m.utf8ByteSize_slice hfirst' hplace'
    have hsize := congrArg String.utf8ByteSize hbefore
    dsimp only at hsize
    rw [String.utf8ByteSize_append, String.utf8ByteSize_append, hstart] at hsize
    have hoffset : place.offset = place'.offset := by
      rw [hstart] at hto
      omega
    rw [hoffset]
  | replaced m edit =>
    obtain ⟨-, rfl⟩ := mem_marks_replaced.mp hmark
    exact (mem_marks_replaced.mp hother).2.symm

/-- **No two marks** of an output have the same output before them. -/
theorem marks_distinct {parts : List Part} (hsound : ∀ part ∈ parts, part.Sound tokens)
    {front : String} : ∀ mark ∈ marksFrom front parts, ∀ other ∈ marksFrom front parts,
      mark.before = other.before → mark = other := by
  have hbounds : ∀ (parts : List Part) (front : String), (∀ part ∈ parts, part.Sound tokens) →
      ∀ mark ∈ marksFrom front parts, front.utf8ByteSize ≤ mark.before.utf8ByteSize := by
    intro parts front hsound mark hmark
    obtain ⟨ahead, part, back, rfl, hin⟩ := mem_marksFrom.mp hmark
    have hwithin := ((hsound part (by simp)).marks_within hin).1
    rw [String.utf8ByteSize_append] at hwithin
    omega
  induction parts generalizing front with
  | nil => exact fun _ h => nomatch h
  | cons part parts ih =>
    obtain ⟨hpart, hparts⟩ := List.forall_mem_cons.mp hsound
    have hlater : ∀ mark ∈ part.marks front, ∀ other ∈ marksFrom (front ++ part.text) parts,
        mark.before ≠ other.before := by
      intro mark hmark other hother heq
      have hlt := (hpart.marks_within hmark).2
      have hle := hbounds parts _ hparts other hother
      rw [heq] at hlt
      omega
    intro mark hmark other hother heq
    rw [marksFrom, List.mem_append] at hmark hother
    rcases hmark with hmark | hmark
    · rcases hother with hother | hother
      · exact hpart.marks_distinct hmark hother heq
      · exact absurd heq (hlater mark hmark other hother)
    · rcases hother with hother | hother
      · exact absurd heq.symm (hlater other hother mark hmark)
      · exact ih hparts mark hmark other hother heq

end

/-! ## Tokens in parts -/

/-- A piece of a module, from the start of a token on, is in a copy, after the output `before`. -/
def Copies (parts : List Part) (before : String) (m : SourceModule) (token : Span) : Prop :=
  ∃ ahead span back, parts = ahead ++ .copied m span :: back ∧ span.start ≤ token.start ∧
    token.start < span.stop ∧ token.stop ≤ span.stop ∧
    before = partsText ahead ++ m.slice ⟨span.start, token.start⟩

/-- A text takes the place of a piece of a module, after the output `before`. -/
def Replaces (parts : List Part) (before : String) (m : SourceModule) (edit : Edit) : Prop :=
  ∃ ahead back, parts = ahead ++ .replaced m edit :: back ∧ edit.text ≠ "" ∧
    before = partsText ahead

/-- At the mark a token is copied, or something is put in the place of a piece. -/
inductive Stands (tokens : TokenTable) (parts : List Part) : Mark → Prop
  | token {before : String} {m : SourceModule} {b : BufferedToken}
    (h : Copies parts before m b.token.span) (hb : b ∈ tokens m) (htype : b.token.type ≠ .eof) :
    Stands tokens parts ⟨before, m, b.token.span.start, none⟩
  | replacing {before : String} {m : SourceModule} {edit : Edit}
    (h : Replaces parts before m edit) : Stands tokens parts ⟨before, m, edit.span.start, edit.name⟩

/-- Before the end of all tokens the starts in a record are those of tokens. -/
theorem RecordRead.mem_tokenStarts {source : Cursor} {tokens : List BufferedToken}
    {record : ModuleRecord} (h : RecordRead source tokens record) {t : Nat}
    (hlt : t < (placeAfter source tokens.reverse).offset) :
    t ∈ record.tokenStarts ↔ ∃ b ∈ tokens, b.token.type ≠ .eof ∧ t = b.token.span.start := by
  obtain ⟨more, hmore, heq⟩ := h.tokenStarts
  rw [heq, List.mem_append]
  constructor
  · rintro (hmem | hmem)
    · obtain ⟨b, hb, rfl⟩ := List.mem_map.mp hmem
      obtain ⟨hb, htype⟩ := List.mem_filter.mp hb
      exact ⟨b, List.mem_reverse.mp hb, of_decide_eq_true htype, rfl⟩
    · exact absurd (hmore t hmem) (Nat.not_le_of_lt hlt)
  · rintro ⟨b, hb, htype, rfl⟩
    refine .inl (List.mem_map.mpr ⟨b, List.mem_filter.mpr ⟨?_, ?_⟩, rfl⟩)
    · exact List.mem_reverse.mpr hb
    · exact decide_eq_true htype

/-- **The marks of parts** are where tokens are copied and where something is put in the place of a
piece. -/
theorem mem_marksFrom_iff {tokens : TokenTable} {parts : List Part}
    (hsound : ∀ part ∈ parts, part.Sound tokens) {mark : Mark} :
    mark ∈ marksFrom "" parts ↔ Stands tokens parts mark := by
  rw [mem_marksFrom]
  constructor
  · rintro ⟨ahead, part, back, rfl, hmark⟩
    rw [String.empty_append] at hmark
    have hpart := hsound part (by simp)
    cases part with
    | written text => cases hmark
    | copied m span =>
      obtain ⟨t, ht, hle, hlt, rfl⟩ := mem_marks_copied.mp hmark
      obtain ⟨hrecord, -, hstop, hend⟩ := hpart
      obtain ⟨b, hb, htype, rfl⟩ :=
        (hrecord.mem_tokenStarts (Nat.lt_of_lt_of_le hlt hend)).mp ht
      refine .token ⟨ahead, span, back, rfl, hle, hlt, ?_, rfl⟩ hb htype
      have := hstop b hb
      omega
    | replaced m edit =>
      obtain ⟨htext, rfl⟩ := mem_marks_replaced.mp hmark
      exact .replacing ⟨ahead, back, rfl, htext, rfl⟩
  · rintro (⟨⟨ahead, span, back, rfl, hle, hlt, -, rfl⟩, hb, htype⟩ |
      ⟨ahead, back, rfl, htext, rfl⟩)
    · rename_i m b
      obtain ⟨hrecord, -, -, hend⟩ := hsound (.copied m span) (by simp)
      refine ⟨ahead, _, back, rfl, mem_marks_copied.mpr ⟨_, ?_, hle, hlt, ?_⟩⟩
      · exact (hrecord.mem_tokenStarts (Nat.lt_of_lt_of_le hlt hend)).mpr ⟨b, hb, htype, rfl⟩
      · rw [String.empty_append]
    · refine ⟨ahead, _, back, rfl, mem_marks_replaced.mpr ⟨htext, ?_⟩⟩
      rw [String.empty_append]

/-- Where a token is copied the text goes on with it. -/
theorem Copies.text {tokens : TokenTable} {parts : List Part}
    (hsound : ∀ part ∈ parts, part.Sound tokens) {before : String} {m : SourceModule}
    {b : BufferedToken} (h : Copies parts before m b.token.span) (hb : b ∈ tokens m) :
    ∃ rest, before ++ m.slice b.token.span ++ rest = partsText parts := by
  obtain ⟨ahead, span, back, rfl, hle, hlt, hstop, rfl⟩ := h
  obtain ⟨hrecord, ⟨last, start, stop, hstart, -, -, rfl⟩, -, -⟩ := hsound (.copied m span) (by simp)
  obtain ⟨first, after, hfirst, hafter, -, hspan⟩ :=
    hrecord.chain.between b (List.mem_reverse.mpr hb)
  rw [hspan] at hle hlt hstop ⊢
  refine ⟨m.slice ⟨after.offset, stop.offset⟩ ++ partsText back, ?_⟩
  have hcopied : m.slice ⟨start.offset, first.offset⟩ ++ (m.slice ⟨first.offset, after.offset⟩ ++
      m.slice ⟨after.offset, stop.offset⟩) = m.slice ⟨start.offset, stop.offset⟩ := by
    rw [m.slice_append hfirst hafter hstop, m.slice_append hstart (hstart.total hfirst hle)]
    exact Nat.le_of_lt hlt
  rw [partsText_append, partsText_cons, Part.text, ← hcopied]
  simp only [String.append_assoc]

/-- Each token of an item begins in one of its edits or is copied. -/
theorem editParts_token (m : SourceModule) {stop offset t : Nat} (edits : List Edit)
    (hle : offset ≤ t) (hlt : t < stop) :
    (∃ edit ∈ edits, edit.span.start ≤ t ∧ t < edit.span.stop) ∨
      ∃ ahead span back, editParts m stop offset edits = ahead ++ .copied m span :: back ∧
        span.start ≤ t ∧ t < span.stop := by
  induction edits generalizing offset with
  | nil => exact .inr ⟨[], _, [], rfl, hle, hlt⟩
  | cons edit edits ih =>
    rw [editParts]
    split
    · refine (ih hle).imp_left ?_
      rintro ⟨other, hmem, hin⟩
      exact ⟨other, List.mem_cons_of_mem _ hmem, hin⟩
    · rename_i hge
      rcases Nat.lt_or_ge t edit.span.start with hbefore | hfrom
      · exact .inr ⟨[], _, _, rfl, hle, hbefore⟩
      · rcases Nat.lt_or_ge t edit.span.stop with hin | hafter
        · exact .inl ⟨edit, List.mem_cons_self, hfrom, hin⟩
        · rcases ih hafter with ⟨other, hmem, hin⟩ | ⟨ahead, span, back, heq, hin⟩
          · exact .inl ⟨other, List.mem_cons_of_mem _ hmem, hin⟩
          · exact .inr ⟨_ :: _ :: ahead, span, back, by rw [heq]; rfl, hin⟩

end ModuleBundler
