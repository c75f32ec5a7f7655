import Mathlib.Data.List.Pairwise
import ModuleBundler.Proofs.ModuleIndices
import ModuleBundler.Proofs.Syntax.Module

/-!
# The structure of module records

* `ReadFrom.isPlace` : tokens in a row stand between characters;
* `Itemized.separated`, `Itemized.flatMap_declarations` : items in a row do not overlap, and what
  they record is all there is, in order;
* `Outline.separated_leaves`, `Outline.nodup_recorded` : nothing is recorded twice;
* `ModuleRecord.offsets` : all offsets in a record;
* `ModuleRecord.Structured`, `parseModule_structured` : the record of every module text is so.
-/

namespace ModuleBundler

open Cursor (Leads)

/-! ## Tokens in a row -/

/-- Tokens of a text begin and end between its characters. -/
theorem ReadFrom.isPlace {source : String} {tokens : List BufferedToken}
    (h : ReadFrom (.ofString source) tokens) {offset : Nat} (hedge : TokenEdge tokens offset) :
    IsPlace source offset := by
  obtain ⟨b, hb, hoffset⟩ := hedge
  obtain ⟨start, stop, hstart, hstop, -, hspan⟩ := h.between b hb
  rw [hspan] at hoffset
  rcases hoffset with rfl | rfl
  · exact ⟨start, hstart, rfl⟩
  · exact ⟨stop, hstart.trans hstop, rfl⟩

/-! ## Leaves -/

namespace Outline

variable {o : Outline} {scope next : ScopeId}

/-- What holds of the tokens of an outline, one after the other, holds of its leaves. -/
theorem pairwise_leaves (scope next : ScopeId) {related : BufferedToken → BufferedToken → Prop}
    (h : o.tokens.Pairwise related) : (o.leaves scope next).Pairwise fun l l' =>
      ∀ b, l.2.token? = some b → ∀ b', l'.2.token? = some b' → related b b' := by
  unfold tokens at h
  rwa [← filterMap_leaves o scope next, List.pairwise_filterMap] at h

/-- What is declared with a name in the text is a token. -/
theorem token?_of_declaration? {own : ScopeId} {l : Leaf} {d : Declaration}
    (h : l.declaration? own = some d) (hd : d.span.start < d.span.stop) :
    ∃ b, l.token? = some b ∧ d.span = b.token.span := by
  rcases Leaf.eq_of_declaration? h with ⟨b, _, _, rfl, rfl⟩ | ⟨offset, _, rfl, rfl⟩
  · exact ⟨b, rfl, rfl⟩
  · exact absurd hd (Nat.lt_irrefl offset)

theorem token?_of_reference? {own : ScopeId} {l : Leaf} {r : Reference}
    (h : l.reference? own = some r) : ∃ b, l.token? = some b ∧ r.span = b.token.span := by
  obtain ⟨b, _, rfl, rfl⟩ := Leaf.eq_of_reference? h
  exact ⟨b, rfl, rfl⟩

/-- What declares a name uses none. -/
theorem declaration?_eq_none {own own' : ScopeId} {l : Leaf} {r : Reference}
    (h : l.reference? own = some r) : l.declaration? own' = none := by
  obtain ⟨b, _, rfl, -⟩ := Leaf.eq_of_reference? h
  rfl

/-- What is used stands in a row. -/
theorem separated_references
    (h : o.tokens.Pairwise fun a b => a.token.span.stop ≤ b.token.span.start) :
    (o.references scope next).Pairwise fun r r' => r.span.stop ≤ r'.span.start := by
  unfold references
  rw [List.pairwise_filterMap]
  refine (pairwise_leaves scope next h).imp fun hlt r hr r' hr' => ?_
  obtain ⟨b, hb, hspan⟩ := token?_of_reference? hr
  obtain ⟨b', hb', hspan'⟩ := token?_of_reference? hr'
  rw [hspan, hspan']
  exact hlt b hb b' hb'

/-- No token is recorded twice. -/
theorem nodup_recorded (h : o.tokens.Pairwise fun a b => a.token.span ≠ b.token.span) :
    ((((o.declarations scope next).map Declaration.span).filter fun span =>
      span.start < span.stop) ++ (o.references scope next).map Reference.span).Nodup := by
  have hleaves := pairwise_leaves scope next h
  rw [List.nodup_append]
  refine ⟨?_, ?_, fun span hspan span' hspan' => ?_⟩
  · rw [List.Nodup, List.pairwise_filter, List.pairwise_map]
    unfold declarations
    rw [List.pairwise_filterMap]
    refine hleaves.imp fun hne d hd d' hd' hlt hlt' => ?_
    obtain ⟨b, hb, hspan⟩ := token?_of_declaration? hd (of_decide_eq_true hlt)
    obtain ⟨b', hb', hspan'⟩ := token?_of_declaration? hd' (of_decide_eq_true hlt')
    rw [hspan, hspan']
    exact hne b hb b' hb'
  · rw [List.Nodup, List.pairwise_map]
    unfold references
    rw [List.pairwise_filterMap]
    refine hleaves.imp fun hne r hr r' hr' => ?_
    obtain ⟨b, hb, hspan⟩ := token?_of_reference? hr
    obtain ⟨b', hb', hspan'⟩ := token?_of_reference? hr'
    rw [hspan, hspan']
    exact hne b hb b' hb'
  · obtain ⟨hmem, hlt⟩ := List.mem_filter.mp hspan
    obtain ⟨d, hd, rfl⟩ := List.mem_map.mp hmem
    obtain ⟨r, hr, rfl⟩ := List.mem_map.mp hspan'
    obtain ⟨l, hl, hd⟩ := List.mem_filterMap.mp hd
    obtain ⟨l', hl', hr⟩ := List.mem_filterMap.mp hr
    obtain ⟨b, hb, hspan⟩ := token?_of_declaration? hd (of_decide_eq_true hlt)
    obtain ⟨b', hb', hspan'⟩ := token?_of_reference? hr
    have hne : l ≠ l' := by
      rintro rfl
      rw [declaration?_eq_none hr] at hd
      cases hd
    have hsymm : Std.Symm fun l l' : ScopeId × Leaf => ∀ b, l.2.token? = some b →
        ∀ b', l'.2.token? = some b' → b.token.span ≠ b'.token.span :=
      ⟨fun _ _ hne b hb b' hb' heq => hne b' hb' b hb heq.symm⟩
    rw [hspan, hspan']
    exact hleaves.forall hl hl' hne b hb b' hb'

end Outline

/-! ## Items in a row -/

theorem exists_extent_start {tokens : List BufferedToken} (h : tokens ≠ []) :
    ∃ b ∈ tokens, (extent tokens).start = b.token.span.start := by
  obtain ⟨first, rest, rfl⟩ := List.exists_cons_of_ne_nil h
  exact ⟨first, List.mem_cons_self, rfl⟩

theorem exists_extent_stop {tokens : List BufferedToken} (h : tokens ≠ []) :
    ∃ b ∈ tokens, (extent tokens).stop = b.token.span.stop := by
  refine ⟨tokens.getLast h, List.getLast_mem h, ?_⟩
  unfold extent
  rw [List.getLast?_eq_some_getLast h]
  rfl

theorem exists_getElem?_middle {α : Type} {before own after : List α} {i : Nat}
    (hi : i ∈ (⟨before.length, (before ++ own).length⟩ : IndexRange).toList) :
    ∃ a ∈ own, (before ++ (own ++ after))[i]? = some a := by
  obtain ⟨hstart, hstop⟩ := IndexRange.mem_toList.mp hi
  dsimp only at hstart hstop
  rw [List.length_append] at hstop
  have hlt : i - before.length < own.length := by omega
  refine ⟨own[i - before.length], List.getElem_mem hlt, ?_⟩
  rw [List.getElem?_append_right hstart, List.getElem?_append_left hlt,
    List.getElem?_eq_getElem hlt]

theorem range_append_toList {m n : Nat} (h : m ≤ n) :
    List.range m ++ (⟨m, n⟩ : IndexRange).toList = List.range n := by
  unfold IndexRange.toList
  have happend : List.range' 0 m 1 ++ List.range' (0 + 1 * m) (n - m) 1 =
      List.range' 0 (m + (n - m)) 1 := List.range'_append
  rw [List.range_eq_range', List.range_eq_range']
  simpa [h] using happend

namespace Itemized

variable {o : Outline} {items : List ModuleItem}

/-- No item is empty. -/
theorem start_lt_stop (h : Itemized o items) {place : Cursor} (hread : ReadFrom place o.tokens)
    {item : ModuleItem} (hitem : item ∈ items) : item.span.start < item.span.stop := by
  obtain ⟨before, own, after, rfl, howned⟩ := h.split hitem
  have hproper := h.isProper
  rw [Outline.tokens_append, Outline.tokens_append] at hread hproper
  obtain ⟨-, hread⟩ := readFrom_append.mp hread
  obtain ⟨hread, -⟩ := readFrom_append.mp hread
  obtain ⟨b, hb, hstart⟩ := exists_extent_start howned.tokens_ne_nil
  have hlt := hread.start_lt_stop hb
    (hproper b (List.mem_append_right _ (List.mem_append_left _ hb)))
  rw [howned.span, hstart]
  exact Nat.lt_of_lt_of_le hlt (hread.within_extent hb).2

/-- Items do not overlap. -/
theorem separated (h : Itemized o items)
    (hsep : o.tokens.Pairwise fun a b => a.token.span.stop ≤ b.token.span.start) :
    items.Pairwise fun a b => a.span.stop ≤ b.span.start := by
  induction h with
  | none => exact .nil
  | @more before o items item itemized outlined ih =>
    rw [Outline.tokens_append, List.pairwise_append] at hsep
    obtain ⟨hbefore, -, hacross⟩ := hsep
    refine List.pairwise_append.mpr ⟨ih hbefore, List.pairwise_singleton _ _, ?_⟩
    intro earlier hearlier _ hitem
    obtain rfl := List.mem_singleton.mp hitem
    obtain ⟨first, own, rest, rfl, howned⟩ := itemized.split hearlier
    obtain ⟨a, ha, hstop⟩ := exists_extent_stop howned.tokens_ne_nil
    obtain ⟨b, hb, hstart⟩ := exists_extent_start outlined.tokens_ne_nil
    rw [howned.span, outlined.span, hstop, hstart]
    refine hacross a ?_ b hb
    rw [Outline.tokens_append, Outline.tokens_append]
    exact List.mem_append_right _ (List.mem_append_left _ ha)

/-- The ranges of declarations are all there are, one after the other. -/
theorem flatMap_declarations (h : Itemized o items) :
    items.flatMap (fun item => item.declarations.toList) =
      List.range (o.declarations moduleScope 1).length := by
  induction h with
  | none => rfl
  | @more before o items item itemized outlined ih =>
    rw [List.flatMap_append, ih, List.flatMap_singleton, outlined.declarations]
    refine range_append_toList ?_
    rw [Outline.declarations_append, List.length_append]
    exact Nat.le_add_right _ _

/-- So are the ranges of references. -/
theorem flatMap_references (h : Itemized o items) :
    items.flatMap (fun item => item.references.toList) =
      List.range (o.references moduleScope 1).length := by
  induction h with
  | none => rfl
  | @more before o items item itemized outlined ih =>
    rw [List.flatMap_append, ih, List.flatMap_singleton, outlined.references]
    refine range_append_toList ?_
    rw [Outline.references_append, List.length_append]
    exact Nat.le_add_right _ _

/-- The tokens of an item are read one after the other. -/
theorem read_own {place : Cursor} {before own after : Outline}
    (hread : ReadFrom place (before ++ (own ++ after)).tokens) :
    ∃ place, ReadFrom place own.tokens := by
  rw [Outline.tokens_append, Outline.tokens_append] at hread
  exact ⟨_, (readFrom_append.mp (readFrom_append.mp hread).2).1⟩

/-- What an item declares stands in it. -/
theorem declaration_within (h : Itemized o items) {place : Cursor}
    (hread : ReadFrom place o.tokens) {item : ModuleItem} (hitem : item ∈ items) {i : Nat}
    (hi : i ∈ item.declarations.toList) :
    ∃ d, (o.declarations moduleScope 1)[i]? = some d ∧
      item.span.start ≤ d.span.start ∧ d.span.stop ≤ item.span.stop := by
  obtain ⟨before, own, after, rfl, howned⟩ := h.split hitem
  obtain ⟨place', hown⟩ := read_own hread
  rw [howned.declarations, Outline.declarations_append] at hi
  rw [Outline.declarations_append, Outline.declarations_append, howned.span]
  obtain ⟨d, hd, hget⟩ := exists_getElem?_middle hi
  refine ⟨d, hget, ?_⟩
  rcases Outline.spelled_of_mem_declarations hd with ⟨b, hb, hspan, -⟩ | ⟨offset, hoffset, hspan, -⟩
  · rw [hspan]
    exact hown.within_extent hb
  · rw [hspan]
    exact hown.edge_within (howned.placeholders offset hoffset)

/-- What an item uses stands in it. -/
theorem reference_within (h : Itemized o items) {place : Cursor}
    (hread : ReadFrom place o.tokens) {item : ModuleItem} (hitem : item ∈ items) {i : Nat}
    (hi : i ∈ item.references.toList) :
    ∃ r, (o.references moduleScope 1)[i]? = some r ∧
      item.span.start ≤ r.span.start ∧ r.span.stop ≤ item.span.stop := by
  obtain ⟨before, own, after, rfl, howned⟩ := h.split hitem
  obtain ⟨place', hown⟩ := read_own hread
  rw [howned.references, Outline.references_append] at hi
  rw [Outline.references_append, Outline.references_append, howned.span]
  obtain ⟨r, hr, hget⟩ := exists_getElem?_middle hi
  obtain ⟨b, hb, hspan, -⟩ := Outline.spelled_of_mem_references hr
  refine ⟨r, hget, ?_⟩
  rw [hspan]
  exact hown.within_extent hb

/-- What is declared under no name of the text is so at the edge of a token. -/
theorem placeholder_edge (h : Itemized o items) : ∀ offset ∈ o.placeholders,
    TokenEdge o.tokens offset := by
  induction h with
  | none => exact fun _ h => nomatch h
  | more itemized outlined ih =>
    rw [Outline.placeholders_append, Outline.tokens_append, List.forall_mem_append]
    exact ⟨fun offset h => (ih offset h).mono (List.subset_append_left _ _),
      fun offset h => (outlined.placeholders offset h).mono (List.subset_append_right _ _)⟩

end Itemized

/-! ## Records -/

def Span.offsets (span : Span) : List Nat := [span.start, span.stop]

def ItemKind.offsets : ItemKind → List Nat
  | .exportDeclaration strip => strip.offsets
  | .exportDefaultDeclaration strip nameAt => strip.offsets ++ nameAt.toList
  | .exportDefaultExpression strip value => strip.offsets ++ value.offsets
  | .importDeclaration | .exportList | .exportFrom | .declaration | .statement => []

/-- All spans in a record but for those in the kinds of items. -/
def ModuleRecord.spans (record : ModuleRecord) : List Span :=
  record.items.toList.map ModuleItem.span ++ record.requests.toList.map ModuleRequest.span ++
    record.imports.toList.flatMap (fun d => d.specifiers.map ImportSpecifier.span) ++
    record.exports.toList.map ExportSpecifier.span ++
    record.dynamicImports.toList.flatMap (fun d => [d.span, d.request.span]) ++
    record.scopes.declarations.toList.map Declaration.span ++
    record.scopes.references.toList.map Reference.span

/-- All offsets in a record. -/
def ModuleRecord.offsets (record : ModuleRecord) : List Nat :=
  record.spans.flatMap Span.offsets ++
    record.items.toList.flatMap (fun item => item.kind.offsets) ++ record.tokenStarts

/-- How the record of a module is put together, with the tokens of its text. -/
structure ModuleRecord.Structured (source : String) (tokens : List BufferedToken)
    (record : ModuleRecord) : Prop where
  /-- The tokens are those of the text, one after the other. -/
  chain : ReadFrom (.ofString source) tokens
  tokens_lt : ∀ b ∈ tokens, b.token.span.start < b.token.span.stop
  tokenStarts : record.tokenStarts = tokens.map fun b => b.token.span.start
  tokenStarts_sorted : record.tokenStarts.Pairwise (· < ·)
  items_lt : ∀ item ∈ record.items, item.span.start < item.span.stop
  items_sorted : record.items.toList.Pairwise fun a b => a.span.stop ≤ b.span.start
  /-- Every declaration is that of one item, in order, and stands in it. -/
  declarationRanges : record.items.toList.flatMap (fun item => item.declarations.toList) =
    List.range record.scopes.declarations.size
  declarations_within : ∀ item ∈ record.items, ∀ i ∈ item.declarations.toList,
    ∃ d, record.scopes.declarations[i]? = some d ∧
      item.span.start ≤ d.span.start ∧ d.span.stop ≤ item.span.stop
  /-- So is every reference. -/
  referenceRanges : record.items.toList.flatMap (fun item => item.references.toList) =
    List.range record.scopes.references.size
  references_within : ∀ item ∈ record.items, ∀ i ∈ item.references.toList,
    ∃ r, record.scopes.references[i]? = some r ∧
      item.span.start ≤ r.span.start ∧ r.span.stop ≤ item.span.stop
  dynamicImports_within : ∀ d ∈ record.dynamicImports, ∃ item ∈ record.items,
    item.span.start ≤ d.span.start ∧ d.span.stop ≤ item.span.stop
  /-- Every reference is a token. -/
  references : ∀ r ∈ record.scopes.references, r.span.start ∈ record.tokenStarts ∧
    ∃ b ∈ tokens, r.span = b.token.span ∧ r.name = decodeName b.token.text
  references_sorted : record.scopes.references.toList.Pairwise fun r r' =>
    r.span.stop ≤ r'.span.start
  /-- Every declaration is a token, but for that of a default export without a name. -/
  declarations : ∀ d ∈ record.scopes.declarations,
    (∃ b ∈ tokens, d.span = b.token.span ∧ d.name = decodeName b.token.text) ∨
      d.name = defaultBinding ∧ ∃ offset, d.span = .point offset
  /-- No token is recorded twice. -/
  recordedOnce : (((record.scopes.declarations.toList.map Declaration.span).filter fun span =>
    span.start < span.stop) ++ record.scopes.references.toList.map Reference.span).Nodup
  /-- The parent of a scope comes before it. -/
  scopes : NestedScopes record.scopes.scopes
  declarationScopes : ∀ d ∈ record.scopes.declarations, d.scope < record.scopes.scopes.size
  referenceScopes : ∀ r ∈ record.scopes.references, r.scope < record.scopes.scopes.size
  bindingScopes : ∀ b ∈ record.scopes.bindings, b.scope < record.scopes.scopes.size
  dynamicImportScopes : ∀ d ∈ record.dynamicImports, d.scope < record.scopes.scopes.size
  /-- All offsets are those of places between characters. -/
  offsets : ∀ offset ∈ record.offsets, IsPlace source offset

theorem isPlace_of_isOf {source : String} {span : Span} (h : span.IsOf source) :
    ∀ offset ∈ span.offsets, IsPlace source offset := by
  obtain ⟨last, start, stop, hstart, hstop, -, rfl⟩ := h
  refine List.forall_mem_cons.mpr ⟨⟨start, hstart, rfl⟩, List.forall_mem_singleton.mpr ?_⟩
  exact ⟨stop, hstart.trans hstop, rfl⟩

theorem ReadFrom.isPlace_offsets {source : String} {tokens : List BufferedToken}
    (h : ReadFrom (.ofString source) tokens) {span : Span} (hspan : TokenEdges tokens span) :
    ∀ offset ∈ span.offsets, IsPlace source offset :=
  List.forall_mem_cons.mpr ⟨h.isPlace hspan.1, List.forall_mem_singleton.mpr (h.isPlace hspan.2)⟩

/-- The offsets in the kind of an item are places. -/
theorem ItemKind.isPlace_offsets {source : String} {tokens : List BufferedToken} {kind : ItemKind}
    (hread : ReadFrom (.ofString source) tokens) (hkind : kind.IsOf source)
    (hvalue : kind.ValueRead tokens) : ∀ offset ∈ kind.offsets, IsPlace source offset := by
  cases kind with
  | exportDeclaration strip => exact isPlace_of_isOf hkind
  | exportDefaultDeclaration strip nameAt =>
    refine List.forall_mem_append.mpr ⟨isPlace_of_isOf hkind.1, fun offset h => ?_⟩
    exact hkind.2 offset (Option.mem_toList.mp h)
  | exportDefaultExpression strip value =>
    exact List.forall_mem_append.mpr ⟨isPlace_of_isOf hkind, hread.isPlace_offsets hvalue⟩
  | importDeclaration | exportList | exportFrom | declaration | statement =>
    exact fun _ h => nomatch h

namespace RecordOutlined

variable {source : String} {record : ModuleRecord} {o : Outline}

theorem tokens_lt (h : RecordOutlined source record o) {b : BufferedToken} (hb : b ∈ o.tokens) :
    b.token.span.start < b.token.span.stop :=
  h.chain.start_lt_stop hb (h.items.isProper b hb)

theorem tokenStarts_sorted (h : RecordOutlined source record o) :
    record.tokenStarts.Pairwise (· < ·) := by
  rw [h.tokenStarts, List.pairwise_map]
  refine List.Pairwise.imp_of_mem (fun ha _ hle => ?_) h.chain.separated
  exact Nat.lt_of_lt_of_le (h.tokens_lt ha) hle

/-- No two tokens are at the same place. -/
theorem tokens_ne (h : RecordOutlined source record o) :
    o.tokens.Pairwise fun a b => a.token.span ≠ b.token.span := by
  refine List.Pairwise.imp_of_mem (fun {a b} ha _ hle heq => ?_) h.chain.separated
  have hlt := h.tokens_lt ha
  rw [heq] at hlt hle
  exact absurd hle (Nat.not_le.mpr hlt)

theorem size_declarations (h : RecordOutlined source record o) :
    record.scopes.declarations.size = (o.declarations moduleScope 1).length := by
  rw [← h.declarations, Array.length_toList]

theorem size_references (h : RecordOutlined source record o) :
    record.scopes.references.size = (o.references moduleScope 1).length := by
  rw [← h.references, Array.length_toList]

theorem spelled_declaration (h : RecordOutlined source record o) {d : Declaration}
    (hd : d ∈ record.scopes.declarations) :
    (∃ b ∈ o.tokens, d.span = b.token.span ∧ d.name = decodeName b.token.text) ∨
      d.name = defaultBinding ∧ ∃ offset ∈ o.placeholders, d.span = .point offset := by
  rw [← Array.mem_toList_iff, h.declarations] at hd
  rcases Outline.spelled_of_mem_declarations hd with hname | ⟨offset, hoffset, hspan, hname⟩
  · exact .inl hname
  · exact .inr ⟨hname, offset, hoffset, hspan⟩

theorem spelled_reference (h : RecordOutlined source record o) {r : Reference}
    (hr : r ∈ record.scopes.references) :
    ∃ b ∈ o.tokens, r.span = b.token.span ∧ r.name = decodeName b.token.text := by
  rw [← Array.mem_toList_iff, h.references] at hr
  exact Outline.spelled_of_mem_references hr

/-- Every span in a record goes from one place to another. -/
theorem isPlace_spans (h : RecordOutlined source record o) {tokens : List BufferedToken}
    (hread : RecordRead (.ofString source) tokens record) : ∀ span ∈ record.spans,
      ∀ offset ∈ span.offsets, IsPlace source offset := by
  have hedges : ∀ {span : Span}, TokenEdges o.tokens span →
      ∀ offset ∈ span.offsets, IsPlace source offset := h.chain.isPlace_offsets
  have htoken : ∀ {b : BufferedToken}, b ∈ o.tokens → TokenEdges o.tokens b.token.span :=
    fun hb => ⟨⟨_, hb, .inl rfl⟩, _, hb, .inr rfl⟩
  intro span hspan
  unfold ModuleRecord.spans at hspan
  simp only [List.mem_append, List.mem_map, List.mem_flatMap, Array.mem_toList_iff] at hspan
  rcases hspan with (((((⟨item, hitem, rfl⟩ | ⟨request, hrequest, rfl⟩) |
    ⟨d, hd, specifier, hspecifier, rfl⟩) | ⟨e, he, rfl⟩) | ⟨d, hd, hspan⟩) | ⟨d, hd, rfl⟩) |
    ⟨r, hr, rfl⟩
  · obtain ⟨last, hitem⟩ := hread.items item hitem
    obtain ⟨first, hfirst, hlast, hspan⟩ := hitem.span
    exact isPlace_of_isOf ⟨last, first, last, hfirst, hlast, Leads.refl _, hspan⟩
  · exact hedges (h.requests request hrequest)
  · exact hedges (h.imports d hd specifier hspecifier)
  · exact hedges (h.exports e he)
  · rcases List.mem_cons.mp hspan with rfl | hspan
    · exact isPlace_of_isOf (hread.dynamicImports d hd).1
    · rw [List.mem_singleton.mp hspan]
      exact hedges (h.dynamicImports d hd).1
  · rcases h.spelled_declaration hd with ⟨b, hb, hspan, -⟩ | ⟨-, offset, hoffset, hspan⟩
    · rw [hspan]
      exact hedges (htoken hb)
    · rw [hspan]
      have hedge := h.items.placeholder_edge offset hoffset
      exact hedges ⟨hedge, hedge⟩
  · obtain ⟨b, hb, hspan, -⟩ := h.spelled_reference hr
    rw [hspan]
    exact hedges (htoken hb)

theorem isPlace_offsets (h : RecordOutlined source record o) {tokens : List BufferedToken}
    (hread : RecordRead (.ofString source) tokens record) :
    ∀ offset ∈ record.offsets, IsPlace source offset := by
  refine List.forall_mem_append.mpr ⟨List.forall_mem_append.mpr ⟨fun offset hoffset => ?_,
    fun offset hoffset => ?_⟩, fun offset hoffset => ?_⟩
  · obtain ⟨span, hspan, hoffset⟩ := List.mem_flatMap.mp hoffset
    exact h.isPlace_spans hread span hspan offset hoffset
  · obtain ⟨item, hitem, hoffset⟩ := List.mem_flatMap.mp hoffset
    rw [Array.mem_toList_iff] at hitem
    obtain ⟨last, hitemRead⟩ := hread.items item hitem
    exact ItemKind.isPlace_offsets h.chain hitemRead.kind.isOf (h.values item hitem) offset hoffset
  · obtain ⟨place, hplace, heq⟩ := hread.starts offset hoffset
    exact ⟨place, hplace, heq.symm⟩

end RecordOutlined

/-- The record of a module text is put together as one of its tokens. -/
theorem parseModule_structured {source : String} {record : ModuleRecord}
    (h : parseModule source = .ok record) : ∃ tokens, record.Structured source tokens := by
  obtain ⟨o, ho⟩ := parseModule_outlined h
  obtain ⟨tokens, hread⟩ := parseModule_read h
  have hdeclarations : ∀ d ∈ record.scopes.declarations, d.scope < record.scopes.scopes.size :=
    fun d hd => (hread.declarations d hd).2
  have hreferences : ∀ r ∈ record.scopes.references, r.scope < record.scopes.scopes.size :=
    fun r hr => (hread.references r hr).2
  have hindexed := ScopeTree.indexed_of_build hread.nested hdeclarations hreferences ho.built
  exact ⟨o.tokens, {
    chain := ho.chain
    tokens_lt := fun b hb => ho.tokens_lt hb
    tokenStarts := ho.tokenStarts
    tokenStarts_sorted := ho.tokenStarts_sorted
    items_lt := fun item hitem =>
      ho.items.start_lt_stop ho.chain (Array.mem_toList_iff.mpr hitem)
    items_sorted := ho.items.separated ho.chain.separated
    declarationRanges := ho.size_declarations ▸ ho.items.flatMap_declarations
    declarations_within := fun item hitem i hi => by
      rw [← Array.getElem?_toList, ho.declarations]
      exact ho.items.declaration_within ho.chain (Array.mem_toList_iff.mpr hitem) hi
    referenceRanges := ho.size_references ▸ ho.items.flatMap_references
    references_within := fun item hitem i hi => by
      rw [← Array.getElem?_toList, ho.references]
      exact ho.items.reference_within ho.chain (Array.mem_toList_iff.mpr hitem) hi
    dynamicImports_within := fun d hd => (ho.dynamicImports d hd).2
    references := fun r hr => by
      obtain ⟨b, hb, hspan, hname⟩ := ho.spelled_reference hr
      refine ⟨?_, b, hb, hspan, hname⟩
      rw [ho.tokenStarts, hspan]
      exact List.mem_map_of_mem hb
    references_sorted := ho.references ▸ Outline.separated_references ho.chain.separated
    declarations := fun d hd => (ho.spelled_declaration hd).imp_right
      fun ⟨hname, offset, _, hspan⟩ => ⟨hname, offset, hspan⟩
    recordedOnce := by
      rw [ho.declarations, ho.references]
      exact Outline.nodup_recorded ho.tokens_ne
    scopes := hread.nested
    declarationScopes := hdeclarations
    referenceScopes := hreferences
    bindingScopes := hindexed.bindingScope
    dynamicImportScopes := fun d hd => (hread.dynamicImports d hd).2.2
    offsets := ho.isPlace_offsets hread }⟩

/-- A module text in which parameters of an arrow function are read twice, and a regular expression
where a division could be. -/
def retriedArrow : String :=
  "import a from './b.js';\nexport default ((x, y = /[)]/) => a / (import('./c.js'), x));\n"

theorem retriedArrow_structured : ∃ record, parseModule retriedArrow = .ok record ∧
    ∃ tokens, record.Structured retriedArrow tokens := by
  have hread : (parseModule retriedArrow).toOption.isSome = true := by decide +kernel
  cases hrecord : parseModule retriedArrow with
  | error e =>
    rw [hrecord] at hread
    cases hread
  | ok record => exact ⟨record, rfl, parseModule_structured hrecord⟩

end ModuleBundler
