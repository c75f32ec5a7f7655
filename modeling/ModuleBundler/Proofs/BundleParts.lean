import ModuleBundler.Proofs.BundlePieces
import ModuleBundler.Proofs.MapEntries

/-!
# The parts of a bundle

* `Part` : text of the bundle's own, a copy of a piece of a module, or what takes the place of one;
* `Piece.parts` : the parts of a piece of a bundle;
* `Part.marks`, `marksFrom` : where in the output tokens are copied and names put in, with the
  places that these come from;
* `Output.Holds` : an output has the code of parts, and a map with an entry at each of their marks;
* `emit_parts` : so has the output of a bundle.
-/

namespace ModuleBundler

open Cursor (Leads)

/-! ## Pieces of a text -/

namespace Cursor

/-- A text up to a place and the text from there on make one. -/
theorem textUpTo_append {c d : Cursor} (h : c.Leads d) {stop : Nat} (hstop : d.offset ≤ stop) :
    c.textUpTo d.offset ++ d.textUpTo stop = c.textUpTo stop := by
  obtain ⟨passed, hrest, hoffset⟩ := h
  unfold textUpTo
  rw [← String.ofList_append, upTo_eq hrest hoffset, upTo_eq_append hrest hoffset hstop]

theorem utf8ByteSize_textUpTo {c d : Cursor} (h : c.Leads d) :
    c.offset + (c.textUpTo d.offset).utf8ByteSize = d.offset := by
  obtain ⟨passed, hrest, hoffset⟩ := h
  unfold textUpTo
  rw [upTo_eq hrest hoffset, utf8ByteSize_eq, String.toList_ofList, hoffset]

/-- A cut gives the text up to a later place, and that place. -/
theorem of_split_eq_ok {c next : Cursor} {stop : Nat} {text : String}
    (h : c.split stop = .ok (text, next)) :
    c.Leads next ∧ next.offset = stop ∧ text = c.textUpTo next.offset := by
  unfold split at h
  dsimp only at h
  split at h
  · rename_i hplaces
    cases h
    exact ⟨leads_advanceTo stop c, hplaces.2, by rw [hplaces.2]⟩
  · cases h

end Cursor

/-- The text of a module at a span. -/
def SourceModule.slice (m : SourceModule) (span : Span) : String :=
  ((Cursor.ofString m.source).advanceTo span.start).textUpTo span.stop

theorem SourceModule.slice_eq {m : SourceModule} {c : Cursor}
    (h : (Cursor.ofString m.source).Leads c) (stop : Nat) :
    m.slice ⟨c.offset, stop⟩ = c.textUpTo stop := by
  unfold slice
  rw [Cursor.advanceTo_eq h]

/-! ## Parts -/

/-- A part of the code of a bundle: text of the bundle's own, a copy of a piece of a module, or what
takes the place of a piece. -/
inductive Part where
  | written (text : String)
  | copied (module : SourceModule) (span : Span)
  | replaced (module : SourceModule) (edit : Edit)

namespace Part

def text : Part → String
  | written text => text
  | copied m span => m.slice span
  | replaced _ edit => edit.text

/-- Where a part goes on with text of a module, when the output before it is known: at each token of
a copy, and where there is something in the place of a piece. -/
def marks (front : String) : Part → List Mark
  | written _ => []
  | copied m span =>
    (m.record.tokenStarts.filter fun t => span.start ≤ t && t < span.stop).map fun t =>
      ⟨front ++ m.slice ⟨span.start, t⟩, m, t, none⟩
  | replaced m edit => if edit.text = "" then [] else [⟨front, m, edit.span.start, edit.name⟩]

end Part

/-- The text of parts, one after another. -/
def partsText (parts : List Part) : String := String.join (parts.map Part.text)

/-- The marks of parts that follow a text. -/
def marksFrom (front : String) : List Part → List Mark
  | [] => []
  | part :: parts => part.marks front ++ marksFrom (front ++ part.text) parts

theorem partsText_append (parts more : List Part) :
    partsText (parts ++ more) = partsText parts ++ partsText more := by
  unfold partsText
  rw [List.map_append, String.join_append]

theorem partsText_nil : partsText [] = "" := rfl

theorem partsText_cons (part : Part) (parts : List Part) :
    partsText (part :: parts) = part.text ++ partsText parts := by
  unfold partsText
  rw [List.map_cons, String.join_cons]

theorem marksFrom_append (front : String) (parts more : List Part) :
    marksFrom front (parts ++ more) =
      marksFrom front parts ++ marksFrom (front ++ partsText parts) more := by
  induction parts generalizing front with
  | nil =>
    rw [partsText_nil, String.append_empty]
    rfl
  | cons part parts ih =>
    rw [List.cons_append, marksFrom, ih, marksFrom, List.append_assoc, partsText_cons,
      String.append_assoc]

/-! ## Items -/

/-- The parts of the text of a module from an offset up to another one, with edits in it. An edit
that begins inside of one before does not count. -/
def editParts (m : SourceModule) (stop : Nat) : Nat → List Edit → List Part
  | offset, [] => [.copied m ⟨offset, stop⟩]
  | offset, edit :: edits =>
    if edit.span.start < offset then editParts m stop offset edits
    else
      .copied m ⟨offset, edit.span.start⟩ :: .replaced m edit ::
        editParts m stop edit.span.stop edits

/-- The parts of an item. -/
def itemParts (m : SourceModule) (item : ModuleItem) (edits : List Edit) : List Part :=
  editParts m item.span.stop item.span.start (edits.mergeSort Edit.before) ++
    [.written (if item.missingSemicolon then ";" else ""), .written "\n"]

/-- The parts of a piece of a bundle. -/
def Piece.parts (g : ModuleGraph) (l : Linkage) (n : Names) :
    Piece → Except CompileError (List Part)
  | .item module code => do
    let m ← g.getModule module
    let edits ← itemEdits l n m module code
    pure (itemParts m code edits)
  | piece => do
    let text ← piece.text g l n
    pure [.written text]

/-! ## Writing -/

/-- A text is written, with marks at which the map gets entries. -/
structure Output.Adds (o : Output) (text : String) (added : List Mark) (o' : Output) : Prop where
  code : o'.code = o.code ++ text
  paths : o'.map.paths = o.map.paths
  map : ∀ marks, MapHolds o.code marks o.map → MapHolds o'.code (marks ++ added) o'.map

namespace Output.Adds

variable {o o' o'' : Output} {text text' : String} {added added' : List Mark}

theorem trans (h : o.Adds text added o') (h' : o'.Adds text' added' o'') :
    o.Adds (text ++ text') (added ++ added') o'' where
  code := by rw [h'.code, h.code, String.append_assoc]
  paths := h'.paths.trans h.paths
  map marks hmarks := by
    rw [← List.append_assoc]
    exact h'.map _ (h.map marks hmarks)

theorem refl (o : Output) : o.Adds "" [] o where
  code := String.append_empty.symm
  paths := rfl
  map marks hmarks := by
    rw [List.append_nil]
    exact hmarks

theorem push (o : Output) (text : String) : o.Adds text [] (o.push text) where
  code := rfl
  paths := rfl
  map marks hmarks := by
    rw [List.append_nil]
    exact hmarks.advance text

/-- The end of an output is mapped to a place of a module. -/
theorem origin (o : Output) {m : SourceModule} {source : Nat}
    (hsource : o.map.paths[source]? = some m.id.text) (offset : Nat) (name : Option String) :
    o.Adds "" [⟨o.code, m, offset, name⟩]
      (o.write source (.ofString m.source) (.origin offset name)) where
  code := by rw [String.append_empty]; rfl
  paths := by
    change (MapBuilder.addMapping ..).paths = _
    unfold MapBuilder.addMapping
    split
    · rfl
    · split
      · rfl
      · rfl
  map marks hmarks := hmarks.addMapping rfl hsource

end Output.Adds

variable {m : SourceModule} {source : Nat}

/-- Writes fragments of the code of a module, the source of a map with an index. -/
def Output.writeAll (o : Output) (source : Nat) (m : SourceModule) (fragments : List Fragment) :
    Output := fragments.foldl (Output.write source (.ofString m.source)) o

theorem Output.writeAll_append (o : Output) (source : Nat) (m : SourceModule)
    (first second : List Fragment) :
    o.writeAll source m (first ++ second) =
      (o.writeAll source m first).writeAll source m second := List.foldl_append

/-- A piece of a text is copied with a mark at each of its tokens. -/
theorem adds_copyFragments {o : Output} {c : Cursor} {stop : Nat} {tokens : List Nat}
    {fragments : List Fragment} (h : copyFragments stop c tokens = .ok fragments)
    (hsorted : tokens.Pairwise (· ≤ ·)) (hsource : o.map.paths[source]? = some m.id.text) :
    o.Adds (c.textUpTo stop) ((tokens.filter (· < stop)).map fun t =>
      ⟨o.code ++ c.textUpTo t, m, t, none⟩) (o.writeAll source m fragments) := by
  induction tokens generalizing o c fragments with
  | nil =>
    obtain ⟨⟨text, next⟩, hsplit, h⟩ := bind_eq_ok.mp h
    obtain rfl := pure_eq_ok.mp h
    obtain ⟨-, rfl, rfl⟩ := Cursor.of_split_eq_ok hsplit
    exact .push o _
  | cons token tokens ih =>
    obtain ⟨hle, hothers⟩ := List.pairwise_cons.mp hsorted
    unfold copyFragments at h
    split at h
    · rename_i hlt
      obtain ⟨⟨text, next⟩, hsplit, h⟩ := bind_eq_ok.mp h
      obtain ⟨others, hcopied, h⟩ := bind_eq_ok.mp h
      obtain rfl := pure_eq_ok.mp h
      obtain ⟨hleads, rfl, rfl⟩ := Cursor.of_split_eq_ok hsplit
      have hfirst := Output.Adds.push o (c.textUpTo next.offset)
      have hmark := Output.Adds.origin (o.push (c.textUpTo next.offset)) hsource next.offset none
      have hboth := hfirst.trans hmark
      have hrest := ih hcopied hothers (hboth.paths ▸ hsource)
      have hall := hboth.trans hrest
      rw [hboth.code, String.append_empty] at hall
      have hnext : ∀ t, next.offset ≤ t → o.code ++ c.textUpTo next.offset ++ next.textUpTo t =
          o.code ++ c.textUpTo t := fun t ht => by
        rw [String.append_assoc, Cursor.textUpTo_append hleads ht]
      have hmarks : (tokens.filter (· < stop)).map (fun t =>
          (⟨o.code ++ c.textUpTo next.offset ++ next.textUpTo t, m, t, none⟩ : Mark)) =
          (tokens.filter (· < stop)).map fun t => ⟨o.code ++ c.textUpTo t, m, t, none⟩ := by
        refine List.map_congr_left fun t ht => ?_
        rw [hnext t (hle t (List.mem_of_mem_filter ht))]
      rw [hmarks, Cursor.textUpTo_append hleads (Nat.le_of_lt hlt)] at hall
      rw [List.filter_cons_of_pos (by simpa using hlt)]
      exact hall
    · rename_i hge
      obtain ⟨⟨text, next⟩, hsplit, h⟩ := bind_eq_ok.mp h
      obtain rfl := pure_eq_ok.mp h
      obtain ⟨-, rfl, rfl⟩ := Cursor.of_split_eq_ok hsplit
      have hnone : (token :: tokens).filter (· < next.offset) = [] := by
        refine List.filter_eq_nil_iff.mpr (List.forall_mem_cons.mpr ⟨?_, fun t ht => ?_⟩)
        · rw [decide_eq_true_eq]
          exact hge
        · have := hle t ht
          rw [decide_eq_true_eq]
          omega
      rw [hnone]
      exact .push o _

/-- Something is put in the place of a piece, or nothing is. -/
theorem adds_replaced {o : Output} (edit : Edit) (hsource : o.map.paths[source]? = some m.id.text) :
    o.Adds (Part.replaced m edit).text ((Part.replaced m edit).marks o.code) (o.writeAll source m
      (if edit.text = "" then [] else [.origin edit.span.start edit.name, .text edit.text])) := by
  unfold Part.text Part.marks
  dsimp only
  split
  · rename_i hempty
    rw [hempty]
    exact .refl o
  · have hmark := Output.Adds.origin o hsource edit.span.start edit.name
    have hall := hmark.trans (.push _ edit.text)
    rw [String.empty_append] at hall
    exact hall

/-- Of sorted tokens those from an offset on are the last ones. -/
theorem dropWhile_eq_filter {tokens : List Nat} (h : tokens.Pairwise (· ≤ ·)) (offset : Nat) :
    tokens.dropWhile (· < offset) = tokens.filter (offset ≤ ·) := by
  induction tokens with
  | nil => rfl
  | cons token tokens ih =>
    obtain ⟨hle, hsorted⟩ := List.pairwise_cons.mp h
    by_cases hlt : token < offset
    · rw [List.dropWhile_cons_of_pos (by simpa using hlt), ih hsorted,
        List.filter_cons_of_neg (by simpa using hlt)]
    · rw [List.dropWhile_cons_of_neg (by simpa using hlt), List.filter_eq_self.mpr]
      refine List.forall_mem_cons.mpr ⟨by simpa using hlt, fun t ht => ?_⟩
      have := hle t ht
      rw [decide_eq_true_eq]
      omega

/-- The tokens of a module from an offset on. -/
def SourceModule.tokensFrom (m : SourceModule) (offset : Nat) : List Nat :=
  m.record.tokenStarts.filter (offset ≤ ·)

section
variable (hsorted : m.record.tokenStarts.Pairwise (· ≤ ·))
include hsorted

theorem SourceModule.dropWhile_tokensFrom {offset later : Nat} (h : offset ≤ later) :
    (m.tokensFrom offset).dropWhile (· < later) = m.tokensFrom later := by
  unfold tokensFrom
  rw [dropWhile_eq_filter (hsorted.filter _), List.filter_filter]
  refine List.filter_congr fun t _ => ?_
  rw [← Bool.decide_and]
  refine decide_eq_decide.mpr ⟨fun h => h.1, fun hle => ⟨hle, ?_⟩⟩
  omega

/-- A piece of the text of a module is copied. -/
theorem adds_copied {o : Output} {c : Cursor} {stop : Nat} {fragments : List Fragment}
    (hc : (Cursor.ofString m.source).Leads c)
    (h : copyFragments stop c (m.tokensFrom c.offset) = .ok fragments)
    (hsource : o.map.paths[source]? = some m.id.text) :
    o.Adds (Part.copied m ⟨c.offset, stop⟩).text ((Part.copied m ⟨c.offset, stop⟩).marks o.code)
      (o.writeAll source m fragments) := by
  have hadds := adds_copyFragments h (hsorted.filter _) hsource
  have htokens : (m.tokensFrom c.offset).filter (· < stop) =
      m.record.tokenStarts.filter fun t => c.offset ≤ t && t < stop := by
    unfold SourceModule.tokensFrom
    rw [List.filter_filter]
    refine List.filter_congr fun t _ => ?_
    rw [Bool.and_comm]
  rw [htokens] at hadds
  unfold Part.text Part.marks
  simp only [SourceModule.slice_eq hc]
  exact hadds

/-- A piece of the text of a module is written with edits in it. -/
theorem adds_editFragments {o : Output} {c : Cursor} {stop : Nat} {edits : List Edit}
    {fragments : List Fragment} (hc : (Cursor.ofString m.source).Leads c)
    (h : editFragments stop c (m.tokensFrom c.offset) edits = .ok fragments)
    (hsource : o.map.paths[source]? = some m.id.text) :
    o.Adds (partsText (editParts m stop c.offset edits))
      (marksFrom o.code (editParts m stop c.offset edits)) (o.writeAll source m fragments) := by
  induction edits generalizing o c fragments with
  | nil =>
    rw [editParts, partsText_cons, partsText_nil, String.append_empty, marksFrom, marksFrom,
      List.append_nil]
    exact adds_copied hsorted hc h hsource
  | cons edit edits ih =>
    unfold editFragments at h
    rw [editParts]
    split at h
    · rename_i hlt
      rw [if_pos hlt]
      exact ih hc h hsource
    · rename_i hge
      rw [if_neg hge]
      obtain ⟨copied, hcopied, h⟩ := bind_eq_ok.mp h
      obtain ⟨⟨text, next⟩, hsplit, h⟩ := bind_eq_ok.mp h
      obtain ⟨others, hothers, h⟩ := bind_eq_ok.mp h
      obtain rfl := pure_eq_ok.mp h
      obtain ⟨hleads, hstop, -⟩ := Cursor.of_split_eq_ok hsplit
      rw [← hstop, m.dropWhile_tokensFrom hsorted hleads.offset_le] at hothers
      have hfirst := adds_copied hsorted hc hcopied hsource
      have hsecond := adds_replaced edit (hfirst.paths ▸ hsource)
      have hboth := hfirst.trans hsecond
      have hrest := ih (hc.trans hleads) hothers (hboth.paths ▸ hsource)
      have hall := hboth.trans hrest
      rw [Output.writeAll_append, Output.writeAll_append, partsText_cons, partsText_cons, marksFrom,
        marksFrom, ← hstop, ← String.append_assoc, ← List.append_assoc]
      rw [hboth.code, ← String.append_assoc, hfirst.code] at hall
      exact hall

/-- An item is written. -/
theorem adds_itemFragments {o : Output} {item : ModuleItem} {edits : List Edit}
    {fragments : List Fragment} (h : itemFragments m item edits = .ok fragments)
    (hsource : o.map.paths[source]? = some m.id.text) :
    o.Adds (partsText (itemParts m item edits)) (marksFrom o.code (itemParts m item edits))
      (o.writeAll source m fragments) := by
  obtain ⟨⟨text, start⟩, hsplit, h⟩ := bind_eq_ok.mp h
  obtain ⟨body, hbody, h⟩ := bind_eq_ok.mp h
  obtain rfl := pure_eq_ok.mp h
  obtain ⟨hleads, hstart, -⟩ := Cursor.of_split_eq_ok hsplit
  rw [← hstart, dropWhile_eq_filter hsorted] at hbody
  have hitem := adds_editFragments hsorted hleads hbody hsource
  rw [hstart] at hitem
  have hall := (hitem.trans (.push _ (if item.missingSemicolon then ";" else ""))).trans
    (.push _ "\n")
  unfold itemParts
  rw [Output.writeAll_append, partsText_append, marksFrom_append, partsText_cons, partsText_cons,
    partsText_nil, String.append_empty, ← String.append_assoc]
  simp only [marksFrom, Part.marks, List.append_nil] at hall ⊢
  exact hall

end

/-! ## Output -/

/-- The output has the code of the parts, and a map with an entry at each of their marks. -/
structure Output.Holds (o : Output) (parts : List Part) : Prop where
  code : o.code = partsText parts
  map : MapHolds o.code (marksFrom "" parts) o.map

namespace Output.Holds

variable {o o' : Output} {parts more : List Part}

/-- Parts are written after others. -/
theorem adds (h : o.Holds parts) (hadds : o.Adds (partsText more) (marksFrom o.code more) o') :
    o'.Holds (parts ++ more) where
  code := by rw [hadds.code, h.code, partsText_append]
  map := by
    rw [marksFrom_append, String.empty_append, ← h.code]
    exact hadds.map _ h.map

theorem push (h : o.Holds parts) (text : String) :
    (o.push text).Holds (parts ++ [.written text]) := by
  refine h.adds ?_
  rw [partsText_cons, partsText_nil, String.append_empty]
  exact .push o text

theorem pushAll (h : o.Holds parts) (texts : List String) :
    (texts.foldl Output.push o).Holds (parts ++ texts.map .written) := by
  induction texts generalizing o parts with
  | nil =>
    rw [List.map_nil, List.append_nil]
    exact h
  | cons text texts ih =>
    have hrest := ih (h.push text)
    rw [List.append_assoc] at hrest
    exact hrest

end Output.Holds

variable {g : ModuleGraph} {l : Linkage} {needs : Needs} {n : Names}

/-- What is not an item is text of the bundle's own. -/
theorem Piece.parts_eq_written {piece : Piece} {text : String}
    (hitem : ∀ module code, piece ≠ .item module code) (h : piece.text g l n = .ok text) :
    piece.parts g l n = .ok [.written text] := by
  cases piece with
  | item module code => exact absurd rfl (hitem module code)
  | imports | namespaceObject | entryExports => exact bind_eq_ok.mpr ⟨text, h, rfl⟩

/-- The tokens of every module begin in order. -/
def ModuleGraph.SortedTokens (g : ModuleGraph) : Prop :=
  ∀ (index : Nat) (m : SourceModule), g.modules[index]? = some m →
    m.record.tokenStarts.Pairwise (· ≤ ·)

/-- Items of a module are written one after another. -/
theorem holds_items {m : SourceModule} {module source : Nat} {items : List ModuleItem}
    {fragments : List (List Fragment)} (hm : g.getModule module = .ok m)
    (hsorted : m.record.tokenStarts.Pairwise (· ≤ ·))
    (h : items.mapM (fun item => do
      let edits ← itemEdits l n m module item
      itemFragments m item edits) = .ok fragments) {o : Output} {parts : List Part}
    (ho : o.Holds parts) (hsource : o.map.paths[source]? = some m.id.text) :
    ∃ partss, List.Forall₂ (fun piece parts => Piece.parts g l n piece = .ok parts)
        (items.map (.item module)) partss ∧
      (o.writeAll source m fragments.flatten).Holds (parts ++ partss.flatten) := by
  induction items generalizing fragments o parts with
  | nil =>
    cases h
    refine ⟨[], .nil, ?_⟩
    rw [List.flatten_nil, List.append_nil]
    exact ho
  | cons item items ih =>
    rw [List.mapM_cons] at h
    obtain ⟨first, hfirst, h⟩ := bind_eq_ok.mp h
    obtain ⟨others, hothers, h⟩ := bind_eq_ok.mp h
    obtain rfl := pure_eq_ok.mp h
    obtain ⟨edits, hedits, hfirst⟩ := bind_eq_ok.mp hfirst
    have hadds := adds_itemFragments hsorted hfirst hsource
    obtain ⟨partss, hpartss, hrest⟩ := ih hothers (ho.adds hadds) (hadds.paths ▸ hsource)
    refine ⟨itemParts m item edits :: partss, .cons ?_ hpartss, ?_⟩
    · exact bind_eq_ok.mpr ⟨m, hm, bind_eq_ok.mpr ⟨edits, hedits, rfl⟩⟩
    · rw [List.flatten_cons, List.flatten_cons, Output.writeAll_append, ← List.append_assoc]
      exact hrest

/-- The items of a module that are needed are written after what is there. -/
theorem holds_emitModule (hsorted : g.SortedTokens) {o o' : Output} {module : Nat}
    {parts : List Part} (ho : o.Holds parts) (h : emitModule g l needs n o module = .ok o') :
    ∃ partss, List.Forall₂ (fun piece parts => Piece.parts g l n piece = .ok parts)
        (modulePieces g needs module) partss ∧ o'.Holds (parts ++ partss.flatten) := by
  obtain ⟨m, hm, h⟩ := bind_eq_ok.mp h
  obtain ⟨fragments, hfragments, h⟩ := bind_eq_ok.mp h
  obtain rfl := pure_eq_ok.mp h
  have hget := getModule_eq_ok hm
  have hsource : (o.map.addSource m.id.text (some m.source)).2.paths[o.map.sources.size]? =
      some m.id.text := by
    change ((o.map.sources.push (m.id.text, some m.source)).toList.map Prod.fst)[_]? = _
    rw [Array.toList_push, List.map_append, ← Array.length_toList,
      ← List.length_map (f := Prod.fst)]
    exact List.getElem?_concat_length
  unfold modulePieces
  rw [hget]
  exact holds_items hm (hsorted module m hget) hfragments
    ⟨ho.code, ho.map.addSource m.id.text (some m.source)⟩ hsource

theorem holds_emitModules (hsorted : g.SortedTokens) {modules : List Nat} {o o' : Output}
    {parts : List Part} (ho : o.Holds parts)
    (h : modules.foldlM (emitModule g l needs n) o = .ok o') :
    ∃ partss, List.Forall₂ (fun piece parts => Piece.parts g l n piece = .ok parts)
        (modules.flatMap (modulePieces g needs)) partss ∧ o'.Holds (parts ++ partss.flatten) := by
  induction modules generalizing o parts with
  | nil =>
    cases h
    refine ⟨[], .nil, ?_⟩
    rw [List.flatten_nil, List.append_nil]
    exact ho
  | cons module modules ih =>
    obtain ⟨mid, hmid, hrest⟩ := bind_eq_ok.mp h
    obtain ⟨first, hfirst, ho'⟩ := holds_emitModule hsorted ho hmid
    obtain ⟨rest, hpieces, hall⟩ := ih ho' hrest
    refine ⟨first ++ rest, List.rel_append hfirst hpieces, ?_⟩
    rw [List.flatten_append, ← List.append_assoc]
    exact hall

/-- **The output of a bundle** has the code of the parts of its pieces, and a map with an entry at
each of their marks. -/
theorem emit_parts (hsorted : g.SortedTokens) {output : Output}
    (h : emit g l needs n = .ok output) : ∃ partss,
      List.Forall₂ (fun piece parts => Piece.parts g l n piece = .ok parts)
        (bundlePieces g l needs n) partss ∧ output.Holds partss.flatten := by
  obtain ⟨imports, himports, h⟩ := bind_eq_ok.mp h
  obtain ⟨namespaces, hnamespaces, h⟩ := bind_eq_ok.mp h
  obtain ⟨body, hbody, h⟩ := bind_eq_ok.mp h
  obtain ⟨exports, hexports, h⟩ := bind_eq_ok.mp h
  obtain rfl := pure_eq_ok.mp h
  have hstart : ((imports ++ namespaces).foldl Output.push .empty).Holds
      ((imports ++ namespaces).map .written) := by
    have hempty : Output.empty.Holds [] := ⟨rfl, mapHolds_empty⟩
    exact hempty.pushAll _
  obtain ⟨items, hitems, hbody⟩ := holds_emitModules hsorted hstart hbody
  refine ⟨imports.map (fun text => [.written text]) ++
    namespaces.map (fun text => [.written text]) ++ items ++ [[.written exports]], ?_, ?_⟩
  · refine List.rel_append (List.rel_append (List.rel_append ?_ ?_) hitems) ?_
    · refine List.forall₂_map_left_iff.mpr (List.forall₂_map_right_iff.mpr ?_)
      exact (mapM_eq_ok.mp himports).imp fun _ _ =>
        Piece.parts_eq_written fun _ _ heq => by cases heq
    · refine List.forall₂_map_left_iff.mpr (List.forall₂_map_right_iff.mpr ?_)
      exact (mapM_eq_ok.mp hnamespaces).imp fun _ _ =>
        Piece.parts_eq_written fun _ _ heq => by cases heq
    · exact .cons (Piece.parts_eq_written (fun _ _ heq => by cases heq) hexports) .nil
  · have hsingles : ∀ texts : List String,
        (texts.map fun text => [Part.written text]).flatten = texts.map .written := fun texts => by
      rw [← List.flatMap_def, List.map_eq_flatMap]
    have hall := hbody.push exports
    rw [List.flatten_append, List.flatten_append, List.flatten_append, hsingles, hsingles,
      ← List.map_append]
    exact hall

end ModuleBundler
