import ModuleBundler.Graph.Basic
import ModuleBundler.Proofs.MapCalls
import ModuleBundler.Proofs.MappingsRoundTrip

/-!
# The entries of a source map

* `Mark` : a place of a module at which an output goes on, and the output before it;
* `Mapping.StemsFrom` : an entry of a map tells of the place that is marked;
* `MapHolds` : a map has an entry wherever the output is marked, and nowhere else;
* `MapHolds.advance`, `MapHolds.addSource`, `MapHolds.addMapping` : building a map keeps that;
* `MapHolds.decoded` : the entries are read back from the text of the map;
* `MapHolds.mapped_iff` : by the lines of the output each mark has an entry of its own, and there are
  no others, exactly if no mark splits a line end.
-/

namespace ModuleBundler

/-- A place of a module at which an output goes on, with the output before it. A name is that which
the module has there, if it is replaced. -/
structure Mark where
  before : String
  module : SourceModule
  offset : Nat
  name : Option String

/-- Where the output stands at a mark. -/
def Mark.stand (mark : Mark) : OutputPosition := OutputPosition.start.advance mark.before

/-- The entry tells of the marked place and name, by the sources and names of a map. -/
def Mapping.StemsFrom (e : Mapping) (sources names : List String) (mark : Mark) : Prop :=
  ∃ p, e.origin = some p ∧ sources[p.source]? = some mark.module.id.text ∧
    p.position = (LineIndex.ofString mark.module.source).place mark.offset ∧
    (p.name.map fun index => names[index]?) = mark.name.map some

theorem Mapping.StemsFrom.mono {e : Mapping} {sources names sources' names' : List String}
    {mark : Mark} (h : e.StemsFrom sources names mark) (hsources : sources <+: sources')
    (hnames : names <+: names') : e.StemsFrom sources' names' mark := by
  obtain ⟨⟨source, position, name⟩, horigin, hsource, hplace, hname⟩ := h
  refine ⟨_, horigin, getElem?_of_isPrefix hsources hsource, hplace, ?_⟩
  cases name with
  | none => exact hname
  | some index =>
    cases hold : mark.name with
    | none =>
      rw [hold] at hname
      cases hname
    | some old =>
      rw [hold] at hname
      have hget : names[index]? = some old := Option.some.inj hname
      exact congrArg some (getElem?_of_isPrefix hnames hget)

/-! ## Building -/

/-- The paths of the sources of a map. -/
def MapBuilder.paths (b : MapBuilder) : List String := b.sources.toList.map Prod.fst

/-- The map of an output with marks has an entry wherever there is one, and nowhere else. -/
structure MapHolds (code : String) (marks : List Mark) (b : MapBuilder) : Prop where
  position : b.position = OutputPosition.start.advance code
  inside : ∀ mark ∈ marks, ∃ rest, mark.before ++ rest = code
  sorted : b.mappings.toList.Pairwise fun x y => x.generated.Before y.generated
  upTo : ∀ e ∈ b.mappings.toList, e.generated = b.position.place ∨
    e.generated.Before b.position.place
  stems : ∀ e ∈ b.mappings.toList, ∃ mark ∈ marks, e.generated = mark.stand.place ∧
    e.StemsFrom b.paths b.names.toList mark
  mapped : ∀ mark ∈ marks, ∃ e ∈ b.mappings.toList, e.generated = mark.stand.place
  counted : b.mappings.size ≤ code.utf8ByteSize ∨
    (b.mappings.back?.map Mapping.generated = some b.position.place ∧
      b.mappings.size ≤ code.utf8ByteSize + 1)
  named : b.names.size ≤ b.mappings.size

theorem mapHolds_empty : MapHolds "" [] .empty where
  position := rfl
  inside _ h := nomatch h
  sorted := .nil
  upTo _ h := nomatch h
  stems _ h := nomatch h
  mapped _ h := nomatch h
  counted := .inl (Nat.zero_le _)
  named := Nat.zero_le _

namespace MapHolds

variable {code : String} {marks : List Mark} {b : MapBuilder}

theorem inOrder (h : MapHolds code marks b) : b.InOrder := ⟨h.sorted, h.upTo⟩

/-- More text is written. -/
theorem advance (h : MapHolds code marks b) (text : String) :
    MapHolds (code ++ text) marks (b.advance text) where
  position := by
    rw [OutputPosition.advance_append, ← h.position]
    rfl
  inside mark hmark := by
    obtain ⟨rest, rfl⟩ := h.inside mark hmark
    exact ⟨rest ++ text, (String.append_assoc ..).symm⟩
  sorted := (h.inOrder.advance text).sorted
  upTo := (h.inOrder.advance text).upTo
  stems := h.stems
  mapped := h.mapped
  counted := by
    rcases h.counted with hle | ⟨hlast, hle⟩
    · refine .inl (Nat.le_trans hle ?_)
      rw [String.utf8ByteSize_append]
      exact Nat.le_add_right _ _
    · by_cases htext : text = ""
      · subst htext
        rw [String.append_empty]
        exact .inr ⟨hlast, hle⟩
      · have hsize : text.utf8ByteSize ≠ 0 := fun hzero =>
          htext (String.utf8ByteSize_eq_zero_iff.mp hzero)
        refine .inl (Nat.le_trans hle ?_)
        rw [String.utf8ByteSize_append]
        omega
  named := h.named

/-- The text of one more module is a source. -/
theorem addSource (h : MapHolds code marks b) (path : String) (content : Option String) :
    MapHolds code marks (b.addSource path content).2 := by
  refine { h with stems := fun e he => ?_ }
  obtain ⟨mark, hmark, hplace, hstems⟩ := h.stems e he
  refine ⟨mark, hmark, hplace, hstems.mono ?_ (List.prefix_refl _)⟩
  change b.paths <+: (b.sources.push (path, content)).toList.map Prod.fst
  rw [Array.toList_push, List.map_append]
  exact List.prefix_append _ _

variable {mark : Mark}

/-- The output before a mark at its end. -/
theorem stand_eq (h : MapHolds code marks b) (hbefore : mark.before = code) :
    mark.stand.place = b.position.place := by
  rw [h.position, Mark.stand, hbefore]

/-- One more mark at the end of the output is one in it. -/
theorem inside_concat (h : MapHolds code marks b) (hbefore : mark.before = code) :
    ∀ other ∈ marks ++ [mark], ∃ rest, other.before ++ rest = code := by
  refine List.forall_mem_append.mpr ⟨h.inside, List.forall_mem_singleton.mpr ⟨"", ?_⟩⟩
  rw [hbefore, String.append_empty]

/-- An entry is added at the end of the output, where there is none. -/
theorem push {b' : MapBuilder} {e : Mapping} (h : MapHolds code marks b)
    (hmappings : b'.mappings = b.mappings.push e) (hposition : b'.position = b.position)
    (hpaths : b'.paths = b.paths) (hnames : b.names.toList <+: b'.names.toList)
    (hbefore : mark.before = code) (hgenerated : e.generated = b.position.place)
    (hstems : e.StemsFrom b'.paths b'.names.toList mark)
    (hcount : b'.names.size ≤ b.names.size + 1)
    (hnew : b.mappings.back?.map Mapping.generated ≠ some b.position.place) :
    MapHolds code (marks ++ [mark]) b' where
  position := hposition.trans h.position
  inside := h.inside_concat hbefore
  sorted := (h.inOrder.push hmappings hposition hgenerated hnew).sorted
  upTo := (h.inOrder.push hmappings hposition hgenerated hnew).upTo
  stems := by
    rw [hmappings, Array.toList_push, List.forall_mem_append, List.forall_mem_singleton]
    refine ⟨fun x hx => ?_, mark, by simp, hgenerated.trans (h.stand_eq hbefore).symm, hstems⟩
    obtain ⟨other, hother, hplace, hstems⟩ := h.stems x hx
    have hsources : b.paths <+: b'.paths := hpaths ▸ List.prefix_refl _
    exact ⟨other, List.mem_append_left _ hother, hplace, hstems.mono hsources hnames⟩
  mapped := by
    rw [hmappings, Array.toList_push, List.forall_mem_append, List.forall_mem_singleton]
    refine ⟨fun other hother => ?_, e, by simp, hgenerated.trans (h.stand_eq hbefore).symm⟩
    obtain ⟨x, hx, hplace⟩ := h.mapped other hother
    exact ⟨x, List.mem_append_left _ hx, hplace⟩
  counted := by
    rcases h.counted with hle | ⟨hlast, -⟩
    · refine .inr ⟨?_, ?_⟩
      · rw [hmappings, Array.back?_push, Option.map_some, hgenerated, hposition]
      · rw [hmappings, Array.size_push]
        omega
    · exact absurd hlast hnew
  named := by
    have := h.named
    rw [hmappings, Array.size_push]
    omega

/-- Where there is an entry already the end of the output has its mark. -/
theorem drop (h : MapHolds code marks b) (hbefore : mark.before = code)
    (hlast : b.mappings.back?.map Mapping.generated = some b.position.place) :
    MapHolds code (marks ++ [mark]) b := by
  refine { h with inside := h.inside_concat hbefore, stems := fun e he => ?_, mapped := ?_ }
  · obtain ⟨other, hother, hstems⟩ := h.stems e he
    exact ⟨other, List.mem_append_left _ hother, hstems⟩
  · rw [List.forall_mem_append, List.forall_mem_singleton]
    refine ⟨h.mapped, ?_⟩
    rw [← Array.getLast?_toList] at hlast
    obtain ⟨last, hget, hplace⟩ := Option.map_eq_some_iff.mp hlast
    exact ⟨last, List.mem_of_getLast? hget, hplace.trans (h.stand_eq hbefore).symm⟩

/-- The end of the output is mapped to a place in a source. -/
theorem addMapping (h : MapHolds code marks b) {source : Nat} (hbefore : mark.before = code)
    (hsource : b.paths[source]? = some mark.module.id.text) :
    MapHolds code (marks ++ [mark])
      (b.addMapping source ((LineIndex.ofString mark.module.source).place mark.offset)
        mark.name) := by
  by_cases hlast : b.mappings.back?.map Mapping.generated = some b.position.place
  · rw [MapBuilder.addMapping, if_pos hlast]
    exact h.drop hbefore hlast
  · rw [MapBuilder.addMapping, if_neg hlast]
    cases hname : mark.name with
    | none =>
      refine h.push rfl rfl rfl (List.prefix_refl _) hbefore rfl ?_ (Nat.le_succ _) hlast
      exact ⟨_, rfl, hsource, rfl, by rw [hname]; rfl⟩
    | some name =>
      obtain ⟨hnames, hindex, hcount⟩ := b.nameIndex_spec name
      refine h.push rfl rfl rfl hnames hbefore rfl ?_ hcount hlast
      refine ⟨_, rfl, hsource, rfl, ?_⟩
      rw [hname]
      exact congrArg some hindex

/-! ## Reading -/

/-- All numbers of an entry have 32 bits if the texts have sizes of 32 bits. -/
theorem small (h : MapHolds code marks b) (hcode : code.utf8ByteSize < 2 ^ 32)
    (htexts : ∀ mark ∈ marks, mark.module.source.utf8ByteSize < 2 ^ 32)
    (hsources : b.sources.size < 2 ^ 32) : ∀ e ∈ b.mappings.toList, e.Small := by
  intro e he
  obtain ⟨mark, hmark, hplace, ⟨source, position, name⟩, horigin, hsource, hposition, hname⟩ :=
    h.stems e he
  refine ⟨?_, fun o ho => ?_, fun o ho => ?_, fun o index ho hindex => ?_⟩
  · obtain ⟨rest, hrest⟩ := h.inside mark hmark
    have hle := OutputPosition.column_foldl_step_le .start mark.before.toList
    have hsize := congrArg String.utf8ByteSize hrest
    rw [String.utf8ByteSize_append, utf8ByteSize_eq mark.before] at hsize
    rw [hplace]
    change (mark.before.toList.foldl OutputPosition.step .start).place.column < _
    have hzero : OutputPosition.start.place.column = 0 := rfl
    omega
  · obtain rfl := Option.some.inj (horigin.symm.trans ho)
    have hlt := (List.getElem?_eq_some_iff.mp hsource).1
    unfold MapBuilder.paths at hlt
    rw [List.length_map, Array.length_toList] at hlt
    exact Nat.lt_trans hlt hsources
  · obtain rfl := Option.some.inj (horigin.symm.trans ho)
    have hle := LineIndex.place_le mark.module.source mark.offset
    have hlt := htexts mark hmark
    dsimp only at hposition ⊢
    rw [hposition]
    exact ⟨Nat.lt_of_le_of_lt hle.1 hlt, Nat.lt_of_le_of_lt hle.2 hlt⟩
  · obtain rfl := Option.some.inj (horigin.symm.trans ho)
    dsimp only at hname hindex
    subst hindex
    cases hold : mark.name with
    | none =>
      rw [hold] at hname
      cases hname
    | some old =>
      rw [hold] at hname
      have hlt := (List.getElem?_eq_some_iff.mp (Option.some.inj hname)).1
      rw [Array.length_toList] at hlt
      have hnamed := h.named
      rcases h.counted with hle | ⟨-, hle⟩
      · omega
      · omega

/-- The entries are read back from the text of the map. -/
theorem decoded (h : MapHolds code marks b) (hcode : code.utf8ByteSize < 2 ^ 32)
    (htexts : ∀ mark ∈ marks, mark.module.source.utf8ByteSize < 2 ^ 32)
    (hsources : b.sources.size < 2 ^ 32) (file : Option String) (includeContent : Bool) :
    (b.build file includeContent).decoded = some b.mappings.toList := by
  refine decodeMappings_encodeMappings _ (h.sorted.imp fun hbefore => ?_)
    (h.small hcode htexts hsources)
  rcases hbefore with hlt | ⟨heq, -⟩
  · exact Nat.le_of_lt hlt
  · exact Nat.le_of_eq heq

end MapHolds

/-! ## Entries by the lines of the code -/

namespace Mark

/-- The place of a mark by the lines of the code. -/
def placeIn (mark : Mark) (code : String) : LineColumn :=
  (LineIndex.ofString code).place mark.before.utf8ByteSize

/-- The output before the mark ends in the middle of a line end of the code. -/
def Splits (mark : Mark) (code : String) : Prop :=
  ∃ rest, mark.before ++ rest = code ∧ SplitsLineEnd mark.before.toList rest.toList

/-- There is one entry only at the place of the mark, and that tells of it. -/
def MappedIn (mark : Mark) (code : String) (entries : List Mapping) (sources names : List String) :
    Prop :=
  ∃ e, (∀ other, other ∈ entries ∧ other.generated = mark.placeIn code ↔ other = e) ∧
    e.StemsFrom sources names mark

variable {mark : Mark} {code rest : String}

theorem placeIn_append (h : mark.before ++ rest = code) :
    mark.placeIn code = ModuleBundler.placeIn .start mark.before.toList rest.toList := by
  have hplace := LineIndex.place_ofList mark.before.toList rest.toList
  rw [← String.toList_append, String.ofList_toList, h, ← utf8ByteSize_eq] at hplace
  exact hplace

/-- Where no line end is split the lines of the code have the place at which the output stands. -/
theorem placeIn_eq_stand (hrest : mark.before ++ rest = code) (h : ¬ mark.Splits code) :
    mark.placeIn code = mark.stand.place := by
  rw [placeIn_append hrest]
  exact ModuleBundler.placeIn_eq (fun hsplits => h ⟨rest, hrest, hsplits⟩) _

/-- Without a carriage return no line end can be split. -/
theorem not_splits (h : '\r' ∉ code.toList) : ¬ mark.Splits code := by
  rintro ⟨rest, rfl, hlast, -⟩
  refine h ?_
  rw [String.toList_append]
  exact List.mem_append_left _ (List.mem_of_getLast? hlast)

end Mark

namespace MapHolds

variable {code : String} {marks : List Mark} {b : MapBuilder}

/-- At one place there is one entry at most. -/
theorem entry_unique (h : MapHolds code marks b) {e other : Mapping} (he : e ∈ b.mappings.toList)
    (hother : other ∈ b.mappings.toList) (heq : e.generated = other.generated) : e = other := by
  have hsorted := h.sorted
  obtain ⟨front, back, hsplit⟩ := List.append_of_mem he
  rw [hsplit, List.pairwise_append, List.pairwise_cons] at hsorted
  rw [hsplit] at hother
  rcases List.mem_append.mp hother with hmem | hmem
  · exact absurd heq.symm (hsorted.2.2 other hmem e List.mem_cons_self).ne
  · rcases List.mem_cons.mp hmem with rfl | hmem
    · rfl
    · exact absurd heq (hsorted.2.1.1 other hmem).ne

/-- **Entries by the lines of the code.** Let no two marks have the same output before them. If none
of them splits a line end of the code, each has an entry of its own at its place, and there are no
other entries. Otherwise this is not so. -/
theorem mapped_iff (h : MapHolds code marks b)
    (hdistinct : ∀ mark ∈ marks, ∀ other ∈ marks, mark.before = other.before → mark = other) :
    (∀ mark ∈ marks, ¬ mark.Splits code) ↔
      (∀ mark ∈ marks, mark.MappedIn code b.mappings.toList b.paths b.names.toList) ∧
      ∀ e ∈ b.mappings.toList, ∃ mark ∈ marks, e.generated = mark.placeIn code ∧
        e.StemsFrom b.paths b.names.toList mark := by
  constructor
  · intro hwhole
    have hplaces : ∀ mark ∈ marks, mark.placeIn code = mark.stand.place := fun mark hmark => by
      obtain ⟨rest, hrest⟩ := h.inside mark hmark
      exact mark.placeIn_eq_stand hrest (hwhole mark hmark)
    refine ⟨fun mark hmark => ?_, fun e he => ?_⟩
    · obtain ⟨e, he, hplace⟩ := h.mapped mark hmark
      obtain ⟨other, hother, hplace', hstems⟩ := h.stems e he
      obtain ⟨rest, hrest⟩ := h.inside mark hmark
      obtain ⟨rest', hrest'⟩ := h.inside other hother
      have hsame : mark = other := by
        refine hdistinct mark hmark other hother (String.toList_inj.mp ?_)
        refine eq_of_place_eq (fun hsplits => hwhole mark hmark ⟨rest, hrest, hsplits⟩)
          (fun hsplits => hwhole other hother ⟨rest', hrest', hsplits⟩) ?_ ?_
        · rw [← String.toList_append, ← String.toList_append, hrest, hrest']
        · exact hplace.symm.trans hplace'
      subst hsame
      refine ⟨e, fun found => ⟨fun hfound => ?_, ?_⟩, hstems⟩
      · refine h.entry_unique hfound.1 he ?_
        rw [hfound.2, hplaces mark hmark, hplace]
      · rintro rfl
        exact ⟨he, hplace.trans (hplaces mark hmark).symm⟩
    · obtain ⟨mark, hmark, hplace, hstems⟩ := h.stems e he
      exact ⟨mark, hmark, hplace.trans (hplaces mark hmark).symm, hstems⟩
  · rintro ⟨hmapped, -⟩ mark hmark ⟨rest, hrest, hsplits⟩
    obtain ⟨e, hunique, -⟩ := hmapped mark hmark
    obtain ⟨he, hplace⟩ := (hunique e).mpr rfl
    obtain ⟨other, hother, hstand, -⟩ := h.stems e he
    obtain ⟨rest', hrest'⟩ := h.inside other hother
    have heq : other.before.toList ++ rest'.toList = mark.before.toList ++ rest.toList := by
      rw [← String.toList_append, ← String.toList_append, hrest, hrest']
    have hne := place_ne_of_splits hsplits heq
    rw [mark.placeIn_append hrest, hstand] at hplace
    exact hne hplace

end MapHolds
end ModuleBundler
