import ModuleBundler.Proofs.Outcome
import ModuleBundler.Proofs.VlqRoundTrip
import ModuleBundler.SourceMap.Mappings

/-!
# Mappings are read back

* `Mapping.Small` : a mapping of which all numbers have 32 bits;
* `decodeMapping_mappingFields` : the numbers of a mapping, relative to those before, are read back;
* `decodeLines_encodeFrom` : so are all mappings from a line on, line by line;
* `decodeMappings_encodeMappings` : and all mappings of an output.
-/

namespace ModuleBundler

/-! ## Single mappings -/

/-- All numbers of the mapping have 32 bits, apart from the line in the output. -/
structure Mapping.Small (m : Mapping) : Prop where
  column : m.generated.column < 2 ^ 32
  source : ∀ o, m.origin = some o → o.source < 2 ^ 32
  place : ∀ o, m.origin = some o → o.position.line < 2 ^ 32 ∧ o.position.column < 2 ^ 32
  name : ∀ o index, m.origin = some o → o.name = some index → index < 2 ^ 32

/-- All numbers of the last mapping have 32 bits. -/
structure MappingBase.Small (b : MappingBase) : Prop where
  column : b.column < 2 ^ 32
  source : b.source < 2 ^ 32
  line : b.line < 2 ^ 32
  sourceColumn : b.sourceColumn < 2 ^ 32
  name : b.name < 2 ^ 32

theorem MappingBase.small_start : MappingBase.start.Small := by
  constructor <;> decide

theorem MappingBase.Small.newLine {b : MappingBase} (h : b.Small) : b.newLine.Small :=
  { h with column := Nat.two_pow_pos 32 }

theorem MappingBase.Small.after {b : MappingBase} (h : b.Small) {m : Mapping} (hm : m.Small) :
    (b.after m).Small := by
  obtain ⟨generated, origin⟩ := m
  cases origin with
  | none => exact { h with column := hm.column }
  | some o =>
    have hplace := hm.place o rfl
    refine ⟨hm.column, hm.source o rfl, hplace.1, hplace.2, ?_⟩
    obtain ⟨source, place, name⟩ := o
    cases name with
    | none => exact h.name
    | some index => exact hm.name _ index rfl rfl

theorem offsetBy_difference {a : Nat} (h : a < 2 ^ 32) (base : Nat) :
    offsetBy base (difference a base) = some a := by
  have hsum : (base : Int) + difference a base = a := by
    unfold difference
    omega
  have hsize : UInt32.size = 2 ^ 32 := rfl
  unfold offsetBy
  simp only [hsum]
  rw [if_pos (by omega)]
  rfl

theorem natAbs_difference {a b : Nat} (ha : a < 2 ^ 32) (hb : b < 2 ^ 32) :
    (difference a b).natAbs < 2 ^ 63 := by
  unfold difference
  omega

/-- Numbers in a row are read back. -/
theorem decodeFields_flatMap {values : List Int} {count : Nat} (hcount : values.length ≤ count)
    (hvalues : ∀ value ∈ values, value.natAbs < 2 ^ 63) :
    decodeFields count (values.flatMap encodeVlq) = some values := by
  induction values generalizing count with
  | nil => cases count <;> rfl
  | cons value values ih =>
    obtain ⟨count, rfl⟩ : ∃ other, count = other + 1 :=
      ⟨count - 1, by rw [List.length_cons] at hcount; omega⟩
    obtain ⟨hvalue, hvalues⟩ := List.forall_mem_cons.mp hvalues
    have hread := decodeVlq_encodeVlq hvalue (values.flatMap encodeVlq)
    have hrest := ih (Nat.le_of_succ_le_succ hcount) hvalues
    rw [List.flatMap_cons]
    obtain ⟨first, digits, hdigits⟩ := List.exists_cons_of_ne_nil (encodeVlq_ne_nil value)
    rw [hdigits, List.cons_append] at hread ⊢
    rw [decodeFields, hread]
    · change (decodeFields count (values.flatMap encodeVlq)).bind _ = _
      rw [hrest]
      rfl
    · exact fun h => nomatch h

theorem length_le_flatMap (values : List Int) :
    values.length ≤ (values.flatMap encodeVlq).length := by
  induction values with
  | nil => exact Nat.le_refl 0
  | cons value values ih =>
    rw [List.flatMap_cons, List.length_append, List.length_cons]
    have hpos := List.length_pos_iff.mpr (encodeVlq_ne_nil value)
    omega

/-- The text of a mapping, relative to those before. -/
def segmentText (b : MappingBase) (m : Mapping) : List Char := (mappingFields b m).flatMap encodeVlq

theorem natAbs_mappingFields {b : MappingBase} {m : Mapping} (hb : b.Small) (hm : m.Small) :
    ∀ value ∈ mappingFields b m, value.natAbs < 2 ^ 63 := by
  have hcolumn := natAbs_difference hm.column hb.column
  unfold mappingFields
  refine List.forall_mem_cons.mpr ⟨hcolumn, ?_⟩
  cases horigin : m.origin with
  | none => exact fun _ h => nomatch h
  | some o =>
    have hsource := natAbs_difference (hm.source o horigin) hb.source
    have hline := natAbs_difference (hm.place o horigin).1 hb.line
    have hsourceColumn := natAbs_difference (hm.place o horigin).2 hb.sourceColumn
    refine List.forall_mem_append.mpr ⟨?_, ?_⟩
    · simp only [List.forall_mem_cons, List.not_mem_nil, false_implies, implies_true, and_true]
      exact ⟨hsource, hline, hsourceColumn⟩
    · cases hname : o.name with
      | none => exact fun _ h => nomatch h
      | some index =>
        exact List.forall_mem_singleton.mpr
          (natAbs_difference (hm.name o index horigin hname) hb.name)

/-- The numbers of a mapping, relative to those before, are read back. -/
theorem decodeMapping_segmentText {b : MappingBase} {m : Mapping} (hb : b.Small) (hm : m.Small) :
    decodeMapping b m.generated.line (segmentText b m) = some m := by
  have hfields := decodeFields_flatMap (length_le_flatMap _) (natAbs_mappingFields hb hm)
  obtain ⟨⟨line, column⟩, origin⟩ := m
  unfold decodeMapping segmentText
  rw [hfields]
  unfold mappingFields
  change (offsetBy b.column (difference column b.column)).bind _ = _
  rw [offsetBy_difference hm.column]
  cases origin with
  | none => rfl
  | some o =>
    have hsource := offsetBy_difference (hm.source o rfl) b.source
    have hline := offsetBy_difference (hm.place o rfl).1 b.line
    have hsourceColumn := offsetBy_difference (hm.place o rfl).2 b.sourceColumn
    obtain ⟨source, place, name⟩ := o
    cases name with
    | none => simp_all [decodeOrigin]
    | some index =>
      have hname := offsetBy_difference (hm.name _ index rfl rfl) b.name
      simp_all [decodeOrigin]

/-! ## Lines -/

/-- What is split off before a separator begins with all that has none. -/
theorem splitOn_append_left {separator : Char} {front : List Char} (h : separator ∉ front)
    (text : List Char) :
    (front ++ text).splitOn separator = (text.splitOn separator).modifyHead (front ++ ·) := by
  induction front with
  | nil => cases h : text.splitOn separator <;> simp [h]
  | cons c front ih =>
    rw [List.mem_cons, not_or] at h
    have hc : (c == separator) = false := by simpa using Ne.symm h.1
    rw [List.cons_append, List.splitOn_cons_eq_if_modifyHead, hc, ih h.2]
    simp [Function.comp_def]

/-- The texts of the mappings of a line. -/
def segments (text : List Char) : List (List Char) :=
  (text.splitOn ',').filter fun s => !s.isEmpty

theorem segments_comma (text : List Char) : segments (',' :: text) = segments text := by
  simp [segments, List.splitOn_cons_eq_if_modifyHead]

/-- Nothing or a comma follows the text of a mapping in its line. -/
def FollowsSegment (text : List Char) : Prop := text = [] ∨ text.head? = some ','

theorem segments_append {segment text : List Char} (hne : segment ≠ []) (hcomma : ',' ∉ segment)
    (htext : FollowsSegment text) : segments (segment ++ text) = segment :: segments text := by
  rcases htext with rfl | htext
  · simp [segments, List.splitOn_eq_singleton hcomma, hne]
  · obtain ⟨rest, rfl⟩ := List.head?_eq_some_iff.mp htext
    rw [segments_comma]
    unfold segments
    rw [List.splitOn_append_cons_of_beq _ _ (beq_self_eq_true _),
      List.splitOn_eq_singleton hcomma, List.singleton_append, List.filter_cons_of_pos]
    simpa using hne

theorem segmentText_ne_nil (b : MappingBase) (m : Mapping) : segmentText b m ≠ [] := by
  have hpos := length_le_flatMap (mappingFields b m)
  refine List.ne_nil_of_length_pos (Nat.lt_of_lt_of_le ?_ hpos)
  exact Nat.succ_pos _

theorem separators_not_mem_segmentText (b : MappingBase) (m : Mapping) :
    ',' ∉ segmentText b m ∧ ';' ∉ segmentText b m := by
  constructor
  · intro h
    obtain ⟨value, -, hmem⟩ := List.mem_flatMap.mp h
    exact (separators_not_mem_encodeVlq value).1 hmem
  · intro h
    obtain ⟨value, -, hmem⟩ := List.mem_flatMap.mp h
    exact (separators_not_mem_encodeVlq value).2 hmem

/-- At the start of a line the column of the last mapping does not count. -/
theorem decodeLines_newLine (line : Nat) (b : MappingBase) (texts : List (List Char)) :
    decodeLines line b.newLine texts = decodeLines line b texts := by
  cases texts <;> rfl

/-- Lines without mappings are passed over. -/
theorem decodeLines_replicate (line count : Nat) (b : MappingBase) (texts : List (List Char)) :
    decodeLines line b (List.replicate count [] ++ texts) = decodeLines (line + count) b texts := by
  induction count generalizing line with
  | zero => rfl
  | succ count ih =>
    have hblank : decodeLines line b ([] :: (List.replicate count [] ++ texts)) =
        decodeLines (line + 1) b.newLine (List.replicate count [] ++ texts) :=
      Option.bind_fun_some _
    rw [List.replicate_succ, List.cons_append, hblank, decodeLines_newLine, ih, Nat.add_right_comm,
      Nat.add_assoc]

theorem splitOn_replicate (separator : Char) (count : Nat) (text : List Char) :
    (List.replicate count separator ++ text).splitOn separator =
      List.replicate count [] ++ text.splitOn separator := by
  induction count with
  | zero => rfl
  | succ count ih => simp [List.replicate_succ, List.splitOn_cons_eq_if_modifyHead, ih]

/-- A line whose mappings are read, and the lines after it. -/
theorem decodeLines_cons {line : Nat} {b b' : MappingBase} {head : List Char}
    {tail : List (List Char)} {first others : List Mapping}
    (hline : decodeLine line b.newLine (segments head) = some (first, b'))
    (hlines : decodeLines (line + 1) b' tail = some others) :
    decodeLines line b (head :: tail) = some (first ++ others) := by
  change (decodeLine line b.newLine (segments head)).bind _ = _
  rw [hline]
  change (decodeLines (line + 1) b' tail).bind _ = _
  rw [hlines]
  rfl

/-- The mappings come in the order of their lines, from a line on. -/
def LinesFrom (line : Nat) (ms : List Mapping) : Prop :=
  ms.Pairwise (fun a b => a.generated.line ≤ b.generated.line) ∧
    ∀ m ∈ ms, line ≤ m.generated.line

theorem LinesFrom.cons {line : Nat} {m : Mapping} {rest : List Mapping}
    (h : LinesFrom line (m :: rest)) :
    line ≤ m.generated.line ∧ LinesFrom m.generated.line rest := by
  obtain ⟨hle, hrest⟩ := List.pairwise_cons.mp h.1
  exact ⟨h.2 m List.mem_cons_self, hrest, hle⟩

/-- The mappings are those of a text from the middle of a line on, where a mapping stands before. -/
def LinesRead (line : Nat) (b : MappingBase) (text : List Char) (ms : List Mapping) : Prop :=
  ∃ head tail first others b', text.splitOn ';' = head :: tail ∧ FollowsSegment head ∧
    decodeLine line b (segments head) = some (first, b') ∧
    decodeLines (line + 1) b' tail = some others ∧ ms = first ++ others

/-- A mapping in front of others in its line is read with them. -/
theorem LinesRead.segment {b : MappingBase} {m : Mapping} {text : List Char} {ms : List Mapping}
    (hb : b.Small) (hm : m.Small) (h : LinesRead m.generated.line (b.after m) text ms) :
    ∃ head tail first others b', (segmentText b m ++ text).splitOn ';' = head :: tail ∧
      decodeLine m.generated.line b (segments head) = some (first, b') ∧
      decodeLines (m.generated.line + 1) b' tail = some others ∧ m :: ms = first ++ others := by
  obtain ⟨head, tail, first, others, b', hsplit, hfollows, hline, hlines, rfl⟩ := h
  obtain ⟨hcomma, hsemicolon⟩ := separators_not_mem_segmentText b m
  refine ⟨segmentText b m ++ head, tail, m :: first, others, b', ?_, ?_, hlines, rfl⟩
  · rw [splitOn_append_left hsemicolon, hsplit]
    rfl
  · rw [segments_append (segmentText_ne_nil b m) hcomma hfollows, decodeLine,
      decodeMapping_segmentText hb hm]
    change (decodeLine m.generated.line (b.after m) (segments head)).bind _ = _
    rw [hline]
    rfl

/-- Mappings from a line on, in which there is one already, are read back. -/
theorem linesRead_encodeFrom (lastLine : Nat) {b : MappingBase} (hb : b.Small) {line : Nat}
    {ms : List Mapping} (hms : LinesFrom line ms) (hsmall : ∀ m ∈ ms, m.Small) :
    LinesRead line b (encodeFrom lastLine b line false ms) ms := by
  induction ms generalizing b line with
  | nil =>
    refine ⟨[], List.replicate (lastLine - line) [], [], [], b, ?_, .inl rfl, rfl, ?_, rfl⟩
    · have hblank := splitOn_replicate ';' (lastLine - line) []
      rw [List.append_nil] at hblank
      rw [encodeFrom, hblank, List.splitOn_nil, ← List.replicate_succ', List.replicate_succ]
    · have hblank := decodeLines_replicate (line + 1) (lastLine - line) b []
      rwa [List.append_nil] at hblank
  | cons m rest ih =>
    obtain ⟨hm, hrest⟩ := List.forall_mem_cons.mp hsmall
    obtain ⟨hle, hrestFrom⟩ := hms.cons
    obtain hsame | ⟨count, hbreaks⟩ : m.generated.line = line ∨
        ∃ count, m.generated.line = line + 1 + count := by
      rcases Nat.lt_or_eq_of_le hle with hlt | heq
      · exact .inr ⟨m.generated.line - (line + 1), by omega⟩
      · exact .inl heq.symm
    · -- The mapping stands in the same line.
      obtain ⟨head, tail, first, others, b', hsplit, hline, hlines, heq⟩ :=
        LinesRead.segment hb hm (ih (hb.after hm) hrestFrom hrest)
      rw [encodeFrom, hsame]
      rw [hsame] at hsplit hline hlines
      simp only [Nat.sub_self, ↓reduceIte, Bool.false_eq_true, List.singleton_append]
      refine ⟨',' :: head, tail, first, others, b', ?_, .inr rfl, ?_, hlines, heq⟩
      · have hcons := splitOn_append_left (by decide : ';' ∉ [',']) (segmentText b m ++
          encodeFrom lastLine (b.after m) line false rest)
        rw [hsplit] at hcons
        exact hcons
      · rw [segments_comma]
        exact hline
    · -- Lines without mappings stand between.
      obtain ⟨head, tail, first, others, b', hsplit, hline, hlines, heq⟩ :=
        LinesRead.segment hb.newLine hm (ih (hb.newLine.after hm) hrestFrom hrest)
      have hne : m.generated.line - line = count + 1 := by omega
      refine ⟨[], List.replicate count [] ++ head :: tail, [], m :: rest, b, ?_, .inl rfl, rfl, ?_,
        rfl⟩
      · rw [encodeFrom]
        simp only [hne, Nat.succ_ne_zero, ↓reduceIte]
        rw [List.append_assoc, splitOn_replicate, List.replicate_succ]
        exact congrArg ([] :: List.replicate count [] ++ ·) hsplit
      · rw [decodeLines_replicate, ← hbreaks, heq]
        exact decodeLines_cons hline hlines

/-! ## All mappings -/

/-- Nothing stands before the first mapping of the first line. -/
theorem decodeMappings_comma (text : List Char) :
    decodeMappings (String.ofList (',' :: text)) = decodeMappings (String.ofList text) := by
  unfold decodeMappings
  rw [String.toList_ofList, String.toList_ofList]
  have hcons := splitOn_append_left (by decide : ';' ∉ [',']) text
  rw [List.singleton_append] at hcons
  rw [hcons]
  cases hsplit : text.splitOn ';' with
  | nil => exact absurd hsplit (List.splitOn_ne_nil _ _)
  | cons head tail =>
    rw [List.modifyHead_cons, decodeLines, decodeLines]
    change (decodeLine 0 _ (segments (',' :: head))).bind _ =
      (decodeLine 0 _ (segments head)).bind _
    rw [segments_comma]

/-- **Mappings are read back** if they come in order and all their numbers have 32 bits. -/
theorem decodeMappings_encodeMappings (lastLine : Nat) {ms : List Mapping}
    (hsorted : ms.Pairwise fun a b => a.generated.line ≤ b.generated.line)
    (hsmall : ∀ m ∈ ms, m.Small) : decodeMappings (encodeMappings lastLine ms) = some ms := by
  have hfrom : LinesFrom 0 ms := ⟨hsorted, fun _ _ => Nat.zero_le _⟩
  obtain ⟨head, tail, first, others, b', hsplit, -, hline, hlines, rfl⟩ :=
    linesRead_encodeFrom lastLine MappingBase.small_start hfrom hsmall
  have hread : decodeMappings (String.ofList (encodeFrom lastLine .start 0 false
      (first ++ others))) = some (first ++ others) := by
    unfold decodeMappings
    rw [String.toList_ofList, hsplit]
    exact decodeLines_cons hline hlines
  unfold encodeMappings
  cases hms : first ++ others with
  | nil =>
    rw [hms] at hread
    exact hread
  | cons m rest =>
    rw [hms, encodeFrom] at hread
    rw [encodeFrom]
    by_cases hbreaks : m.generated.line - 0 = 0
    · simp only [hbreaks, ↓reduceIte, Bool.false_eq_true, List.nil_append,
        List.singleton_append] at hread ⊢
      rwa [List.cons_append, decodeMappings_comma] at hread
    · simp only [hbreaks, ↓reduceIte] at hread ⊢
      exact hread

end ModuleBundler
