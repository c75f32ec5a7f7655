import ModuleBundler.Proofs.MapCalls
import ModuleBundler.Proofs.MappingsRoundTrip

/-!
# What a built source map records

* `Recording`, `recordings` : what calls record, in their order. A call where the last recorded one
  was made records nothing;
* `MapBuilder.foldl_apply_records` : the mappings of a builder are those of the recordings;
* `MapWriter` : the text of the mappings, written call by call with the numbers of the last one at
  hand;
* `MapWriter.text_ofCalls` : that is the text of the built map;
* `decoded_of_calls` : from which the recordings are read back.
-/

namespace ModuleBundler

/-! ## Recordings -/

/-- What a call records: where the output stands, the place in a source, and the name there. -/
structure Recording where
  generated : LineColumn
  source : Nat
  place : LineColumn
  name : Option String

/-- What calls record from where an output stands, with the place of the last recording. -/
def recordings (p : OutputPosition) (last : Option LineColumn) : List MapCall → List Recording
  | [] => []
  | .addSource _ _ :: calls => recordings p last calls
  | .advance text :: calls => recordings (p.advance text) last calls
  | .addMapping source place name :: calls =>
    if last = some p.place then recordings p last calls
    else ⟨p.place, source, place, name⟩ :: recordings p (some p.place) calls

/-- All numbers of the recording have 32 bits, apart from the line in the output. -/
structure Recording.Small (r : Recording) : Prop where
  column : r.generated.column < 2 ^ 32
  source : r.source < 2 ^ 32
  line : r.place.line < 2 ^ 32
  sourceColumn : r.place.column < 2 ^ 32

instance (r : Recording) : Decidable r.Small :=
  decidable_of_iff
    (r.generated.column < 2 ^ 32 ∧ r.source < 2 ^ 32 ∧ r.place.line < 2 ^ 32 ∧
      r.place.column < 2 ^ 32)
    ⟨fun h => ⟨h.1, h.2.1, h.2.2.1, h.2.2.2⟩, fun h => ⟨h.column, h.source, h.line, h.sourceColumn⟩⟩

/-- The mapping is that of the recording. It has the index of the name among all names. -/
def Mapping.Records (names : List String) (e : Mapping) (r : Recording) : Prop :=
  ∃ index : Option Nat, e = ⟨r.generated, some ⟨r.source, r.place, index⟩⟩ ∧
    (index.map fun i => names[i]?) = r.name.map some

namespace Mapping.Records

variable {names names' : List String} {e : Mapping} {r : Recording}

theorem mono (h : e.Records names r) (hnames : names <+: names') : e.Records names' r := by
  obtain ⟨index, rfl, hname⟩ := h
  refine ⟨index, rfl, ?_⟩
  rw [← hname]
  cases index with
  | none => rfl
  | some i =>
    cases hr : r.name with
    | none =>
      rw [hr] at hname
      cases hname
    | some name =>
      rw [hr] at hname
      have hget : names[i]? = some name := Option.some.inj hname
      rw [Option.map_some, Option.map_some, hget, getElem?_of_isPrefix hnames hget]

theorem small (h : e.Records names r) (hr : r.Small) (hnames : names.length ≤ 2 ^ 32) :
    e.Small := by
  obtain ⟨index, rfl, hname⟩ := h
  refine ⟨hr.column, ?_, ?_, ?_⟩
  · intro o ho
    obtain rfl := Option.some.inj ho
    exact hr.source
  · intro o ho
    obtain rfl := Option.some.inj ho
    exact ⟨hr.line, hr.sourceColumn⟩
  · intro o i ho hi
    obtain rfl := Option.some.inj ho
    obtain rfl : index = some i := hi
    cases hold : r.name with
    | none =>
      rw [hold] at hname
      cases hname
    | some name =>
      rw [hold] at hname
      have hlt := (List.getElem?_eq_some_iff.mp (Option.some.inj hname)).1
      exact Nat.lt_of_lt_of_le hlt hnames

end Mapping.Records

/-! ## The mappings of a builder -/

namespace MapBuilder

/-- What a call that is not dropped adds. -/
theorem addMapping_of_ne {b : MapBuilder} {source : Nat} {place : LineColumn}
    {name : Option String} (h : b.mappings.back?.map Mapping.generated ≠ some b.position.place) :
    ∃ e, (b.addMapping source place name).mappings = b.mappings.push e ∧
      e.Records (b.addMapping source place name).names.toList
        ⟨b.position.place, source, place, name⟩ ∧
      b.names.toList <+: (b.addMapping source place name).names.toList ∧
      (b.names.toList.Nodup → (b.addMapping source place name).names.toList.Nodup) := by
  rw [addMapping, if_neg h]
  cases name with
  | none => exact ⟨_, rfl, ⟨none, rfl, rfl⟩, List.prefix_refl _, id⟩
  | some name =>
    obtain ⟨hnames, hindex, -⟩ := b.nameIndex_spec name
    exact ⟨_, rfl, ⟨some _, rfl, congrArg some hindex⟩, hnames, b.nodup_nameIndex name⟩

/-- The mappings that calls add are those of their recordings. They stay in order, and no name comes
to stand twice. -/
theorem foldl_apply_records {b : MapBuilder} (h : b.InOrder) (hnames : b.names.toList.Nodup)
    (calls : List MapCall) :
    (calls.foldl apply b).InOrder ∧ (calls.foldl apply b).names.toList.Nodup ∧
      b.names.toList <+: (calls.foldl apply b).names.toList ∧
      ∃ added, (calls.foldl apply b).mappings.toList = b.mappings.toList ++ added ∧
        List.Forall₂ (Mapping.Records (calls.foldl apply b).names.toList) added
          (recordings b.position (b.mappings.back?.map Mapping.generated) calls) := by
  induction calls generalizing b with
  | nil => exact ⟨h, hnames, List.prefix_refl _, [], (List.append_nil _).symm, .nil⟩
  | cons call calls ih =>
    rw [List.foldl_cons]
    cases call with
    | addSource path content => exact @ih (b.addSource path content).2 ⟨h.sorted, h.upTo⟩ hnames
    | advance text => exact ih (h.advance text) hnames
    | addMapping source place name =>
      have happly : b.apply (.addMapping source place name) = b.addMapping source place name := rfl
      rw [happly, recordings]
      by_cases hlast : b.mappings.back?.map Mapping.generated = some b.position.place
      · have hdropped : b.addMapping source place name = b := if_pos hlast
        rw [if_pos hlast, hdropped]
        exact ih h hnames
      · obtain ⟨e, hmappings, hrecords, hprefix, hnodup⟩ := addMapping_of_ne hlast
        have hposition := b.addMapping_position source place name
        rw [if_neg hlast]
        generalize b.addMapping source place name = b' at *
        have hgenerated : e.generated = b.position.place := by
          obtain ⟨index, rfl, -⟩ := hrecords
          rfl
        obtain ⟨horder, hnodup', hprefix', added, hadded, hmatch⟩ :=
          ih (h.push hmappings hposition hgenerated hlast) (hnodup hnames)
        refine ⟨horder, hnodup', hprefix.trans hprefix', e :: added, ?_, .cons ?_ ?_⟩
        · rw [hadded, hmappings, Array.toList_push, List.append_assoc, List.singleton_append]
        · exact hrecords.mono hprefix'
        · rw [hmappings, Array.back?_push, Option.map_some, hgenerated, hposition] at hmatch
          exact hmatch

end MapBuilder

/-! ## The text, written call by call -/

/-- A map whose mappings are written out as they are added, with the numbers of the last one. -/
structure MapWriter where
  position : OutputPosition
  /-- The numbers of the last mapping. -/
  base : MappingBase
  /-- The line has a mapping already. -/
  inLine : Bool
  /-- The place of the last mapping. -/
  last : Option LineColumn
  names : Array String
  text : List Char

namespace MapWriter

def empty : MapWriter := ⟨.start, .start, false, none, #[], []⟩

/-- Past one character of the output. The end of a line is a semicolon in the text. -/
def step (w : MapWriter) (c : Char) : MapWriter :=
  if c = '\n' && w.position.afterReturn then { w with position := w.position.step c }
  else if isLineTerminator c then
    { w with
      position := w.position.step c
      base := w.base.newLine
      inLine := false
      text := w.text ++ [';'] }
  else { w with position := w.position.step c }

/-- Writes a mapping of the end of the output, after a comma if the line has one already. -/
def write (w : MapWriter) (e : Mapping) : MapWriter :=
  { w with
    base := w.base.after e
    inLine := true
    last := some w.position.place
    text := w.text ++ (if w.inLine then [','] else []) ++ segmentText w.base e }

def apply (w : MapWriter) : MapCall → MapWriter
  | .addSource _ _ => w
  | .advance text => text.toList.foldl step w
  | .addMapping source place name =>
    if w.last = some w.position.place then w
    else
      match name with
      | none => w.write ⟨w.position.place, some ⟨source, place, none⟩⟩
      | some name =>
        match w.names.idxOf? name with
        | some index => w.write ⟨w.position.place, some ⟨source, place, some index⟩⟩
        | none =>
          { w.write ⟨w.position.place, some ⟨source, place, some w.names.size⟩⟩ with
            names := w.names.push name }

/-- What calls write. -/
def ofCalls (calls : List MapCall) : MapWriter := calls.foldl apply .empty

end MapWriter

/-- The numbers of the last of some mappings, of which the first comes after a mapping on a line. -/
def endBase (b : MappingBase) (line : Nat) : List Mapping → MappingBase
  | [] => b
  | e :: rest =>
    endBase ((if e.generated.line - line = 0 then b else b.newLine).after e) e.generated.line rest

/-- The line of the last of some mappings. -/
def endLine (line : Nat) : List Mapping → Nat
  | [] => line
  | e :: rest => endLine e.generated.line rest

/-- Mappings are written one after another, with the numbers of the last one at hand. -/
theorem encodeFrom_append (lastLine : Nat) (b : MappingBase) (line : Nat) (isFirst : Bool)
    (es es' : List Mapping) :
    encodeFrom lastLine b line isFirst (es ++ es') =
      encodeFrom 0 b line isFirst es ++
        encodeFrom lastLine (endBase b line es) (endLine line es) (isFirst && es.isEmpty) es' := by
  induction es generalizing b line isFirst with
  | nil => simp [encodeFrom, endBase, endLine]
  | cons e es ih =>
    rw [List.cons_append, encodeFrom, encodeFrom, ih, endBase, endLine]
    simp only [List.append_assoc, List.isEmpty_cons, Bool.and_false, Bool.false_and]

/-- The text of mappings with those line ends after them up to which an output has come. -/
theorem encodeFrom_eq (lastLine : Nat) (es : List Mapping) :
    encodeFrom lastLine .start 0 true es =
      encodeFrom 0 .start 0 true es ++ List.replicate (lastLine - endLine 0 es) ';' := by
  have happend := encodeFrom_append lastLine .start 0 true es []
  rwa [List.append_nil, encodeFrom] at happend

theorem endLine_concat (line : Nat) (es : List Mapping) (e : Mapping) :
    endLine line (es ++ [e]) = e.generated.line := by
  induction es generalizing line with
  | nil => rfl
  | cons e' es ih => exact ih _

theorem endBase_concat (b : MappingBase) (line : Nat) (es : List Mapping) (e : Mapping) :
    endBase b line (es ++ [e]) =
      (if e.generated.line - endLine line es = 0 then endBase b line es
        else (endBase b line es).newLine).after e := by
  induction es generalizing b line with
  | nil => rfl
  | cons e' es ih => exact ih _ _

/-- The writer has written the mappings of a builder up to the end of the output. -/
structure MapWriter.Follows (w : MapWriter) (b : MapBuilder) : Prop where
  position : w.position = b.position
  names : w.names = b.names
  last : w.last = b.mappings.back?.map Mapping.generated
  reached : endLine 0 b.mappings.toList ≤ b.position.place.line
  base : w.base = if b.position.place.line - endLine 0 b.mappings.toList = 0
    then endBase .start 0 b.mappings.toList else (endBase .start 0 b.mappings.toList).newLine
  inLine : w.inLine = (decide (b.position.place.line - endLine 0 b.mappings.toList = 0) &&
    !b.mappings.toList.isEmpty)
  text : w.text = encodeFrom b.position.place.line .start 0 true b.mappings.toList

namespace MapWriter.Follows

variable {w : MapWriter} {b : MapBuilder}

theorem empty : MapWriter.empty.Follows .empty := ⟨rfl, rfl, rfl, Nat.le_refl 0, rfl, rfl, rfl⟩

/-- The output goes on in the same line. -/
theorem stay (h : w.Follows b) {p : OutputPosition} (hline : p.place.line = b.position.place.line) :
    ({ w with position := p } : MapWriter).Follows { b with position := p } := by
  refine ⟨rfl, h.names, h.last, ?_, ?_, ?_, ?_⟩
  · exact hline ▸ h.reached
  · exact hline ▸ h.base
  · exact hline ▸ h.inLine
  · exact hline ▸ h.text

theorem step (h : w.Follows b) (c : Char) :
    (w.step c).Follows { b with position := b.position.step c } := by
  unfold MapWriter.step
  rw [h.position]
  split
  · rename_i hfeed
    exact h.stay (by rw [OutputPosition.step, if_pos hfeed])
  · rename_i hfeed
    split
    · rename_i hterminator
      have hline : (b.position.step c).place.line = b.position.place.line + 1 := by
        rw [OutputPosition.step, if_neg hfeed, if_pos hterminator]
      have hreached := h.reached
      have hbelow : b.position.place.line + 1 - endLine 0 b.mappings.toList =
          b.position.place.line - endLine 0 b.mappings.toList + 1 := by omega
      refine ⟨rfl, h.names, h.last, ?_, ?_, ?_, ?_⟩
      · dsimp only
        omega
      · dsimp only
        rw [hline, hbelow, if_neg (Nat.succ_ne_zero _), h.base]
        split <;> rfl
      · dsimp only
        rw [hline, hbelow, decide_eq_false (Nat.succ_ne_zero _), Bool.false_and]
      · dsimp only
        rw [hline, encodeFrom_eq, hbelow, List.replicate_succ', ← List.append_assoc,
          ← encodeFrom_eq, h.text]
    · rename_i hterminator
      exact h.stay (by rw [OutputPosition.step, if_neg hfeed, if_neg hterminator])

theorem advance (h : w.Follows b) (text : String) :
    (text.toList.foldl MapWriter.step w).Follows (b.advance text) := by
  unfold MapBuilder.advance OutputPosition.advance
  induction text.toList generalizing w b with
  | nil => exact h
  | cons c cs ih => exact ih (h.step c)

/-- A mapping of the end of the output is written. -/
theorem write (h : w.Follows b) {e : Mapping} (he : e.generated = b.position.place)
    (names : Array String) :
    ({ w.write e with names } : MapWriter).Follows
      { b with names, mappings := b.mappings.push e } := by
  have hline : e.generated.line = b.position.place.line := congrArg LineColumn.line he
  refine ⟨h.position, rfl, ?_, ?_, ?_, ?_, ?_⟩
  · rw [Array.back?_push, Option.map_some, he, ← h.position]
    rfl
  · have hend : endLine 0 (b.mappings.push e).toList = e.generated.line := by
      rw [Array.toList_push, endLine_concat]
    exact Nat.le_of_eq (hend.trans hline)
  · rw [Array.toList_push, endLine_concat, endBase_concat, hline, Nat.sub_self, if_pos rfl,
      ← h.base]
    rfl
  · rw [Array.toList_push, endLine_concat, hline, Nat.sub_self]
    simp [MapWriter.write]
  · have hlast : encodeFrom b.position.place.line
        (endBase .start 0 b.mappings.toList) (endLine 0 b.mappings.toList)
        (true && b.mappings.toList.isEmpty) [e] =
        List.replicate (b.position.place.line - endLine 0 b.mappings.toList) ';' ++
          (if w.inLine then [','] else []) ++ segmentText w.base e := by
      rw [encodeFrom, encodeFrom, hline, Nat.sub_self, List.replicate_zero, List.append_nil,
        h.inLine, h.base]
      unfold segmentText
      by_cases hsame : b.position.place.line - endLine 0 b.mappings.toList = 0
      · cases b.mappings.toList.isEmpty <;> simp [hsame]
      · simp [hsame]
    rw [Array.toList_push, encodeFrom_append, hlast, ← List.append_assoc, ← List.append_assoc,
      ← encodeFrom_eq, ← h.text]
    rfl

theorem apply (h : w.Follows b) (call : MapCall) : (w.apply call).Follows (b.apply call) := by
  cases call with
  | addSource path content =>
    exact ⟨h.position, h.names, h.last, h.reached, h.base, h.inLine, h.text⟩
  | advance text => exact h.advance text
  | addMapping source place name =>
    obtain ⟨position, base, inLine, last, names, text⟩ := w
    obtain rfl : names = b.names := h.names
    obtain rfl : position = b.position := h.position
    change Follows (if last = some b.position.place then _ else _)
      (b.addMapping source place name)
    have hlast : last = b.mappings.back?.map Mapping.generated := h.last
    unfold MapBuilder.addMapping
    rw [hlast]
    split
    · exact hlast ▸ h
    · cases name with
      | none => exact hlast ▸ h.write (e := ⟨b.position.place, some ⟨source, place, none⟩⟩) rfl _
      | some name =>
        unfold MapBuilder.nameIndex
        dsimp only [Option.map_some]
        cases b.names.idxOf? name with
        | some index =>
          exact hlast ▸ h.write (e := ⟨b.position.place, some ⟨source, place, some index⟩⟩) rfl _
        | none =>
          exact hlast ▸ h.write
            (e := ⟨b.position.place, some ⟨source, place, some b.names.size⟩⟩) rfl _

end MapWriter.Follows

/-- What is written call by call is the text of the built map. -/
theorem MapWriter.text_ofCalls (calls : List MapCall) (file : Option String)
    (includeContent : Bool) :
    String.ofList (MapWriter.ofCalls calls).text =
      ((MapBuilder.ofCalls calls).build file includeContent).mappings := by
  have hfollows : ∀ {w : MapWriter} {b : MapBuilder}, w.Follows b →
      (calls.foldl MapWriter.apply w).Follows (calls.foldl MapBuilder.apply b) := by
    induction calls with
    | nil => exact id
    | cons call calls ih => exact fun h => ih (h.apply call)
  exact congrArg String.ofList (hfollows .empty).text

/-! ## Reading -/

/-- **A built map tells what was recorded.** Let calls record numbers of 32 bits, with no more names
than have an index of 32 bits. From the map the mappings of their recordings are read, in the order
of the calls: each with the place of the output, the source and the place in it, and with the index
of the name if there is one. Their places in the output go on, and no name stands twice among the
names. The text of the map is the one that is written call by call. -/
theorem decoded_of_calls (calls : List MapCall) (file : Option String) (includeContent : Bool)
    (hsmall : ∀ r ∈ recordings .start none calls, r.Small)
    (hnames : (MapBuilder.ofCalls calls).names.size ≤ 2 ^ 32) :
    ∃ entries, ((MapBuilder.ofCalls calls).build file includeContent).decoded = some entries ∧
      List.Forall₂
        (Mapping.Records ((MapBuilder.ofCalls calls).build file includeContent).names)
        entries (recordings .start none calls) ∧
      entries.Pairwise (fun e next => e.generated.Before next.generated) ∧
      ((MapBuilder.ofCalls calls).build file includeContent).names.Nodup ∧
      ((MapBuilder.ofCalls calls).build file includeContent).mappings =
        String.ofList (MapWriter.ofCalls calls).text := by
  obtain ⟨horder, hnodup, -, added, hadded, hmatch⟩ :=
    MapBuilder.foldl_apply_records MapBuilder.inOrder_empty .nil calls
  obtain rfl : (MapBuilder.ofCalls calls).mappings.toList = added := hadded
  have hlines : (MapBuilder.ofCalls calls).mappings.toList.Pairwise
      fun x y => x.generated.line ≤ y.generated.line := horder.sorted.imp fun hbefore =>
    hbefore.elim Nat.le_of_lt fun h => Nat.le_of_eq h.1
  refine ⟨_, decodeMappings_encodeMappings _ hlines fun e he => ?_, hmatch, horder.sorted, hnodup,
    (MapWriter.text_ofCalls calls file includeContent).symm⟩
  obtain ⟨r, hr, hrecords⟩ := exists_of_forall₂ hmatch.flip he
  exact Mapping.Records.small hrecords (hsmall r hr) hnames

/-- The calls of a short output: a renamed variable, after which a mapping is dropped, then a line
end. -/
def renamedVariableCalls : List MapCall :=
  [.addSource "/index.js" (some "let é = 1;"), .addMapping 0 ⟨0, 0⟩ none, .advance "let ",
    .addMapping 0 ⟨0, 4⟩ (some "é"), .advance "", .addMapping 0 ⟨0, 5⟩ none,
    .advance "é$1 = '😀';\r", .advance "\n", .addMapping 0 ⟨0, 8⟩ none, .advance "x"]

theorem decoded_of_renamedVariableCalls :
    (∀ r ∈ recordings .start none renamedVariableCalls, r.Small) ∧
      (MapBuilder.ofCalls renamedVariableCalls).names.size ≤ 2 ^ 32 ∧
      ∃ entries,
        ((MapBuilder.ofCalls renamedVariableCalls).build (some "bundle.js") true).decoded =
          some entries ∧
        List.Forall₂
          (Mapping.Records
            ((MapBuilder.ofCalls renamedVariableCalls).build (some "bundle.js") true).names)
          entries (recordings .start none renamedVariableCalls) := by
  have hsmall : ∀ r ∈ recordings .start none renamedVariableCalls, r.Small := by decide +kernel
  have hnames : (MapBuilder.ofCalls renamedVariableCalls).names.size ≤ 2 ^ 32 := by decide +kernel
  obtain ⟨entries, hdecoded, hmatch, -⟩ :=
    decoded_of_calls renamedVariableCalls (some "bundle.js") true hsmall hnames
  exact ⟨hsmall, hnames, entries, hdecoded, hmatch⟩

end ModuleBundler
