import ModuleBundler.CompileError
import ModuleBundler.Diagnostic.Render
import ModuleBundler.Proofs.Emission
import ModuleBundler.Proofs.LineTerminators

/-!
# What diagnostics underline

* `displayColumn_byteLength` : a place in a line is drawn right of all that stands before it;
* `CutLine` : the line that a span begins on, cut where what the span covers of it begins and ends;
* `renderLine_eq` : that line is drawn with carets under what the span covers;
* `renderLineChecked` : drawing by steps that fail where a text is cut elsewhere than at a place of it,
  a difference is negative or bounds are crossed;
* `CompileError.render_underlines` : diagnostics are drawn without failure whatever texts there are,
  and with the text of the failure they underline its span.
-/

namespace ModuleBundler

open Cursor (Leads)

/-! ## Columns -/

section
variable (tabWidth : Nat)

theorem expandTabs_append (a b : List Char) :
    expandTabs tabWidth (a ++ b) = expandTabs tabWidth a ++ expandTabs tabWidth b := by
  simp [expandTabs]

theorem length_expandTabs_cons (c : Char) (cs : List Char) :
    (expandTabs tabWidth (c :: cs)).length =
      displayWidth tabWidth c + (expandTabs tabWidth cs).length := by
  unfold expandTabs displayWidth
  split <;> simp [*]

/-- A place in a line is drawn at the column after all that stands before it. -/
theorem displayColumn_byteLength (lead rest : List Char) :
    displayColumn tabWidth (byteLength lead) (lead ++ rest) =
      (expandTabs tabWidth lead).length := by
  induction lead with
  | nil => cases rest <;> simp [displayColumn, byteLength_nil, expandTabs]
  | cons c lead ih =>
    have := c.utf8Size_pos
    rw [List.cons_append, displayColumn, if_neg (by rw [byteLength_cons]; omega), byteLength_cons,
      Nat.add_sub_cancel_left, ih, length_expandTabs_cons]

end

theorem length_blanks (count : Nat) : (blanks count).length = count := by simp [blanks]

/-! ## The line of a span -/

/-- The line of the text that the span begins on, between `head` and `tail`. Of this line the span
covers `under`: `lead` ends where the span begins and `under` where the span ends, or both end where
the line does. -/
structure CutLine (text : String) (span : Span) (head lead under trail tail : List Char) : Prop where
  whole : text.toList = head ++ (lead ++ (under ++ trail) ++ tail)
  /-- The line begins where the last terminator before the span ends, or with the text. -/
  begins : IsGreatest {start | (start = 0 ∨ LineEndsAt text start) ∧ start ≤ span.start}
    (byteLength head)
  noTerminator : ∀ c ∈ lead ++ (under ++ trail), isLineTerminator c = false
  /-- The line ends with a terminator, or with the text. -/
  ends : ∀ c ∈ tail.head?, isLineTerminator c = true
  spanStart : byteLength (head ++ lead) =
    min span.start (byteLength (head ++ (lead ++ (under ++ trail))))
  spanStop : byteLength (head ++ (lead ++ under)) =
    min span.stop (byteLength (head ++ (lead ++ (under ++ trail))))

/-- Where two texts begin the same text, the second is cut where the first ends, or at its own end if
that comes first. -/
theorem exists_prefix {own after line tail : List Char} (h : own ++ after = line ++ tail) :
    ∃ lead trail, line = lead ++ trail ∧ byteLength lead = min (byteLength own) (byteLength line) := by
  rcases List.append_eq_append_iff.mp h with ⟨trail, rfl, -⟩ | ⟨more, rfl, -⟩
  · refine ⟨own, trail, rfl, ?_⟩
    rw [byteLength_append]
    omega
  · refine ⟨line, [], (List.append_nil line).symm, ?_⟩
    rw [byteLength_append]
    omega

/-- The same with two cuts. -/
theorem exists_cut {own covered after line tail : List Char}
    (h : own ++ (covered ++ after) = line ++ tail) :
    ∃ lead under trail, line = lead ++ (under ++ trail) ∧
      byteLength lead = min (byteLength own) (byteLength line) ∧
      byteLength (lead ++ under) = min (byteLength (own ++ covered)) (byteLength line) := by
  rcases List.append_eq_append_iff.mp h with ⟨rest, rfl, hrest⟩ | ⟨more, rfl, -⟩
  · obtain ⟨under, trail, rfl, hunder⟩ := exists_prefix hrest
    simp only [byteLength_append] at hunder
    refine ⟨own, under, trail, rfl, ?_, ?_⟩
    · simp only [byteLength_append]
      omega
    · simp only [byteLength_append]
      omega
  · refine ⟨line, [], [], by simp, ?_, ?_⟩
    · simp only [byteLength_append]
      omega
    · simp only [byteLength_append, byteLength_nil]
      omega

/-- A text begins with one line, which may have no terminator. -/
theorem exists_line (cs : List Char) : ∃ line tail, cs = line ++ tail ∧
    (∀ c ∈ line, isLineTerminator c = false) ∧ ∀ c ∈ tail.head?, isLineTerminator c = true := by
  refine ⟨cs.takeWhile fun c => !isLineTerminator c, cs.dropWhile fun c => !isLineTerminator c,
    List.takeWhile_append_dropWhile.symm, fun c hc => ?_, fun c hc => ?_⟩
  · simpa using List.all_eq_true.mp List.all_takeWhile c hc
  · have hfails := List.head?_dropWhile_not (fun c => !isLineTerminator c) cs
    rw [Option.mem_def.mp hc] at hfails
    simpa using hfails

/-- Every span between places of a text begins on a line of it. -/
theorem exists_cutLine {text : String} {span : Span} (hstart : IsPlace text span.start)
    (hstop : IsPlace text span.stop) (hle : span.start ≤ span.stop) :
    ∃ head lead under trail tail, CutLine text span head lead under trail tail := by
  obtain ⟨head, own, rest, htext, hplace, -, hhead, -⟩ := LineIndex.exists_place text span.start
  have hbegins := LineIndex.isGreatest_lineStart text span.start
  rw [← hhead] at hbegins
  -- A place is the last one at or before itself.
  have hown : byteLength (head ++ own) = span.start :=
    hplace.unique ⟨⟨hstart, Nat.le_refl _⟩, fun _ hother => hother.2⟩
  obtain ⟨covered, after, rfl, hcovered⟩ : ∃ covered after, rest = covered ++ after ∧
      byteLength (head ++ (own ++ covered)) = span.stop := by
    obtain ⟨stop, hleads, hoffset⟩ := hstop
    have hfirst : (Cursor.ofString text).Leads ⟨span.start, rest⟩ :=
      ⟨head ++ own, htext.trans (List.append_assoc ..).symm, hown ▸ (Nat.zero_add _).symm⟩
    obtain ⟨covered, hrest, hstop⟩ := hfirst.total hleads (hoffset ▸ hle)
    refine ⟨covered, stop.rest, hrest, ?_⟩
    rw [← List.append_assoc, byteLength_append, hown, ← hoffset, hstop]
  obtain ⟨line, tail, hrest, hnone, hends⟩ := exists_line (own ++ (covered ++ after))
  obtain ⟨lead, under, trail, rfl, hlead, hunder⟩ := exists_cut hrest
  refine ⟨head, lead, under, trail, tail, ⟨hrest ▸ htext, hbegins, hnone, hends, ?_, ?_⟩⟩
  · simp only [byteLength_append] at hown hlead ⊢
    omega
  · simp only [byteLength_append] at hcovered hunder ⊢
    omega

/-! ## Drawing a line -/

section
variable (options : RenderOptions)

/-- What is drawn left of `under`, after `lead`. -/
def leftOfText (label : String) (lead : List Char) : String :=
  label ++ " | " ++ expandTabs options.tabWidth lead

/-- What is drawn left of the carets below. -/
def leftOfCarets (label : String) (lead : List Char) : String :=
  blanks label.length ++ " | " ++ blanks (expandTabs options.tabWidth lead).length

/-- The carets begin in the column that the text above them begins in. -/
theorem length_leftOfCarets (label : String) (lead : List Char) :
    (leftOfCarets options label lead).length = (leftOfText options label lead).length := by
  simp [leftOfCarets, leftOfText, length_blanks]

/-- A line with its label, an empty row above it, and below it carets under `under`: one for each
column, and one if there is none. -/
def underlined (label : String) (lead under trail : List Char) : String :=
  let columns := (expandTabs options.tabWidth under).length
  let carets := String.ofList (List.replicate (max columns 1) '^')
  blanks label.length ++ " |\n" ++
    (leftOfText options label lead ++ expandTabs options.tabWidth under ++
      expandTabs options.tabWidth trail ++ "\n") ++
    (leftOfCarets options label lead ++ options.highlight carets ++ "\n")

variable {options} {text : String} {span : Span} {head lead under trail tail : List Char}

/-- The line is the one that is drawn. -/
theorem CutLine.lineFrom_eq (h : CutLine text span head lead under trail tail) :
    lineFrom text (byteLength head) = lead ++ (under ++ trail) := by
  have hleads : (Cursor.ofString text).Leads
      ⟨byteLength head, lead ++ (under ++ trail) ++ tail⟩ :=
    ⟨head, h.whole, (Nat.zero_add _).symm⟩
  have htail : tail.takeWhile (fun c => !isLineTerminator c) = [] := by
    cases htail : tail with
    | nil => rfl
    | cons c rest => exact List.takeWhile_cons_of_neg (by simp [h.ends c (by simp [htail])])
  have hline : ∀ c ∈ lead ++ (under ++ trail), (!isLineTerminator c) = true := fun c hc => by
    rw [h.noTerminator c hc, Bool.not_false]
  rw [lineFrom, Cursor.advanceTo_eq hleads, List.takeWhile_append_of_pos hline, htail,
    List.append_nil]

/-- **The line of a span is drawn with carets under what the span covers of it.** -/
theorem renderLine_eq (h : CutLine text span head lead under trail tail) :
    renderLine options text (Position.ofOffset text span.start) span =
      underlined options (toString (Position.ofOffset text span.start).line) lead under trail := by
  have hstart : (LineIndex.ofString text).lineStart
      ((Position.ofOffset text span.start).line - 1) = byteLength head :=
    (LineIndex.isGreatest_lineStart text span.start).unique h.begins
  have hspanStart := h.spanStart
  have hspanStop := h.spanStop
  have hbegins := h.begins.1.2
  simp only [byteLength_append] at hspanStart hspanStop
  -- Between its bounds the span is what it covers of the line.
  have hfirst : min (max span.start (byteLength head))
      (byteLength head + byteLength (lead ++ (under ++ trail))) =
        byteLength head + byteLength lead := by
    simp only [byteLength_append]
    omega
  have hlast : min (max span.stop (byteLength head + byteLength lead))
      (byteLength head + byteLength (lead ++ (under ++ trail))) =
        byteLength head + byteLength (lead ++ under) := by
    simp only [byteLength_append]
    omega
  have hlead := displayColumn_byteLength options.tabWidth lead (under ++ trail)
  have hunder := displayColumn_byteLength options.tabWidth (lead ++ under) trail
  rw [List.append_assoc, expandTabs_append, String.length_append] at hunder
  unfold renderLine
  dsimp only
  rw [hstart, h.lineFrom_eq, hfirst, hlast, Nat.add_sub_cancel_left, Nat.add_sub_cancel_left, hlead,
    hunder, Nat.add_sub_cancel_left, expandTabs_append, expandTabs_append]
  simp only [underlined, leftOfText, leftOfCarets, String.append_assoc]

end

/-! ## Drawing that can fail -/

/-- The difference of two numbers, which must not be negative. -/
def checkedSub (a b : Nat) : Except CompileError Nat :=
  if b ≤ a then .ok (a - b) else .error (.internal .outOfRange)

/-- The number between two bounds that is nearest to another one. The bounds must not be crossed. -/
def checkedClamp (n low high : Nat) : Except CompileError Nat :=
  if low ≤ high then .ok (min (max n low) high) else .error (.internal .outOfRange)

theorem checkedSub_eq {a b : Nat} (h : b ≤ a) : checkedSub a b = .ok (a - b) := if_pos h

theorem checkedClamp_eq {n low high : Nat} (h : low ≤ high) :
    checkedClamp n low high = .ok (min (max n low) high) := if_pos h

section
variable (options : RenderOptions) (text : String) (position : Position) (span : Span)

/-- A line as it is drawn, by steps that can fail. -/
def renderLineChecked : Except CompileError String := do
  let line ← checkedSub position.line 1
  let start := (LineIndex.ofString text).lineStart line
  let (_, place) ← (Cursor.ofString text).split start
  let stop := start + byteLength (place.rest.takeWhile fun c => !isLineTerminator c)
  let (shown, _) ← place.split stop
  let first ← checkedClamp span.start start stop
  let last ← checkedClamp span.stop first stop
  let fromStart ← checkedSub first start
  let fromStop ← checkedSub last start
  let number := toString (line + 1)
  let gutter := blanks number.length
  let startColumn := displayColumn options.tabWidth fromStart shown.toList
  let stopColumn := displayColumn options.tabWidth fromStop shown.toList
  let carets := String.ofList (List.replicate (max (stopColumn - startColumn) 1) '^')
  pure (gutter ++ " |\n" ++
    number ++ " | " ++ expandTabs options.tabWidth shown.toList ++ "\n" ++
    gutter ++ " | " ++ blanks startColumn ++ options.highlight carets ++ "\n")

/-- Lines are counted from one. Then no step fails, whatever text it is. -/
theorem renderLineChecked_eq (hline : 1 ≤ position.line) :
    renderLineChecked options text position span = .ok (renderLine options text position span) := by
  obtain ⟨place, hplace, hoffset⟩ := LineIndex.isPlace_lineStart text (position.line - 1)
  obtain ⟨shown, tail, htake, hrest⟩ : ∃ shown tail,
      (place.rest.takeWhile fun c => !isLineTerminator c) = shown ∧ place.rest = shown ++ tail :=
    ⟨_, _, rfl, List.takeWhile_append_dropWhile.symm⟩
  have hfrom : lineFrom text place.offset = shown := by
    rw [lineFrom, Cursor.advanceTo_eq hplace, htake]
  have hend : place.Leads ⟨place.offset + byteLength shown, tail⟩ := ⟨shown, hrest, rfl⟩
  have hshown : place.upTo (place.offset + byteLength shown) = shown :=
    @Cursor.upTo_eq place ⟨place.offset + byteLength shown, tail⟩ shown hrest rfl
  unfold renderLineChecked renderLine
  -- The text is cut at both ends of the line, and then the span between them.
  simp only [checkedSub_eq hline, ← hoffset, hfrom, Cursor.split_eq hplace, htake,
    Cursor.split_eq hend, bind, Except.bind, Cursor.textUpTo, hshown, String.toList_ofList,
    Nat.sub_add_cancel hline]
  simp (disch := omega) only [checkedSub_eq, checkedClamp_eq]
  rfl

end

/-! ## Diagnostics -/

namespace Diagnostic
variable (options : RenderOptions) (d : Diagnostic)

/-- What a diagnostic begins with. -/
def headline : String :=
  options.highlight "error" ++ "[" ++ d.code ++ "]: " ++ d.message ++ "\n"

/-- What stands above the line that is drawn. -/
def heading (id : ModuleId) (position : Position) : String :=
  d.headline options ++ " --> " ++ id.text ++ ":" ++ toString position.line ++ ":" ++
    toString (position.column + 1) ++ "\n"

/-- A diagnostic as it is drawn, by steps that can fail. -/
def renderChecked (sourceOf : ModuleId → Option String) : Except CompileError String :=
  match d.module with
  | none => pure (d.headline options)
  | some id =>
    match d.position, d.span with
    | some position, some span =>
      match sourceOf id with
      | some text => do
        let drawn ← renderLineChecked options text position span
        pure (d.heading options id position ++ drawn)
      | none => pure (d.heading options id position ++ "  | (source unavailable)\n")
    | _, _ => pure (d.headline options ++ " --> " ++ id.text ++ "\n")

/-- What is drawn of a diagnostic with the text that its place is in. -/
theorem render_eq {sourceOf : ModuleId → Option String} {id : ModuleId} {position : Position}
    {span : Span} {text : String} (hmodule : d.module = some id) (hposition : d.position = some position)
    (hspan : d.span = some span) (hsource : sourceOf id = some text) :
    d.render options sourceOf =
      d.heading options id position ++ renderLine options text position span := by
  simp only [render, hmodule, hposition, hspan, hsource]
  rfl

end Diagnostic

/-- No step of drawing fails, whatever texts the modules have. -/
theorem CompileError.renderChecked_eq (options : RenderOptions) (e : CompileError)
    (sourceOf : ModuleId → Option String) :
    e.diagnostic.renderChecked options sourceOf = .ok (e.diagnostic.render options sourceOf) := by
  obtain ⟨cause, module?, place?⟩ := e
  cases module? with
  | none => rfl
  | some id =>
    cases place? with
    | none => rfl
    | some place =>
      unfold Diagnostic.renderChecked Diagnostic.render CompileError.diagnostic
      dsimp only [Option.map_some]
      cases sourceOf id with
      | none => rfl
      | some text =>
        have hline : 1 ≤ (Position.ofOffset place.source place.span.start).line := Nat.le_add_left 1 _
        dsimp only
        rw [renderLineChecked_eq _ _ _ _ hline]
        rfl

/-- **Diagnostics underline the span of the failure.** Whatever text a module is given, no step of
drawing fails. If it is the text that the failure is located in, the line is drawn that the span begins
on, with carets under what the span covers of it. -/
theorem CompileError.render_underlines (options : RenderOptions) :
    (∀ (e : CompileError) sourceOf,
      e.diagnostic.renderChecked options sourceOf = .ok (e.diagnostic.render options sourceOf)) ∧
    ∀ (cause : Cause) (id : ModuleId) (text : String) (span : Span), IsPlace text span.start →
      IsPlace text span.stop → span.start ≤ span.stop → ∀ sourceOf, sourceOf id = some text →
      ∃ head lead under trail tail, CutLine text span head lead under trail tail ∧
        let d := CompileError.diagnostic ⟨cause, some id, some ⟨text, span⟩⟩
        let position := Position.ofOffset text span.start
        let label := toString position.line
        d.render options sourceOf =
          d.heading options id position ++ underlined options label lead under trail ∧
        (leftOfCarets options label lead).length = (leftOfText options label lead).length := by
  refine ⟨renderChecked_eq options, fun cause id text span hstart hstop hle sourceOf hsource => ?_⟩
  obtain ⟨head, lead, under, trail, tail, h⟩ := exists_cutLine hstart hstop hle
  refine ⟨head, lead, under, trail, tail, h, ?_, length_leftOfCarets ..⟩
  rw [← renderLine_eq h]
  exact Diagnostic.render_eq options _ rfl rfl rfl hsource

/-- A span that begins after a tab and ends on the next line. -/
theorem CompileError.render_underlines_lines :
    let text := "ok\n\tcafé(x)\r\nend"
    let span : Span := ⟨7, 16⟩
    let d := CompileError.diagnostic ⟨.cancelled, some (.file "/a.js"), some ⟨text, span⟩⟩
    (IsPlace text span.start ∧ IsPlace text span.stop ∧ span.start ≤ span.stop) ∧
    (∃ head lead under trail tail, CutLine text span head lead under trail tail ∧
      d.render ⟨true, 4⟩ (fun _ => some text) =
        d.heading ⟨true, 4⟩ (.file "/a.js") ⟨2, 4⟩ ++
          underlined ⟨true, 4⟩ "2" lead under trail ∧
      (leftOfCarets ⟨true, 4⟩ "2" lead).length = (leftOfText ⟨true, 4⟩ "2" lead).length) ∧
    d.render ⟨true, 4⟩ (fun _ => some text) =
      "\x1b[1;31merror\x1b[0m[BJ0900]: compilation was cancelled\n --> /a.js:2:5\n" ++
        "  |\n2 |     café(x)\n  |        \x1b[1;31m^^^^\x1b[0m\n" := by
  intro text span d
  have hstart : IsPlace text span.start :=
    isPlace_iff.mpr ⟨"ok\n\tcaf".toList, "é(x)\r\nend".toList, by decide, by decide⟩
  have hstop : IsPlace text span.stop :=
    isPlace_iff.mpr ⟨"ok\n\tcafé(x)\r\nen".toList, "d".toList, by decide, by decide⟩
  have hposition : Position.ofOffset text span.start = ⟨2, 4⟩ := by decide +kernel
  have hunderlines := (CompileError.render_underlines ⟨true, 4⟩).2 .cancelled (.file "/a.js") text
    span hstart hstop (by decide) (fun _ => some text) rfl
  rw [hposition] at hunderlines
  exact ⟨⟨hstart, hstop, by decide⟩, hunderlines, by decide +kernel⟩

end ModuleBundler
