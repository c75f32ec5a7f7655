import ModuleBundler.Proofs.LineCounts
import ModuleBundler.Proofs.TokenChain

/-!
# Between tokens

* `Gap`, `GapAt` : what may stand between tokens: blanks, line ends and comments, and at the very
  start of a text a line that begins with `#!`;
* `exists_skipped`, `Cursor.exists_gapAt` : what is skipped before a token is such a gap, and a line
  break is noticed if it has one;
* `tokensRead` : the tokens that are read one after the other, each in a mode of its own;
* `StandsAfter` : how a token stands in its text after what was read before it;
* `tokensRead_lose_nothing` : the tokens and the gaps between them are the whole text.
-/

namespace ModuleBundler

open Cursor (Leads)
open TokenStream (readAt)

/-! ## Gaps -/

/-- The text is over or goes on with the end of a line. -/
def AtLineEnd (cs : List Char) : Prop := ∀ c, cs.head? = some c → isLineTerminator c = true

/-- No line ends in the text. -/
def OnOneLine (cs : List Char) : Prop := ∀ c ∈ cs, isLineTerminator c = false

/-- No comment is closed in the text. -/
def ClosesNothing (cs : List Char) : Prop := ¬ ['*', '/'] <:+: cs

/-- What may stand between two tokens, where `rest` follows: blanks, line ends, comments up to the
end of a line, and comments up to the first `*/` or, if there is none, to the end of the text. -/
inductive Gap (rest : List Char) : List Char → Prop where
  | none : Gap rest []
  | blank {c : Char} {gap : List Char}
      (separates : isWhitespace c = true ∨ isLineTerminator c = true) (others : Gap rest gap) :
      Gap rest (c :: gap)
  | lineComment {body gap : List Char} (onOneLine : OnOneLine body)
      (ends : AtLineEnd (gap ++ rest)) (others : Gap rest gap) :
      Gap rest ('/' :: '/' :: (body ++ gap))
  | blockComment {body gap : List Char} (closesNothing : ClosesNothing body)
      (others : Gap rest gap) : Gap rest ('/' :: '*' :: (body ++ '*' :: '/' :: gap))
  | unclosed {body : List Char} (closesNothing : ClosesNothing body) (atEnd : rest = []) :
      Gap rest ('/' :: '*' :: body)

/-- What may stand before a token from an offset on. A text may begin with a line of its own that
begins with `#!`. -/
inductive GapAt (offset : Nat) (rest : List Char) : List Char → Prop where
  | plain {gap : List Char} (isGap : Gap rest gap) : GapAt offset rest gap
  | hashbang {body gap : List Char} (start : offset = 0) (onOneLine : OnOneLine body)
      (ends : AtLineEnd (gap ++ rest)) (others : Gap rest gap) :
      GapAt offset rest ('#' :: '!' :: (body ++ gap))

/-! ## What is skipped -/

/-- What is passed from inside a gap on: first the rest of the comment that was begun. -/
def Trivia.Passes (passed rest : List Char) : Trivia → Prop
  | blank => Gap rest passed
  | lineComment => ∃ body gap, passed = body ++ gap ∧ OnOneLine body ∧ AtLineEnd (gap ++ rest) ∧
      Gap rest gap
  | blockComment => ∃ body, ClosesNothing body ∧
      ((∃ gap, passed = body ++ '*' :: '/' :: gap ∧ Gap rest gap) ∨ (passed = body ∧ rest = []))

theorem onOneLine_nil : OnOneLine [] := List.forall_mem_nil _

theorem atLineEnd_nil : AtLineEnd [] := by
  intro c hc
  cases hc

theorem closesNothing_nil : ClosesNothing [] := by
  intro h
  simp at h

/-- A comment is not closed by a character that does not do so together with the next one. -/
theorem Trivia.Passes.cons {c : Char} {passed rest : List Char}
    (h : blockComment.Passes passed rest) (hc : c = '*' → (passed ++ rest).head? ≠ some '/') :
    blockComment.Passes (c :: passed) rest := by
  obtain ⟨body, hbody, hpassed⟩ := h
  refine ⟨c :: body, ?_, ?_⟩
  · intro hinfix
    rcases List.infix_cons_iff.mp hinfix with ⟨others, hothers⟩ | hlater
    · simp only [List.cons_append, List.nil_append, List.cons.injEq] at hothers
      obtain ⟨rfl, rfl⟩ := hothers
      refine hc rfl ?_
      rcases hpassed with ⟨gap, rfl, -⟩ | ⟨rfl, -⟩
      · rfl
      · rfl
    · exact hbody hlater
  · rcases hpassed with ⟨gap, rfl, hgap⟩ | ⟨rfl, hover⟩
    · exact .inl ⟨gap, rfl, hgap⟩
    · exact .inr ⟨rfl, hover⟩

/-- No gap begins here. -/
structure AtToken (cs : List Char) : Prop where
  head : ∀ c, cs.head? = some c → isWhitespace c = false ∧ isLineTerminator c = false
  comment : ∀ rest, cs ≠ '/' :: '/' :: rest ∧ cs ≠ '/' :: '*' :: rest

theorem atToken_nil : AtToken [] := by
  refine ⟨fun c hc => ?_, fun rest => ⟨?_, ?_⟩⟩
  · cases hc
  · exact (List.cons_ne_nil _ _).symm
  · exact (List.cons_ne_nil _ _).symm

theorem AtToken.gap_eq_nil {cs gap rest : List Char} (h : AtToken cs) (hcs : cs = gap ++ rest)
    (hgap : Gap rest gap) : gap = [] := by
  subst hcs
  cases hgap with
  | none => rfl
  | @blank c gap separates others =>
    obtain ⟨hwhitespace, hterminator⟩ := h.head c rfl
    simp [hwhitespace, hterminator] at separates
  | lineComment => exact absurd rfl (h.comment _).1
  | blockComment => exact absurd rfl (h.comment _).2
  | unclosed => exact absurd rfl (h.comment _).2

/-- Skipping from inside a gap on passed a text, and noticed whether a line ends in it. -/
structure Skipped (state : Trivia) (lineBreak : Bool) (place : Cursor) (passed : List Char)
    (result : Bool × Cursor) : Prop where
  text : place.rest = passed ++ result.2.rest
  offset : result.2.offset = place.offset + byteLength passed
  lineBreak : result.1 = (lineBreak || passed.any isLineTerminator)
  passes : state.Passes passed result.2.rest
  stops : AtToken result.2.rest

/-- Some characters are passed before the rest. -/
theorem Skipped.after {state state' : Trivia} {lineBreak lineBreak' : Bool} {place : Cursor}
    {passed : List Char} {result : Bool × Cursor}
    (h : Skipped state' lineBreak' place passed result) (front : List Char) {offset : Nat}
    (hoffset : place.offset = offset + byteLength front)
    (hlineBreak : lineBreak' = (lineBreak || front.any isLineTerminator))
    (hpasses : state'.Passes passed result.2.rest → state.Passes (front ++ passed) result.2.rest) :
    Skipped state lineBreak ⟨offset, front ++ place.rest⟩ (front ++ passed) result where
  text := by rw [h.text, List.append_assoc]
  offset := by
    rw [h.offset, hoffset, byteLength_append, Nat.add_assoc]
  lineBreak := by rw [h.lineBreak, hlineBreak, List.any_append, Bool.or_assoc]
  passes := hpasses h.passes
  stops := h.stops

/-- Nothing is passed. -/
theorem Skipped.nothing {state : Trivia} (lineBreak : Bool) (place : Cursor)
    (h : state.Passes [] place.rest) (hstops : AtToken place.rest) :
    Skipped state lineBreak place [] (lineBreak, place) where
  text := rfl
  offset := rfl
  lineBreak := (Bool.or_false _).symm
  passes := h
  stops := hstops

/-- Skipping goes past a gap, or to the end of the gap that was begun. It notices the line ends. -/
theorem exists_skipped (state : Trivia) (lineBreak : Bool) (offset : Nat) (cs : List Char) :
    ∃ passed, Skipped state lineBreak ⟨offset, cs⟩ passed
      (skipTrivia state lineBreak offset cs) := by
  fun_induction skipTrivia state lineBreak offset cs with
  | case1 lineBreak offset rest ih =>
    obtain ⟨passed, h⟩ := ih
    refine ⟨_, h.after ['/', '*'] rfl (by simp [isLineTerminator]) ?_⟩
    rintro ⟨body, hbody, ⟨gap, rfl, hgap⟩ | ⟨rfl, hover⟩⟩
    · exact .blockComment hbody hgap
    · exact .unclosed hbody hover
  | case2 lineBreak offset rest ih =>
    obtain ⟨passed, h⟩ := ih
    refine ⟨_, h.after ['/', '/'] rfl (by simp [isLineTerminator]) ?_⟩
    rintro ⟨body, gap, rfl, hbody, hends, hgap⟩
    change Gap _ ('/' :: '/' :: (body ++ gap))
    exact .lineComment hbody hends hgap
  | case3 lineBreak offset rest ih =>
    obtain ⟨passed, h⟩ := ih
    refine ⟨_, h.after ['*', '/'] rfl (by simp [isLineTerminator]) fun hgap => ?_⟩
    exact ⟨[], closesNothing_nil, .inl ⟨passed, rfl, hgap⟩⟩
  | case4 state lineBreak offset =>
    refine ⟨[], .nothing lineBreak ⟨offset, []⟩ ?_ atToken_nil⟩
    cases state with
    | blank => exact .none
    | lineComment => exact ⟨[], [], rfl, onOneLine_nil, atLineEnd_nil, .none⟩
    | blockComment => exact ⟨[], closesNothing_nil, .inr ⟨rfl, rfl⟩⟩
  | case5 state lineBreak offset c rest _ _ _ hterminator ih =>
    obtain ⟨passed, h⟩ := ih
    refine ⟨_, h.after [c] rfl (by simp [hterminator]) fun hpasses => ?_⟩
    cases state with
    | blank => exact .blank (.inr hterminator) hpasses
    | lineComment =>
      refine ⟨[], [c] ++ passed, rfl, onOneLine_nil, ?_, .blank (.inr hterminator) hpasses⟩
      rintro d hd
      cases hd
      exact hterminator
    | blockComment =>
      refine hpasses.cons ?_
      rintro rfl
      cases hterminator
  | case6 lineBreak offset c rest hterminator hwhitespace _ _ _ ih =>
    obtain ⟨passed, h⟩ := ih
    exact ⟨_, h.after [c] rfl (by simp [hterminator]) (.blank (.inl hwhitespace))⟩
  | case7 lineBreak offset c rest hterminator hwhitespace hblock hline _ =>
    refine ⟨[], .nothing lineBreak ⟨offset, c :: rest⟩ .none ⟨?_, fun others => ⟨?_, ?_⟩⟩⟩
    · rintro d hd
      cases hd
      exact ⟨by simpa using hwhitespace, by simpa using hterminator⟩
    · intro heq
      obtain ⟨rfl, rfl⟩ := List.cons.inj heq
      exact hline others rfl rfl rfl
    · intro heq
      obtain ⟨rfl, rfl⟩ := List.cons.inj heq
      exact hblock others rfl rfl rfl
  | case8 lineBreak offset c rest hterminator _ _ _ ih =>
    obtain ⟨passed, h⟩ := ih
    refine ⟨_, h.after [c] rfl (by simp [hterminator]) ?_⟩
    rintro ⟨body, gap, rfl, hbody, hends, hgap⟩
    refine ⟨c :: body, gap, rfl, ?_, hends, hgap⟩
    exact List.forall_mem_cons.mpr ⟨by simpa using hterminator, hbody⟩
  | case9 lineBreak offset c rest hterminator _ _ hopen ih =>
    obtain ⟨passed, h⟩ := ih
    refine ⟨_, h.after [c] rfl (by simp [hterminator]) fun hpasses => ?_⟩
    refine hpasses.cons fun hc hhead => ?_
    rw [← h.text] at hhead
    obtain ⟨others, hrest⟩ := List.head?_eq_some_iff.mp hhead
    exact hopen others rfl hc hrest

/-- What is skipped before a token is a gap. -/
theorem Cursor.exists_gapAt (place : Cursor) : ∃ gap,
    place.rest = gap ++ place.tokenStart.rest ∧
      place.tokenStart.offset = place.offset + byteLength gap ∧
      place.skipTrivia.1 = gap.any isLineTerminator ∧
      GapAt place.offset place.tokenStart.rest gap ∧ AtToken place.tokenStart.rest := by
  obtain ⟨offset, rest⟩ := place
  unfold Cursor.tokenStart Cursor.skipTrivia
  dsimp only
  split
  · rename_i rest
    have hstep : ModuleBundler.skipTrivia .lineComment false 0 ('#' :: '!' :: rest) =
        ModuleBundler.skipTrivia .lineComment false 2 rest := rfl
    rw [hstep]
    obtain ⟨passed, h⟩ := exists_skipped .lineComment false 2 rest
    refine ⟨'#' :: '!' :: passed, congrArg ('#' :: '!' :: ·) h.text, ?_, ?_, ?_, h.stops⟩
    · have hsize : '#'.utf8Size = 1 ∧ '!'.utf8Size = 1 := by decide
      rw [h.offset, byteLength_cons, byteLength_cons, hsize.1, hsize.2]
      dsimp only
      omega
    · simpa [isLineTerminator] using h.lineBreak
    · obtain ⟨body, gap, rfl, hbody, hends, hgap⟩ := h.passes
      exact .hashbang rfl hbody hends hgap
  · obtain ⟨gap, h⟩ := exists_skipped .blank false offset rest
    exact ⟨gap, h.text, h.offset, by simpa using h.lineBreak, .plain h.passes, h.stops⟩

/-! ## Tokens in a row -/

/-- The tokens that are read from a place on, one after the other, each in a mode of its own. -/
def tokensRead : Cursor → List LexMode → List BufferedToken
  | _, [] => []
  | place, mode :: modes => readAt mode place :: tokensRead (readAt mode place).after modes

/-- How a token stands in a text, after a place of it and a gap. -/
structure StandsAfter (source : String) (place : Cursor) (gap : List Char) (b : BufferedToken) :
    Prop where
  /-- The gap, the token and what follows it are the text from the place on. -/
  text : place.rest = gap ++ (b.token.text.toList ++ b.after.rest)
  start : b.token.span.start = place.offset + byteLength gap
  stop : b.token.span.stop = b.token.span.start + byteLength b.token.text.toList
  /-- Reading goes on where the token ends, between two characters of the source. -/
  after : b.after.offset = b.token.span.stop
  inside : (Cursor.ofString source).Leads b.after
  template : b.mode = .templateContinue → gap = []
  isGap : b.mode ≠ .templateContinue →
    GapAt place.offset (b.token.text.toList ++ b.after.rest) gap
  /-- No more could be skipped. -/
  longest : b.mode ≠ .templateContinue → ∀ more rest,
    b.token.text.toList ++ b.after.rest = more ++ rest → Gap rest more → more = []
  lineBreak : b.mode ≠ .templateContinue →
    (b.token.afterLineBreak = true ↔ ∃ c ∈ gap, isLineTerminator c = true)
  /-- A line break is one between the lines of the text. -/
  line : b.mode ≠ .templateContinue →
    (b.token.afterLineBreak = true ↔
      ((LineIndex.ofString source).place place.offset).line <
        ((LineIndex.ofString source).place b.token.span.start).line)
  eof : b.token.type = .eof → b.token.span = .point source.utf8ByteSize

/-- Each token stands after the one before it, the first one after a place. -/
def StandInRow (source : String) : Cursor → List BufferedToken → Prop
  | _, [] => True
  | place, b :: rest => (∃ gap, StandsAfter source place gap b) ∧ StandInRow source b.after rest

/-- The text of a token is that between where it begins and where reading goes on. -/
theorem nextToken_text (mode : LexMode) (place : Cursor) :
    (place.tokenStartIn mode).rest =
        (nextToken mode place).1.text.toList ++ (nextToken mode place).2.rest ∧
      (nextToken mode place).2.offset = (place.tokenStartIn mode).offset +
        byteLength (nextToken mode place).1.text.toList := by
  have htext : (nextToken mode place).1.text =
      (place.tokenStartIn mode).textUpTo (nextToken mode place).2.offset := by
    cases mode with
    | templateContinue | slashIsRegex | standard => rfl
  obtain ⟨passed, hrest, hoffset⟩ := (nextToken_span mode place).1
  have hpassed : (nextToken mode place).1.text.toList = passed := by
    rw [htext, Cursor.textUpTo, String.toList_ofList, Cursor.upTo_eq hrest hoffset]
  rw [hpassed]
  exact ⟨hrest, hoffset⟩

/-- The end of a text is a token at its end only. -/
theorem span_of_eof {source : String} {place : Cursor}
    (hplace : (Cursor.ofString source).Leads place) {mode : LexMode}
    (h : (nextToken mode place).1.type = .eof) :
    (nextToken mode place).1.span = .point source.utf8ByteSize := by
  obtain ⟨htext, hoffset⟩ := nextToken_text mode place
  obtain ⟨passed, hrest, hstart⟩ := hplace.trans (leads_tokenStartIn mode place)
  have hover : (place.tokenStartIn mode).rest = [] := nextToken_eof h
  rw [hover] at htext hrest
  obtain ⟨hnone, -⟩ := List.append_eq_nil_iff.mp htext.symm
  rw [hnone, byteLength_nil, Nat.add_zero] at hoffset
  rw [List.append_nil] at hrest
  have hsize : (place.tokenStartIn mode).offset = source.utf8ByteSize := by
    rw [hstart, ← hrest, utf8ByteSize_eq]
    exact Nat.zero_add _
  rw [(nextToken_span mode place).2, hoffset, hsize]
  rfl

/-- The next token from a place of a text stands after it. -/
theorem exists_standsAfter {source : String} {place : Cursor}
    (hplace : (Cursor.ofString source).Leads place) (mode : LexMode) :
    ∃ gap, StandsAfter source place gap (readAt mode place) := by
  obtain ⟨htext, hoffset⟩ := nextToken_text mode place
  have hspan := (nextToken_span mode place).2
  have hstop : (nextToken mode place).1.span.stop = (nextToken mode place).1.span.start +
      byteLength (nextToken mode place).1.text.toList := by rw [hspan, hoffset]
  have hafter : (nextToken mode place).2.offset = (nextToken mode place).1.span.stop := by
    rw [hspan]
  have hinside := hplace.trans (leads_nextToken mode place)
  by_cases hmode : mode = .templateContinue
  · have hstart : place.tokenStartIn mode = place := if_pos hmode
    rw [hstart] at htext hspan
    exact ⟨[], {
      text := htext
      start := by
        change (nextToken mode place).1.span.start = _
        rw [hspan, byteLength_nil, Nat.add_zero]
      stop := hstop
      after := hafter
      inside := hinside
      template := fun _ => rfl
      isGap := fun h => absurd hmode h
      longest := fun h => absurd hmode h
      lineBreak := fun h => absurd hmode h
      line := fun h => absurd hmode h
      eof := span_of_eof hplace }⟩
  · have hstart : place.tokenStartIn mode = place.tokenStart := if_neg hmode
    obtain ⟨gap, hgap, hgapOffset, hlineBreak, hisGap, hstops⟩ := place.exists_gapAt
    obtain ⟨before, hbefore, hplaceOffset⟩ := hplace
    rw [hstart] at htext hspan
    have hnoticed : (nextToken mode place).1.afterLineBreak = gap.any isLineTerminator := by
      rw [← hlineBreak]
      cases mode with
      | templateContinue => exact absurd rfl hmode
      | slashIsRegex | standard => rfl
    have hbreak : (nextToken mode place).1.afterLineBreak = true ↔
        ∃ c ∈ gap, isLineTerminator c = true := by rw [hnoticed, List.any_eq_true]
    have hline := @LineIndex.line_lt_iff source before gap place.tokenStart.rest
      (hbefore.trans (congrArg (before ++ ·) hgap)) (by
        rintro ⟨-, hfeed⟩
        exact absurd (hstops.head _ hfeed).2 (by decide))
    have hplaceOffset : place.offset = byteLength before := hplaceOffset.trans (Nat.zero_add _)
    have hstarts : (nextToken mode place).1.span.start = place.offset + byteLength gap := by
      rw [hspan, hgapOffset]
    exact ⟨gap, {
      text := hgap.trans (congrArg (gap ++ ·) htext)
      start := hstarts
      stop := hstop
      after := hafter
      inside := hinside
      template := fun h => absurd h hmode
      isGap := fun _ => htext ▸ hisGap
      longest := fun _ more rest hmore => (htext ▸ hstops).gap_eq_nil hmore
      lineBreak := fun _ => hbreak
      line := fun _ => by
        change (nextToken mode place).1.afterLineBreak = true ↔
          _ < ((LineIndex.ofString source).place (nextToken mode place).1.span.start).line
        rw [hstarts, hplaceOffset, hline]
        exact hbreak
      eof := span_of_eof ⟨before, hbefore, hplaceOffset.trans (Nat.zero_add _).symm⟩ }⟩

theorem map_mode_tokensRead (place : Cursor) (modes : List LexMode) :
    (tokensRead place modes).map BufferedToken.mode = modes := by
  induction modes generalizing place with
  | nil => rfl
  | cons mode modes ih => exact congrArg (mode :: ·) (ih _)

theorem readFrom_tokensRead (place : Cursor) (modes : List LexMode) :
    ReadFrom place (tokensRead place modes) := by
  induction modes generalizing place with
  | nil => trivial
  | cons mode modes ih => exact ⟨rfl, ih _⟩

theorem standInRow_tokensRead {source : String} {place : Cursor}
    (hplace : (Cursor.ofString source).Leads place) (modes : List LexMode) :
    StandInRow source place (tokensRead place modes) := by
  induction modes generalizing place with
  | nil => trivial
  | cons mode modes ih =>
    exact ⟨exists_standsAfter hplace mode, ih (hplace.trans (leads_nextToken mode place))⟩

/-- **No text is lost between tokens, and line breaks are noticed.** However a text is read, the
tokens stand in it one after the other, with gaps between them. -/
theorem tokensRead_lose_nothing (source : String) (modes : List LexMode) :
    (tokensRead (.ofString source) modes).map BufferedToken.mode = modes ∧
      StandInRow source (.ofString source) (tokensRead (.ofString source) modes) ∧
      (tokensRead (.ofString source) modes).Pairwise fun a b =>
        a.token.span.stop ≤ b.token.span.start := by
  refine ⟨map_mode_tokensRead _ _, standInRow_tokensRead (.refl _) modes,
    (readFrom_tokensRead _ _).separated⟩

end ModuleBundler
