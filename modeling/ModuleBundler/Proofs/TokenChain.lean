import ModuleBundler.Proofs.Scanning
import ModuleBundler.Token.Stream

/-!
# The tokens of a stream

* `ReadFrom` : tokens one after another from a place on, each as the text has it there;
* `ContinuesTemplates` : the text of a template goes on only after a closing brace;
* `TokenStream.Chained` : a stream whose tokens are such, those read and those looked at ahead;
* `TokenStream.peek_spec`, `TokenStream.advance_spec` : looking ahead and reading give the next
  token from the place of the stream, whatever was looked at before;
* `TokenStream.Chained.sorted_tokenStarts`, `TokenStream.Chained.leads_tokenStart` : the tokens
  begin in order, at places of the text.
-/

namespace ModuleBundler

open Cursor (Leads)
open TokenStream (readAt lookAhead)

/-! ## Tokens in a row -/

/-- Tokens one after another from a place on, each as the text has it there in its mode. -/
def ReadFrom : Cursor → List BufferedToken → Prop
  | _, [] => True
  | place, next :: rest => next = readAt next.mode place ∧ ReadFrom next.after rest

/-- The place after tokens that begin at a place. -/
def placeAfter (place : Cursor) (tokens : List BufferedToken) : Cursor :=
  (tokens.getLast?.map BufferedToken.after).getD place

theorem placeAfter_cons (place : Cursor) (next : BufferedToken) (rest : List BufferedToken) :
    placeAfter place (next :: rest) = placeAfter next.after rest := by
  cases rest with
  | nil => rfl
  | cons other rest =>
    unfold placeAfter
    rw [List.getLast?_cons_cons]
    cases h : (other :: rest).getLast? with
    | none => exact absurd (List.getLast?_eq_none_iff.mp h) (List.cons_ne_nil _ _)
    | some last => rfl

theorem readFrom_append {place : Cursor} {first second : List BufferedToken} :
    ReadFrom place (first ++ second) ↔
      ReadFrom place first ∧ ReadFrom (placeAfter place first) second := by
  induction first generalizing place with
  | nil => exact ⟨fun h => ⟨trivial, h⟩, fun h => h.2⟩
  | cons next rest ih =>
    rw [List.cons_append, ReadFrom, ReadFrom, ih, placeAfter_cons, and_assoc]

/-- A token of a row begins at a place, from which the next tokens follow. -/
theorem ReadFrom.start {place : Cursor} {next : BufferedToken} {rest : List BufferedToken}
    (h : ReadFrom place (next :: rest)) :
    ∃ start : Cursor, place.Leads start ∧ start.Leads next.after ∧
      next.token.span = ⟨start.offset, next.after.offset⟩ := by
  rw [h.1]
  exact ⟨_, leads_tokenStartIn _ place, (nextToken_span _ place).1, (nextToken_span _ place).2⟩

/-- Every token of a row begins at a place of the text. -/
theorem ReadFrom.leads {place : Cursor} {tokens : List BufferedToken} (h : ReadFrom place tokens)
    {b : BufferedToken} (hb : b ∈ tokens) :
    ∃ start : Cursor, place.Leads start ∧ b.token.span.start = start.offset := by
  induction tokens generalizing place with
  | nil => cases hb
  | cons next rest ih =>
    obtain ⟨start, hstart, hafter, hspan⟩ := h.start
    rcases List.mem_cons.mp hb with rfl | hb
    · exact ⟨start, hstart, by rw [hspan]⟩
    · obtain ⟨other, hother, heq⟩ := ih h.2 hb
      exact ⟨other, hstart.trans (hafter.trans hother), heq⟩

/-- Every token of a row is that of the text at some place. -/
theorem ReadFrom.exists_readAt {place : Cursor} {tokens : List BufferedToken}
    (h : ReadFrom place tokens) {b : BufferedToken} (hb : b ∈ tokens) :
    ∃ start : Cursor, place.Leads start ∧ b = readAt b.mode start := by
  induction tokens generalizing place with
  | nil => exact absurd hb List.not_mem_nil
  | cons next rest ih =>
    rcases List.mem_cons.mp hb with rfl | hb
    · exact ⟨place, .refl place, h.1⟩
    · obtain ⟨middle, hmiddle, hafter, -⟩ := h.start
      obtain ⟨start, hstart, hread⟩ := ih h.2 hb
      exact ⟨start, hmiddle.trans (hafter.trans hstart), hread⟩

/-- The tokens of a row begin in order. -/
theorem ReadFrom.sorted {place : Cursor} {tokens : List BufferedToken}
    (h : ReadFrom place tokens) :
    tokens.Pairwise fun a b => a.token.span.start ≤ b.token.span.start := by
  induction tokens generalizing place with
  | nil => exact .nil
  | cons next rest ih =>
    refine List.pairwise_cons.mpr ⟨fun b hb => ?_, ih h.2⟩
    obtain ⟨start, -, hafter, hspan⟩ := h.start
    obtain ⟨other, hother, heq⟩ := h.2.leads hb
    rw [hspan, heq]
    exact (hafter.trans hother).offset_le

/-- A row leads to the place after it. -/
theorem ReadFrom.leads_placeAfter {place : Cursor} {tokens : List BufferedToken}
    (h : ReadFrom place tokens) : place.Leads (placeAfter place tokens) := by
  induction tokens generalizing place with
  | nil => exact .refl place
  | cons next rest ih =>
    obtain ⟨start, hstart, hafter, -⟩ := h.start
    rw [placeAfter_cons]
    exact (hstart.trans hafter).trans (ih h.2)

/-- A token of a row goes from one place to another, both in what the row goes through. -/
theorem ReadFrom.between {place : Cursor} {tokens : List BufferedToken}
    (h : ReadFrom place tokens) :
    ∀ b ∈ tokens, b.token.span.Between place (placeAfter place tokens) := by
  induction tokens generalizing place with
  | nil => exact fun _ h => nomatch h
  | cons next rest ih =>
    obtain ⟨start, hstart, hafter, hspan⟩ := h.start
    rw [placeAfter_cons]
    refine List.forall_mem_cons.mpr ⟨?_, fun b hb => ?_⟩
    · exact ⟨start, next.after, hstart, hafter, h.2.leads_placeAfter, hspan⟩
    · exact (ih h.2 b hb).mono (hstart.trans hafter) (.refl _)

/-- A token of a row ends before the later ones begin. -/
theorem ReadFrom.separated {place : Cursor} {tokens : List BufferedToken}
    (h : ReadFrom place tokens) :
    tokens.Pairwise fun a b => a.token.span.stop ≤ b.token.span.start := by
  induction tokens generalizing place with
  | nil => exact .nil
  | cons next rest ih =>
    refine List.pairwise_cons.mpr ⟨fun b hb => ?_, ih h.2⟩
    obtain ⟨start, -, hafter, hspan⟩ := h.start
    rw [hspan]
    exact (h.2.between b hb).le_start

/-- A row that goes on with tokens in some mode is a row from the same place. -/
theorem readFrom_lookAhead {mode : LexMode} {count : Nat} {place : Cursor}
    {ahead : List BufferedToken} (h : ReadFrom place ahead) :
    ReadFrom place (lookAhead mode count place ahead) := by
  induction count generalizing place ahead with
  | zero => exact h
  | succ count ih =>
    cases ahead with
    | nil => exact ⟨rfl, ih trivial⟩
    | cons next rest =>
      rw [lookAhead]
      split
      · exact ⟨h.1, ih h.2⟩
      · exact ⟨rfl, ih trivial⟩

/-- The first token looked at is the next one in the mode, and what comes after it does not depend on
how many are looked at. -/
theorem lookAhead_succ (mode : LexMode) {place : Cursor} {ahead : List BufferedToken}
    (h : ReadFrom place ahead) :
    ∃ rest, ReadFrom (readAt mode place).after rest ∧ ∀ count,
      lookAhead mode (count + 1) place ahead =
        readAt mode place :: lookAhead mode count (readAt mode place).after rest := by
  cases ahead with
  | nil => exact ⟨[], trivial, fun count => rfl⟩
  | cons next rest =>
    by_cases hmode : next.mode = mode
    · have hnext := h.1
      rw [hmode] at hnext
      refine ⟨rest, hnext ▸ h.2, fun count => ?_⟩
      rw [lookAhead, if_pos hmode, hnext]
    · refine ⟨[], trivial, fun count => ?_⟩
      rw [lookAhead, if_neg hmode]

/-- Of tokens that were read, the latest first, those that go on with a template follow a closing
brace. -/
def ContinuesTemplates : List BufferedToken → Prop
  | [] => True
  | last :: before =>
    (last.mode = .templateContinue → ∃ close, before.head? = some close ∧
      close.token.type = .braceClose) ∧ ContinuesTemplates before

/-! ## Streams -/

namespace TokenStream

/-- The tokens of a stream, those read and those looked at ahead, follow each other in its text. -/
structure Chained (s : TokenStream) : Prop where
  source : s.source.offset = 0
  tokens : ReadFrom s.source (s.behind.reverse ++ s.ahead)
  templates : ContinuesTemplates s.behind

theorem chained_ofString (source : String) : (TokenStream.ofString source).Chained :=
  ⟨rfl, trivial, trivial⟩

theorem position_eq (s : TokenStream) : s.position = placeAfter s.source s.behind.reverse := by
  unfold position placeAfter
  rw [List.getLast?_reverse]
  cases s.behind with
  | nil => rfl
  | cons last before => rfl

theorem Chained.ahead {s : TokenStream} (h : s.Chained) : ReadFrom s.position s.ahead := by
  rw [position_eq]
  exact (readFrom_append.mp h.tokens).2

/-- The source leads to the place of a stream. -/
theorem Chained.leads_position {s : TokenStream} (h : s.Chained) :
    s.source.Leads s.position := by
  rw [position_eq]
  exact (readFrom_append.mp h.tokens).1.leads_placeAfter

theorem Chained.lastEnd_eq {s : TokenStream} (h : s.Chained) :
    s.lastEnd = s.position.offset := by
  have htokens := (readFrom_append.mp h.tokens).1
  unfold lastEnd position
  cases hbehind : s.behind with
  | nil => exact h.source.symm
  | cons last before =>
    rw [hbehind, List.reverse_cons, readFrom_append] at htokens
    obtain ⟨start, -, -, hspan⟩ := htokens.2.start
    change last.token.span.stop = last.after.offset
    rw [hspan]

theorem Chained.fill {s : TokenStream} (h : s.Chained) (mode : LexMode) (count : Nat) :
    (s.fill mode count).Chained := by
  refine ⟨h.source, readFrom_append.mpr ⟨(readFrom_append.mp h.tokens).1, ?_⟩, h.templates⟩
  change ReadFrom (placeAfter s.source s.behind.reverse) (lookAhead mode count s.position s.ahead)
  rw [← position_eq]
  exact readFrom_lookAhead h.ahead

/-- What looking ahead leaves as it is. -/
structure Stays (s s' : TokenStream) : Prop where
  source : s'.source = s.source
  size : s'.size = s.size
  behind : s'.behind = s.behind
  chained : s'.Chained

theorem Stays.position {s s' : TokenStream} (h : s.Stays s') : s'.position = s.position := by
  unfold TokenStream.position
  rw [h.behind, h.source]

theorem Chained.stays_fill {s : TokenStream} (h : s.Chained) (mode : LexMode) (count : Nat) :
    s.Stays (s.fill mode count) := ⟨rfl, rfl, rfl, h.fill mode count⟩

/-- Looking ahead gives the next token from the place of the stream. -/
theorem Chained.peek_spec {s : TokenStream} (h : s.Chained) (mode : LexMode) :
    (s.peek mode).1 = (nextToken mode s.position).1 ∧ s.Stays (s.peek mode).2 := by
  obtain ⟨rest, -, heq⟩ := lookAhead_succ mode h.ahead
  refine ⟨?_, h.stays_fill mode 1⟩
  change (((lookAhead mode 1 s.position s.ahead)[0]?).map BufferedToken.token).getD default = _
  rw [heq]
  rfl

theorem Chained.peek2_spec {s : TokenStream} (h : s.Chained) :
    s.peek2.1.1 = (nextToken .standard s.position).1 ∧ s.Stays s.peek2.2 := by
  obtain ⟨rest, -, heq⟩ := lookAhead_succ .standard h.ahead
  refine ⟨?_, h.stays_fill .standard 2⟩
  change (((lookAhead .standard 2 s.position s.ahead)[0]?).map BufferedToken.token).getD default = _
  rw [heq]
  rfl

/-- The next token can be read in a mode: a template goes on only after a closing brace. -/
def Admits (s : TokenStream) (mode : LexMode) : Prop :=
  mode = .templateContinue → ∃ close, s.behind.head? = some close ∧ close.token.type = .braceClose

/-- Reading gives the next token from the place of the stream and goes on to the place after it. -/
theorem Chained.advance_spec {s : TokenStream} (h : s.Chained) {mode : LexMode}
    (hmode : s.Admits mode) :
    (s.advance mode).1 = (nextToken mode s.position).1 ∧
      (s.advance mode).2.behind = readAt mode s.position :: s.behind ∧
      (s.advance mode).2.source = s.source ∧ (s.advance mode).2.size = s.size ∧
      (s.advance mode).2.Chained := by
  obtain ⟨rest, -, heq⟩ := lookAhead_succ mode h.ahead
  have hahead : (s.fill mode 1).ahead = readAt mode s.position :: rest := heq 0
  have htokens := (h.fill mode 1).tokens
  unfold advance
  dsimp only
  rw [hahead] at htokens ⊢
  refine ⟨rfl, rfl, rfl, rfl, h.source, ?_, hmode, h.templates⟩
  change ReadFrom s.source ((readAt mode s.position :: s.behind).reverse ++ rest)
  rw [List.reverse_cons, List.append_assoc]
  exact htokens

/-! ## Where tokens begin -/

theorem Chained.sorted_tokenStarts {s : TokenStream} (h : s.Chained) :
    s.tokenStarts.Pairwise (· ≤ ·) :=
  List.Pairwise.map _ (fun _ _ hle => hle) (h.tokens.sorted.filter _)

theorem Chained.leads_tokenStart {s : TokenStream} (h : s.Chained) {offset : Nat}
    (hoffset : offset ∈ s.tokenStarts) :
    ∃ place : Cursor, s.source.Leads place ∧ offset = place.offset := by
  obtain ⟨b, hb, rfl⟩ := List.mem_map.mp hoffset
  exact h.tokens.leads ((List.mem_filter.mp hb).1)

end TokenStream
end ModuleBundler
