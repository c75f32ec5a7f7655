import ModuleBundler.Grammar.Parse
import ModuleBundler.Proofs.TokenChain

/-!
# Tokens that are kept make no difference

* `TokenOp`, `TokenAnswer` : what is asked of the tokens of a module, and what comes of it;
* `Reader` : a module that is read, with the places that were kept; its steps are the readings of the
  grammar;
* `PlainReader` : reading that keeps no token at all, but scans the text from where the last one ended;
* `TokenBuffer` : reading that keeps tokens in one row with an index, and a lexer that stands somewhere;
* `Reader.Sound` : the tokens of a reader are those of its text, and its kept places lie behind it;
* `Reader.step_plain`, `Reader.step_buffer` : a step of a reader is one of each of the others;
* `tokens_as_scanned` : whatever was asked before, all three give the same answers.
-/

namespace ModuleBundler

open TokenStream (readAt lookAhead)

/-! ## Asking for tokens -/

/-- What is asked of the tokens of a module. -/
inductive TokenOp where
  | peek (mode : LexMode)
  | consume (mode : LexMode)
  | require (mode : LexMode) (type : TokenType)
  | consumeIf (type : TokenType)
  | peek2
  | peek3
  /-- Keeps the place. -/
  | checkpoint
  /-- Goes back to the place that was kept last, which is kept no longer. -/
  | restore

/-- What comes of it. -/
inductive TokenAnswer where
  | tokens (ts : List Token)
  | found (is : Bool)
  | failed (e : SyntaxError)
  | nothing

/-- A module that is read, with the places that were kept, the latest first. -/
structure Reader where
  state : ParserState
  marks : List ParserState

namespace Reader

def ofString (source : String) : Reader := ⟨.ofString source, []⟩

/-- The answer of a reading, and what is left to read. -/
def reads {α : Type} (r : Reader) (reading : Parse α) (answer : α → TokenAnswer) :
    TokenAnswer × Reader :=
  match reading r.state with
  | .ok (a, state) => (answer a, { r with state })
  | .error e => (.failed e, r)

/-- What the grammar asks for. A token that is not the required one was read all the same. -/
def step : TokenOp → Reader → TokenAnswer × Reader
  | .peek mode, r => r.reads (peekIn mode) fun t => .tokens [t]
  | .consume mode, r => r.reads (consumeIn mode) fun t => .tokens [t]
  | .require mode type, r =>
    ((r.reads (requireIn mode type) fun t => .tokens [t]).1, (r.reads (consumeIn mode) fun _ => .nothing).2)
  | .consumeIf type, r => r.reads (ModuleBundler.consumeIf type) .found
  | .peek2, r => r.reads ModuleBundler.peek2 fun (a, b) => .tokens [a, b]
  | .peek3, r => r.reads ModuleBundler.peek3 fun (a, b, c) => .tokens [a, b, c]
  | .checkpoint, r => (.nothing, { r with marks := r.state :: r.marks })
  | .restore, r =>
    match r.marks with
    | [] => (.nothing, r)
    | earlier :: marks => (.nothing, ⟨earlier.rewindTo r.state, marks⟩)

end Reader

/-! ## Scanning the text each time -/

/-- The token that a text has in a mode from an offset on. -/
def tokenAt (source : String) (mode : LexMode) (offset : Nat) : Token :=
  (nextToken mode ((Cursor.ofString source).advanceTo offset)).1

/-- What comes of requiring a type where a token is. -/
def requireAnswer (type : TokenType) (t : Token) : TokenAnswer :=
  if t.type = type then .tokens [t] else .failed ⟨.missingToken type, t.span, some t.type⟩

/-- Where the last token that was read ended, and where it had ended at the kept places. -/
structure PlainReader where
  offset : Nat
  marks : List Nat

namespace PlainReader

def start : PlainReader := ⟨0, []⟩

def step (source : String) : TokenOp → PlainReader → TokenAnswer × PlainReader
  | .peek mode, r => (.tokens [tokenAt source mode r.offset], r)
  | .consume mode, r =>
    let t := tokenAt source mode r.offset
    (.tokens [t], { r with offset := t.span.stop })
  | .require mode type, r =>
    let t := tokenAt source mode r.offset
    (requireAnswer type t, { r with offset := t.span.stop })
  | .consumeIf type, r =>
    let t := tokenAt source .standard r.offset
    if t.type = type then (.found true, { r with offset := t.span.stop }) else (.found false, r)
  | .peek2, r =>
    let a := tokenAt source .standard r.offset
    (.tokens [a, tokenAt source .standard a.span.stop], r)
  | .peek3, r =>
    let a := tokenAt source .standard r.offset
    let b := tokenAt source .standard a.span.stop
    (.tokens [a, b, tokenAt source .standard b.span.stop], r)
  | .checkpoint, r => (.nothing, { r with marks := r.offset :: r.marks })
  | .restore, r =>
    match r.marks with
    | [] => (.nothing, r)
    | mark :: marks => (.nothing, ⟨mark, marks⟩)

end PlainReader

/-! ## Keeping tokens in a row -/

/-- Tokens with their modes, of which the first `next` were read and the others looked at, and the
offset at which the lexer stands. -/
structure TokenBuffer where
  tokens : List (Token × LexMode)
  next : Nat
  lexer : Nat
  marks : List Nat

namespace TokenBuffer

def start : TokenBuffer := ⟨[], 0, 0, []⟩

/-- Where the last of some tokens ends. -/
def endOf (tokens : List (Token × LexMode)) : Nat :=
  (tokens.getLast?.map fun entry => entry.1.span.stop).getD 0

/-- Where the last token that was read ends. -/
def prevEnd (b : TokenBuffer) : Nat := endOf (b.tokens.take b.next)

/-- Drops all tokens from an index on, and sets the lexer back. -/
def resetTo (n : Nat) (b : TokenBuffer) : TokenBuffer :=
  { b with tokens := b.tokens.take n, next := n, lexer := endOf (b.tokens.take n) }

/-- Scans one more token. -/
def scan (source : String) (mode : LexMode) (b : TokenBuffer) : TokenBuffer :=
  let (token, after) := nextToken mode ((Cursor.ofString source).advanceTo b.lexer)
  { b with tokens := b.tokens ++ [(token, mode)], lexer := after.offset }

/-- The next token, which is read if `keep` says so. It is scanned unless it was in that mode. -/
def forward (source : String) (mode : LexMode) (keep : Token → Bool) (b : TokenBuffer) :
    Token × TokenBuffer :=
  let b := if b.tokens[b.next]?.any fun entry => entry.2 ≠ mode then b.resetTo b.next else b
  let b := if b.tokens.length = b.next then b.scan source mode else b
  let t := (b.tokens[b.next]?.map Prod.fst).getD default
  (t, if keep t then { b with next := b.next + 1 } else b)

def step (source : String) : TokenOp → TokenBuffer → TokenAnswer × TokenBuffer
  | .peek mode, b =>
    let (t, b) := b.forward source mode fun _ => false
    (.tokens [t], b)
  | .consume mode, b =>
    let (t, b) := b.forward source mode fun _ => true
    (.tokens [t], b)
  | .require mode type, b =>
    let (t, b) := b.forward source mode fun _ => true
    (requireAnswer type t, b)
  | .consumeIf type, b =>
    let (t, b) := b.forward source .standard fun t => t.type = type
    (.found (t.type = type), b)
  | .peek2, b =>
    let (t, b') := b.forward source .standard fun _ => true
    let (t', b') := b'.forward source .standard fun _ => true
    (.tokens [t, t'], { b' with next := b.next })
  | .peek3, b =>
    let (t, b') := b.forward source .standard fun _ => true
    let (t', b') := b'.forward source .standard fun _ => true
    let (t'', b') := b'.forward source .standard fun _ => true
    (.tokens [t, t', t''], { b' with next := b.next })
  | .checkpoint, b => (.nothing, { b with marks := b.next :: b.marks })
  | .restore, b =>
    match b.marks with
    | [] => (.nothing, b)
    | mark :: marks => (.nothing, { b with next := mark, marks })

end TokenBuffer

/-! ## Streams of a text -/

namespace TokenStream

/-- All tokens of a stream in order. -/
def row (s : TokenStream) : List BufferedToken := s.behind.reverse ++ s.ahead

/-- The stream has the tokens of a text, each as the text has it in its mode. -/
structure OfText (source : String) (s : TokenStream) : Prop where
  source : s.source = .ofString source
  tokens : ReadFrom s.source s.row

variable {source : String} {s : TokenStream}

theorem ofText_ofString (source : String) : OfText source (.ofString source) := ⟨rfl, trivial⟩

theorem OfText.ahead (h : s.OfText source) : ReadFrom s.position s.ahead := by
  rw [position_eq]
  exact (readFrom_append.mp h.tokens).2

theorem OfText.leads_position (h : s.OfText source) : (Cursor.ofString source).Leads s.position := by
  rw [position_eq, ← h.source]
  exact (readFrom_append.mp h.tokens).1.leads_placeAfter

/-- The place of a stream is that at which its last token ends. -/
theorem OfText.lastEnd_eq (h : s.OfText source) : s.lastEnd = s.position.offset := by
  have hbehind := (readFrom_append.mp h.tokens).1
  unfold lastEnd position
  cases hcases : s.behind with
  | nil =>
    rw [h.source]
    rfl
  | cons last before =>
    rw [hcases, List.reverse_cons, readFrom_append] at hbehind
    obtain ⟨start, -, -, hspan⟩ := hbehind.2.start
    show last.token.span.stop = last.after.offset
    rw [hspan]

theorem OfText.advanceTo_lastEnd (h : s.OfText source) :
    (Cursor.ofString source).advanceTo s.lastEnd = s.position := by
  rw [h.lastEnd_eq]
  exact Cursor.advanceTo_eq h.leads_position

/-- The next token of a stream is the one that its text has there. -/
theorem OfText.token_readAt (h : s.OfText source) (mode : LexMode) :
    (readAt mode s.position).token = tokenAt source mode s.lastEnd := by
  rw [tokenAt, h.advanceTo_lastEnd]
  rfl

theorem OfText.fill (h : s.OfText source) (mode : LexMode) (count : Nat) :
    (s.fill mode count).OfText source := by
  refine ⟨h.source, readFrom_append.mpr ⟨(readFrom_append.mp h.tokens).1, ?_⟩⟩
  show ReadFrom (placeAfter s.source s.behind.reverse) (lookAhead mode count s.position s.ahead)
  rw [← position_eq]
  exact readFrom_lookAhead h.ahead

/-- Looking ahead again finds what was looked at. -/
theorem lookAhead_lookAhead (mode : LexMode) (count : Nat) (place : Cursor)
    (ahead : List BufferedToken) :
    lookAhead mode count place (lookAhead mode count place ahead) =
      lookAhead mode count place ahead := by
  induction count generalizing place ahead with
  | zero => rfl
  | succ count ih =>
    have hsame : ∀ next rest, next.mode = mode →
        lookAhead mode (count + 1) place (next :: lookAhead mode count next.after rest) =
          next :: lookAhead mode count next.after rest := by
      intro next rest hmode
      rw [lookAhead, if_pos hmode, ih]
    cases ahead with
    | nil => exact hsame _ [] rfl
    | cons next rest =>
      by_cases hmode : next.mode = mode
      · rw [lookAhead, if_pos hmode, hsame next rest hmode]
      · rw [lookAhead, if_neg hmode]
        exact hsame _ [] rfl

/-- A token is read in the same way after it was looked at. -/
theorem advance_peek (s : TokenStream) (mode : LexMode) :
    (s.peek mode).2.advance mode = s.advance mode := by
  have hfill : (s.fill mode 1).fill mode 1 = s.fill mode 1 :=
    congrArg (fun ahead => { s with ahead }) (lookAhead_lookAhead mode 1 s.position s.ahead)
  show (s.fill mode 1).advance mode = s.advance mode
  unfold TokenStream.advance
  rw [hfill]

section
variable (h : s.OfText source) (mode : LexMode)
include h

/-- Reading takes the next token in the mode, whatever was looked at before. -/
theorem OfText.advance_eq : ∃ rest, s.advance mode = ((readAt mode s.position).token,
      { s with behind := readAt mode s.position :: s.behind, ahead := rest }) ∧
    ∀ count, (s.fill mode (count + 1)).ahead =
      readAt mode s.position :: lookAhead mode count (readAt mode s.position).after rest := by
  obtain ⟨rest, -, heq⟩ := lookAhead_succ mode h.ahead
  have hahead : (s.fill mode 1).ahead = readAt mode s.position :: rest := heq 0
  refine ⟨rest, ?_, heq⟩
  unfold TokenStream.advance
  dsimp only
  rw [hahead]
  rfl

theorem OfText.behind_advance :
    (s.advance mode).2.behind = readAt mode s.position :: s.behind := by
  obtain ⟨rest, hadvance, -⟩ := h.advance_eq mode
  rw [hadvance]

theorem OfText.source_advance : (s.advance mode).2.source = s.source := by
  obtain ⟨rest, hadvance, -⟩ := h.advance_eq mode
  rw [hadvance]

/-- Looking ahead takes the token that would be read, and goes on as from there. -/
theorem OfText.ahead_fill (count : Nat) :
    (s.fill mode (count + 1)).ahead =
      readAt mode s.position :: ((s.advance mode).2.fill mode count).ahead := by
  obtain ⟨rest, hadvance, hfill⟩ := h.advance_eq mode
  rw [hfill, hadvance]
  rfl

/-- Reading a token leaves all tokens in their row. -/
theorem OfText.row_advance (count : Nat) :
    ((s.advance mode).2.fill mode count).row = (s.fill mode (count + 1)).row := by
  have hbehind : ((s.advance mode).2.fill mode count).behind = readAt mode s.position :: s.behind :=
    h.behind_advance mode
  rw [row, row, h.ahead_fill mode count, hbehind, List.reverse_cons, List.append_assoc]
  rfl

/-- What was read belongs to the same text. -/
theorem OfText.after : (s.advance mode).2.OfText source := by
  have htokens := (h.fill mode 1).tokens
  rw [← h.row_advance mode 0] at htokens
  have hsource := h.source_advance mode
  refine ⟨hsource.trans h.source, ?_⟩
  rw [hsource]
  exact htokens

/-- Two tokens that are read are the two that are looked at ahead. -/
theorem OfText.row_advance_two :
    ((s.advance mode).2.advance mode).2.row = (s.fill mode 2).row :=
  ((h.after mode).row_advance mode 0).trans (h.row_advance mode 1)

/-- Three tokens that are read are the three that are looked at ahead. -/
theorem OfText.row_advance_three :
    (((s.advance mode).2.advance mode).2.advance mode).2.row = (s.fill mode 3).row :=
  ((((h.after mode).after mode).row_advance mode 0).trans ((h.after mode).row_advance mode 1)).trans
    (h.row_advance mode 2)

/-- What is read is what the text has, scanned anew. -/
theorem OfText.advance_fst : (s.advance mode).1 = tokenAt source mode s.lastEnd := by
  obtain ⟨rest, hadvance, -⟩ := h.advance_eq mode
  rw [hadvance, ← h.token_readAt]

theorem OfText.lastEnd_advance :
    (s.advance mode).2.lastEnd = (tokenAt source mode s.lastEnd).span.stop := by
  rw [lastEnd, h.behind_advance, ← h.token_readAt]

/-- The first token ahead is what the text has, scanned anew. -/
theorem OfText.tokenAhead_zero (count : Nat) :
    (s.fill mode (count + 1)).tokenAhead 0 = tokenAt source mode s.lastEnd := by
  rw [tokenAhead, h.ahead_fill, ← h.token_readAt]
  rfl

/-- The tokens after it are those ahead once it was read. -/
theorem OfText.tokenAhead_succ (count index : Nat) :
    (s.fill mode (count + 1)).tokenAhead (index + 1) =
      ((s.advance mode).2.fill mode count).tokenAhead index := by
  rw [tokenAhead, h.ahead_fill, List.getElem?_cons_succ, tokenAhead]

end

/-! ### Going back -/

theorem rewindTo_go (steps : Nat) (s : TokenStream) :
    (rewindTo.go steps s).row = s.row ∧ (rewindTo.go steps s).source = s.source ∧
      (rewindTo.go steps s).behind = s.behind.drop steps := by
  induction steps generalizing s with
  | zero => exact ⟨rfl, rfl, rfl⟩
  | succ steps ih =>
    rw [rewindTo.go]
    cases hbehind : s.behind with
    | nil => simp [hbehind]
    | cons last behind =>
      obtain ⟨hrow, hsource, hdrop⟩ := ih { s with behind, ahead := last :: s.ahead }
      refine ⟨?_, hsource, hdrop⟩
      rw [hrow]
      simp [row, hbehind]

theorem row_rewindTo (n : Nat) (s : TokenStream) : (s.rewindTo n).row = s.row :=
  (rewindTo_go _ s).1

theorem source_rewindTo (n : Nat) (s : TokenStream) : (s.rewindTo n).source = s.source :=
  (rewindTo_go _ s).2.1

/-- Going back to an earlier stream leaves what that one had read. -/
theorem behind_rewindTo {earlier : TokenStream} (h : earlier.behind <:+ s.behind) :
    (s.rewindTo earlier.count).behind = earlier.behind := by
  rw [rewindTo, (rewindTo_go _ s).2.2]
  exact (List.suffix_iff_eq_drop.mp h).symm

theorem OfText.rewindTo (h : s.OfText source) (n : Nat) : (s.rewindTo n).OfText source := by
  refine ⟨(source_rewindTo n s).trans h.source, ?_⟩
  rw [source_rewindTo, row_rewindTo]
  exact h.tokens

/-- Where the last token ended depends on the tokens that were read alone. -/
theorem lastEnd_congr {s' : TokenStream} (h : s'.behind = s.behind) : s'.lastEnd = s.lastEnd := by
  rw [lastEnd, lastEnd, h]

/-! ### As a buffer -/

/-- The tokens of a stream as a buffer, whose lexer stands at the place after all of them. -/
def buffer (marks : List Nat) (s : TokenStream) : TokenBuffer where
  tokens := s.row.map fun b => (b.token, b.mode)
  next := s.count
  lexer := (placeAfter s.source s.row).offset
  marks := marks

theorem endOf_behind (s : TokenStream) :
    TokenBuffer.endOf (s.behind.reverse.map fun b => (b.token, b.mode)) = s.lastEnd := by
  rw [TokenBuffer.endOf, List.getLast?_map, List.getLast?_reverse, lastEnd]
  cases s.behind with
  | nil => rfl
  | cons last before => rfl

theorem take_buffer (s : TokenStream) (marks : List Nat) :
    (s.buffer marks).tokens.take s.count = s.behind.reverse.map fun b => (b.token, b.mode) := by
  simp [buffer, row, count, List.take_left']

/-- The last token of a buffer ends where that of its stream does. -/
theorem prevEnd_buffer (s : TokenStream) (marks : List Nat) :
    (s.buffer marks).prevEnd = s.lastEnd := by
  show TokenBuffer.endOf ((s.buffer marks).tokens.take s.count) = _
  rw [take_buffer, endOf_behind]

/-- The lexer of a buffer stands where the last of its tokens ends. -/
theorem OfText.lexer_buffer (h : s.OfText source) (marks : List Nat) :
    (s.buffer marks).lexer = TokenBuffer.endOf (s.buffer marks).tokens := by
  -- As if all tokens had been read.
  let read : TokenStream := { s with behind := s.row.reverse, ahead := [] }
  have hrow : read.behind.reverse = s.row := List.reverse_reverse _
  have hread : read.OfText source := ⟨h.source, by
    rw [row, hrow, List.append_nil]
    exact h.tokens⟩
  have hend := endOf_behind read
  rw [hread.lastEnd_eq, position_eq, hrow] at hend
  exact hend.symm

/-- Dropping what was looked at leaves what was read. -/
theorem OfText.resetTo_buffer (h : s.OfText source) (marks : List Nat) :
    (s.buffer marks).resetTo s.count = ({ s with ahead := [] } : TokenStream).buffer marks := by
  have hplace : s.lastEnd = (placeAfter s.source s.behind.reverse).offset := by
    rw [h.lastEnd_eq, position_eq]
  rw [TokenBuffer.resetTo, take_buffer, endOf_behind, hplace]
  simp [buffer, row, count]

/-- With nothing looked at, a token is scanned from the place of the stream. -/
theorem OfText.scan_buffer (h : s.OfText source) (hahead : s.ahead = []) (mode : LexMode)
    (marks : List Nat) : (s.buffer marks).scan source mode = (s.fill mode 1).buffer marks := by
  have hlexer : (Cursor.ofString source).advanceTo (s.buffer marks).lexer = s.position := by
    show (Cursor.ofString source).advanceTo (placeAfter s.source s.row).offset = _
    rw [row, hahead, List.append_nil, ← position_eq, ← h.lastEnd_eq, h.advanceTo_lastEnd]
  have hfill : (s.fill mode 1).row = s.row ++ [readAt mode s.position] := by
    show s.behind.reverse ++ lookAhead mode 1 s.position s.ahead = s.behind.reverse ++ s.ahead ++ _
    rw [hahead, List.append_nil]
    rfl
  have hplace : placeAfter s.source (s.row ++ [readAt mode s.position]) =
      (readAt mode s.position).after := by
    simp [placeAfter]
  have hbuffer : (s.fill mode 1).buffer marks =
      ⟨(s.row ++ [readAt mode s.position]).map fun b => (b.token, b.mode), s.count,
        (readAt mode s.position).after.offset, marks⟩ := by
    rw [buffer, hfill]
    show TokenBuffer.mk _ _ (placeAfter s.source _).offset _ = _
    rw [hplace]
    rfl
  rw [hbuffer, TokenBuffer.scan, hlexer, List.map_append]
  rfl

/-- Whether or not the next token is there in the mode, in the end it is. -/
theorem OfText.filled_buffer (h : s.OfText source) (mode : LexMode) (marks : List Nat) :
    let b := s.buffer marks
    let b := if b.tokens[b.next]?.any fun entry => entry.2 ≠ mode then b.resetTo b.next else b
    (if b.tokens.length = b.next then b.scan source mode else b) = (s.fill mode 1).buffer marks := by
  have hget : (s.buffer marks).tokens[s.count]? = s.ahead.head?.map fun b => (b.token, b.mode) := by
    simp [buffer, row, count, List.getElem?_append_right, ← List.head?_eq_getElem?]
  have hlength : (s.buffer marks).tokens.length = s.count + s.ahead.length := by
    simp [buffer, row, count]
  have hnext : (s.buffer marks).next = s.count := rfl
  dsimp only
  rw [hnext, hget]
  cases hahead : s.ahead with
  | nil =>
    rw [List.head?_nil, Option.map_none, Option.any_none, if_neg Bool.false_ne_true, hnext, hlength,
      hahead, List.length_nil, Nat.add_zero, if_pos rfl, h.scan_buffer hahead]
  | cons next rest =>
    rw [List.head?_cons, Option.map_some, Option.any_some]
    dsimp only
    by_cases hmode : next.mode = mode
    · have hfill : s.fill mode 1 = s := by
        show { s with ahead := lookAhead mode 1 s.position s.ahead } = s
        rw [hahead, lookAhead, if_pos hmode, lookAhead, ← hahead]
      have hsame : ¬ decide (next.mode ≠ mode) = true := by simp [hmode]
      rw [if_neg hsame, hnext, hlength, hahead, if_neg (by simp), hfill]
    · -- What was looked at in another mode is dropped, and looking ahead starts anew.
      have hdropped : ({ s with ahead := [] } : TokenStream).OfText source :=
        ⟨h.source, by
          rw [row, List.append_nil]
          exact (readFrom_append.mp h.tokens).1⟩
      have hfill : ({ s with ahead := [] } : TokenStream).fill mode 1 = s.fill mode 1 := by
        show TokenStream.mk _ _ _ _ = { s with ahead := lookAhead mode 1 s.position s.ahead }
        rw [hahead, lookAhead, if_neg hmode]
        rfl
      have hempty : (({ s with ahead := [] } : TokenStream).buffer marks).tokens.length =
          (({ s with ahead := [] } : TokenStream).buffer marks).next := by
        simp [buffer, row, count]
      have hother : decide (next.mode ≠ mode) = true := decide_eq_true hmode
      rw [if_pos hother, h.resetTo_buffer, if_pos hempty, hdropped.scan_buffer rfl, hfill]

/-- A buffer goes forward as its stream does. -/
theorem OfText.forward_buffer (h : s.OfText source) (mode : LexMode) (keep : Token → Bool)
    (marks : List Nat) :
    (s.buffer marks).forward source mode keep =
      ((readAt mode s.position).token,
        if keep (readAt mode s.position).token then (s.advance mode).2.buffer marks
        else (s.fill mode 1).buffer marks) := by
  obtain ⟨rest, hadvance, hfill⟩ := h.advance_eq mode
  have hrow : (s.advance mode).2.row = (s.fill mode 1).row := h.row_advance mode 0
  have hget : ((s.fill mode 1).buffer marks).tokens[((s.fill mode 1).buffer marks).next]? =
      some ((readAt mode s.position).token, mode) := by
    have hahead := hfill 0
    simp [buffer, row, hahead, count, readAt]
  have hnext : (s.advance mode).2.buffer marks =
      { (s.fill mode 1).buffer marks with next := ((s.fill mode 1).buffer marks).next + 1 } := by
    rw [buffer, hrow, hadvance]
    rfl
  have hfilled := h.filled_buffer mode marks
  rw [TokenBuffer.forward, hfilled, hget, hnext]
  rfl

/-- A buffer depends on the row and on how much of it was read. -/
theorem buffer_congr {s' : TokenStream} (hsource : s'.source = s.source) (hrow : s'.row = s.row)
    (marks : List Nat) : { s'.buffer marks with next := s.count } = s.buffer marks := by
  rw [buffer, hsource, hrow]
  rfl

/-- After looking ahead only the index has to be set back. -/
theorem buffer_fill {s' : TokenStream} {count : Nat} (hsource : s'.source = s.source)
    (hrow : s'.row = (s.fill .standard count).row) (marks : List Nat) :
    { s'.buffer marks with next := s.count } = (s.fill .standard count).buffer marks :=
  buffer_congr (s := s.fill .standard count) hsource hrow marks

end TokenStream

/-! ## Readers -/

namespace Reader

/-- The tokens of a reader are those of a text, and each place that is kept lies behind those that
were kept later and behind all that was read. -/
structure Sound (source : String) (r : Reader) : Prop where
  tokens : r.state.tokens.OfText source
  marks : (r.state :: r.marks).Pairwise fun later earlier =>
    earlier.tokens.behind <:+ later.tokens.behind

/-- Where the tokens end. -/
def plain (r : Reader) : PlainReader :=
  ⟨r.state.tokens.lastEnd, r.marks.map fun mark => mark.tokens.lastEnd⟩

/-- The tokens in a row. -/
def buffer (r : Reader) : TokenBuffer :=
  r.state.tokens.buffer (r.marks.map fun mark => mark.tokens.count)

variable {source : String} {r : Reader}

/-- The reader with other tokens. -/
def withTokens (r : Reader) (tokens : TokenStream) : Reader :=
  { r with state := { r.state with tokens } }

theorem step_peek (r : Reader) (mode : LexMode) : r.step (.peek mode) =
    (.tokens [(r.state.tokens.peek mode).1], r.withTokens (r.state.tokens.peek mode).2) := rfl

theorem step_consume (r : Reader) (mode : LexMode) : r.step (.consume mode) =
    (.tokens [(r.state.tokens.advance mode).1], r.withTokens (r.state.tokens.advance mode).2) := rfl

theorem step_require (r : Reader) (mode : LexMode) (type : TokenType) :
    r.step (.require mode type) =
      (requireAnswer type (r.state.tokens.advance mode).1,
        r.withTokens (r.state.tokens.advance mode).2) := by
  have hrequire : requireIn mode type r.state =
      if (r.state.tokens.advance mode).1.type = type then
        .ok ((r.state.tokens.advance mode).1, (r.withTokens (r.state.tokens.advance mode).2).state)
      else .error ⟨.missingToken type, (r.state.tokens.advance mode).1.span,
        some (r.state.tokens.advance mode).1.type⟩ := by
    by_cases htype : (r.state.tokens.advance mode).1.type = type
    · rw [if_pos htype]
      show (if (r.state.tokens.advance mode).1.type = type then _ else _ : Parse Token) _ = _
      rw [if_pos htype]
      rfl
    · rw [if_neg htype]
      show (if (r.state.tokens.advance mode).1.type = type then _ else _ : Parse Token) _ = _
      rw [if_neg htype]
      rfl
  rw [Reader.step, reads, hrequire, requireAnswer]
  by_cases htype : (r.state.tokens.advance mode).1.type = type
  · rw [if_pos htype, if_pos htype]
    rfl
  · rw [if_neg htype, if_neg htype]
    rfl

theorem step_consumeIf (r : Reader) (type : TokenType) :
    r.step (.consumeIf type) =
      if ((r.state.tokens.fill .standard 1).tokenAhead 0).type = type then
        (.found true, r.withTokens (r.state.tokens.advance .standard).2)
      else (.found false, r.withTokens (r.state.tokens.fill .standard 1)) := by
  rw [← TokenStream.advance_peek]
  by_cases htype : ((r.state.tokens.fill .standard 1).tokenAhead 0).type = type
  · rw [if_pos htype]
    have hfound : ModuleBundler.consumeIf type r.state = .ok (true,
        (r.withTokens ((r.state.tokens.peek .standard).2.advance .standard).2).state) := by
      show (if _ then _ else _ : Parse Bool) _ = _
      rw [if_pos htype]
      rfl
    rw [Reader.step, reads, hfound]
    rfl
  · rw [if_neg htype]
    have hfound : ModuleBundler.consumeIf type r.state = .ok (false,
        (r.withTokens (r.state.tokens.fill .standard 1)).state) := by
      show (if _ then _ else _ : Parse Bool) _ = _
      rw [if_neg htype]
      rfl
    rw [Reader.step, reads, hfound]
    rfl

theorem step_peek2 (r : Reader) : r.step .peek2 =
    (.tokens [(r.state.tokens.fill .standard 2).tokenAhead 0,
      (r.state.tokens.fill .standard 2).tokenAhead 1],
      r.withTokens (r.state.tokens.fill .standard 2)) := rfl

theorem step_peek3 (r : Reader) : r.step .peek3 =
    (.tokens [(r.state.tokens.fill .standard 3).tokenAhead 0,
      (r.state.tokens.fill .standard 3).tokenAhead 1,
      (r.state.tokens.fill .standard 3).tokenAhead 2],
      r.withTokens (r.state.tokens.fill .standard 3)) := rfl

/-! ### Soundness -/

/-- Looking ahead changes nothing that was read. -/
theorem Sound.fill (h : r.Sound source) (mode : LexMode) (count : Nat) :
    (r.withTokens (r.state.tokens.fill mode count)).Sound source := by
  obtain ⟨hbehind, hmarks⟩ := List.pairwise_cons.mp h.marks
  exact ⟨h.tokens.fill mode count, List.pairwise_cons.mpr ⟨hbehind, hmarks⟩⟩

theorem Sound.advance (h : r.Sound source) (mode : LexMode) :
    (r.withTokens (r.state.tokens.advance mode).2).Sound source := by
  refine ⟨h.tokens.after mode, ?_⟩
  obtain ⟨hbehind, hmarks⟩ := List.pairwise_cons.mp h.marks
  refine List.pairwise_cons.mpr ⟨fun mark hmark => ?_, hmarks⟩
  show mark.tokens.behind <:+ (r.state.tokens.advance mode).2.behind
  rw [h.tokens.behind_advance mode]
  exact (hbehind mark hmark).trans (List.suffix_cons _ _)

theorem Sound.step (h : r.Sound source) (op : TokenOp) : (r.step op).2.Sound source := by
  cases op with
  | peek mode => exact h.fill mode 1
  | consume mode => exact h.advance mode
  | require mode type =>
    rw [step_require]
    exact h.advance mode
  | consumeIf type =>
    rw [step_consumeIf]
    split
    · exact h.advance .standard
    · exact h.fill .standard 1
  | peek2 => exact h.fill .standard 2
  | peek3 => exact h.fill .standard 3
  | checkpoint =>
    refine ⟨h.tokens, List.pairwise_cons.mpr ⟨fun mark hmark => ?_, h.marks⟩⟩
    rcases List.mem_cons.mp hmark with rfl | hmark
    · exact List.suffix_refl _
    · exact (List.pairwise_cons.mp h.marks).1 mark hmark
  | restore =>
    obtain ⟨state, marks⟩ := r
    cases marks with
    | nil => exact h
    | cons earlier marks =>
      obtain ⟨hbehind, hmarks⟩ := List.pairwise_cons.mp h.marks
      have hback := TokenStream.behind_rewindTo (hbehind earlier List.mem_cons_self)
      refine ⟨h.tokens.rewindTo _, List.pairwise_cons.mpr ⟨fun mark hmark => ?_, ?_⟩⟩
      · show mark.tokens.behind <:+ (state.tokens.rewindTo earlier.tokens.count).behind
        rw [hback]
        exact (List.pairwise_cons.mp hmarks).1 mark hmark
      · exact (List.pairwise_cons.mp hmarks).2

/-! ### Steps -/

/-- A step of a reader is one of reading that keeps no token. -/
theorem Sound.step_plain (h : r.Sound source) (op : TokenOp) :
    PlainReader.step source op r.plain = ((r.step op).1, (r.step op).2.plain) := by
  have hread : ∀ mode, (r.withTokens (r.state.tokens.advance mode).2).plain =
      { r.plain with offset := (tokenAt source mode r.state.tokens.lastEnd).span.stop } :=
    fun mode => congrArg (PlainReader.mk · _) (h.tokens.lastEnd_advance mode)
  have h' := h.tokens.after .standard
  have h'' := h'.after .standard
  cases op with
  | peek mode =>
    rw [step_peek]
    show (TokenAnswer.tokens [tokenAt source mode r.state.tokens.lastEnd], r.plain) =
      (.tokens [(r.state.tokens.fill mode 1).tokenAhead 0], r.plain)
    rw [h.tokens.tokenAhead_zero]
  | consume mode =>
    rw [step_consume, h.tokens.advance_fst, hread]
    rfl
  | require mode type =>
    rw [step_require, h.tokens.advance_fst, hread]
    rfl
  | consumeIf type =>
    rw [step_consumeIf, h.tokens.tokenAhead_zero, PlainReader.step]
    by_cases htype : (tokenAt source .standard r.state.tokens.lastEnd).type = type
    · rw [if_pos htype, hread]
      exact if_pos htype
    · rw [if_neg htype]
      exact if_neg htype
  | peek2 =>
    rw [step_peek2, h.tokens.tokenAhead_zero, h.tokens.tokenAhead_succ, h'.tokenAhead_zero,
      h.tokens.lastEnd_advance]
    rfl
  | peek3 =>
    rw [step_peek3, h.tokens.tokenAhead_zero, h.tokens.tokenAhead_succ, h'.tokenAhead_zero,
      h.tokens.tokenAhead_succ, h'.tokenAhead_succ, h''.tokenAhead_zero, h'.lastEnd_advance,
      h.tokens.lastEnd_advance]
    rfl
  | checkpoint => rfl
  | restore =>
    obtain ⟨state, marks⟩ := r
    cases marks with
    | nil => rfl
    | cons earlier marks =>
      have hbehind := (List.pairwise_cons.mp h.marks).1 earlier List.mem_cons_self
      have hback := TokenStream.lastEnd_congr (TokenStream.behind_rewindTo hbehind)
      show (TokenAnswer.nothing, PlainReader.mk earlier.tokens.lastEnd _) =
        (.nothing, ⟨(state.tokens.rewindTo earlier.tokens.count).lastEnd, _⟩)
      rw [hback]
      rfl

/-- A step of a reader is one of its buffer. -/
theorem Sound.step_buffer (h : r.Sound source) (op : TokenOp) :
    r.buffer.step source op = ((r.step op).1, (r.step op).2.buffer) := by
  have h' := h.tokens.after .standard
  have h'' := h'.after .standard
  cases op with
  | peek mode =>
    rw [step_peek, TokenBuffer.step, buffer, h.tokens.forward_buffer, h.tokens.token_readAt]
    show _ = (TokenAnswer.tokens [(r.state.tokens.fill mode 1).tokenAhead 0], _)
    rw [h.tokens.tokenAhead_zero]
    rfl
  | consume mode =>
    rw [step_consume, TokenBuffer.step, buffer, h.tokens.forward_buffer, h.tokens.token_readAt,
      h.tokens.advance_fst]
    rfl
  | require mode type =>
    rw [step_require, TokenBuffer.step, buffer, h.tokens.forward_buffer, h.tokens.token_readAt,
      h.tokens.advance_fst]
    rfl
  | consumeIf type =>
    rw [step_consumeIf, TokenBuffer.step, buffer, h.tokens.forward_buffer, h.tokens.token_readAt,
      h.tokens.tokenAhead_zero]
    dsimp only
    by_cases htype : (tokenAt source .standard r.state.tokens.lastEnd).type = type
    · rw [if_pos htype, decide_eq_true htype, if_pos rfl]
      rfl
    · rw [if_neg htype, decide_eq_false htype, if_neg Bool.false_ne_true]
      rfl
  | peek2 =>
    have hsource := (h'.source_advance .standard).trans (h.tokens.source_advance .standard)
    rw [step_peek2, TokenBuffer.step, buffer, h.tokens.forward_buffer]
    dsimp only
    rw [if_pos rfl, h'.forward_buffer]
    dsimp only
    rw [if_pos rfl, h.tokens.token_readAt, h'.token_readAt, h.tokens.tokenAhead_zero,
      h.tokens.tokenAhead_succ, h'.tokenAhead_zero]
    exact congrArg (Prod.mk _)
      (TokenStream.buffer_fill hsource (h.tokens.row_advance_two .standard) _)
  | peek3 =>
    have hsource := (h''.source_advance .standard).trans
      ((h'.source_advance .standard).trans (h.tokens.source_advance .standard))
    rw [step_peek3, TokenBuffer.step, buffer, h.tokens.forward_buffer]
    dsimp only
    rw [if_pos rfl, h'.forward_buffer]
    dsimp only
    rw [if_pos rfl, h''.forward_buffer]
    dsimp only
    rw [if_pos rfl, h.tokens.token_readAt, h'.token_readAt, h''.token_readAt,
      h.tokens.tokenAhead_zero, h.tokens.tokenAhead_succ, h'.tokenAhead_zero,
      h.tokens.tokenAhead_succ, h'.tokenAhead_succ, h''.tokenAhead_zero]
    exact congrArg (Prod.mk _)
      (TokenStream.buffer_fill hsource (h.tokens.row_advance_three .standard) _)
  | checkpoint => rfl
  | restore =>
    obtain ⟨state, marks⟩ := r
    cases marks with
    | nil => rfl
    | cons earlier marks =>
      have hbehind := (List.pairwise_cons.mp h.marks).1 earlier List.mem_cons_self
      have hcount : (state.tokens.rewindTo earlier.tokens.count).count = earlier.tokens.count :=
        congrArg List.length (TokenStream.behind_rewindTo hbehind)
      have hbuffer := TokenStream.buffer_congr (TokenStream.source_rewindTo _ state.tokens).symm
        (TokenStream.row_rewindTo earlier.tokens.count state.tokens).symm
        (marks.map fun mark => mark.tokens.count)
      rw [hcount] at hbuffer
      exact congrArg (Prod.mk _) hbuffer

end Reader

/-! ## All that is asked -/

/-- What is left after a list of steps. -/
def afterAll {σ : Type} (step : TokenOp → σ → TokenAnswer × σ) (ops : List TokenOp) (start : σ) : σ :=
  ops.foldl (fun s op => (step op s).2) start

theorem afterAll_cons {σ : Type} (step : TokenOp → σ → TokenAnswer × σ) (op : TokenOp)
    (ops : List TokenOp) (start : σ) :
    afterAll step (op :: ops) start = afterAll step ops (step op start).2 := rfl

theorem sound_ofString (source : String) : (Reader.ofString source).Sound source :=
  ⟨TokenStream.ofText_ofString source, List.pairwise_singleton _ _⟩

/-- Steps of a reader are steps of the others, and leave it sound. -/
theorem afterAll_reader {source : String} {r : Reader} (h : r.Sound source) (ops : List TokenOp) :
    (afterAll Reader.step ops r).Sound source ∧
      afterAll (PlainReader.step source) ops r.plain = (afterAll Reader.step ops r).plain ∧
      afterAll (TokenBuffer.step source) ops r.buffer = (afterAll Reader.step ops r).buffer := by
  induction ops generalizing r with
  | nil => exact ⟨h, rfl, rfl⟩
  | cons op ops ih =>
    rw [afterAll_cons, afterAll_cons, afterAll_cons, h.step_plain op, h.step_buffer op]
    exact ih (h.step op)

/-- **Tokens that are kept make no difference.** Whatever was asked for before, in whatever modes tokens
were looked at and wherever it went back to: what is asked for next gets the answer that scanning
the text anew gives from where the last token ended, and the same from a buffer of tokens in a row,
whose lexer stands where the last token of the buffer ends. -/
theorem tokens_as_scanned (source : String) (ops : List TokenOp) :
    let r := afterAll Reader.step ops (.ofString source)
    let plain := afterAll (PlainReader.step source) ops .start
    let b := afterAll (TokenBuffer.step source) ops .start
    (∀ op, (r.step op).1 = (PlainReader.step source op plain).1 ∧
      (b.step source op).1 = (PlainReader.step source op plain).1) ∧
    lastEnd r.state = .ok (plain.offset, r.state) ∧ b.prevEnd = plain.offset ∧
    b.lexer = TokenBuffer.endOf b.tokens := by
  obtain ⟨hsound, hplain, hbuffer⟩ := afterAll_reader (sound_ofString source) ops
  intro r plain b
  have hplain : plain = r.plain := hplain
  have hbuffer : b = r.buffer := hbuffer
  rw [hplain, hbuffer]
  refine ⟨fun op => ?_, rfl, TokenStream.prevEnd_buffer _ _, hsound.tokens.lexer_buffer _⟩
  rw [hsound.step_plain, hsound.step_buffer]
  exact ⟨rfl, rfl⟩

end ModuleBundler
