import ModuleBundler.Grammar.Nesting
import ModuleBundler.Proofs.Syntax.TextRead
import ModuleBundler.Proofs.TokenText

/-!
# Readers that read phrases

* `Parsed` : from one state to another the text of a phrase is read, and what it has is recorded;
* `Parses` : a reader does so whenever it has an answer;
* `Parses.andThen`, `parses_peekIn`, `parses_consumeIf`, `parses_enterScope`, `parses_loop`, … :
  what readers read that are put together;
* `parses_tok`, `parses_require`, … : single tokens;
* `Grammar.Conforms` : what is known of the readers that a level of nesting is written over.
-/

namespace ModuleBundler

open Phrase

/-- From one state to another the text of a phrase is read, and what it has is recorded. -/
def Parsed (p : Phrase) (c : Setting) (s s' : ParserState) : Prop :=
  ∃ o, Derives syntaxRules p o ∧ TextRead c o s s'

variable {α β : Type} {c : Setting} {p q : Phrase} {s s₁ s' : ParserState}

/-- The state with one more scope. -/
def ParserState.opening (s : ParserState) (scope : Scope) : ParserState :=
  { s with scopes := s.scopes.push scope }

theorem ParserState.Steady.opening (hs : s.Steady) (scope : Scope) : (s.opening scope).Steady :=
  ⟨hs.chained, hs.ahead⟩

theorem parsed_empty (hs : s.Steady) (c : Setting) : Parsed .empty c s s :=
  ⟨.nil, .empty, (Unread.refl hs).textRead c⟩

namespace Parsed

theorem steady (h : Parsed p c s s') : s'.Steady := by
  obtain ⟨o, -, htext⟩ := h
  exact htext.steady

theorem mono (h : Parsed p c s s') (hpq : ∀ o, Derives syntaxRules p o → Derives syntaxRules q o) :
    Parsed q c s s' := by
  obtain ⟨o, hderives, htext⟩ := h
  exact ⟨o, hpq o hderives, htext⟩

/-- What goes from a token that was read to such does so later on. -/
theorem edges (h : Parsed p c s s') {span : Span} (hspan : TokenEdges s.tokens.behind span) :
    TokenEdges s'.tokens.behind span := by
  obtain ⟨o, -, htext⟩ := h
  exact htext.edges hspan

/-- Nothing is read before. -/
theorem after (h : Parsed p c s₁ s') (hunread : Unread s s₁) : Parsed p c s s' := by
  obtain ⟨o, hderives, htext⟩ := h
  exact ⟨o, hderives, (hunread.textRead c).trans htext⟩

/-- Nothing is read afterwards. -/
theorem before (h : Parsed p c s s₁) (hunread : Unread s₁ s') : Parsed p c s s' := by
  obtain ⟨o, hderives, htext⟩ := h
  refine ⟨o, hderives, ?_⟩
  rw [← Outline.append_nil o]
  exact htext.trans (hunread.textRead c)

theorem cons {rest : List Phrase} (h : Parsed p c s s₁) (hrest : Parsed (row rest) c s₁ s') :
    Parsed (row (p :: rest)) c s s' := by
  obtain ⟨o, hderives, htext⟩ := h
  obtain ⟨o', hderives', htext'⟩ := hrest
  exact ⟨o ++ o', .seq hderives hderives', htext.trans htext'⟩

theorem single (h : Parsed p c s s') : Parsed (row [p]) c s s' :=
  h.cons (parsed_empty h.steady c)

theorem oneOf {phrases : List Phrase} (h : Parsed p c s s') (hp : p ∈ phrases) :
    Parsed (.oneOf phrases) c s s' := h.mono fun _ => .oneOf hp

theorem some (h : Parsed p c s s') : Parsed (optional p) c s s' := h.mono fun _ => .left

theorem more (h : Parsed (.many p) c s s₁) (h' : Parsed p c s₁ s') : Parsed (.many p) c s s' := by
  obtain ⟨o, hderives, htext⟩ := h
  obtain ⟨o', hderives', htext'⟩ := h'
  exact ⟨o ++ o', .more hderives hderives', htext.trans htext'⟩

theorem rule {n : Nonterminal} (h : Parsed (syntaxRules n) c s s') :
    Parsed (.rule n) c s s' := h.mono fun _ => .rule

/-- A text is a part of its own, within the scope around it. -/
theorem part {kind : NodeKind} (hkind : kind.scopeType? = none)
    (h : Parsed p ⟨c.scope, kind.isDeferred || c.isDeferred⟩ s s') :
    Parsed (.node kind p) c s s' := by
  obtain ⟨o, hderives, htext⟩ := h
  refine ⟨_, .node hderives, .node s rfl ?_ ?_⟩
  · simp [NodeKind.opened, hkind]
  · simpa [NodeKind.inside, hkind] using htext

/-- A text is a part of its own, with a scope of its own. -/
theorem scope {kind : NodeKind} {type : ScopeType} (hkind : kind.scopeType? = .some type)
    (h : Parsed p ⟨s.scopes.size, kind.isDeferred || c.isDeferred⟩
      (s.opening ⟨.some c.scope, type⟩) s') :
    Parsed (.node kind p) c s s' := by
  obtain ⟨o, hderives, htext⟩ := h
  have hinside : kind.inside c.scope s.scopes.size = s.scopes.size := by
    simp [NodeKind.inside, hkind]
  rw [← hinside] at htext
  refine ⟨_, .node hderives, .node _ ?_ ?_ htext⟩
  · rfl
  · simp [ParserState.opening, NodeKind.opened, hkind]

end Parsed

theorem parsed_none (hs : s.Steady) (p : Phrase) (c : Setting) : Parsed (optional p) c s s :=
  (parsed_empty hs c).mono fun _ => .right

theorem parsed_many (hs : s.Steady) (p : Phrase) (c : Setting) : Parsed (.many p) c s s :=
  ⟨.nil, .none, (Unread.refl hs).textRead c⟩

/-- A single token is read. -/
theorem Taken.word {b : BufferedToken} (h : Taken b s s') (hb : b.mode ≠ .templateContinue)
    {accepts : TokenType → Bool} (haccepts : accepts b.token.type = true) (c : Setting) :
    Parsed (word accepts) c s s' := ⟨_, .token haccepts, h.textRead hb c⟩

theorem Taken.tok {b : BufferedToken} (h : Taken b s s') (hb : b.mode ≠ .templateContinue)
    {type : TokenType} (htype : b.token.type = type) (c : Setting) : Parsed (tok type) c s s' :=
  h.word hb (decide_eq_true htype) c

theorem ReadFrom.start_le_stop {place : Cursor} {tokens : List BufferedToken}
    (h : ReadFrom place tokens) {b : BufferedToken} (hb : b ∈ tokens) :
    b.token.span.start ≤ b.token.span.stop := (h.between b hb).start_le_stop

/-- A token that has a meaning is not empty. -/
theorem ReadFrom.start_lt_stop {place : Cursor} {tokens : List BufferedToken}
    (h : ReadFrom place tokens) {b : BufferedToken} (hb : b ∈ tokens)
    (hproper : b.token.type.IsProper) : b.token.span.start < b.token.span.stop := by
  obtain ⟨start, -, hread⟩ := h.exists_readAt hb
  rw [hread] at hproper ⊢
  exact nextToken_lt hproper.1 hproper.2

/-! ## Readers -/

/-- Whenever the reader has an answer, it has read a text of the form that goes with that. -/
def Parses (s : ParserState) (c : Setting) (reader : Parse α) (form : α → Phrase) : Prop :=
  Answers s reader fun a s' => Parsed (form a) c s s'

variable {reader : Parse α} {form : α → Phrase}

theorem parses_pure {a : α} (h : Parsed (form a) c s s) : Parses s c (pure a) form :=
  answers_pure h

/-- Nothing is left to read. -/
theorem parses_done (hs : s.Steady) (a : α) : Parses s c (pure a) fun _ => row [] :=
  parses_pure (parsed_empty hs c)

theorem parses_fail (t : Token) (cause : SyntaxError.Cause) :
    Parses s c (t.fail cause : Parse α) form := answers_fail t cause

theorem Parses.mono {form' : α → Phrase} (h : Parses s c reader form)
    (hform : ∀ a o, Derives syntaxRules (form a) o → Derives syntaxRules (form' a) o) :
    Parses s c reader form' := Answers.mono h fun a _ hparsed => hparsed.mono (hform a)

/-- A text of one form and then one of another. -/
theorem Parses.andThen {f : α → Parse β} {rest : β → List Phrase}
    (hp : Parses s c reader fun _ => p)
    (hf : ∀ a s₁, s₁.Steady → Parses s₁ c (f a) fun b => row (rest b)) :
    Parses s c (reader >>= f) fun b => row (p :: rest b) :=
  Answers.bind hp fun a _ h => Answers.mono (hf a _ h.steady) fun _ _ => h.cons

/-- The last of some texts. -/
theorem Parses.last (h : Parses s c reader form) : Parses s c reader fun a => row [form a] :=
  Answers.mono h fun _ _ => Parsed.single

/-- A text of a form, after which nothing more is read. -/
theorem Parses.done {f : α → β} (hp : Parses s c reader fun _ => p) :
    Parses s c (reader >>= fun a => pure (f a)) fun _ => p :=
  Answers.bind hp fun _ _ h => answers_pure h

/-- A text goes on after what was read of it. -/
theorem Parsed.andThen {rest : α → List Phrase} (h : Parsed p c s s₁)
    (hrest : s₁.Steady → Parses s₁ c reader fun a => row (rest a)) :
    Answers s₁ reader fun a s' => Parsed (row (p :: rest a)) c s s' :=
  Answers.mono (hrest h.steady) fun _ _ => h.cons

/-- A row that goes on in the same way whatever the reader gives. -/
theorem Parsed.followedBy {rest : List Phrase} (h : Parsed p c s s₁)
    (hrest : s₁.Steady → Parses s₁ c reader fun _ => row rest) :
    Answers s₁ reader fun _ s' => Parsed (row (p :: rest)) c s s' := h.andThen hrest

/-- One of some texts goes on after what was read of it. -/
theorem Parsed.goesOn {rest phrases : List Phrase} (h : Parsed p c s s₁)
    (hmem : row (p :: rest) ∈ phrases) (hrest : s₁.Steady → Parses s₁ c reader fun _ => row rest) :
    Answers s₁ reader fun _ s' => Parsed (.oneOf phrases) c s s' :=
  Answers.mono (h.followedBy hrest) fun _ _ hparsed => hparsed.oneOf hmem

theorem Parses.oneOf {phrases : List Phrase} (h : Parses s c reader fun _ => p)
    (hp : p ∈ phrases) : Parses s c reader fun _ => .oneOf phrases := h.mono fun _ _ => .oneOf hp

theorem Parses.some (h : Parses s c reader fun _ => p) : Parses s c reader fun _ => optional p :=
  h.mono fun _ _ => .left

theorem Parses.rule {n : Nonterminal} (h : Parses s c reader fun _ => syntaxRules n) :
    Parses s c reader fun _ => .rule n := h.mono fun _ _ => .rule

theorem parses_ite {cond : Prop} [Decidable cond] {yes no : Parse α}
    (hyes : cond → Parses s c yes form) (hno : ¬ cond → Parses s c no form) :
    Parses s c (if cond then yes else no) form := answers_ite hyes hno

/-! ## Looking ahead -/

/-- Nothing is read before. -/
theorem Parses.after (h : Parses s₁ c reader form) (hunread : Unread s s₁) :
    Answers s₁ reader fun a s' => Parsed (form a) c s s' :=
  Answers.mono h fun _ _ hparsed => hparsed.after hunread

theorem ParserState.Steady.unread_peekIn (hs : s.Steady) {mode : LexMode}
    (hmode : mode ≠ .templateContinue) :
    Answers s (peekIn mode) fun t s' => Unread s s' ∧ t = (s.next mode).token := by
  intro t s' heq
  obtain ⟨hpeek, hstays⟩ := hs.chained.peek_spec mode
  cases heq
  refine ⟨.ofTokens hstays fun b hb => ?_, hpeek⟩
  rcases mem_lookAhead hb with hb | rfl
  · exact hs.ahead b hb
  · exact hmode

/-- The next token is looked at. -/
theorem parses_peekIn (hs : s.Steady) {mode : LexMode} (hmode : mode ≠ .templateContinue)
    {f : Token → Parse α} (h : ∀ s₁, s₁.Steady → Parses s₁ c (f (s₁.next mode).token) form) :
    Parses s c (peekIn mode >>= f) form := by
  refine Answers.bind (hs.unread_peekIn hmode) fun t s₁ ⟨hunread, ht⟩ => ?_
  rw [ht, ← hunread.next]
  exact (h s₁ hunread.steady).after hunread

theorem parses_peek (hs : s.Steady) {f : Token → Parse α}
    (h : ∀ s₁, s₁.Steady → Parses s₁ c (f (s₁.next .standard).token) form) :
    Parses s c (peek >>= f) form := parses_peekIn hs (by decide) h

/-- The type of the next token does not depend on what a slash means, if no slash begins it. -/
theorem ParserState.next_type {type : TokenType}
    (h : (s.next .slashIsRegex).token.type = type) (hplain : type.IsPlain) :
    (s.next .standard).token.type = type := by
  subst h
  exact congrArg (fun read => read.1.type) (nextToken_standard hplain)

/-- A text of which a plain token is the first one has it for its first token. -/
theorem Parsed.edges_next (h : Parsed p c s s') (hp : p.isNullable = false)
    (hplain : (s.next .slashIsRegex).token.type.IsPlain) :
    TokenEdges s'.tokens.behind (s.next .slashIsRegex).token.span := by
  obtain ⟨o, hderives, htext⟩ := h
  have hne := hderives.tokens_ne_nil syntaxRules_not_nullable hp
  obtain ⟨b, rest, htokens⟩ := List.exists_cons_of_ne_nil hne
  have hfirst : o.tokens.head? = .some b := by rw [htokens]; rfl
  have htoken : (s.next .slashIsRegex).token = b.token := by
    rw [htext.head_eq hfirst]
    cases hmode : b.mode with
    | standard => exact (congrArg Prod.fst (nextToken_standard hplain)).symm
    | slashIsRegex => rfl
    | templateContinue => exact absurd hmode (htext.first b hfirst)
  rw [htoken, htext.behind, htokens]
  exact tokenEdges_of_mem (by simp)

/-- The token after the next one. -/
def ParserState.afterNext (s : ParserState) : Token :=
  (nextToken .standard (s.next .standard).after).1

theorem Taken.next_eq (h : Taken (s.next .standard) s s') :
    (s'.next .standard).token = s.afterNext := by
  have hplace : s'.place = (s.next .standard).after := by
    unfold ParserState.place TokenStream.position
    rw [h.behind]
  rw [ParserState.next, hplace]
  rfl

theorem TokenStream.Chained.peek2_snd {s : TokenStream} (h : s.Chained) :
    s.peek2.1.2 = (nextToken .standard (readAt .standard s.position).after).1 := by
  obtain ⟨rest, hrest, heq⟩ := lookAhead_succ .standard h.ahead
  obtain ⟨rest', -, heq'⟩ := lookAhead_succ .standard hrest
  change (((lookAhead .standard 2 s.position s.ahead)[1]?).map BufferedToken.token).getD default = _
  rw [heq, heq']
  rfl

theorem ParserState.Steady.unread_peek2 (hs : s.Steady) : Answers s peek2 fun pair s' =>
    Unread s s' ∧ pair = ((s.next .standard).token, s.afterNext) := by
  intro pair s' heq
  obtain ⟨hfst, hstays⟩ := hs.chained.peek2_spec
  have hsnd := hs.chained.peek2_snd
  cases heq
  refine ⟨.ofTokens hstays fun b hb => ?_, Prod.ext hfst hsnd⟩
  rcases mem_lookAhead hb with hb | hb
  · exact hs.ahead b hb
  · rw [hb]
    decide

/-- The next two tokens are looked at. -/
theorem parses_peek2 (hs : s.Steady) {f : Token × Token → Parse α}
    (h : ∀ s₁, s₁.Steady → Parses s₁ c (f ((s₁.next .standard).token, s₁.afterNext)) form) :
    Parses s c (peek2 >>= f) form := by
  refine Answers.bind hs.unread_peek2 fun pair s₁ ⟨hunread, hpair⟩ => ?_
  rw [hpair, ← hunread.next, ParserState.afterNext, ← hunread.next]
  exact (h s₁ hunread.steady).after hunread

/-! ## Single tokens -/

theorem ParserState.Steady.taken_consumeIn (hs : s.Steady) {mode : LexMode}
    (hmode : s.tokens.Admits mode) :
    Answers s (consumeIn mode) fun t s' =>
      t = (s.next mode).token ∧ Taken (s.next mode) s s' := by
  intro t s' heq
  obtain ⟨htoken, hbehind, hsource, -, hchained⟩ := hs.chained.advance_spec hmode
  cases heq
  refine ⟨htoken, ⟨hchained, fun b hb => ?_⟩, hsource, hbehind, rfl, rfl, rfl, rfl, rfl,
    fun hplaced => hplaced.mono (fun b hb => ?_) rfl rfl rfl rfl⟩
  · exact hs.ahead b (ahead_advance_subset mode s.tokens hb)
  · exact hbehind ▸ List.mem_cons_of_mem _ hb

/-- A token is read, and what it is decides what follows. -/
theorem ParserState.Steady.taken_consume (hs : s.Steady) {mode : LexMode}
    (hmode : mode ≠ .templateContinue) :
    Answers s (consumeIn mode) fun t s' =>
      t = (s.next mode).token ∧ Taken (s.next mode) s s' :=
  hs.taken_consumeIn fun h => absurd h hmode

theorem parses_word (hs : s.Steady) {mode : LexMode} (hmode : mode ≠ .templateContinue)
    {accepts : TokenType → Bool} (h : accepts (s.next mode).token.type = true) :
    Parses s c (consumeIn mode) fun _ => word accepts :=
  (hs.taken_consume hmode).mono fun _ _ ⟨_, htaken⟩ => htaken.word hmode h c

theorem parses_tok (hs : s.Steady) {mode : LexMode} (hmode : mode ≠ .templateContinue)
    {type : TokenType} (h : (s.next mode).token.type = type) :
    Parses s c (consumeIn mode) fun _ => tok type := parses_word hs hmode (decide_eq_true h)

theorem ParserState.Steady.taken_requireIn (hs : s.Steady) {mode : LexMode}
    (hmode : mode ≠ .templateContinue) (type : TokenType) :
    Answers s (requireIn mode type) fun t s' =>
      t = (s.next mode).token ∧ t.type = type ∧ Taken (s.next mode) s s' := by
  refine Answers.bind (hs.taken_consume hmode) fun t s₁ ⟨ht, htaken⟩ => ?_
  exact answers_ite (fun htype => answers_pure ⟨ht, htype, htaken⟩) fun _ => answers_fail t _

theorem parses_requireIn (hs : s.Steady) {mode : LexMode} (hmode : mode ≠ .templateContinue)
    (type : TokenType) : Parses s c (requireIn mode type) fun _ => tok type := by
  refine (hs.taken_requireIn hmode type).mono fun t s₁ ⟨ht, htype, htaken⟩ => ?_
  exact htaken.tok hmode (ht ▸ htype) c

theorem parses_require (hs : s.Steady) (type : TokenType) :
    Parses s c (require type) fun _ => tok type := parses_requireIn hs (by decide) type

theorem parses_requireThat (hs : s.Steady) (accepts : TokenType → Bool) (what : String) :
    Parses s c (requireThat accepts what) fun _ => word accepts := by
  refine Answers.bind (hs.taken_consume (by decide)) fun t s₁ ⟨ht, htaken⟩ => ?_
  refine answers_ite (fun htype => answers_pure ?_) fun _ => answers_fail t _
  rw [ht] at htype
  exact htaken.word nofun htype c

/-- A token is read if it is of a type. -/
theorem ParserState.Steady.answers_consumeIf (hs : s.Steady) (type : TokenType) (c : Setting) :
    Answers s (consumeIf type) fun taken s' => if taken = true then Parsed (tok type) c s s' else
      Unread s s' ∧ (s'.next .standard).token.type ≠ type := by
  refine Answers.bind (hs.unread_peekIn (by decide)) fun t s₁ ⟨hunread, ht⟩ => ?_
  rw [ht, ← hunread.next]
  refine answers_ite (fun htype => ?_) fun htype => answers_pure ⟨hunread, htype⟩
  have htaken := parses_tok (c := c) hunread.steady (by decide) htype
  exact Answers.bind (htaken.after hunread) fun _ _ h => answers_pure h

theorem ParserState.Steady.type_of_consumeIf (hs : s.Steady) (type : TokenType) :
    Answers s (consumeIf type) fun taken _ =>
      taken = true → (s.next .standard).token.type = type := by
  refine Answers.bind (hs.unread_peekIn (by decide)) fun t s₁ ⟨_, ht⟩ => ?_
  refine answers_ite (fun htype => ?_) fun _ => answers_pure nofun
  exact Answers.after fun _ _ => answers_pure fun _ => ht ▸ htype

/-- A token is read if it is of a type, and that decides what follows. -/
theorem parses_consumeIf (hs : s.Steady) {type : TokenType} {yes no : Bool → Parse α}
    (hyes : ∀ s₁, Parsed (tok type) c s s₁ →
      Answers s₁ (yes true) fun a s' => Parsed (form a) c s s')
    (hno : ∀ s₁, s₁.Steady → (s₁.next .standard).token.type ≠ type →
      Parses s₁ c (no false) form) :
    Parses s c (consumeIf type >>= fun taken => if taken = true then yes taken else no taken)
      form := by
  refine Answers.bind (hs.answers_consumeIf type c) fun taken s₁ h => ?_
  cases taken with
  | true => exact hyes s₁ h
  | false => exact (hno s₁ h.1.steady h.2).after h.1

theorem parses_optionalToken (hs : s.Steady) (type : TokenType) :
    Parses s c (consumeIf type) fun _ => optional (tok type) := by
  refine Answers.mono (hs.answers_consumeIf type c) fun taken s₁ h => ?_
  cases taken with
  | true => exact Parsed.some h
  | false => exact (parsed_none h.1.steady _ c).after h.1

theorem parses_requireSemicolon (hs : s.Steady) :
    Parses s c requireSemicolon fun _ => semicolon := by
  refine parses_peek hs fun s hs => ?_
  split
  · rename_i htype
    exact (parses_tok hs (by decide) htype).done.some
  · exact parses_pure (parsed_none hs _ c)
  · exact parses_pure (parsed_none hs _ c)
  · exact parses_ite (fun _ => parses_pure (parsed_none hs _ c)) fun _ => parses_fail _ _

/-- Where the last token ends is asked for, and nothing is read. -/
theorem answers_afterLastEnd {f : Nat → Parse α} {property : α → ParserState → Prop}
    (h : ∀ offset, Answers s (f offset) property) : Answers s (lastEnd >>= f) property := by
  intro a s' heq
  obtain ⟨offset, s₁, hoffset, heq⟩ := stateBind_eq_ok.mp heq
  cases hoffset
  exact h s.tokens.lastEnd heq

/-! ## Names and what is done -/

/-- The name that was read is declared. -/
theorem Taken.parses_declare {b : BufferedToken} (h : Taken b s s₁)
    (hb : b.mode ≠ .templateContinue) (hname : b.token.type.isIdentifier = true) (ctx : Context)
    (kind : DeclarationKind) (shorthand : Bool) :
    Answers s₁ (declare ctx (decodeName b.token.text) b.token.span kind shorthand) fun _ s' =>
      Parsed (declared kind shorthand) ctx.setting s s' :=
  (h.answers_declare hb ctx kind shorthand).mono fun _ _ htext => ⟨_, .token hname, htext⟩

/-- The name that was read is used. -/
theorem Taken.parses_refer {b : BufferedToken} (h : Taken b s s₁)
    (hb : b.mode ≠ .templateContinue) (hname : b.token.type.isIdentifier = true) (ctx : Context)
    (shorthand : Bool) :
    Answers s₁ (refer ctx (decodeName b.token.text) b.token.span shorthand) fun _ s' =>
      Parsed (token TokenType.isIdentifier (.uses shorthand)) ctx.setting s s' :=
  (h.answers_refer hb ctx shorthand).mono fun _ _ htext => ⟨_, .token hname, htext⟩

theorem parses_markSideEffect (hs : s.Steady) (ctx : Context) {e : Effect}
    (he : e.isNoted = true) : Parses s ctx.setting (markSideEffect ctx) fun _ => effect e :=
  (answers_markSideEffect hs ctx e he).mono fun _ _ htext => ⟨_, .effect e, htext⟩

theorem parsed_effect (hs : s.Steady) (c : Setting) {e : Effect} (he : e.isNoted = false) :
    Parsed (effect e) c s s := ⟨_, .effect e, textRead_effect hs c he⟩

/-! ## Parts -/

theorem Parses.part {kind : NodeKind} (hkind : kind.scopeType? = none)
    (h : Parses s ⟨c.scope, kind.isDeferred || c.isDeferred⟩ reader form) :
    Parses s c reader fun a => node kind (form a) :=
  Answers.mono h fun _ _ => Parsed.part hkind

/-- A part opens a scope of its own. -/
theorem parses_enterScope {kind : NodeKind} {type : ScopeType}
    (hkind : kind.scopeType? = .some type) (hs : s.Steady) {rest : ScopeId → Parse α}
    (h : ∀ id s₁, s₁.Steady →
      Parses s₁ ⟨id, kind.isDeferred || c.isDeferred⟩ (rest id) form) :
    Parses s c (enterScope c.scope type >>= rest) fun a => node kind (form a) := by
  intro a s' heq
  obtain ⟨id, s₁, heq₁, heq⟩ := stateBind_eq_ok.mp heq
  cases heq₁
  have hparsed := h s.scopes.size _ (hs.opening ⟨.some c.scope, type⟩) heq
  exact hparsed.scope hkind

/-! ## Loops -/

/-- Rounds of a loop and what comes last. -/
theorem parses_loop {round : β → Parse (Round β α)} {again : Phrase} {last : α → Phrase}
    (h : ∀ b s, s.Steady → Answers s (round b) fun next s' =>
      match next with
      | .again _ => Parsed again c s s'
      | .done a => Parsed (last a) c s s') (hs : s.Steady) (b : β) :
    Parses s c (loop round b) fun a => row [many again, last a] := by
  refine answers_loop (fun _ s₁ => Parsed (many again) c s s₁) (fun b s₁ h₁ => ?_) b
    (parsed_many hs again c)
  refine (h b s₁ h₁.steady).mono fun next s₂ h₂ => ?_
  cases next with
  | again b => exact h₁.more h₂
  | done a => exact h₁.cons h₂.single

/-- A round of a loop read a text, or found nothing more. -/
def RoundParsed (again : Phrase) (c : Setting) (s : ParserState) : Round β α → ParserState → Prop
  | .again _, s' => Parsed again c s s'
  | .done _, s' => Unread s s'

theorem RoundParsed.after {again : Phrase} {next : Round β α} (h : RoundParsed again c s₁ next s')
    (hunread : Unread s s₁) : RoundParsed again c s next s' := by
  cases next with
  | again b => exact Parsed.after h hunread
  | done a => exact hunread.trans h

/-- A round of a loop looks at the next token. -/
theorem answers_peekRound (hs : s.Steady) {f : Token → Parse (Round β α)} {again : Phrase}
    (h : ∀ s₁, s₁.Steady →
      Answers s₁ (f (s₁.next .standard).token) (RoundParsed again c s₁)) :
    Answers s (peek >>= f) (RoundParsed again c s) := by
  refine Answers.bind (hs.unread_peekIn (by decide)) fun t s₁ ⟨hunread, ht⟩ => ?_
  rw [ht, ← hunread.next]
  exact (h s₁ hunread.steady).mono fun _ _ hround => hround.after hunread

/-- Rounds of a loop that ends where it finds nothing more. -/
theorem parses_rounds {round : β → Parse (Round β α)} {again : Phrase}
    (h : ∀ b s, s.Steady → Answers s (round b) (RoundParsed again c s)) (hs : s.Steady) (b : β) :
    Parses s c (loop round b) fun _ => many again := by
  refine answers_loop (fun _ s₁ => Parsed (many again) c s s₁) (fun b s₁ h₁ => ?_) b
    (parsed_many hs again c)
  refine (h b s₁ h₁.steady).mono fun next s₂ h₂ => ?_
  cases next with
  | again b => exact h₁.more h₂
  | done a => exact h₁.before h₂

theorem parses_loopWhile {round : Parse Bool} {again last : Phrase}
    (h : ∀ s, s.Steady → Parses s c round fun more => if more = true then again else last)
    (hs : s.Steady) : Parses s c (loopWhile round) fun _ => row [many again, last] := by
  refine parses_loop (fun _ s hs => ?_) hs ()
  refine Answers.bind (h s hs) fun more s₁ h => ?_
  cases more with
  | true => exact answers_pure h
  | false => exact answers_pure h

theorem parses_roundsWhile {round : Parse Bool} {again : Phrase}
    (h : ∀ s, s.Steady → Answers s round fun more s' =>
      if more = true then Parsed again c s s' else Unread s s')
    (hs : s.Steady) : Parses s c (loopWhile round) fun _ => many again := by
  refine parses_rounds (fun _ s hs => ?_) hs ()
  refine Answers.bind (h s hs) fun more s₁ h => ?_
  cases more with
  | true => exact answers_pure h
  | false => exact answers_pure h

/-- What is tried either has an answer or leaves everything as it was. -/
theorem answers_tried {reading : Parse (Option α)} {found : α → ParserState → Prop}
    (h : Answers s reading fun a? s' => ∀ a ∈ a?, found a s') :
    Answers s (attempt reading) fun a? s' => (a? = none ∧ s' = s) ∨ ∃ a ∈ a?, found a s' := by
  intro a? s' heq
  unfold attempt at heq
  split at heq
  · cases heq
    exact .inl ⟨rfl, rfl⟩
  · rename_i hsome
    cases a? with
    | none => exact absurd heq (hsome s')
    | some a => exact .inr ⟨a, rfl, h heq a rfl⟩

/-- After an item there is a separator, or the closing token. -/
theorem Parsed.answers_separator (h : Parsed p c s s₁) (separator close : TokenType)
    {form : Bool → Phrase}
    (hmore : ∀ o, Derives syntaxRules (row [p, tok separator]) o →
      Derives syntaxRules (form true) o)
    (hlast : ∀ o, Derives syntaxRules (row [p, tok close]) o → Derives syntaxRules (form false) o) :
    Answers s₁ (do
      if ← consumeIf separator then pure true
      else
        let _ ← require close
        pure false) fun more s' => Parsed (form more) c s s' := by
  have hrest : Parses s₁ c (do
      if ← consumeIf separator then pure true
      else
        let _ ← require close
        pure false) fun more => if more = true then tok separator else tok close := by
    refine parses_consumeIf h.steady (fun s₂ h => answers_pure h) fun s₂ hs₂ _ => ?_
    exact Answers.bind (parses_require hs₂ close) fun _ _ h => answers_pure h
  refine Answers.mono hrest fun more s' hrest => ?_
  cases more with
  | true => exact (h.cons hrest.single).mono hmore
  | false => exact (h.cons hrest.single).mono hlast

theorem parses_separatedList {separator close : TokenType} {item : Parse Unit}
    (h : ∀ s, s.Steady → Parses s c item fun _ => p) (hs : s.Steady) :
    Parses s c (separatedList separator close item) fun _ => list separator close p := by
  refine parses_loopWhile (fun s hs => ?_) hs
  refine parses_consumeIf hs (fun s₁ hclose => answers_pure (hclose.oneOf (by simp))) ?_
  intro s hs _
  refine Answers.bind (h s hs) fun _ s₁ hitem => ?_
  exact hitem.answers_separator separator close (fun _ h => h) fun _ => .oneOf (by simp)

/-! ## Levels of nesting -/

/-- What the readers of a level read. What begins with `new` is read as such where that word
stands. -/
structure Grammar.Conforms (g : Grammar) : Prop where
  assignExpr : ∀ (ctx : Context) {s : ParserState}, s.Steady →
    Parses s ctx.setting (g.assignExpr ctx) fun _ => rule .assignment
  unaryExpr : ∀ (ctx : Context) {s : ParserState}, s.Steady →
    Parses s ctx.setting (g.unaryExpr ctx) fun _ => rule .unary
  lhsExpr : ∀ (ctx : Context) {s : ParserState}, s.Steady →
    Parses s ctx.setting (g.lhsExpr ctx) fun _ => rule .leftHandSide
  newExpr : ∀ (ctx : Context) {s : ParserState}, s.Steady →
    (s.next .slashIsRegex).token.type = .keywordNew →
      Parses s ctx.setting (g.newExpr ctx) fun _ => rule .new
  pattern : ∀ (ctx : Context) (kind : DeclarationKind) {s : ParserState}, s.Steady →
    Parses s ctx.setting (g.pattern ctx kind) fun _ => rule (.pattern kind)
  statement : ∀ (ctx : Context) {s : ParserState}, s.Steady →
    Parses s ctx.setting (g.statement ctx) fun _ => rule .statement

end ModuleBundler
