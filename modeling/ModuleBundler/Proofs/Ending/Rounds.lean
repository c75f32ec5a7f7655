import ModuleBundler.Proofs.PrecedenceClimbing
import ModuleBundler.Proofs.Syntax.Module

/-!
# Loops that come to an end by themselves

A loop of the parser is stopped when a round asks for another one and has read nothing. Here it is
said what the rounds come to if nothing stops them.

* `TokenStream.Reached` : the tokens that a parser of a text can come to;
* `Rounds` : what the rounds of a loop come to, however many they are;
* `Ends` : a reader that is put together so that each of its loops comes to an end;
* `Ends.proceeds` : it goes forward, and none of its loops is ever stopped;
* `Advancing` : a reader that goes past some text with some of its answers;
* `ends_loop`, `ends_loopWhile`, `ends_separatedList` : a loop comes to an end if every round that
  asks for another one goes past some text.
-/

namespace ModuleBundler

open Phrase

/-! ## Tokens that can be come to -/

/-- The tokens that a parser of a text can come to: it looks at tokens ahead and reads them. It goes
on with a template right after a closing brace. -/
inductive TokenStream.Reached (source : String) : TokenStream → Prop
  | start : Reached source (.ofString source)
  | look {s : TokenStream} {mode : LexMode} (count : Nat) (h : Reached source s)
    (hmode : mode ≠ .templateContinue) : Reached source (s.fill mode count)
  | read {s : TokenStream} {mode : LexMode} (h : Reached source s) (hmode : s.Admits mode) :
    Reached source (s.advance mode).2

variable {source : String}

namespace TokenStream.Reached

variable {s : TokenStream}

/-- Tokens that are come to follow each other in the text, and those ahead are no templates. -/
theorem spec (h : s.Reached source) : s.Chained ∧ s.source = .ofString source ∧
    s.size = source.utf8ByteSize ∧ ∀ b ∈ s.ahead, b.mode ≠ .templateContinue := by
  induction h with
  | start => exact ⟨chained_ofString source, rfl, rfl, fun _ hb => nomatch hb⟩
  | @look s mode count _ hmode ih =>
    obtain ⟨hchained, hsource, hsize, hahead⟩ := ih
    refine ⟨hchained.fill mode count, hsource, hsize, fun b hb => ?_⟩
    rcases mem_lookAhead hb with hb | hb
    · exact hahead b hb
    · exact hb ▸ hmode
  | @read s mode _ hmode ih =>
    obtain ⟨hchained, hsource, hsize, hahead⟩ := ih
    obtain ⟨-, -, hsource', hsize', hchained'⟩ := hchained.advance_spec hmode
    exact ⟨hchained', hsource'.trans hsource, hsize'.trans hsize,
      fun b hb => hahead b (ahead_advance_subset mode s hb)⟩

end TokenStream.Reached

section
variable {s : ParserState} (h : s.tokens.Reached source)
include h

theorem steady_of_reached : s.Steady := ⟨h.spec.1, h.spec.2.2.2⟩

theorem whole_of_reached : s.Whole := by
  obtain ⟨hchained, hsource, hsize, -⟩ := h.spec
  have hleads := hchained.leads_position
  rw [hsource] at hleads
  exact (ParserState.Whole.ofString source).later hchained hsize hleads

end

/-! ## Text that is gone past -/

/-- Some tokens are read, each of them with a text, and the last one ends further on. -/
structure Advances (s s' : ParserState) : Prop where
  tokens : ∃ tokens ≠ [], s'.tokens.behind = tokens.reverse ++ s.tokens.behind ∧
    ∀ b ∈ tokens, b.token.type.IsProper ∧ b.token.span.start < b.token.span.stop
  lastEnd : s.tokens.lastEnd < s'.tokens.lastEnd

/-- It is the tokens that were read which count. -/
theorem Advances.ofTokens {s s' t t' : ParserState} (h : Advances s s')
    (hs : t.tokens.behind = s.tokens.behind) (hs' : t'.tokens.behind = s'.tokens.behind) :
    Advances t t' := by
  obtain ⟨htokens, hlastEnd⟩ := h
  unfold TokenStream.lastEnd at hlastEnd
  refine ⟨?_, ?_⟩
  · rwa [hs, hs']
  · unfold TokenStream.lastEnd
    rwa [hs, hs']

/-- The text of a phrase that is not nullable is gone past. -/
theorem TextRead.advances {c : Setting} {o : Outline} {p : Phrase} {s s' : ParserState}
    (hs : s.Steady) (h : TextRead c o s s') (hderives : Derives syntaxRules p o)
    (hp : p.isNullable = false) (hproper : p.isProper = true) : Advances s s' := by
  have hne := hderives.tokens_ne_nil syntaxRules_not_nullable hp
  have hall := hderives.all_tokens syntaxRules_isProper hproper
  have hpositive : ∀ b ∈ o.tokens, b.token.span.start < b.token.span.stop :=
    fun b hb => h.chain.start_lt_stop hb (hall b hb)
  refine ⟨⟨o.tokens, hne, h.behind, fun b hb => ⟨hall b hb, hpositive b hb⟩⟩, ?_⟩
  obtain ⟨b, hb⟩ := List.exists_mem_of_ne_nil _ hne
  have hwithin := h.chain.within_extent hb
  have hmode : LexMode.standard ≠ .templateContinue := by decide
  rw [h.extent_eq hne hmode, s.next_start hmode] at hwithin
  calc s.tokens.lastEnd = s.place.offset := hs.chained.lastEnd_eq
    _ ≤ s.place.tokenStart.offset := (leads_tokenStart _).offset_le
    _ ≤ b.token.span.start := hwithin.1
    _ < b.token.span.stop := hpositive b hb
    _ ≤ s'.tokens.lastEnd := hwithin.2

theorem Parsed.advances {p : Phrase} {c : Setting} {s s' : ParserState} (h : Parsed p c s s')
    (hs : s.Steady) (hp : p.isNullable = false) (hproper : p.isProper = true) : Advances s s' := by
  obtain ⟨o, hderives, htext⟩ := h
  exact htext.advances hs hderives hp hproper

theorem Parses.advances {α : Type} {reader : Parse α} {form : α → Phrase} {c : Setting}
    {s : ParserState} (h : Parses s c reader form) (hs : s.Steady)
    (hform : ∀ a, (form a).isNullable = false ∧ (form a).isProper = true) :
    Answers s reader fun _ s' => Advances s s' :=
  Answers.mono h fun a _ hparsed => hparsed.advances hs (hform a).1 (hform a).2

theorem Parsed.offset_lt {p : Phrase} {c : Setting} {s s' : ParserState} (h : Parsed p c s s')
    (hs : s.Steady) (hp : p.isNullable = false) (hproper : p.isProper = true) :
    s.place.offset < s'.place.offset := by
  have hlt := (h.advances hs hp hproper).lastEnd
  rwa [hs.chained.lastEnd_eq, h.steady.chained.lastEnd_eq] at hlt

/-! ## Rounds -/

/-- What the rounds of a loop come to, however many they are. -/
inductive Rounds {β α : Type} (round : β → Parse (Round β α)) :
    β → ParserState → Except SyntaxError (α × ParserState) → Prop
  | fail {b : β} {s : ParserState} {e : SyntaxError} (h : round b s = .error e) :
    Rounds round b s (.error e)
  | done {b : β} {s s' : ParserState} {a : α} (h : round b s = .ok (.done a, s')) :
    Rounds round b s (.ok (a, s'))
  | again {b b' : β} {s s' : ParserState} {outcome : Except SyntaxError (α × ParserState)}
    (h : round b s = .ok (.again b', s')) (more : Rounds round b' s' outcome) :
    Rounds round b s outcome

/-- The error of a loop that is stopped as a round has read nothing. Every other error at the end of
a text names the token that it found there. -/
def SyntaxError.IsStall (e : SyntaxError) : Prop := e.cause = .unexpectedEnd ∧ e.actual = none

/-- The parser goes on in the text, or it fails, though not as it was stopped. -/
def Proceeds (source : String) {α : Type} (s : ParserState) :
    Except SyntaxError (α × ParserState) → Prop
  | .ok (_, s') => s'.tokens.Reached source ∧ s.place.Leads s'.place
  | .error e => ¬ e.IsStall

section
variable {α β : Type} {round : β → Parse (Round β α)} {b : β} {s : ParserState}
  {outcome : Except SyntaxError (α × ParserState)}

/-- If every round goes on in the text, so do all together. -/
theorem Rounds.proceeds (h : Rounds round b s outcome) (hs : s.tokens.Reached source)
    (hround : ∀ b s, s.tokens.Reached source → Proceeds source s (round b s)) :
    Proceeds source s outcome := by
  induction h with
  | @fail b s e h =>
    have hfail := hround b s hs
    rwa [h] at hfail
  | @done b s s' a h =>
    have hdone := hround b s hs
    rwa [h] at hdone
  | @again b b' s s' outcome h _ ih =>
    have hagain := hround b s hs
    rw [h] at hagain
    have hrest := ih hagain.1
    cases outcome with
    | error e => exact hrest
    | ok answer => exact ⟨hrest.1, hagain.2.trans hrest.2⟩

/-- A loop gives what its rounds come to if each that asks for another one goes past some text. -/
theorem rounds_loop
    (hround : ∀ b s, s.tokens.Reached source → Proceeds source s (round b s))
    (hpast : ∀ b b' s s', s.tokens.Reached source → round b s = .ok (.again b', s') →
      s.place.offset < s'.place.offset) (b : β) (s : ParserState) (hs : s.tokens.Reached source) :
    Rounds round b s (loop round b s) := by
  fun_induction loop round b s with
  | case1 b s e h => exact .fail h
  | case2 b s a s' h => exact .done h
  | case3 b s b' s' h _ ih =>
    have hagain := hround b s hs
    rw [h] at hagain
    exact .again h (ih hagain.1)
  | case4 b s b' s' h hstall =>
    -- The round has gone past some text, so that less of it is left.
    have hagain := hround b s hs
    rw [h] at hagain
    have hsize : s'.tokens.size = s.tokens.size :=
      hagain.1.spec.2.2.1.trans hs.spec.2.2.1.symm
    exact absurd ((whole_of_reached hs).remaining_lt (whole_of_reached hagain.1) hsize
      (hpast b b' s s' hs h)) hstall

end

/-! ## Readers whose loops come to an end -/

/-- A reader that is put together of single tokens, what is recorded, other readers in a row and on
trial, and loops, each of which comes to an end wherever the parser of the text can be. -/
inductive Ends (source : String) : {α : Type} → Parse α → Prop
  /-- No token is looked at or read. -/
  | still {α : Type} {p : Parse α} (tokens : ∀ s a s', p s = .ok (a, s') → s'.tokens = s.tokens)
    (errors : ∀ s e, p s = .error e → ¬ e.IsStall) : Ends source p
  | peekIn {mode : LexMode} (hmode : mode ≠ .templateContinue) : Ends source (peekIn mode)
  | peek2 : Ends source peek2
  | consumeIn {mode : LexMode} (hmode : mode ≠ .templateContinue) : Ends source (consumeIn mode)
  /-- The text of a template goes on after the brace that was read just before. -/
  | templateContinue {α : Type} {rest : Token → Parse α} (h : ∀ t, Ends source (rest t)) :
    Ends source (require .braceClose >>= fun _ =>
      ModuleBundler.consumeIn .templateContinue >>= rest)
  | bind {α β : Type} {p : Parse α} {f : α → Parse β} (hp : Ends source p)
    (hf : ∀ a, Ends source (f a)) : Ends source (p >>= f)
  | attempt {α : Type} {reading : Parse (Option α)} (h : Ends source reading) :
    Ends source (attempt reading)
  | succeeds {reading : Parse Unit} (h : Ends source reading) : Ends source (succeeds reading)
  /-- The loop gives what its rounds come to. -/
  | loop {β α : Type} {round : β → Parse (Round β α)} {b : β} (h : ∀ b, Ends source (round b))
    (ends : ∀ b s, s.tokens.Reached source → Rounds round b s (loop round b s)) :
    Ends source (loop round b)

section
variable {α β : Type} {s : ParserState}

theorem Proceeds.bind {p : Parse α} {f : α → Parse β} (hp : Proceeds source s (p s))
    (hf : ∀ a s', p s = .ok (a, s') → s'.tokens.Reached source → Proceeds source s' (f a s')) :
    Proceeds source s ((p >>= f) s) := by
  rw [parse_bind]
  cases h : p s with
  | error e =>
    rw [h] at hp
    exact hp
  | ok answer =>
    obtain ⟨a, s'⟩ := answer
    rw [h] at hp
    have hrest := hf a s' h hp.1
    show Proceeds source s (f a s')
    cases hout : f a s' with
    | error e =>
      rw [hout] at hrest
      exact hrest
    | ok answer =>
      rw [hout] at hrest
      exact ⟨hrest.1, hp.2.trans hrest.2⟩

theorem proceeds_consumeIn {mode : LexMode} (hs : s.tokens.Reached source)
    (hmode : s.tokens.Admits mode) : Proceeds source s (consumeIn mode s) := by
  obtain ⟨-, hbehind, -⟩ := hs.spec.1.advance_spec hmode
  have hplace : (s.tokens.advance mode).2.position = (nextToken mode s.place).2 := by
    rw [TokenStream.position, hbehind]
    rfl
  have hleads : s.place.Leads (s.tokens.advance mode).2.position :=
    hplace ▸ leads_nextToken mode s.place
  exact ⟨hs.read hmode, hleads⟩

theorem proceeds_look {mode : LexMode} (count : Nat) (hs : s.tokens.Reached source)
    (hmode : mode ≠ .templateContinue) (a : α) :
    Proceeds source s (.ok (a, { s with tokens := s.tokens.fill mode count })) := by
  have hplace : ParserState.place { s with tokens := s.tokens.fill mode count } = s.place :=
    (hs.spec.1.stays_fill mode count).position
  exact ⟨hs.look count hmode, hplace ▸ .refl _⟩

end

/-- A reader whose loops come to an end goes on in the text, and is never stopped. -/
theorem Ends.proceeds {α : Type} {p : Parse α} (h : Ends source p) {s : ParserState}
    (hs : s.tokens.Reached source) : Proceeds source s (p s) := by
  induction h generalizing s with
  | @still _ p htokens herrors =>
    cases h : p s with
    | error e => exact herrors s e h
    | ok answer =>
      have heq := htokens s answer.1 answer.2 h
      have hplace : answer.2.place = s.place := congrArg TokenStream.position heq
      exact ⟨heq ▸ hs, hplace ▸ .refl _⟩
  | peekIn hmode => exact proceeds_look 1 hs hmode _
  | peek2 => exact proceeds_look 2 hs (by decide) _
  | consumeIn hmode => exact proceeds_consumeIn hs fun h => absurd h hmode
  | templateContinue _ ih =>
    refine Proceeds.bind ?_ fun t s₁ hclose hs₁ => ?_
    · refine Proceeds.bind (proceeds_consumeIn hs nofun) fun t s₁ _ hs₁ => ?_
      split
      · exact ⟨hs₁, .refl _⟩
      · exact fun hstall => nomatch hstall.1
    · obtain ⟨ht, htype, htaken⟩ := (steady_of_reached hs).taken_requireIn (by decide) _ hclose
      have hadmits : s₁.tokens.Admits .templateContinue := by
        rw [TokenStream.Admits, htaken.behind]
        exact fun _ => ⟨_, rfl, ht ▸ htype⟩
      exact Proceeds.bind (proceeds_consumeIn hs₁ hadmits) fun t s₂ _ hs₂ => ih t hs₂
  | bind _ _ ihp ihf => exact Proceeds.bind (ihp hs) fun a s' _ hs' => ihf a hs'
  | @attempt _ reading _ ih =>
    have hgoes := ih hs
    unfold ModuleBundler.attempt
    split
    · exact ⟨hs, .refl _⟩
    · exact hgoes
  | @succeeds reading _ ih =>
    have hgoes := ih hs
    unfold ModuleBundler.succeeds
    split
    · rename_i hread
      rw [hread] at hgoes
      exact hgoes
    · exact ⟨hs, .refl _⟩
  | loop _ ends ih => exact (ends _ s hs).proceeds hs fun b s hs => ih b hs

/-! ## Readers that are put together -/

section
variable {α β : Type}

theorem ends_pure (a : α) : Ends source (pure a : Parse α) :=
  .still (fun _ _ _ h => by cases h; rfl) fun _ _ h => nomatch h

theorem ends_throw {e : SyntaxError} (he : ¬ e.IsStall) : Ends source (throw e : Parse α) :=
  .still (fun _ _ _ h => nomatch h) fun _ _ h => by cases h; exact he

theorem ends_fail (t : Token) (cause : SyntaxError.Cause) : Ends source (t.fail cause : Parse α) :=
  ends_throw fun h => nomatch h.2

theorem Ends.map {p : Parse α} (h : Ends source p) (f : α → β) : Ends source (f <$> p) := by
  rw [← bind_pure_comp]
  exact h.bind fun _ => ends_pure _

theorem ends_ite {c : Prop} [Decidable c] {p q : Parse α} (hp : Ends source p)
    (hq : Ends source q) : Ends source (if c then p else q) := by
  split
  · exact hp
  · exact hq

/-- A reader after another one that may be left out. -/
theorem ends_optional {c : Prop} [Decidable c] {first : Parse α} {rest : Parse β}
    (hfirst : Ends source first) (hrest : Ends source rest) :
    Ends source (if c then first >>= fun _ => rest else rest) :=
  ends_ite (hfirst.bind fun _ => hrest) hrest

/-- A reader after one of two others. -/
theorem ends_choice {c : Prop} [Decidable c] {p q : Parse α} {rest : α → Parse β}
    (hp : Ends source p) (hq : Ends source q) (hrest : ∀ a, Ends source (rest a)) :
    Ends source (if c then p >>= rest else q >>= rest) := ends_ite (hp.bind hrest) (hq.bind hrest)

/-- What is recorded changes no token, and what is asked for neither. -/
theorem ends_record {p : Parse α}
    (h : ∀ s : ParserState, ∃ a s', p s = .ok (a, s') ∧ s'.tokens = s.tokens) : Ends source p := by
  refine .still (fun s a s' heq => ?_) fun s e heq => ?_ <;> obtain ⟨b, s'', hok, htokens⟩ := h s
  · cases hok.symm.trans heq
    exact htokens
  · cases hok.symm.trans heq

theorem ends_liftM {x : Except SyntaxError α} (h : ∀ e, x = .error e → ¬ e.IsStall) :
    Ends source (liftM x : Parse α) := by
  cases x with
  | error e => exact ends_throw (h e rfl)
  | ok a => exact ends_pure a

theorem ends_modify {f : ParserState → ParserState} (h : ∀ s, (f s).tokens = s.tokens) :
    Ends source (modify f : Parse Unit) := ends_record fun s => ⟨(), f s, rfl, h s⟩

theorem ends_enterScope (parent : ScopeId) (type : ScopeType) :
    Ends source (enterScope parent type) := ends_record fun _ => ⟨_, _, rfl, rfl⟩

theorem ends_declare (ctx : Context) (name : String) (span : Span) (kind : DeclarationKind)
    (shorthand : Bool) : Ends source (declare ctx name span kind shorthand) :=
  ends_modify fun _ => rfl

theorem ends_refer (ctx : Context) (name : String) (span : Span) (shorthand : Bool) :
    Ends source (refer ctx name span shorthand) := ends_modify fun _ => rfl

theorem ends_markSideEffect (ctx : Context) : Ends source (markSideEffect ctx) :=
  ends_modify fun _ => rfl

theorem ends_lastEnd : Ends source lastEnd := ends_record fun s => ⟨_, s, rfl, rfl⟩

theorem ends_peek : Ends source peek := .peekIn (by decide)

theorem ends_consume : Ends source consume := .consumeIn (by decide)

theorem ends_slash : Ends source (consumeIn .slashIsRegex) := .consumeIn (by decide)

theorem ends_consumeIf (type : TokenType) : Ends source (consumeIf type) :=
  ends_peek.bind fun _ => ends_ite (ends_consume.bind fun _ => ends_pure _) (ends_pure _)

theorem ends_requireIn {mode : LexMode} (hmode : mode ≠ .templateContinue) (type : TokenType) :
    Ends source (requireIn mode type) :=
  (Ends.consumeIn hmode).bind fun t => ends_ite (ends_pure _) (ends_fail t _)

theorem ends_require (type : TokenType) : Ends source (require type) :=
  ends_requireIn (by decide) type

theorem ends_requireThat (accepts : TokenType → Bool) (what : String) :
    Ends source (requireThat accepts what) :=
  ends_consume.bind fun t => ends_ite (ends_pure _) (ends_fail t _)

theorem ends_requireSemicolon : Ends source requireSemicolon := by
  refine ends_peek.bind fun t => ?_
  split
  · exact ends_consume.bind fun _ => ends_pure _
  · exact ends_pure _
  · exact ends_pure _
  · exact ends_ite (ends_pure _) (ends_fail t _)

end

/-! ## Readers that go past some text -/

/-- With such an answer the reader has gone past some text. -/
def Advancing (source : String) {α : Type} (p : Parse α) (accepts : α → Prop) : Prop :=
  ∀ ⦃s a s'⦄, s.tokens.Reached source → p s = .ok (a, s') → accepts a →
    s.place.offset < s'.place.offset

section
variable {α β : Type} {p : Parse α} {f : α → Parse β} {accepts : β → Prop}

theorem advancing_pure {b : β} (h : ¬ accepts b) : Advancing source (pure b) accepts := by
  intro s a s' _ heq ha
  cases heq
  exact absurd ha h

theorem advancing_fail (t : Token) (cause : SyntaxError.Cause) :
    Advancing source (t.fail cause : Parse β) accepts := fun _ _ _ _ h => nomatch h

theorem advancing_ite {c : Prop} [Decidable c] {p q : Parse β}
    (hp : Advancing source p accepts) (hq : Advancing source q accepts) :
    Advancing source (if c then p else q) accepts := by
  split
  · exact hp
  · exact hq

/-- The first of two readers goes past some text, or else the second does. -/
theorem Advancing.orElse {first : α → Prop} (hp : Advancing source p first) (hends : Ends source p)
    (hyes : ∀ a, first a → Ends source (f a))
    (hno : ∀ a, ¬ first a → Advancing source (f a) accepts) :
    Advancing source (p >>= f) accepts := by
  intro s b s'' hs heq hb
  obtain ⟨a, s', h, h'⟩ := stateBind_eq_ok.mp heq
  have hgoes := hends.proceeds hs
  rw [h] at hgoes
  by_cases ha : first a
  · have hrest := (hyes a ha).proceeds hgoes.1
    rw [h'] at hrest
    exact Nat.lt_of_lt_of_le (hp hs h ha) hrest.2.offset_le
  · exact Nat.lt_of_le_of_lt hgoes.2.offset_le (hno a ha hgoes.1 h' hb)

/-- The first of two readers goes past some text. -/
theorem Advancing.bind (hp : Advancing source p fun _ => True) (hends : Ends source p)
    (hf : ∀ a, Ends source (f a)) : Advancing source (p >>= f) accepts :=
  hp.orElse hends (fun a _ => hf a) fun _ h => absurd trivial h

theorem Advancing.map (hp : Advancing source p fun _ => True) (hends : Ends source p) (f : α → β) :
    Advancing source (f <$> p) accepts := by
  rw [← bind_pure_comp]
  exact hp.bind hends fun _ => ends_pure _

/-- The second of two readers goes past some text. -/
theorem Ends.bindAdvancing (hp : Ends source p) (hf : ∀ a, Advancing source (f a) accepts) :
    Advancing source (p >>= f) accepts := by
  have hnever : Advancing source p fun _ => False := fun _ _ _ _ _ h => h.elim
  exact hnever.orElse hp (fun _ h => h.elim) fun a _ => hf a

/-- What reads the text of a phrase that is not nullable goes past that. -/
theorem advancing_of_parses {form : α → Phrase} {c : Setting}
    (h : ∀ s : ParserState, s.Steady → Parses s c p form)
    (hform : ∀ a, (form a).isNullable = false ∧ (form a).isProper = true) :
    Advancing source p fun _ => True := by
  intro s a s' hs heq _
  have hsteady := steady_of_reached hs
  exact (h s hsteady heq).offset_lt hsteady (hform a).1 (hform a).2

theorem isProper_tok {type : TokenType} (h : type.IsProper) : (tok type).isProper = true := by
  simp [tok, Phrase.isProper, Ne.symm h.1, Ne.symm h.2]

theorem isProper_comma : TokenType.comma.IsProper := ⟨nofun, nofun⟩

/-- A token is read if it is of a type. -/
theorem advancing_consumeIf {type : TokenType} (h : type.IsProper) :
    Advancing source (consumeIf type) fun taken => taken = true := by
  intro s taken s' hs heq htaken
  subst htaken
  have hsteady := steady_of_reached hs
  have hparsed : Parsed (tok type) ⟨moduleScope, false⟩ s s' := hsteady.answers_consumeIf type _ heq
  exact hparsed.offset_lt hsteady rfl (isProper_tok h)

/-- Either a token of a type is read, or else something else goes past some text. -/
theorem advancing_consumeIfElse {type : TokenType} (h : type.IsProper) {yes no : Bool → Parse β}
    (hyes : ∀ taken, Ends source (yes taken))
    (hno : ∀ taken, Advancing source (no taken) accepts) :
    Advancing source
      (consumeIf type >>= fun taken => if taken = true then yes taken else no taken) accepts := by
  refine (advancing_consumeIf h).orElse (ends_consumeIf type) (fun taken htaken => ?_)
    fun taken htaken => ?_
  · rw [if_pos htaken]
    exact hyes taken
  · rw [if_neg htaken]
    exact hno taken

end

/-! ## Loops -/

section
variable {α β : Type}

/-- The round asks for another one. -/
def Round.IsAgain : Round β α → Prop
  | .again _ => True
  | .done _ => False

/-- What reads a text of a phrase before it asks for another round goes past that. -/
theorem advancing_of_round {round : Parse (Round β α)} {again : Phrase} {c : Setting}
    (h : ∀ s : ParserState, s.Steady → Answers s round (RoundParsed again c s))
    (hagain : again.isNullable = false) (hproper : again.isProper = true) :
    Advancing source round Round.IsAgain := by
  intro s next s' hs heq hnext
  have hsteady := steady_of_reached hs
  cases next with
  | done a => exact hnext.elim
  | again b =>
    have hparsed : Parsed again c s s' := h s hsteady heq
    exact hparsed.offset_lt hsteady hagain hproper

/-- A loop comes to an end if every round that asks for another one goes past some text. -/
theorem ends_loop {round : β → Parse (Round β α)} (h : ∀ b, Ends source (round b))
    (hround : ∀ b, Advancing source (round b) Round.IsAgain) (b : β) :
    Ends source (loop round b) :=
  .loop h (rounds_loop (fun b _ hs => (h b).proceeds hs) fun b _ _ _ hs heq =>
    hround b hs heq trivial)

theorem ends_loopWhile {round : Parse Bool} (h : Ends source round)
    (hround : Advancing source round (· = true)) : Ends source (loopWhile round) := by
  refine ends_loop (fun _ => h.bind fun _ => ends_ite (ends_pure _) (ends_pure _)) (fun _ => ?_) ()
  refine hround.orElse h (fun more hmore => ?_) fun more hmore => ?_
  · exact ends_ite (ends_pure _) (ends_pure _)
  · rw [if_neg hmore]
    exact advancing_pure id

/-- After an item there is a separator, or the closing token. -/
theorem ends_separator (separator close : TokenType) : Ends source (do
    if ← consumeIf separator then pure true
    else
      let _ ← require close
      pure false) :=
  (ends_consumeIf _).bind fun _ => ends_ite (ends_pure _)
    ((ends_require _).bind fun _ => ends_pure _)

theorem advancing_separator {separator : TokenType} (h : separator.IsProper) (close : TokenType) :
    Advancing source (do
      if ← consumeIf separator then pure true
      else
        let _ ← require close
        pure false) (· = true) :=
  advancing_consumeIfElse h (fun _ => ends_pure _) fun _ =>
    (ends_require _).bindAdvancing fun _ => advancing_pure nofun

theorem ends_separatedList {separator : TokenType} (h : separator.IsProper) (close : TokenType)
    {item : Parse Unit} (hitem : Ends source item) :
    Ends source (separatedList separator close item) := by
  refine ends_loopWhile ((ends_consumeIf _).bind fun _ => ends_ite (ends_pure _) ?_) ?_
  · exact hitem.bind fun _ => ends_separator separator close
  · refine (ends_consumeIf _).bindAdvancing fun _ => advancing_ite (advancing_pure nofun) ?_
    exact hitem.bindAdvancing fun _ => advancing_separator h close

end

end ModuleBundler
