import ModuleBundler.Proofs.Reading
import ModuleBundler.Proofs.Syntax.Rules

/-!
# Texts that are read

* `ParserState.Steady` : a state between two tokens, neither inside a template;
* `ParserState.Placed` : what is recorded of imports and exports stands where tokens do;
* `Unread`, `Taken` : from one state to another no token is read, or a single one;
* `ImportCall`, `CallsRecorded` : a dynamic import goes from its word to the end of a token, and is
  recorded after those before it and inside of it;
* `TextRead` : from one state to another the parser reads the text of an outline, and records what
  that has; `TextRead.trans`, `TextRead.node` : texts in a row and parts of a text;
* `Taken.answers_declare`, `Taken.answers_refer`, `answers_markSideEffect`, … : single leaves.
-/

namespace ModuleBundler

open Phrase

/-! ## States -/

/-- A state of a parser between two tokens: the text of a template is not looked at ahead. -/
structure ParserState.Steady (s : ParserState) : Prop where
  chained : s.tokens.Chained
  ahead : ∀ b ∈ s.tokens.ahead, b.mode ≠ .templateContinue

/-- The next token in a mode. -/
def ParserState.next (s : ParserState) (mode : LexMode) : BufferedToken :=
  TokenStream.readAt mode s.place

theorem ParserState.next_start (s : ParserState) {mode : LexMode}
    (hmode : mode ≠ .templateContinue) :
    (s.next mode).token.span.start = s.place.tokenStart.offset := by
  have hspan := (nextToken_span mode s.place).2
  rw [Cursor.tokenStartIn, if_neg hmode] at hspan
  exact congrArg Span.start hspan

/-- The spans of what is recorded of imports and exports go from tokens that were read to such. -/
structure ParserState.Placed (s : ParserState) : Prop where
  requests : ∀ request ∈ s.requests, TokenEdges s.tokens.behind request.span
  imports : ∀ d ∈ s.imports, ∀ specifier ∈ d.specifiers,
    TokenEdges s.tokens.behind specifier.span
  exports : ∀ e ∈ s.exports, TokenEdges s.tokens.behind e.span
  dynamicImports : ∀ d ∈ s.dynamicImports, TokenEdges s.tokens.behind d.request.span

/-- More tokens are read, and nothing of the kind is recorded. -/
theorem ParserState.Placed.mono {s s' : ParserState} (h : s.Placed)
    (hbehind : s.tokens.behind ⊆ s'.tokens.behind) (hrequests : s'.requests = s.requests)
    (himports : s'.imports = s.imports) (hexports : s'.exports = s.exports)
    (hdynamic : s'.dynamicImports = s.dynamicImports) : s'.Placed where
  requests request hrequest := (h.requests request (hrequests ▸ hrequest)).mono hbehind
  imports d hd specifier hspecifier :=
    (h.imports d (himports ▸ hd) specifier hspecifier).mono hbehind
  exports e he := (h.exports e (hexports ▸ he)).mono hbehind
  dynamicImports d hd := (h.dynamicImports d (hdynamic ▸ hd)).mono hbehind

theorem mem_lookAhead {mode : LexMode} {count : Nat} {place : Cursor} {ahead : List BufferedToken}
    {b : BufferedToken} (h : b ∈ TokenStream.lookAhead mode count place ahead) :
    b ∈ ahead ∨ b.mode = mode := by
  induction count generalizing place ahead with
  | zero => exact .inl h
  | succ count ih =>
    cases ahead with
    | nil =>
      rw [TokenStream.lookAhead] at h
      rcases List.mem_cons.mp h with rfl | h
      · exact .inr rfl
      · exact .inr ((ih h).resolve_left List.not_mem_nil)
    | cons next rest =>
      rw [TokenStream.lookAhead] at h
      split at h
      · rcases List.mem_cons.mp h with rfl | h
        · exact .inl List.mem_cons_self
        · exact (ih h).imp_left (List.mem_cons_of_mem _)
      · rcases List.mem_cons.mp h with rfl | h
        · exact .inr rfl
        · exact .inr ((ih h).resolve_left List.not_mem_nil)

/-- What is ahead after a token is read was ahead before. -/
theorem ahead_advance_subset (mode : LexMode) (s : TokenStream) :
    (s.advance mode).2.ahead ⊆ s.ahead := by
  unfold TokenStream.advance TokenStream.fill
  dsimp only
  cases s.ahead with
  | nil => exact List.Subset.refl _
  | cons next rest =>
    by_cases hmode : next.mode = mode
    · simp [TokenStream.lookAhead, hmode]
    · simp [TokenStream.lookAhead, hmode]

/-- No token is read from one state to another, and nothing is recorded of the text. -/
structure Unread (s s' : ParserState) : Prop where
  steady : s'.Steady
  source : s'.tokens.source = s.tokens.source
  behind : s'.tokens.behind = s.tokens.behind
  scopes : s'.scopes = s.scopes
  declarations : s'.declarations = s.declarations
  references : s'.references = s.references
  dynamicImports : s'.dynamicImports = s.dynamicImports
  sideEffects : s'.sideEffects = s.sideEffects
  placed : s.Placed → s'.Placed

namespace Unread

variable {s s' s'' : ParserState}

theorem refl (hs : s.Steady) : Unread s s := ⟨hs, rfl, rfl, rfl, rfl, rfl, rfl, rfl, id⟩

theorem trans (h : Unread s s') (h' : Unread s' s'') : Unread s s'' :=
  ⟨h'.steady, h'.source.trans h.source, h'.behind.trans h.behind, h'.scopes.trans h.scopes,
    h'.declarations.trans h.declarations, h'.references.trans h.references,
    h'.dynamicImports.trans h.dynamicImports, h'.sideEffects.trans h.sideEffects,
    h'.placed ∘ h.placed⟩

theorem place (h : Unread s s') : s'.place = s.place := by
  unfold ParserState.place TokenStream.position
  rw [h.behind, h.source]

theorem next (h : Unread s s') (mode : LexMode) : s'.next mode = s.next mode := by
  unfold ParserState.next
  rw [h.place]

/-- Tokens are looked at ahead. -/
theorem ofTokens {tokens : TokenStream} (h : s.tokens.Stays tokens)
    (hahead : ∀ b ∈ tokens.ahead, b.mode ≠ .templateContinue) : Unread s { s with tokens } :=
  ⟨⟨h.chained, hahead⟩, h.source, h.behind, rfl, rfl, rfl, rfl, rfl,
    fun hplaced => hplaced.mono (fun _ hb => h.behind ▸ hb) rfl rfl rfl rfl⟩

end Unread

theorem tokenEdges_of_mem {tokens : List BufferedToken} {b : BufferedToken} (hb : b ∈ tokens) :
    TokenEdges tokens b.token.span := ⟨⟨b, hb, .inl rfl⟩, ⟨b, hb, .inr rfl⟩⟩

/-- A token is read, and nothing is recorded of the text. -/
structure Taken (b : BufferedToken) (s s' : ParserState) : Prop where
  steady : s'.Steady
  source : s'.tokens.source = s.tokens.source
  behind : s'.tokens.behind = b :: s.tokens.behind
  scopes : s'.scopes = s.scopes
  declarations : s'.declarations = s.declarations
  references : s'.references = s.references
  dynamicImports : s'.dynamicImports = s.dynamicImports
  sideEffects : s'.sideEffects = s.sideEffects
  placed : s.Placed → s'.Placed

theorem Taken.after {s s₁ s' : ParserState} {b : BufferedToken} (h : Taken b s s₁)
    (h' : Unread s₁ s') : Taken b s s' :=
  ⟨h'.steady, h'.source.trans h.source, h'.behind.trans h.behind, h'.scopes.trans h.scopes,
    h'.declarations.trans h.declarations, h'.references.trans h.references,
    h'.dynamicImports.trans h.dynamicImports, h'.sideEffects.trans h.sideEffects,
    h'.placed ∘ h.placed⟩

theorem Taken.edges {s s' : ParserState} {b : BufferedToken} (h : Taken b s s') {span : Span}
    (hspan : TokenEdges s.tokens.behind span) : TokenEdges s'.tokens.behind span := by
  rw [h.behind]
  exact hspan.mono (List.subset_cons_self _ _)

theorem Taken.edges_own {s s' : ParserState} {b : BufferedToken} (h : Taken b s s') :
    TokenEdges s'.tokens.behind b.token.span :=
  tokenEdges_of_mem (h.behind ▸ List.mem_cons_self)

/-! ## Dynamic imports -/

/-- The span goes from where a word `import` begins to where a token ends. -/
def ImportCall (tokens : List BufferedToken) (span : Span) : Prop :=
  ∃ b ∈ tokens, ∃ c ∈ tokens, b.token.type = .keywordImport ∧
    span = ⟨b.token.span.start, c.token.span.stop⟩

/-- A span lies in another one and begins later. -/
def Span.Inside (a b : Span) : Prop := b.start < a.start ∧ a.stop ≤ b.stop

/-- A span ends before another one begins, or lies inside of it. -/
def Span.BeforeOrInside (a b : Span) : Prop := a.stop ≤ b.start ∨ a.Inside b

/-- Dynamic imports of some tokens are recorded, each after those before it and inside of it. -/
def CallsRecorded (tokens : List BufferedToken) (before after : Array DynamicImport) : Prop :=
  ∃ added : List DynamicImport, after.toList = before.toList ++ added ∧
    (∀ d ∈ added, ImportCall tokens d.span) ∧
    added.Pairwise fun a b => a.span.BeforeOrInside b.span

section
variable {tokens tokens' : List BufferedToken} {before after later : Array DynamicImport}

theorem ImportCall.mono {span : Span} (h : ImportCall tokens span) (hsub : tokens ⊆ tokens') :
    ImportCall tokens' span := by
  obtain ⟨b, hb, c, hc, hcall⟩ := h
  exact ⟨b, hsub hb, c, hsub hc, hcall⟩

theorem ImportCall.edges {span : Span} (h : ImportCall tokens span) : TokenEdges tokens span := by
  obtain ⟨b, hb, c, hc, -, rfl⟩ := h
  exact ⟨⟨b, hb, .inl rfl⟩, c, hc, .inr rfl⟩

namespace CallsRecorded

theorem refl (tokens : List BufferedToken) (before : Array DynamicImport) :
    CallsRecorded tokens before before :=
  ⟨[], (List.append_nil _).symm, fun _ h => (nomatch h), .nil⟩

theorem mono (h : CallsRecorded tokens before after) (hsub : tokens ⊆ tokens') :
    CallsRecorded tokens' before after := by
  obtain ⟨added, heq, hcalls, hnested⟩ := h
  exact ⟨added, heq, fun d hd => (hcalls d hd).mono hsub, hnested⟩

/-- Of tokens in a row first some and then the others record theirs. -/
theorem trans (h : CallsRecorded tokens before after) (h' : CallsRecorded tokens' after later)
    (hacross : ∀ a ∈ tokens, ∀ b ∈ tokens', a.token.span.stop ≤ b.token.span.start) :
    CallsRecorded (tokens ++ tokens') before later := by
  obtain ⟨added, heq, hcalls, hnested⟩ := h
  obtain ⟨added', heq', hcalls', hnested'⟩ := h'
  refine ⟨added ++ added', by rw [heq', heq, List.append_assoc], ?_, ?_⟩
  · rw [List.forall_mem_append]
    exact ⟨fun d hd => (hcalls d hd).mono (List.subset_append_left _ _),
      fun d hd => (hcalls' d hd).mono (List.subset_append_right _ _)⟩
  · refine List.pairwise_append.mpr ⟨hnested, hnested', fun d hd d' hd' => .inl ?_⟩
    obtain ⟨_, -, c, hc, -, hspan⟩ := hcalls d hd
    obtain ⟨b, hb, _, -, -, hspan'⟩ := hcalls' d' hd'
    rw [hspan, hspan']
    exact hacross c hc b hb

/-- A dynamic import around all of the text is recorded last. -/
theorem push (h : CallsRecorded tokens before after) {b c : BufferedToken}
    (htype : b.token.type = .keywordImport)
    (hopens : ∀ a ∈ tokens, b.token.span.start < a.token.span.start)
    (hcloses : ∀ a ∈ tokens, a.token.span.stop ≤ c.token.span.stop) {d : DynamicImport}
    (hd : d.span = ⟨b.token.span.start, c.token.span.stop⟩) :
    CallsRecorded (b :: (tokens ++ [c])) before (after.push d) := by
  obtain ⟨added, heq, hcalls, hnested⟩ := h
  refine ⟨added ++ [d], by rw [Array.toList_push, heq, List.append_assoc], ?_, ?_⟩
  · refine List.forall_mem_append.mpr ⟨fun d hd => (hcalls d hd).mono fun a ha => by simp [ha],
      List.forall_mem_singleton.mpr ⟨b, List.mem_cons_self, c, by simp, htype, hd⟩⟩
  · refine List.pairwise_append.mpr ⟨hnested, List.pairwise_singleton _ _, fun inner hinner _ hd' => ?_⟩
    obtain rfl := List.mem_singleton.mp hd'
    obtain ⟨b', hb', c', hc', -, hspan⟩ := hcalls inner hinner
    rw [hspan, hd]
    exact .inr ⟨hopens b' hb', hcloses c' hc'⟩

theorem mem_or (h : CallsRecorded tokens before after) {d : DynamicImport} (hd : d ∈ after) :
    d ∈ before ∨ ImportCall tokens d.span := by
  obtain ⟨added, heq, hcalls, -⟩ := h
  rw [← Array.mem_toList_iff, heq, List.mem_append, Array.mem_toList_iff] at hd
  exact hd.imp_right (hcalls d)

end CallsRecorded
end

/-! ## Texts of outlines -/

/-- What surrounds a text: the scope that it stands in, and whether it is evaluated later. -/
structure Setting where
  scope : ScopeId
  isDeferred : Bool

def Context.setting (ctx : Context) : Setting := ⟨ctx.scope, ctx.isDeferred⟩

/-- What is declared under a name of the text goes from a token to such. -/
theorem Outline.edges_of_mem_declarations {o : Outline} (hnone : o.placeholders = [])
    {scope next : ScopeId} {d : Declaration} (h : d ∈ o.declarations scope next) :
    TokenEdges o.tokens d.span := by
  rcases spelled_of_mem_declarations h with ⟨b, hb, hspan, -⟩ | ⟨offset, hoffset, -⟩
  · rw [hspan]
    exact tokenEdges_of_mem hb
  · rw [hnone] at hoffset
    exact absurd hoffset List.not_mem_nil

/-- From one state to another the text of an outline is read, and what it has is recorded. -/
structure TextRead (c : Setting) (o : Outline) (s s' : ParserState) : Prop where
  steady : s'.Steady
  source : s'.tokens.source = s.tokens.source
  behind : s'.tokens.behind = o.tokens.reverse ++ s.tokens.behind
  first : ∀ b, o.tokens.head? = some b → b.mode ≠ .templateContinue
  scopes : s'.scopes.toList = s.scopes.toList ++ o.scopes c.scope s.scopes.size
  declarations : s'.declarations.toList =
    s.declarations.toList ++ o.declarations c.scope s.scopes.size
  references : s'.references.toList = s.references.toList ++ o.references c.scope s.scopes.size
  dynamicImports : CallsRecorded o.tokens s.dynamicImports s'.dynamicImports
  sideEffects : s'.sideEffects = (s.sideEffects || (!c.isDeferred && o.isNoted))
  placed : s.Placed → s'.Placed

theorem Unread.textRead {s s' : ParserState} (h : Unread s s') (c : Setting) :
    TextRead c .nil s s' where
  steady := h.steady
  source := h.source
  behind := h.behind
  first _ hb := by cases hb
  scopes := by rw [h.scopes, Outline.scopes, List.append_nil]
  declarations := by rw [h.declarations]; exact (List.append_nil _).symm
  references := by rw [h.references]; exact (List.append_nil _).symm
  dynamicImports := h.dynamicImports ▸ .refl _ _
  sideEffects := by rw [h.sideEffects]; simp [Outline.isNoted, Outline.effects]
  placed := h.placed

namespace TextRead

variable {c : Setting} {o o' : Outline} {s s' s'' : ParserState}

/-- The number of scopes after an outline. -/
theorem size_scopes (h : TextRead c o s s') : s'.scopes.size = s.scopes.size + o.scopeCount := by
  have hlength := congrArg List.length h.scopes
  rwa [List.length_append, Array.length_toList, Array.length_toList, Outline.length_scopes]
    at hlength

/-- The tokens of a text follow each other from where the parser was. -/
theorem chain (h : TextRead c o s s') : ReadFrom s.place o.tokens := by
  have hread := h.steady.chained.tokens
  rw [h.behind, List.reverse_append, List.reverse_reverse, h.source, List.append_assoc,
    readFrom_append, ← TokenStream.position_eq] at hread
  exact (readFrom_append.mp hread.2).1

/-- Of two texts in a row the tokens of the first end before those of the second begin. -/
theorem apart (h : TextRead c o s s') (h' : TextRead c o' s' s'') :
    ∀ a ∈ o.tokens, ∀ b ∈ o'.tokens, a.token.span.stop ≤ b.token.span.start := by
  have hread := h'.steady.chained.tokens
  rw [h'.behind, h.behind, List.reverse_append, List.reverse_append, List.reverse_reverse,
    List.reverse_reverse, List.append_assoc, List.append_assoc] at hread
  have hsep := (List.pairwise_append.mp hread.separated).2.1
  intro a ha b hb
  exact (List.pairwise_append.mp hsep).2.2 a ha b (List.mem_append_left _ hb)

/-- Two texts in a row. -/
theorem trans (h : TextRead c o s s') (h' : TextRead c o' s' s'') : TextRead c (o ++ o') s s'' where
  steady := h'.steady
  source := h'.source.trans h.source
  behind := by
    rw [h'.behind, h.behind, Outline.tokens_append, List.reverse_append, List.append_assoc]
  first b hb := by
    rw [Outline.tokens_append, List.head?_append] at hb
    rcases Option.or_eq_some_iff.mp hb with hb | ⟨-, hb⟩
    · exact h.first b hb
    · exact h'.first b hb
  scopes := by rw [h'.scopes, h.scopes, h.size_scopes, Outline.scopes_append, List.append_assoc]
  declarations := by
    rw [h'.declarations, h.declarations, h.size_scopes, Outline.declarations_append,
      List.append_assoc]
  references := by
    rw [h'.references, h.references, h.size_scopes, Outline.references_append, List.append_assoc]
  dynamicImports := by
    rw [Outline.tokens_append]
    exact h.dynamicImports.trans h'.dynamicImports (h.apart h')
  sideEffects := by
    rw [h'.sideEffects, h.sideEffects, Outline.isNoted_append, Bool.or_assoc,
      ← Bool.and_or_distrib_left]
  placed := h'.placed ∘ h.placed

/-- A text is a part of its own, with the scope that such a part opens. -/
theorem node {kind : NodeKind} (s₁ : ParserState) (hs₁ : s₁ = { s with scopes := s₁.scopes })
    (hscopes : s₁.scopes.toList = s.scopes.toList ++ kind.opened c.scope)
    (h : TextRead ⟨kind.inside c.scope s.scopes.size, kind.isDeferred || c.isDeferred⟩ o s₁ s') :
    TextRead c (.node kind o .nil) s s' := by
  have hsize : s₁.scopes.size = s.scopes.size + kind.scopeCount := by
    have hlength := congrArg List.length hscopes
    rwa [List.length_append, kind.length_opened, Array.length_toList, Array.length_toList]
      at hlength
  have hleaves : (Outline.node kind o .nil).leaves c.scope s.scopes.size =
      o.leaves (kind.inside c.scope s.scopes.size) s₁.scopes.size := by
    rw [Outline.leaves, Outline.leaves, List.append_nil, hsize]
  have htokens : (Outline.node kind o .nil).tokens = o.tokens := List.append_nil _
  exact {
    steady := h.steady
    source := by rw [h.source, hs₁]
    behind := by rw [h.behind, hs₁, htokens]
    first := htokens ▸ h.first
    scopes := by
      rw [h.scopes, hscopes, Outline.scopes, Outline.scopes, List.append_nil, hsize,
        List.append_assoc]
    declarations := by
      have hbefore : s₁.declarations = s.declarations := by rw [hs₁]
      rw [h.declarations, hbefore]
      unfold Outline.declarations
      rw [hleaves]
    references := by
      have hbefore : s₁.references = s.references := by rw [hs₁]
      rw [h.references, hbefore]
      unfold Outline.references
      rw [hleaves]
    dynamicImports := by
      have himports := h.dynamicImports
      rw [hs₁] at himports
      exact htokens ▸ himports
    sideEffects := by
      rw [h.sideEffects, hs₁, Outline.isNoted_node]
      cases kind.isDeferred with
      | true => simp
      | false => rfl
    placed hplaced := by
      rw [hs₁] at h
      exact h.placed { hplaced with } }

/-- What goes from a token that was read to such does so later on. -/
theorem edges (h : TextRead c o s s') {span : Span} (hspan : TokenEdges s.tokens.behind span) :
    TokenEdges s'.tokens.behind span := by
  rw [h.behind]
  exact hspan.mono (List.subset_append_right _ _)

/-- The first token of a text is the next one in its mode. -/
theorem head_eq (h : TextRead c o s s') {b : BufferedToken} (hb : o.tokens.head? = some b) :
    b = s.next b.mode := by
  obtain ⟨rest, htokens⟩ := List.head?_eq_some_iff.mp hb
  have hread := h.steady.chained.tokens
  rw [h.behind, List.reverse_append, List.reverse_reverse, htokens, h.source, List.append_assoc,
    readFrom_append, ← TokenStream.position_eq] at hread
  exact hread.2.1

/-- It begins where the blanks before it end. -/
theorem head_start (h : TextRead c o s s') {b : BufferedToken} (hb : o.tokens.head? = some b) :
    b.token.span.start = s.place.tokenStart.offset := by
  rw [h.head_eq hb]
  exact s.next_start (h.first b hb)

end TextRead

/-! ## Single leaves -/

namespace Taken

variable {b : BufferedToken} {s s₁ s' : ParserState}

/-- A token that is read declares and uses nothing by itself. -/
theorem textRead (h : Taken b s s') (hb : b.mode ≠ .templateContinue) (c : Setting) :
    TextRead c (.leaf (.token b .plain) .nil) s s' where
  steady := h.steady
  source := h.source
  behind := h.behind
  first b' hb' := by
    cases hb'
    exact hb
  scopes := by rw [h.scopes]; exact (List.append_nil _).symm
  declarations := by rw [h.declarations]; exact (List.append_nil _).symm
  references := by rw [h.references]; exact (List.append_nil _).symm
  dynamicImports := h.dynamicImports ▸ .refl _ _
  sideEffects := by rw [h.sideEffects]; simp [Outline.isNoted, Outline.effects, Leaf.effect?]
  placed := h.placed

/-- The name that was read is declared. -/
theorem answers_declare (h : Taken b s s₁) (hb : b.mode ≠ .templateContinue) (ctx : Context)
    (kind : DeclarationKind) (shorthand : Bool) :
    Answers s₁ (declare ctx (decodeName b.token.text) b.token.span kind shorthand) fun _ s' =>
      TextRead ctx.setting (.leaf (.token b (.declares kind shorthand)) .nil) s s' := by
  intro _ s' heq
  cases heq
  have hplain := h.textRead hb ctx.setting
  exact { hplain with
    steady := ⟨h.steady.chained, h.steady.ahead⟩
    declarations := by
      change (s₁.declarations.push _).toList = _
      rw [Array.toList_push, h.declarations]
      rfl
    placed := fun hs => { hplain.placed hs with } }

/-- The name that was read is used. -/
theorem answers_refer (h : Taken b s s₁) (hb : b.mode ≠ .templateContinue) (ctx : Context)
    (shorthand : Bool) :
    Answers s₁ (refer ctx (decodeName b.token.text) b.token.span shorthand) fun _ s' =>
      TextRead ctx.setting (.leaf (.token b (.uses shorthand)) .nil) s s' := by
  intro _ s' heq
  cases heq
  have hplain := h.textRead hb ctx.setting
  exact { hplain with
    steady := ⟨h.steady.chained, h.steady.ahead⟩
    references := by
      change (s₁.references.push _).toList = _
      rw [Array.toList_push, h.references]
      rfl
    placed := fun hs => { hplain.placed hs with } }

/-- After a text a token goes on with a template. -/
theorem continued {c : Setting} {o : Outline} (h : Taken b s₁ s') (ho : TextRead c o s s₁)
    (hne : o.tokens ≠ []) : TextRead c (o ++ .leaf (.token b .plain) .nil) s s' where
  steady := h.steady
  source := h.source.trans ho.source
  behind := by
    rw [h.behind, ho.behind, Outline.tokens_append, List.reverse_append]
    rfl
  first b' hb' := by
    rw [Outline.tokens_append, List.head?_append_of_ne_nil _ hne] at hb'
    exact ho.first b' hb'
  scopes := by
    rw [h.scopes, ho.scopes, Outline.scopes_append]
    exact congrArg _ (List.append_nil _).symm
  declarations := by
    rw [h.declarations, ho.declarations, Outline.declarations_append]
    exact congrArg _ (List.append_nil _).symm
  references := by
    rw [h.references, ho.references, Outline.references_append]
    exact congrArg _ (List.append_nil _).symm
  dynamicImports := by
    rw [h.dynamicImports, Outline.tokens_append]
    exact ho.dynamicImports.mono (List.subset_append_left _ _)
  sideEffects := by
    rw [h.sideEffects, ho.sideEffects, Outline.isNoted_append]
    simp [Outline.isNoted, Outline.effects, Leaf.effect?]
  placed := h.placed ∘ ho.placed

end Taken

/-- Something is declared that has no name in the text. -/
theorem answers_declarePlaceholder {s : ParserState} (hs : s.Steady) (ctx : Context) (offset : Nat)
    (kind : DeclarationKind) :
    Answers s (declare ctx defaultBinding (.point offset) kind false) fun _ s' =>
      TextRead ctx.setting (.leaf (.placeholder offset kind) .nil) s s' := by
  intro _ s' heq
  cases heq
  exact { (Unread.refl hs).textRead ctx.setting with
    steady := ⟨hs.chained, hs.ahead⟩
    declarations := Array.toList_push
    placed := fun hplaced => { hplaced with } }

/-- What is done is noticed, unless it is put off. -/
theorem answers_markSideEffect {s : ParserState} (hs : s.Steady) (ctx : Context) (e : Effect)
    (he : e.isNoted = true) : Answers s (markSideEffect ctx) fun _ s' =>
      TextRead ctx.setting (.leaf (.effect e) .nil) s s' := by
  intro _ s' heq
  cases heq
  exact { (Unread.refl hs).textRead ctx.setting with
    steady := ⟨hs.chained, hs.ahead⟩
    sideEffects := by
      change (s.sideEffects || !ctx.isDeferred) = (s.sideEffects || (!ctx.isDeferred && _))
      simp [Outline.isNoted, Outline.effects, Leaf.effect?, he]
    placed := fun hplaced => { hplaced with } }

/-- What is done is not noticed. -/
theorem textRead_effect {s : ParserState} (hs : s.Steady) (c : Setting) {e : Effect}
    (he : e.isNoted = false) : TextRead c (.leaf (.effect e) .nil) s s :=
  { (Unread.refl hs).textRead c with
    sideEffects := by simp [Outline.isNoted, Outline.effects, Leaf.effect?, he] }

end ModuleBundler
