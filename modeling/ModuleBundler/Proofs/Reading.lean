import ModuleBundler.Grammar.Parse
import ModuleBundler.Proofs.Outcome
import ModuleBundler.Proofs.TokenChain
import ModuleBundler.Token.Literal

/-!
# What reading does to the state of a parser

* `Recorded` : entries are added to a record;
* `Noted`, `DeclarationNoted`, `ReferenceNoted` : what is known of an entry that is recorded between
  two states: its span is that of tokens read between them, its name is the one that the text has
  there, and its scope is a given one or one that is opened between them;
* `Step` : from one state to a later one the parser goes forward in the text, and records such;
* `Keeps`, `Reads` : a reader steps whenever it has an answer, and one that reads the next token;
* `Keeps.bind`, `Reads.bind`, `keeps_loop`, … : readers in a row, in loops and on trial;
* `keeps_peek`, `reads_consume`, `reads_require`, … : single tokens.
-/

namespace ModuleBundler

open Cursor (Leads)

/-! ## Tokens that were read -/

/-- The place after the last token read. -/
def ParserState.place (s : ParserState) : Cursor := s.tokens.position

/-- One of the tokens begins or ends at the offset. -/
def TokenEdge (tokens : List BufferedToken) (offset : Nat) : Prop :=
  ∃ b ∈ tokens, offset = b.token.span.start ∨ offset = b.token.span.stop

/-- The span begins and ends where tokens do. -/
def TokenEdges (tokens : List BufferedToken) (span : Span) : Prop :=
  TokenEdge tokens span.start ∧ TokenEdge tokens span.stop

/-- One of the tokens spells the name at the span. -/
def Spelled (tokens : List BufferedToken) (name : String) (span : Span) : Prop :=
  ∃ b ∈ tokens, b.token.span = span ∧ name = decodeName b.token.text

/-- The name of a declaration is that of a token, or the one of default exports. -/
def SpelledOrDefault (tokens : List BufferedToken) (name : String) (span : Span) : Prop :=
  Spelled tokens name span ∨ (name = defaultBinding ∧ TokenEdges tokens span)

section
variable {tokens tokens' : List BufferedToken} {name : String} {offset : Nat} {span : Span}

theorem TokenEdge.mono (h : TokenEdge tokens offset) (hsub : tokens ⊆ tokens') :
    TokenEdge tokens' offset := by
  obtain ⟨b, hb, heq⟩ := h
  exact ⟨b, hsub hb, heq⟩

theorem TokenEdges.mono (h : TokenEdges tokens span) (hsub : tokens ⊆ tokens') :
    TokenEdges tokens' span := ⟨h.1.mono hsub, h.2.mono hsub⟩

theorem Spelled.mono (h : Spelled tokens name span) (hsub : tokens ⊆ tokens') :
    Spelled tokens' name span := by
  obtain ⟨b, hb, heq⟩ := h
  exact ⟨b, hsub hb, heq⟩

theorem SpelledOrDefault.mono (h : SpelledOrDefault tokens name span) (hsub : tokens ⊆ tokens') :
    SpelledOrDefault tokens' name span :=
  h.imp (fun h => h.mono hsub) (And.imp_right fun h => h.mono hsub)

theorem Spelled.edges (h : Spelled tokens name span) : TokenEdges tokens span := by
  obtain ⟨b, hb, rfl, -⟩ := h
  exact ⟨⟨b, hb, .inl rfl⟩, ⟨b, hb, .inr rfl⟩⟩

theorem SpelledOrDefault.edges (h : SpelledOrDefault tokens name span) :
    TokenEdges tokens span := by
  rcases h with h | h
  · exact h.edges
  · exact h.2

/-- The edges of the least span around two others are edges of these. -/
theorem TokenEdges.join {a b : Span} (ha : TokenEdges tokens a) (hb : TokenEdges tokens b) :
    TokenEdges tokens (a.join b) := by
  unfold TokenEdges Span.join
  dsimp only
  constructor
  · rcases Nat.le_total a.start b.start with hle | hle
    · rw [Nat.min_eq_left hle]
      exact ha.1
    · rw [Nat.min_eq_right hle]
      exact hb.1
  · rcases Nat.le_total a.stop b.stop with hle | hle
    · rw [Nat.max_eq_right hle]
      exact hb.2
    · rw [Nat.max_eq_left hle]
      exact ha.2

end

/-- The next token of a state is read by a later one. -/
def ReadsOn (s s' : ParserState) : Prop :=
  s.place.tokenStart.Leads s'.place ∧
    ∃ b ∈ s'.tokens.behind, b.token.span.start = s.place.tokenStart.offset

/-- The start of the next token is an edge once that is read. -/
theorem ReadsOn.edge {s s' : ParserState} (h : ReadsOn s s') :
    TokenEdge s'.tokens.behind s.place.tokenStart.offset := by
  obtain ⟨-, b, hb, heq⟩ := h
  exact ⟨b, hb, .inl heq.symm⟩

/-- What a later state of a parser has still: tokens read, scopes and requests. -/
structure Later (s s' : ParserState) : Prop where
  leads : s.place.Leads s'.place
  behind : s.tokens.behind <:+ s'.tokens.behind
  scopes : s.scopes.size ≤ s'.scopes.size
  requests : s.requests.size ≤ s'.requests.size

namespace Later

variable {s s' s'' : ParserState}

theorem refl (s : ParserState) : Later s s :=
  ⟨.refl _, List.suffix_refl _, Nat.le_refl _, Nat.le_refl _⟩

theorem trans (h : Later s s') (h' : Later s' s'') : Later s s'' :=
  ⟨h.leads.trans h'.leads, h.behind.trans h'.behind, Nat.le_trans h.scopes h'.scopes,
    Nat.le_trans h.requests h'.requests⟩

/-- A state with the same tokens, scopes and requests. -/
theorem ofTokens (tokens : s'.tokens = s.tokens) (scopes : s'.scopes = s.scopes)
    (requests : s'.requests = s.requests) : Later s s' := by
  have hplace : s'.place = s.place := congrArg TokenStream.position tokens
  have hscopes := congrArg Array.size scopes
  have hrequests := congrArg Array.size requests
  refine ⟨hplace ▸ .refl _, tokens ▸ List.suffix_refl _, ?_, ?_⟩
  · exact Nat.le_of_eq hscopes.symm
  · exact Nat.le_of_eq hrequests.symm

theorem readsOn (h : Later s' s'') (hreads : ReadsOn s s') : ReadsOn s s'' := by
  obtain ⟨hleads, b, hb, heq⟩ := hreads
  exact ⟨hleads.trans h.leads, b, h.behind.subset hb, heq⟩

end Later

/-- Nothing is read from one state to another, or all tokens from the next one on. -/
def Moves (s s' : ParserState) : Prop := s'.place = s.place ∨ ReadsOn s s'

namespace Moves

variable {s s' s'' : ParserState}

theorem refl (s : ParserState) : Moves s s := .inl rfl

theorem leads (h : Moves s s') : s.place.Leads s'.place := by
  rcases h with heq | h
  · rw [heq]
    exact .refl _
  · exact (leads_tokenStart _).trans h.1

/-- If the next token of a later state is read, so is that of an earlier one. -/
theorem readsOn (h : Moves s s') (later : Later s' s'') (hreads : ReadsOn s' s'') :
    ReadsOn s s'' := by
  rcases h with heq | h
  · unfold ReadsOn at hreads ⊢
    rwa [heq] at hreads
  · exact later.readsOn h

theorem trans (h : Moves s s') (h' : Moves s' s'') (later : Later s' s'') : Moves s s'' := by
  rcases h' with heq | h'
  · rcases h with heq' | h
    · exact .inl (heq.trans heq')
    · exact .inr (later.readsOn h)
  · exact .inr (h.readsOn later h')

end Moves

/-! ## Records -/

/-- Entries are added to a record. -/
def Recorded {α : Type} (accepts : α → Prop) (before after : Array α) : Prop :=
  ∃ added : List α, after.toList = before.toList ++ added ∧ ∀ a ∈ added, accepts a

namespace Recorded

variable {α : Type} {accepts : α → Prop} {before after : Array α}

theorem refl (entries : Array α) : Recorded accepts entries entries :=
  ⟨[], (List.append_nil _).symm, fun _ h => nomatch h⟩

theorem weaken {accepts' : α → Prop} (h : Recorded accepts before after)
    (haccepts : ∀ a, accepts a → accepts' a) : Recorded accepts' before after := by
  obtain ⟨added, heq, hall⟩ := h
  exact ⟨added, heq, fun a ha => haccepts a (hall a ha)⟩

theorem trans {later : Array α} (h : Recorded accepts before after)
    (h' : Recorded accepts after later) : Recorded accepts before later := by
  obtain ⟨added, heq, hall⟩ := h
  obtain ⟨added', heq', hall'⟩ := h'
  refine ⟨added ++ added', by rw [heq', heq, List.append_assoc], ?_⟩
  rw [List.forall_mem_append]
  exact ⟨hall, hall'⟩

theorem append (h : Recorded accepts before after) {entries : List α}
    (hentries : ∀ a ∈ entries, accepts a) : Recorded accepts before (after ++ entries.toArray) := by
  refine h.trans ⟨entries, ?_, hentries⟩
  rw [Array.toList_append]

theorem push (h : Recorded accepts before after) {entry : α} (hentry : accepts entry) :
    Recorded accepts before (after.push entry) := by
  refine h.trans ⟨[entry], Array.toList_push, ?_⟩
  rwa [List.forall_mem_singleton]

/-- What was recorded before stays where it is. -/
theorem getElem? (h : Recorded accepts before after) {i : Nat} {entry : α}
    (hentry : before[i]? = some entry) : after[i]? = some entry := by
  obtain ⟨added, heq, -⟩ := h
  rw [← Array.getElem?_toList] at hentry ⊢
  rw [heq]
  exact List.getElem?_append_left (List.getElem?_eq_some_iff.mp hentry).1 ▸ hentry

/-- What stands beyond the entries before is new. -/
theorem getElem?_of_le (h : Recorded accepts before after) {i : Nat} (hi : before.size ≤ i)
    (hi' : i < after.size) : ∃ entry, after[i]? = some entry ∧ accepts entry := by
  obtain ⟨added, heq, hall⟩ := h
  refine ⟨after[i], Array.getElem?_eq_getElem hi', hall _ ?_⟩
  have hget : after.toList[i]? = some after[i] := by
    rw [Array.getElem?_toList, Array.getElem?_eq_getElem hi']
  rw [heq, List.getElem?_append_right hi] at hget
  exact List.mem_of_getElem? hget

theorem mem_or (h : Recorded accepts before after) {entry : α} (hentry : entry ∈ after) :
    entry ∈ before ∨ accepts entry := by
  obtain ⟨added, heq, hall⟩ := h
  rw [← Array.mem_toList_iff, heq, List.mem_append, Array.mem_toList_iff] at hentry
  exact hentry.imp_right (hall entry)

theorem mem (h : Recorded accepts before after) {entry : α} (hentry : entry ∈ before) :
    entry ∈ after := by
  obtain ⟨added, heq, -⟩ := h
  rw [← Array.mem_toList_iff, heq, List.mem_append, Array.mem_toList_iff]
  exact .inl hentry

theorem size_le (h : Recorded accepts before after) : before.size ≤ after.size := by
  obtain ⟨added, heq, -⟩ := h
  rw [← Array.length_toList, ← Array.length_toList, heq, List.length_append]
  exact Nat.le_add_right _ _

end Recorded

/-- The scope is a given one or one that is opened between two states. -/
def InScope (scope : ScopeId) (s s' : ParserState) (own : ScopeId) : Prop :=
  own = scope ∨ (s.scopes.size ≤ own ∧ own < s'.scopes.size)

/-- An entry between two states, by its span and scope. -/
def Noted (scope : ScopeId) (s s' : ParserState) (span : Span) (own : ScopeId) : Prop :=
  span.Between s.place s'.place ∧ TokenEdges s'.tokens.behind span ∧ InScope scope s s' own

/-- A declaration of one of the `kinds` between two states. -/
def DeclarationNoted (kinds : DeclarationKind → Prop) (scope : ScopeId) (s s' : ParserState)
    (d : Declaration) : Prop :=
  kinds d.kind ∧ Noted scope s s' d.span d.scope ∧
    SpelledOrDefault s'.tokens.behind d.name d.span

/-- A reference between two states. -/
def ReferenceNoted (scope : ScopeId) (s s' : ParserState) (r : Reference) : Prop :=
  Noted scope s s' r.span r.scope ∧ Spelled s'.tokens.behind r.name r.span

/-- If something of another module is exported, it is one of so many requests. -/
def ExportTarget.Requested (count : Nat) : ExportTarget → Prop
  | .binding _ => True
  | .reexport request _ => request < count

theorem ExportTarget.Requested.mono {count count' : Nat} {target : ExportTarget}
    (h : target.Requested count) (hle : count ≤ count') : target.Requested count' := by
  cases target with
  | binding => trivial
  | reexport => exact Nat.lt_of_lt_of_le h hle

section
variable {kinds : DeclarationKind → Prop} {scope inner own : ScopeId}
  {s₀ s s' s'' : ParserState}

theorem InScope.mono (h : InScope scope s s' own) (before : s₀.scopes.size ≤ s.scopes.size)
    (after : s'.scopes.size ≤ s''.scopes.size) : InScope scope s₀ s'' own :=
  h.imp_right fun ⟨hle, hlt⟩ => ⟨Nat.le_trans before hle, Nat.lt_of_lt_of_le hlt after⟩

/-- What is in a scope is in the scope around that. -/
theorem InScope.within (h : InScope inner s' s'' own) (hinner : InScope scope s s' inner)
    (before : s.scopes.size ≤ s'.scopes.size) (after : s'.scopes.size ≤ s''.scopes.size) :
    InScope scope s s'' own := by
  rcases h with rfl | ⟨hle, hlt⟩
  · exact hinner.mono (Nat.le_refl _) after
  · exact .inr ⟨Nat.le_trans before hle, hlt⟩

theorem Noted.mono {span : Span} (h : Noted scope s s' span own) (before : Later s₀ s)
    (after : Later s' s'') : Noted scope s₀ s'' span own :=
  ⟨h.1.mono before.leads after.leads, h.2.1.mono after.behind.subset,
    h.2.2.mono before.scopes after.scopes⟩

theorem Noted.within {span : Span} (h : Noted inner s' s'' span own)
    (hinner : InScope scope s s' inner) (before : Later s s') (after : Later s' s'') :
    Noted scope s s'' span own :=
  ⟨h.1.mono before.leads (.refl _), h.2.1, h.2.2.within hinner before.scopes after.scopes⟩

theorem DeclarationNoted.mono {d : Declaration} (h : DeclarationNoted kinds scope s s' d)
    (before : Later s₀ s) (after : Later s' s'') : DeclarationNoted kinds scope s₀ s'' d :=
  ⟨h.1, h.2.1.mono before after, h.2.2.mono after.behind.subset⟩

theorem ReferenceNoted.mono {r : Reference} (h : ReferenceNoted scope s s' r) (before : Later s₀ s)
    (after : Later s' s'') : ReferenceNoted scope s₀ s'' r :=
  ⟨h.1.mono before after, h.2.mono after.behind.subset⟩

end

/-- Scopes are opened, each inside one that was there before: a given one, or one opened since. -/
def Opened (scope : ScopeId) (before after : Array Scope) : Prop :=
  before.toList <+: after.toList ∧ ∀ i, before.size ≤ i → i < after.size →
    ∃ parent, (after[i]?).bind Scope.parent = some parent ∧
      (parent = scope ∨ (before.size ≤ parent ∧ parent < i))

namespace Opened

variable {scope inner : ScopeId} {before after later : Array Scope}

theorem refl (scope : ScopeId) (scopes : Array Scope) : Opened scope scopes scopes :=
  ⟨List.prefix_refl _, fun _ hi hi' => absurd hi' (Nat.not_lt_of_le hi)⟩

theorem size_le (h : Opened scope before after) : before.size ≤ after.size := by
  have hle := h.1.length_le
  rwa [Array.length_toList, Array.length_toList] at hle

/-- A scope stays where it is. -/
theorem getElem? (h : Opened scope before after) {i : Nat} (hi : i < before.size) :
    after[i]? = before[i]? := by
  obtain ⟨added, heq⟩ := h.1
  rw [← Array.getElem?_toList, ← Array.getElem?_toList, ← heq]
  refine List.getElem?_append_left ?_
  rwa [Array.length_toList]

theorem trans (h : Opened scope before after) (h' : Opened inner after later)
    (hinner : inner = scope ∨ (before.size ≤ inner ∧ inner < after.size)) :
    Opened scope before later := by
  refine ⟨h.1.trans h'.1, fun i hi hi' => ?_⟩
  by_cases hlt : i < after.size
  · rw [h'.getElem? hlt]
    exact h.2 i hi hlt
  · have hge := Nat.le_of_not_lt hlt
    have hle := h.size_le
    obtain ⟨parent, hparent, rfl | ⟨hfrom, hupto⟩⟩ := h'.2 i hge hi'
    · exact ⟨parent, hparent, hinner.imp_right fun ⟨hfrom, hupto⟩ =>
        ⟨hfrom, Nat.lt_of_lt_of_le hupto hge⟩⟩
    · exact ⟨parent, hparent, .inr ⟨Nat.le_trans hle hfrom, hupto⟩⟩

theorem push (scope : ScopeId) (type : ScopeType) (scopes : Array Scope) :
    Opened scope scopes (scopes.push ⟨some scope, type⟩) := by
  refine ⟨⟨[_], Array.toList_push.symm⟩, fun i hi hi' => ⟨scope, ?_, .inl rfl⟩⟩
  rw [Array.size_push] at hi'
  have heq : i = scopes.size := by omega
  rw [heq, Array.getElem?_push_size]
  rfl

end Opened

/-! ## Steps -/

/-- From one state to another a parser goes forward in the text. What it records in between belongs
there. Declarations are of the `kinds`, and imports are recorded only if these include them. -/
structure Step (kinds : DeclarationKind → Prop) (scope : ScopeId) (s s' : ParserState) : Prop where
  chained : s'.tokens.Chained
  source : s'.tokens.source = s.tokens.source
  size : s'.tokens.size = s.tokens.size
  moves : Moves s s'
  behind : s.tokens.behind <:+ s'.tokens.behind
  scopes : Opened scope s.scopes s'.scopes
  declarations : Recorded (DeclarationNoted kinds scope s s') s.declarations s'.declarations
  references : Recorded (ReferenceNoted scope s s') s.references s'.references
  dynamicImports : Recorded (fun d => Noted scope s s' d.span d.scope) s.dynamicImports
    s'.dynamicImports
  items : s'.items = s.items
  requests : Recorded (fun _ => True) s.requests s'.requests
  imports : Recorded (fun d => kinds .imported ∧ d.request < s'.requests.size) s.imports s'.imports
  exports : Recorded (fun e => e.target.Requested s'.requests.size) s.exports s'.exports
  starExports : Recorded (fun request => request < s'.requests.size) s.starExports s'.starExports

namespace Step

variable {kinds : DeclarationKind → Prop} {scope inner : ScopeId} {s s' s'' : ParserState}

theorem refl (h : s.tokens.Chained) : Step kinds scope s s where
  chained := h
  source := rfl
  size := rfl
  moves := .refl _
  behind := List.suffix_refl _
  scopes := .refl ..
  declarations := .refl _
  references := .refl _
  dynamicImports := .refl _
  items := rfl
  requests := .refl _
  imports := .refl _
  exports := .refl _
  starExports := .refl _

theorem later (h : Step kinds scope s s') : Later s s' :=
  ⟨h.moves.leads, h.behind, h.scopes.size_le, h.requests.size_le⟩

theorem leads (h : Step kinds scope s s') : s.place.Leads s'.place := h.moves.leads

/-- Steps in a row, of which the second is in a scope that the first has opened, or in the same. -/
theorem transIn (h : Step kinds scope s s') (h' : Step kinds inner s' s'')
    (hinner : InScope scope s s' inner) : Step kinds scope s s'' where
  chained := h'.chained
  source := h'.source.trans h.source
  size := h'.size.trans h.size
  moves := h.moves.trans h'.moves h'.later
  behind := h.behind.trans h'.behind
  scopes := h.scopes.trans h'.scopes hinner
  declarations := (h.declarations.weaken fun _ hd => hd.mono (.refl _) h'.later).trans
    (h'.declarations.weaken fun _ hd =>
      ⟨hd.1, hd.2.1.within hinner h.later h'.later, hd.2.2⟩)
  references := (h.references.weaken fun _ hr => hr.mono (.refl _) h'.later).trans
    (h'.references.weaken fun _ hr => ⟨hr.1.within hinner h.later h'.later, hr.2⟩)
  dynamicImports := (h.dynamicImports.weaken fun _ hd => hd.mono (.refl _) h'.later).trans
    (h'.dynamicImports.weaken fun _ hd => hd.within hinner h.later h'.later)
  items := h'.items.trans h.items
  requests := h.requests.trans h'.requests
  imports := (h.imports.weaken fun _ hd =>
    ⟨hd.1, Nat.lt_of_lt_of_le hd.2 h'.requests.size_le⟩).trans h'.imports
  exports := (h.exports.weaken fun _ he => he.mono h'.requests.size_le).trans h'.exports
  starExports := (h.starExports.weaken fun _ hr =>
    Nat.lt_of_lt_of_le hr h'.requests.size_le).trans h'.starExports

theorem trans (h : Step kinds scope s s') (h' : Step kinds scope s' s'') : Step kinds scope s s'' :=
  h.transIn h' (.inl rfl)

theorem weaken {kinds' : DeclarationKind → Prop} (h : Step kinds scope s s')
    (hkinds : ∀ kind, kinds kind → kinds' kind) : Step kinds' scope s s' :=
  { h with
    declarations := h.declarations.weaken fun _ hd => ⟨hkinds _ hd.1, hd.2⟩
    imports := h.imports.weaken fun _ hd => ⟨hkinds _ hd.1, hd.2⟩ }

/-- The next token of an earlier state is read if that of a later one is. -/
theorem readsOn (h : Step kinds scope s s') (later : Later s' s'') (hreads : ReadsOn s' s'') :
    ReadsOn s s'' := h.moves.readsOn later hreads

end Step

/-! ## Readers -/

/-- The reader steps whenever it has an answer. -/
def Keeps (kinds : DeclarationKind → Prop) {α : Type} (p : Parse α) (scope : ScopeId) : Prop :=
  ∀ ⦃s a s'⦄, s.tokens.Chained → p s = .ok (a, s') → Step kinds scope s s'

/-- The reader steps and reads the next token whenever it has an answer. -/
def Reads (kinds : DeclarationKind → Prop) {α : Type} (p : Parse α) (scope : ScopeId) : Prop :=
  ∀ ⦃s a s'⦄, s.tokens.Chained → p s = .ok (a, s') → Step kinds scope s s' ∧ ReadsOn s s'

variable {kinds : DeclarationKind → Prop} {scope : ScopeId} {α β : Type}

theorem Reads.keeps {p : Parse α} (h : Reads kinds p scope) : Keeps kinds p scope :=
  fun _ _ _ hs hp => (h hs hp).1

theorem keeps_pure (a : α) : Keeps kinds (pure a : Parse α) scope := by
  intro s a s' hs h
  cases h
  exact .refl hs

theorem reads_throw (e : SyntaxError) : Reads kinds (throw e : Parse α) scope :=
  fun _ _ _ _ h => nomatch h

theorem reads_fail (t : Token) (cause : SyntaxError.Cause) :
    Reads kinds (t.fail cause : Parse α) scope := reads_throw _

theorem Keeps.bind {p : Parse α} {f : α → Parse β} (hp : Keeps kinds p scope)
    (hf : ∀ a, Keeps kinds (f a) scope) : Keeps kinds (p >>= f) scope := by
  intro s b s'' hs h
  obtain ⟨a, s', h, h'⟩ := stateBind_eq_ok.mp h
  have hstep := hp hs h
  exact hstep.trans (hf a hstep.chained h')

/-- The first of two readers reads the next token. -/
theorem Reads.bind {p : Parse α} {f : α → Parse β} (hp : Reads kinds p scope)
    (hf : ∀ a, Keeps kinds (f a) scope) : Reads kinds (p >>= f) scope := by
  intro s b s'' hs h
  obtain ⟨a, s', h, h'⟩ := stateBind_eq_ok.mp h
  obtain ⟨hstep, hreads⟩ := hp hs h
  have hstep' := hf a hstep.chained h'
  exact ⟨hstep.trans hstep', hstep'.later.readsOn hreads⟩

/-- The second of two readers reads the next token, unless the first has. -/
theorem Keeps.bindReads {p : Parse α} {f : α → Parse β} (hp : Keeps kinds p scope)
    (hf : ∀ a, Reads kinds (f a) scope) : Reads kinds (p >>= f) scope := by
  intro s b s'' hs h
  obtain ⟨a, s', h, h'⟩ := stateBind_eq_ok.mp h
  have hstep := hp hs h
  obtain ⟨hstep', hreads⟩ := hf a hstep.chained h'
  exact ⟨hstep.trans hstep', hstep.readsOn hstep'.later hreads⟩

theorem Keeps.map {p : Parse α} (hp : Keeps kinds p scope) (f : α → β) :
    Keeps kinds (f <$> p) scope := by
  rw [← bind_pure_comp]
  exact hp.bind fun _ => keeps_pure _

theorem keeps_ite {c : Prop} [Decidable c] {p q : Parse α} (hp : Keeps kinds p scope)
    (hq : Keeps kinds q scope) : Keeps kinds (if c then p else q) scope := by
  split
  · exact hp
  · exact hq

theorem reads_ite {c : Prop} [Decidable c] {p q : Parse α} (hp : Reads kinds p scope)
    (hq : Reads kinds q scope) : Reads kinds (if c then p else q) scope := by
  split
  · exact hp
  · exact hq

/-- A reader after another one that may be left out. -/
theorem keeps_optional {c : Prop} [Decidable c] {first : Parse α} {rest : Parse β}
    (hfirst : Keeps kinds first scope) (hrest : Keeps kinds rest scope) :
    Keeps kinds (if c then first >>= fun _ => rest else rest) scope :=
  keeps_ite (hfirst.bind fun _ => hrest) hrest

/-- A reader after one of two others. -/
theorem keeps_choice {c : Prop} [Decidable c] {p q : Parse α} {rest : α → Parse β}
    (hp : Keeps kinds p scope) (hq : Keeps kinds q scope)
    (hrest : ∀ a, Keeps kinds (rest a) scope) :
    Keeps kinds (if c then p >>= rest else q >>= rest) scope :=
  keeps_ite (hp.bind hrest) (hq.bind hrest)

/-! ## Readers in a state -/

/-- If the reader has an answer in a state, that and the state after it have the property. -/
def Answers (s : ParserState) (p : Parse α) (property : α → ParserState → Prop) : Prop :=
  ∀ ⦃a s'⦄, p s = .ok (a, s') → property a s'

theorem Answers.bind {s : ParserState} {p : Parse α} {f : α → Parse β}
    {first : α → ParserState → Prop} {property : β → ParserState → Prop} (hp : Answers s p first)
    (hf : ∀ a s', first a s' → Answers s' (f a) property) : Answers s (p >>= f) property := by
  intro b s'' h
  obtain ⟨a, s', h, h'⟩ := stateBind_eq_ok.mp h
  exact hf a s' (hp h) h'

theorem Answers.mono {s : ParserState} {p : Parse α} {first property : α → ParserState → Prop}
    (hp : Answers s p first) (h : ∀ a s', first a s' → property a s') : Answers s p property :=
  fun _ _ heq => h _ _ (hp heq)

/-- The property does not depend on what the first of two readers does. -/
theorem Answers.after {s : ParserState} {p : Parse α} {f : α → Parse β}
    {property : β → ParserState → Prop} (h : ∀ a s', Answers s' (f a) property) :
    Answers s (p >>= f) property := by
  intro b s'' heq
  obtain ⟨a, s', -, heq⟩ := stateBind_eq_ok.mp heq
  exact h a s' heq

theorem Answers.and {s : ParserState} {p : Parse α} {first second : α → ParserState → Prop}
    (h : Answers s p first) (h' : Answers s p second) :
    Answers s p fun a s' => first a s' ∧ second a s' := fun _ _ heq => ⟨h heq, h' heq⟩

theorem answers_pure {s : ParserState} {a : α} {property : α → ParserState → Prop}
    (h : property a s) : Answers s (pure a) property := by
  intro a' s' heq
  cases heq
  exact h

theorem answers_modify {s : ParserState} {f : ParserState → ParserState} :
    Answers s (modify f) fun _ s' => s' = f s := by
  intro _ s' heq
  cases heq
  rfl

theorem answers_fail {s : ParserState} (t : Token) (cause : SyntaxError.Cause)
    {property : α → ParserState → Prop} : Answers s (t.fail cause) property :=
  fun _ _ h => nomatch h

theorem answers_ite {s : ParserState} {c : Prop} [Decidable c] {p q : Parse α}
    {property : α → ParserState → Prop} (hp : c → Answers s p property)
    (hq : ¬ c → Answers s q property) : Answers s (if c then p else q) property := by
  split
  · exact hp ‹_›
  · exact hq ‹_›

/-- A reader after one of two others. -/
theorem answers_choice {s : ParserState} {c : Prop} [Decidable c] {p q : Parse α}
    {rest : α → Parse β} {first : α → ParserState → Prop} {property : β → ParserState → Prop}
    (hp : Answers s p first) (hq : Answers s q first)
    (hrest : ∀ a s', first a s' → Answers s' (rest a) property) :
    Answers s (if c then p >>= rest else q >>= rest) property :=
  answers_ite (fun _ => hp.bind hrest) fun _ => hq.bind hrest

/-- A reader in a later state steps on. -/
theorem Step.answers {s s' : ParserState} (h : Step kinds scope s s') {p : Parse α}
    (hp : Keeps kinds p scope) : Answers s' p fun _ s'' => Step kinds scope s s'' :=
  fun _ _ heq => h.trans (hp h.chained heq)

/-- A reader in a later state steps on and reads the next token, in a scope opened before. -/
theorem Step.answers_readsIn {s s' : ParserState} {inner : ScopeId} (h : Step kinds scope s s')
    (hinner : InScope scope s s' inner) {p : Parse α} (hp : Reads kinds p inner) :
    Answers s' p fun _ s'' => Step kinds scope s s'' ∧ ReadsOn s s'' := by
  intro _ s'' heq
  obtain ⟨hstep, hreads⟩ := hp h.chained heq
  exact ⟨h.transIn hstep hinner, h.readsOn hstep.later hreads⟩

/-- A reader in a later state steps on and reads the next token. -/
theorem Step.answers_reads {s s' : ParserState} (h : Step kinds scope s s') {p : Parse α}
    (hp : Reads kinds p scope) :
    Answers s' p fun _ s'' => Step kinds scope s s'' ∧ ReadsOn s s'' :=
  h.answers_readsIn (.inl rfl) hp

theorem Step.answers_optional {s s' : ParserState} (h : Step kinds scope s s') {c : Prop}
    [Decidable c] {first : Parse α} {rest : Parse β} {property : β → ParserState → Prop}
    (hfirst : Keeps kinds first scope)
    (hrest : ∀ s'', Step kinds scope s s'' → Answers s'' rest property) :
    Answers s' (if c then first >>= fun _ => rest else rest) property :=
  answers_ite (fun _ => (h.answers hfirst).bind fun _ => hrest) fun _ => hrest s' h

theorem keeps_of_answers {p : Parse α}
    (h : ∀ s : ParserState, s.tokens.Chained → Answers s p fun _ s' => Step kinds scope s s') :
    Keeps kinds p scope := fun s _ _ hs heq => h s hs heq

theorem reads_of_answers {p : Parse α}
    (h : ∀ s : ParserState, s.tokens.Chained → Answers s p fun _ s' =>
      Step kinds scope s s' ∧ ReadsOn s s') :
    Reads kinds p scope := fun s _ _ hs heq => h s hs heq

/-! ## Loops and trials -/

theorem keeps_loop {round : β → Parse (Round β α)} (h : ∀ b, Keeps kinds (round b) scope) (b : β) :
    Keeps kinds (loop round b) scope := by
  intro s a s' hs heq
  fun_induction loop round b s with
  | case1 => cases heq
  | case2 b s a s' hround =>
    cases heq
    exact h b hs hround
  | case3 b s b' s' hround _ ih =>
    have hstep := h b hs hround
    exact hstep.trans (ih hstep.chained heq)
  | case4 => cases heq

theorem keeps_loopWhile {round : Parse Bool} (h : Keeps kinds round scope) :
    Keeps kinds (loopWhile round) scope :=
  keeps_loop (fun _ => h.bind fun _ => keeps_ite (keeps_pure _) (keeps_pure _)) ()

/-- What every round of a loop keeps holds after the loop. -/
theorem answers_loop {round : β → Parse (Round β α)} (invariant : β → ParserState → Prop)
    {property : α → ParserState → Prop}
    (h : ∀ b s, invariant b s → Answers s (round b) fun next s' =>
      match next with
      | .again b' => invariant b' s'
      | .done a => property a s') (b : β) {s : ParserState} (hs : invariant b s) :
    Answers s (loop round b) property := by
  intro a s' heq
  fun_induction loop round b s with
  | case1 => cases heq
  | case2 b s a s' hround =>
    cases heq
    exact h b s hs hround
  | case3 b s b' s' hround _ ih => exact ih (h b s hs hround) heq
  | case4 => cases heq

theorem answers_loopWhile {round : Parse Bool} {invariant : ParserState → Prop}
    (h : ∀ s, invariant s → Answers s round fun _ s' => invariant s') {s : ParserState}
    (hs : invariant s) : Answers s (loopWhile round) fun _ s' => invariant s' := by
  refine answers_loop (fun _ => invariant) (fun _ s hs => (h s hs).bind fun more s' hs' => ?_) () hs
  exact answers_ite (fun _ => answers_pure hs') fun _ => answers_pure hs'

/-- A trial without an answer leaves the state as it was. -/
theorem answers_attempt {s : ParserState} {reading : Parse (Option α)}
    {property : Option α → ParserState → Prop} (h : Answers s reading property)
    (hnone : property none s) : Answers s (attempt reading) property := by
  intro a s' heq
  unfold attempt at heq
  split at heq
  · cases heq
    exact hnone
  · exact h heq

theorem keeps_succeeds {reading : Parse Unit} (h : Keeps kinds reading scope) :
    Keeps kinds (succeeds reading) scope := by
  intro s a s' hs heq
  unfold succeeds at heq
  split at heq
  · cases heq
    exact h hs ‹_›
  · cases heq
    exact .refl hs

/-! ## Single tokens -/

/-- Nothing but the tokens changes, and no token is read. -/
theorem Step.ofTokens {s : ParserState} {tokens : TokenStream} (hs : s.tokens.Stays tokens) :
    Step kinds scope s { s with tokens } where
  chained := hs.chained
  source := hs.source
  size := hs.size
  moves := .inl hs.position
  behind := hs.behind ▸ List.suffix_refl _
  scopes := .refl ..
  declarations := .refl _
  references := .refl _
  dynamicImports := .refl _
  items := rfl
  requests := .refl _
  imports := .refl _
  exports := .refl _
  starExports := .refl _

/-- The next token in a mode is known, and the parser stays where it was. -/
structure Peeked (kinds : DeclarationKind → Prop) (scope : ScopeId) (mode : LexMode)
    (s : ParserState) (t : Token) (s' : ParserState) : Prop where
  step : Step kinds scope s s'
  place : s'.place = s.place
  token : t = (nextToken mode s.place).1

theorem answers_peekIn (kinds : DeclarationKind → Prop) (scope : ScopeId) (mode : LexMode)
    {s : ParserState} (hs : s.tokens.Chained) :
    Answers s (peekIn mode) (Peeked kinds scope mode s) := by
  intro t s' h
  obtain ⟨hpeek, hstays⟩ := hs.peek_spec mode
  cases h
  exact ⟨.ofTokens hstays, hstays.position, hpeek⟩

/-- Tokens are read after a step, the first of them by then, and nothing is recorded. -/
theorem Step.withTokens {s s' : ParserState} (h : Step kinds scope s s') {tokens : TokenStream}
    (chained : tokens.Chained) (source : tokens.source = s'.tokens.source)
    (size : tokens.size = s'.tokens.size)
    (leads : s'.place.Leads tokens.position) (behind : s'.tokens.behind <:+ tokens.behind)
    (moves : ReadsOn s { s' with tokens }) : Step kinds scope s { s' with tokens } := by
  have hlater : Later s' { s' with tokens } := ⟨leads, behind, Nat.le_refl _, Nat.le_refl _⟩
  exact {
    chained
    source := source.trans h.source
    size := size.trans h.size
    moves := .inr moves
    behind := h.behind.trans behind
    scopes := h.scopes
    declarations := h.declarations.weaken fun _ hd => hd.mono (.refl _) hlater
    references := h.references.weaken fun _ hr => hr.mono (.refl _) hlater
    dynamicImports := h.dynamicImports.weaken fun _ hd => hd.mono (.refl _) hlater
    items := h.items
    requests := h.requests
    imports := h.imports
    exports := h.exports
    starExports := h.starExports }

/-- A token is read: the next one in a mode, as far as the mode is admitted. -/
structure Consumed (mode : LexMode) (s : ParserState) (t : Token) (s' : ParserState) : Prop where
  token : t = (nextToken mode s.place).1
  behind : s'.tokens.behind = ⟨t, mode, (nextToken mode s.place).2⟩ :: s.tokens.behind
  others : s' = { s with tokens := s'.tokens }
  chained : s'.tokens.Chained
  source : s'.tokens.source = s.tokens.source
  size : s'.tokens.size = s.tokens.size

theorem Consumed.place {mode : LexMode} {s s' : ParserState} {t : Token}
    (h : Consumed mode s t s') : s'.place = (nextToken mode s.place).2 := by
  unfold ParserState.place TokenStream.position
  rw [h.behind]
  rfl

theorem answers_consumeIn {mode : LexMode} {s : ParserState} (hs : s.tokens.Chained)
    (hmode : s.tokens.Admits mode) : Answers s (consumeIn mode) (Consumed mode s) := by
  intro t s' h
  obtain ⟨htoken, hbehind, hsource, hsize, hchained⟩ := hs.advance_spec hmode
  have hnext : TokenStream.readAt mode s.tokens.position =
      ⟨(s.tokens.advance mode).1, mode, (nextToken mode s.place).2⟩ := by
    rw [htoken]
    rfl
  cases h
  refine ⟨htoken, hbehind.trans (congrArg (· :: s.tokens.behind) hnext), rfl, hchained, hsource, hsize⟩

/-- A token is read that begins where the trivia before it end. -/
structure TokenRead (kinds : DeclarationKind → Prop) (scope : ScopeId) (s : ParserState) (t : Token)
    (s' : ParserState) : Prop where
  step : Step kinds scope s s'
  reads : ReadsOn s s'
  span : t.span = ⟨s.place.tokenStart.offset, s'.place.offset⟩
  last : ∃ b, s'.tokens.behind.head? = some b ∧ b.token = t

namespace TokenRead

variable {s s' : ParserState} {t : Token}

theorem between (h : TokenRead kinds scope s t s') : t.span.Between s.place s'.place :=
  h.span ▸ .upto (leads_tokenStart _) h.reads.1

theorem spelled (h : TokenRead kinds scope s t s') :
    Spelled s'.tokens.behind (decodeName t.text) t.span := by
  obtain ⟨b, hb, rfl⟩ := h.last
  exact ⟨b, List.mem_of_head? hb, rfl, rfl⟩

theorem edges (h : TokenRead kinds scope s t s') : TokenEdges s'.tokens.behind t.span :=
  h.spelled.edges

/-- The token ends where the parser goes on. -/
theorem edge (h : TokenRead kinds scope s t s') :
    TokenEdge s'.tokens.behind s'.place.offset := by
  have hedge := h.edges.2
  rwa [h.span] at hedge

end TokenRead

/-- A token is read, unless the text of a template goes on. -/
theorem answers_token (kinds : DeclarationKind → Prop) (scope : ScopeId) {mode : LexMode}
    (hmode : mode ≠ .templateContinue) {s : ParserState} (hs : s.tokens.Chained) :
    Answers s (consumeIn mode) (TokenRead kinds scope s) := by
  refine (answers_consumeIn hs fun h => absurd h hmode).mono fun t s' h => ?_
  obtain ⟨hstart, hspan⟩ := nextToken_span mode s.place
  rw [Cursor.tokenStartIn, if_neg hmode, ← h.place] at hstart hspan
  rw [← h.token] at hspan
  have hlast : ⟨t, mode, (nextToken mode s.place).2⟩ ∈ s'.tokens.behind := by
    rw [h.behind]
    exact List.mem_cons_self
  have hreads : ReadsOn s s' := ⟨hstart, _, hlast, by rw [hspan]⟩
  refine ⟨?_, hreads, hspan, ⟨_, by rw [h.behind]; rfl, rfl⟩⟩
  rw [h.others] at hreads ⊢
  have hsuffix : s.tokens.behind <:+ s'.tokens.behind := h.behind ▸ List.suffix_cons _ _
  refine (Step.refl hs).withTokens h.chained h.source h.size ?_ hsuffix hreads
  exact (leads_tokenStart _).trans hreads.1

/-- The token that was looked at begins where the trivia before it end. -/
theorem Peeked.start {mode : LexMode} (hmode : mode ≠ .templateContinue) {s s' : ParserState}
    {t : Token} (h : Peeked kinds scope mode s t s') :
    t.span.start = s'.place.tokenStart.offset := by
  rw [h.token, (nextToken_span mode s.place).2, Cursor.tokenStartIn, if_neg hmode, h.place]

/-- The token that was looked at is read. -/
theorem Peeked.answers_consume {mode : LexMode} (hmode : mode ≠ .templateContinue)
    {s s' : ParserState} {t : Token} (h : Peeked kinds scope mode s t s') :
    Answers s' (consumeIn mode) fun t' s'' => t' = t ∧ TokenRead kinds scope s t s'' := by
  intro t' s'' heq
  have hread := answers_token kinds scope hmode h.step.chained heq
  have ht : t' = t := by
    rw [(answers_consumeIn h.step.chained (fun h => absurd h hmode) heq).token, h.place, h.token]
  have hspan := hread.span
  rw [h.place] at hspan
  refine ⟨ht, h.step.trans hread.step, h.step.readsOn hread.step.later hread.reads, ht ▸ hspan, ?_⟩
  exact ht ▸ hread.last

theorem keeps_peekIn (mode : LexMode) : Keeps kinds (peekIn mode) scope :=
  fun _ _ _ hs h => (answers_peekIn kinds scope mode hs h).step

theorem keeps_peek : Keeps kinds peek scope := keeps_peekIn _

theorem keeps_peek2 : Keeps kinds peek2 scope := by
  intro s pair s' hs h
  obtain ⟨-, hstays⟩ := hs.peek2_spec
  cases h
  exact .ofTokens hstays

theorem reads_consumeIn {mode : LexMode} (hmode : mode ≠ .templateContinue) :
    Reads kinds (consumeIn mode) scope := by
  intro s t s' hs h
  have hread := answers_token kinds scope hmode hs h
  exact ⟨hread.step, hread.reads⟩

theorem reads_consume : Reads kinds consume scope := reads_consumeIn (by decide)

theorem keeps_consumeIf (type : TokenType) : Keeps kinds (consumeIf type) scope :=
  keeps_peek.bind fun _ => keeps_ite (reads_consume.keeps.bind fun _ => keeps_pure _)
    (keeps_pure _)

theorem reads_requireIn {mode : LexMode} (hmode : mode ≠ .templateContinue) (type : TokenType) :
    Reads kinds (requireIn mode type) scope :=
  (reads_consumeIn hmode).bind fun t => keeps_ite (keeps_pure _) (reads_fail t _).keeps

theorem reads_require (type : TokenType) : Reads kinds (require type) scope :=
  reads_requireIn (by decide) type

theorem reads_requireThat (accepts : TokenType → Bool) (what : String) :
    Reads kinds (requireThat accepts what) scope :=
  reads_consume.bind fun t => keeps_ite (keeps_pure _) (reads_fail t _).keeps

theorem answers_lastEnd {s : ParserState} (hs : s.tokens.Chained) :
    Answers s lastEnd fun offset s' => s = s' ∧ offset = s.place.offset := by
  intro a s' h
  cases h
  exact ⟨rfl, hs.lastEnd_eq⟩

theorem keeps_lastEnd : Keeps kinds lastEnd scope := by
  intro s a s' hs h
  cases h
  exact .refl hs

theorem keeps_requireSemicolon : Keeps kinds requireSemicolon scope := by
  unfold requireSemicolon
  refine keeps_peek.bind fun t => ?_
  split
  · exact reads_consume.keeps.bind fun _ => keeps_pure _
  · exact keeps_pure _
  · exact keeps_pure _
  · exact keeps_ite (keeps_pure _) (reads_fail t _).keeps

theorem answers_require (kinds : DeclarationKind → Prop) (scope : ScopeId) (type : TokenType)
    {s : ParserState} (hs : s.tokens.Chained) :
    Answers s (require type) fun t s' => TokenRead kinds scope s t s' ∧ t.type = type := by
  refine (answers_token kinds scope (by decide) hs).bind fun t s' hread => ?_
  exact answers_ite (fun htype => answers_pure ⟨hread, htype⟩) fun _ => answers_fail t _

/-! ## What is recorded -/

/-- A scope is opened inside another one. -/
theorem answers_enterScope (kinds : DeclarationKind → Prop) (parent : ScopeId) (type : ScopeType)
    {s : ParserState} (hs : s.tokens.Chained) :
    Answers s (enterScope parent type) fun id s' =>
      Step kinds parent s s' ∧ s'.place = s.place ∧ InScope parent s s' id := by
  intro a s' h
  cases h
  have hsize : s.scopes.size < (s.scopes.push ⟨some parent, type⟩).size := by
    rw [Array.size_push]
    exact Nat.lt_succ_self _
  refine ⟨?_, rfl, .inr ⟨Nat.le_refl _, hsize⟩⟩
  exact {
    chained := hs
    source := rfl
    size := rfl
    moves := .inl rfl
    behind := List.suffix_refl _
    scopes := .push ..
    declarations := .refl _
    references := .refl _
    dynamicImports := .refl _
    items := rfl
    requests := .refl _
    imports := .refl _
    exports := .refl _
    starExports := .refl _ }

/-- A reader goes on in a scope of its own. -/
theorem keeps_enterScope {parent : ScopeId} {type : ScopeType} {rest : ScopeId → Parse α}
    (hrest : ∀ id, Keeps kinds (rest id) id) :
    Keeps kinds (enterScope parent type >>= rest) parent := by
  refine keeps_of_answers fun s hs => ?_
  refine (answers_enterScope kinds parent type hs).bind fun id s₁ ⟨hstep, _, hin⟩ => ?_
  exact fun _ _ heq => hstep.transIn (hrest id hstep.chained heq) hin

/-- A reader that reads the next token goes on in a scope of its own. -/
theorem reads_enterScope {parent : ScopeId} {type : ScopeType} {rest : ScopeId → Parse α}
    (hrest : ∀ id, Reads kinds (rest id) id) :
    Reads kinds (enterScope parent type >>= rest) parent := by
  refine reads_of_answers fun s hs => ?_
  refine (answers_enterScope kinds parent type hs).bind fun id s₁ ⟨hstep, _, hin⟩ => ?_
  intro a s₂ heq
  obtain ⟨hrest, hreads⟩ := hrest id hstep.chained heq
  exact ⟨hstep.transIn hrest hin, hstep.readsOn hrest.later hreads⟩

theorem keeps_declarationCount : Keeps kinds declarationCount scope := by
  intro s a s' hs h
  cases h
  exact .refl hs

theorem answers_declarationCount {s : ParserState} :
    Answers s declarationCount fun count s' => count = s.declarations.size ∧ s' = s := by
  intro _ s' h
  cases h
  exact ⟨rfl, rfl⟩

theorem answers_referenceCount {s : ParserState} :
    Answers s referenceCount fun count s' => count = s.references.size ∧ s' = s := by
  intro _ s' h
  cases h
  exact ⟨rfl, rfl⟩

theorem Step.withSideEffects {s : ParserState} (hs : s.tokens.Chained) (sideEffects : Bool) :
    Step kinds scope s { s with sideEffects } := { Step.refl hs with }

theorem keeps_markSideEffect (ctx : Context) : Keeps kinds (markSideEffect ctx) scope := by
  intro s a s' hs h
  cases h
  exact .withSideEffects hs _

/-- What is declared after a step belongs to it if its span lies in the step. -/
theorem Step.answers_declare {s s' : ParserState} {ctx : Context} {name : String} {span : Span}
    {kind : DeclarationKind} {shorthand : Bool} (h : Step kinds scope s s') (hkind : kinds kind)
    (hscope : InScope scope s s' ctx.scope) (hspan : span.Between s.place s'.place)
    (hname : SpelledOrDefault s'.tokens.behind name span) :
    Answers s' (declare ctx name span kind shorthand) fun _ s'' =>
      Step kinds scope s s'' ∧ Later s' s'' ∧
        s''.declarations = s'.declarations.push ⟨name, span, ctx.scope, kind, shorthand⟩ := by
  intro _ s'' heq
  cases heq
  refine ⟨{ h with declarations := h.declarations.push ?_ }, .ofTokens rfl rfl rfl, rfl⟩
  exact ⟨hkind, ⟨hspan, hname.edges, hscope⟩, hname⟩

theorem answers_declare {s : ParserState} {ctx : Context} {name : String} {span : Span}
    {kind : DeclarationKind} {shorthand : Bool} :
    Answers s (declare ctx name span kind shorthand) fun _ s' =>
      s' = { s with
        declarations := s.declarations.push ⟨name, span, ctx.scope, kind, shorthand⟩ } := by
  intro _ s' heq
  cases heq
  rfl

/-- What is declared ahead of its place belongs to a step that reaches it. -/
theorem Step.declareAhead {s s' s'' : ParserState} (h : Step kinds scope s s') {d : Declaration}
    (h' : Step kinds scope { s' with declarations := s'.declarations.push d } s'')
    (hd : DeclarationNoted kinds scope s s'' d) : Step kinds scope s s'' := by
  have hlater : Later s' s'' :=
    ⟨h'.later.leads, h'.later.behind, h'.later.scopes, h'.later.requests⟩
  have hbefore : Later s { s' with declarations := s'.declarations.push d } :=
    ⟨h.later.leads, h.later.behind, h.later.scopes, h.later.requests⟩
  exact {
    chained := h'.chained
    source := h'.source.trans h.source
    size := h'.size.trans h.size
    moves := h.moves.trans h'.moves hlater
    behind := h.behind.trans h'.behind
    scopes := h.scopes.trans h'.scopes (.inl rfl)
    declarations := ((h.declarations.weaken fun _ hd => hd.mono (.refl _) hlater).push hd).trans
      (h'.declarations.weaken fun _ hd => hd.mono hbefore (.refl _))
    references := (h.references.weaken fun _ hr => hr.mono (.refl _) hlater).trans
      (h'.references.weaken fun _ hr => hr.mono hbefore (.refl _))
    dynamicImports := (h.dynamicImports.weaken fun _ hd => hd.mono (.refl _) hlater).trans
      (h'.dynamicImports.weaken fun _ hd => hd.mono hbefore (.refl _))
    items := h'.items.trans h.items
    requests := h.requests.trans h'.requests
    imports := (h.imports.weaken fun _ hd =>
      ⟨hd.1, Nat.lt_of_lt_of_le hd.2 h'.requests.size_le⟩).trans h'.imports
    exports := (h.exports.weaken fun _ he => he.mono h'.requests.size_le).trans h'.exports
    starExports := (h.starExports.weaken fun _ hr =>
      Nat.lt_of_lt_of_le hr h'.requests.size_le).trans h'.starExports }

/-- A use that is recorded after a step belongs to it if its span lies in the step. -/
theorem Step.answers_refer {s s' : ParserState} {ctx : Context} {name : String} {span : Span}
    {shorthand : Bool} (h : Step kinds scope s s') (hscope : InScope scope s s' ctx.scope)
    (hspan : span.Between s.place s'.place) (hname : Spelled s'.tokens.behind name span) :
    Answers s' (refer ctx name span shorthand) fun _ s'' =>
      Step kinds scope s s'' ∧ Later s' s'' := by
  intro _ s'' heq
  cases heq
  refine ⟨{ h with references := h.references.push ?_ }, .ofTokens rfl rfl rfl⟩
  exact ⟨⟨hspan, hname.edges, hscope⟩, hname⟩

/-- A request is recorded after a step. -/
theorem Step.answers_recordRequest {s s' : ParserState} (h : Step kinds scope s s')
    (request : ModuleRequest) : Answers s' (do
      let s ← get
      set { s with requests := s.requests.push request }
      pure s.requests.size) fun index s'' =>
        Step kinds scope s s'' ∧ s''.place = s'.place ∧ index < s''.requests.size := by
  intro index s'' heq
  cases heq
  have hsize : s'.requests.size < (s'.requests.push request).size := by
    rw [Array.size_push]
    exact Nat.lt_succ_self _
  have hle := Nat.le_of_lt hsize
  refine ⟨?_, rfl, hsize⟩
  exact { h with
    requests := h.requests.push trivial
    imports := h.imports.weaken fun _ hd => ⟨hd.1, Nat.lt_of_lt_of_le hd.2 hle⟩
    exports := h.exports.weaken fun _ he => he.mono hle
    starExports := h.starExports.weaken fun _ hr => Nat.lt_of_lt_of_le hr hle }

/-! ## Lists -/

theorem keeps_separatedList (separator close : TokenType) {item : Parse Unit}
    (h : Keeps kinds item scope) : Keeps kinds (separatedList separator close item) scope := by
  refine keeps_loopWhile ((keeps_consumeIf close).bind fun _ => keeps_ite (keeps_pure _) ?_)
  refine h.bind fun _ => (keeps_consumeIf separator).bind fun _ => keeps_ite (keeps_pure _) ?_
  exact (reads_require close).keeps.bind fun _ => keeps_pure _

end ModuleBundler
