import ModuleBundler.Grammar.Expression
import ModuleBundler.Proofs.BufferedTokens
import ModuleBundler.Proofs.LinePlaces
import ModuleBundler.Proofs.Productions.Pattern
import ModuleBundler.Proofs.TokenText

/-!
# Binary operators by precedence

Operands with binary operators between them are read in a row. Here they are read as they group, by
a reader that calls itself for what stands to the right of an operator.

* `powers` : how often `**` may stand in a text;
* `ParserState.Whole`, `Agree` : states that have all their text, and two readers that do the same
  wherever no more than so many powers are left;
* `operations` : operators that bind so tight, and what stands to their right;
* `climb` : operands and operators as they group, with fuel for as many operators as stand in each
  other's right operands;
* `operations_group` : a row is read up to where a tighter part of it ends, and then on from there;
* `agree_climb` : with enough fuel both read the same. An operator that groups to the left takes
  fuel at most once for each precedence, but `**`, which groups to the right, whenever it stands there.
-/

namespace ModuleBundler

open Cursor (Leads)

/-! ## Powers -/

/-- How often two asterisks stand next to each other. -/
def powers : List Char → Nat
  | [] => 0
  | c :: rest => powers rest + if c = '*' ∧ rest.head? = some '*' then 1 else 0

theorem powers_le_append (before rest : List Char) : powers rest ≤ powers (before ++ rest) := by
  induction before with
  | nil => exact Nat.le_refl _
  | cons c before ih => exact Nat.le_trans ih (Nat.le_add_right _ _)

/-- Further on in a text there are no more of them. -/
theorem powers_le_of_leads {c c' : Cursor} (h : c.Leads c') : powers c'.rest ≤ powers c.rest := by
  obtain ⟨passed, hrest, -⟩ := h
  rw [hrest]
  exact powers_le_append passed c'.rest

theorem scanOperator_power {c : Cursor} (h : (scanOperator c).type = .asteriskAsterisk) :
    ∃ rest, c.rest = '*' :: '*' :: rest ∧ (scanOperator c).stop = ⟨c.offset + 2, rest⟩ := by
  have htext : ∀ entry ∈ operatorTable, entry.2 = .asteriskAsterisk → entry.1 = ['*', '*'] := by
    decide
  obtain ⟨offset, cs⟩ := c
  unfold scanOperator at h ⊢
  cases hfind : operatorTable.find? fun entry => entry.1.isPrefixOf cs with
  | none =>
    simp only [hfind] at h
    cases h
  | some entry =>
    obtain ⟨text, type⟩ := entry
    simp only [hfind] at h
    have hpre := List.isPrefixOf_iff_prefix.mp
      (List.find?_some (p := fun entry : List Char × TokenType => entry.1.isPrefixOf cs) hfind)
    obtain rfl : text = ['*', '*'] := htext _ (List.mem_of_find?_eq_some hfind) h
    obtain ⟨rest, rfl⟩ := hpre
    have hleads : Leads ⟨offset, '*' :: '*' :: rest⟩ ⟨offset + 2, rest⟩ := ⟨['*', '*'], rfl, rfl⟩
    have hstop := Cursor.advanceTo_eq hleads
    exact ⟨rest, rfl, hstop⟩

/-- Only the operator itself is read as one. -/
theorem scanToken_power {slashIsRegex : Bool} {c : Cursor}
    (h : (scanToken slashIsRegex c).type = .asteriskAsterisk) :
    ∃ rest, c.rest = '*' :: '*' :: rest ∧
      (scanToken slashIsRegex c).stop = ⟨c.offset + 2, rest⟩ := by
  have heq : scanToken slashIsRegex c = scanOperator c := by
    rcases scanToken_kinds slashIsRegex c with hnil | ⟨-, -, -, hword⟩ | hoperator | hliteral
    · unfold scanToken at h
      rw [hnil] at h
      cases h
    · rw [hword] at h
      have htype := scanWord_type c
      rw [h] at htype
      exact absurd htype (by decide)
    · exact hoperator
    · rw [h] at hliteral
      cases hliteral
  rw [heq] at h ⊢
  exact scanOperator_power h

/-- Past a power there are fewer of them. -/
theorem powers_lt_of_power {c : Cursor} (h : (nextToken .standard c).1.type = .asteriskAsterisk) :
    powers (nextToken .standard c).2.rest < powers c.rest := by
  have hscan : (scanToken false c.tokenStart).type = .asteriskAsterisk := h
  obtain ⟨rest, hrest, hstop⟩ := scanToken_power hscan
  have hle := powers_le_of_leads (leads_tokenStart c)
  have hnext : (nextToken .standard c).2 = ⟨c.tokenStart.offset + 2, rest⟩ := hstop
  rw [hrest] at hle
  rw [hnext]
  refine Nat.lt_of_lt_of_le ?_ hle
  have hstep := powers_le_append ['*'] rest
  simp only [List.singleton_append] at hstep
  show powers rest < powers ('*' :: rest) + 1
  omega

/-! ## Readers that agree -/

/-- The state has the whole text from its place on. -/
structure ParserState.Whole (s : ParserState) : Prop where
  chained : s.tokens.Chained
  size : s.tokens.size = s.place.offset + byteLength s.place.rest

namespace ParserState.Whole

variable {s s' : ParserState}

theorem ofString (source : String) : (ParserState.ofString source).Whole := by
  refine ⟨TokenStream.chained_ofString source, ?_⟩
  show source.utf8ByteSize = 0 + byteLength source.toList
  rw [utf8ByteSize_eq, Nat.zero_add]

theorem remaining_eq (h : s.Whole) : s.tokens.remaining = byteLength s.place.rest := by
  show s.tokens.size - s.place.offset = _
  rw [h.size, Nat.add_sub_cancel_left]

/-- So has a later state of the same text. -/
theorem later (h : s.Whole) (hchained : s'.tokens.Chained) (hsize : s'.tokens.size = s.tokens.size)
    (hleads : s.place.Leads s'.place) : s'.Whole := by
  obtain ⟨passed, hrest, hoffset⟩ := hleads
  refine ⟨hchained, ?_⟩
  rw [hsize, h.size, hrest, byteLength_append, hoffset, Nat.add_assoc]

theorem remaining_lt (h : s.Whole) (h' : s'.Whole) (hsize : s'.tokens.size = s.tokens.size)
    (hlt : s.place.offset < s'.place.offset) : s'.tokens.remaining < s.tokens.remaining := by
  have heq := h.size
  have heq' := h'.size
  rw [h.remaining_eq, h'.remaining_eq]
  omega

end ParserState.Whole

/-- Two readers in a row. -/
theorem parse_bind {α β : Type} (p : Parse α) (f : α → Parse β) (s : ParserState) :
    (p >>= f) s = (p s).bind fun answer => f answer.1 answer.2 := rfl

/-- From one state to another the parser goes forward in the whole text. -/
structure Goes (s s' : ParserState) : Prop where
  whole : s'.Whole
  size : s'.tokens.size = s.tokens.size
  leads : s.place.Leads s'.place

namespace Goes

variable {s s' s'' : ParserState}

theorem refl (h : s.Whole) : Goes s s := ⟨h, rfl, .refl _⟩

theorem trans (h : Goes s s') (h' : Goes s' s'') : Goes s s'' :=
  ⟨h'.whole, h'.size.trans h.size, h.leads.trans h'.leads⟩

theorem powers_le (h : Goes s s') : powers s'.place.rest ≤ powers s.place.rest :=
  powers_le_of_leads h.leads

theorem remaining_le (h : Goes s s') : s'.tokens.remaining ≤ s.tokens.remaining := by
  have hle := h.leads.offset_le
  show s'.tokens.size - s'.place.offset ≤ s.tokens.size - s.place.offset
  rw [h.size]
  omega

end Goes

theorem Step.goes {kinds : DeclarationKind → Prop} {scope : ScopeId} {s s' : ParserState}
    (h : Step kinds scope s s') (hs : s.Whole) : Goes s s' :=
  ⟨hs.later h.chained h.size h.leads, h.size, h.leads⟩

/-- The readers do the same in every state with no more than `n` powers left, and go forward. -/
def Agree {α : Type} (n : Nat) (p q : Parse α) : Prop :=
  ∀ ⦃s⦄, s.Whole → powers s.place.rest ≤ n →
    p s = q s ∧ ∀ a s', p s = .ok (a, s') → Goes s s'

section
variable {α β : Type} {n : Nat}

theorem Agree.mono {m : Nat} {p q : Parse α} (h : Agree n p q) (hle : m ≤ n) : Agree m p q :=
  fun _ hs hm => h hs (Nat.le_trans hm hle)

/-- A reader that steps agrees with itself. -/
theorem Keeps.agree {kinds : DeclarationKind → Prop} {scope : ScopeId} {p : Parse α}
    (h : Keeps kinds p scope) : Agree n p p :=
  fun _ hs _ => ⟨rfl, fun _ _ heq => (h hs.chained heq).goes hs⟩

theorem agree_pure (a : α) : Agree n (pure a : Parse α) (pure a) :=
  (show Keeps OwnKind (pure a : Parse α) moduleScope from keeps_pure a).agree

theorem agree_peek : Agree n peek peek :=
  (show Keeps OwnKind peek moduleScope from keeps_peek).agree

theorem agree_consume : Agree n consume consume :=
  (show Reads OwnKind consume moduleScope from reads_consume).keeps.agree

theorem Agree.bind {p q : Parse α} {f f' : α → Parse β} (h : Agree n p q)
    (hf : ∀ a, Agree n (f a) (f' a)) : Agree n (p >>= f) (q >>= f') := by
  intro s hs hn
  obtain ⟨heq, hgoes⟩ := h hs hn
  rw [parse_bind, parse_bind, ← heq]
  cases hp : p s with
  | error e => exact ⟨rfl, fun _ _ h => nomatch h⟩
  | ok answer =>
    obtain ⟨a, s'⟩ := answer
    have hgo := hgoes a s' hp
    obtain ⟨hrest, hgoes'⟩ := hf a hgo.whole (Nat.le_trans hgo.powers_le hn)
    exact ⟨hrest, fun b s'' h => hgo.trans (hgoes' b s'' h)⟩

end

/-! ## Operators as they group -/

/-- The least precedence of the operators in what stands to the right of one. -/
def BinaryOperator.rightPrecedence (op : BinaryOperator) : Nat :=
  match op.associativity with
  | .left => op.precedence + 1
  | .right => op.precedence

/-- The operator that a token is, if it binds so tight. -/
def operatorAt (ctx : Context) (least : Nat) (type : TokenType) : Option BinaryOperator :=
  if type = .keywordIn && !ctx.inAllowed then none
  else type.binaryOperator?.filter fun op => least ≤ op.precedence

/-- Reads an operator that binds so tight after an operand, and what stands to its right. -/
def operation (ctx : Context) (least : Nat) (right : BinaryOperator → Parse Expr) (e : Expr) :
    Parse (Round Expr Expr) := do
  let t ← peek
  match operatorAt ctx least t.type with
  | none => pure (.done e)
  | some op =>
    let _ ← consume
    let operand ← right op
    pure (.again (.other (e.span.join operand.span)))

/-- One operator after another. -/
def operations (ctx : Context) (least : Nat) (right : BinaryOperator → Parse Expr) (first : Expr) :
    Parse Expr :=
  loop (operation ctx least right) first

/-- Reads operands and the operators between them as they group. What stands to the right of an
operator is read in the same way, with less fuel. Without fuel it is `out`. -/
def climb (out : Parse Expr) (operand : Nat → Context → Parse Expr) :
    Nat → Context → Nat → Parse Expr
  | 0, _, _ => out
  | fuel + 1, ctx, least => do
    let first ← operand fuel ctx
    operations ctx least (fun op => climb out operand fuel ctx op.rightPrecedence) first

/-- The state after a look at the next token. -/
def ParserState.peeked (s : ParserState) : ParserState :=
  { s with tokens := (s.tokens.peek .standard).2 }

/-- Looking twice sees the same. -/
theorem peek_peeked (s : ParserState) :
    s.peeked.tokens.peek .standard = s.tokens.peek .standard := by
  have hfill : (s.tokens.fill .standard 1).fill .standard 1 = s.tokens.fill .standard 1 :=
    congrArg (fun ahead => { s.tokens with ahead })
      (TokenStream.lookAhead_lookAhead .standard 1 s.tokens.position s.tokens.ahead)
  show (s.tokens.fill .standard 1).peek .standard = s.tokens.peek .standard
  unfold TokenStream.peek
  rw [hfill]

theorem peeked_peeked (s : ParserState) : s.peeked.peeked = s.peeked := by
  show { s.peeked with tokens := (s.peeked.tokens.peek .standard).2 } = s.peeked
  rw [peek_peeked]
  rfl

/-- The operator that comes next, if it binds so tight. -/
def ParserState.nextOperator (ctx : Context) (least : Nat) (s : ParserState) :
    Option BinaryOperator :=
  operatorAt ctx least (s.tokens.peek .standard).1.type

theorem nextOperator_peeked (ctx : Context) (least : Nat) (s : ParserState) :
    s.peeked.nextOperator ctx least = s.nextOperator ctx least :=
  congrArg (fun ahead : Token × TokenStream => operatorAt ctx least ahead.1.type) (peek_peeked s)

section
variable {ctx : Context} {least : Nat} {right : BinaryOperator → Parse Expr} {s : ParserState}

theorem operation_none (h : s.nextOperator ctx least = none) (e : Expr) :
    operation ctx least right e s = .ok (.done e, s.peeked) := by
  show (match s.nextOperator ctx least with
    | none => (pure (.done e) : Parse (Round Expr Expr))
    | some op => do
      let _ ← consume
      let operand ← right op
      pure (.again (.other (e.span.join operand.span)))) s.peeked = _
  rw [h]
  rfl

theorem operation_some {op : BinaryOperator} (h : s.nextOperator ctx least = some op) (e : Expr) :
    operation ctx least right e s = ((consume >>= fun _ => right op) s.peeked).map fun answer =>
      (.again (.other (e.span.join answer.1.span)), answer.2) := by
  show (match s.nextOperator ctx least with
    | none => (pure (.done e) : Parse (Round Expr Expr))
    | some op => do
      let _ ← consume
      let operand ← right op
      pure (.again (.other (e.span.join operand.span)))) s.peeked = _
  rw [h]
  dsimp only
  rw [parse_bind, parse_bind]
  cases consume s.peeked with
  | error e => rfl
  | ok read =>
    show (right op >>= _) read.2 = (right op read.2).map _
    rw [parse_bind]
    cases right op read.2 with
    | error e => rfl
    | ok answer => rfl

theorem operations_none (h : s.nextOperator ctx least = none) (e : Expr) :
    operations ctx least right e s = .ok (e, s.peeked) := by
  unfold operations
  rw [loop, operation_none h]

theorem operations_some {op : BinaryOperator} (h : s.nextOperator ctx least = some op) (e : Expr) :
    operations ctx least right e s =
      ((consume >>= fun _ => right op) s.peeked).bind fun answer =>
        if answer.2.tokens.remaining < s.tokens.remaining then
          operations ctx least right (.other (e.span.join answer.1.span)) answer.2
        else .error ⟨.unexpectedEnd, .point answer.2.tokens.lastEnd, none⟩ := by
  unfold operations
  rw [loop, operation_some h]
  cases (consume >>= fun _ => right op) s.peeked with
  | error e => rfl
  | ok answer => rfl

end

theorem operations_peeked (ctx : Context) (least : Nat) (right : BinaryOperator → Parse Expr)
    (e : Expr) (s : ParserState) :
    operations ctx least right e s.peeked = operations ctx least right e s := by
  cases h : s.nextOperator ctx least with
  | none =>
    rw [operations_none h, operations_none ((nextOperator_peeked ctx least s).trans h),
      peeked_peeked]
  | some op =>
    rw [operations_some h, operations_some ((nextOperator_peeked ctx least s).trans h),
      peeked_peeked]
    rfl

/-- An operator that binds tighter binds tight enough. -/
theorem nextOperator_of_le {ctx : Context} {least tighter : Nat} (hle : least ≤ tighter)
    {s : ParserState} {op : BinaryOperator} (h : s.nextOperator ctx tighter = some op) :
    s.nextOperator ctx least = some op := by
  unfold ParserState.nextOperator operatorAt at h ⊢
  split at h
  · cases h
  · rename_i hin
    rw [if_neg hin]
    rw [Option.filter_eq_some_iff] at h ⊢
    refine ⟨h.1, ?_⟩
    have hprecedence := of_decide_eq_true h.2
    exact decide_eq_true (Nat.le_trans hle hprecedence)

theorem Span.join_assoc (a b c : Span) : (a.join b).join c = a.join (b.join c) := by
  unfold Span.join
  simp only [Nat.min_assoc, Nat.max_assoc]

/-- A row of operators is read up to where its tighter part ends, and then on from there. -/
theorem operations_group {ctx : Context} {least tighter : Nat} (hle : least ≤ tighter)
    (operand : Parse Expr) (outer : Span) (e : Expr) (s : ParserState) :
    operations ctx least (fun _ => operand) (.other (outer.join e.span)) s =
      (operations ctx tighter (fun _ => operand) e s).bind fun answer =>
        operations ctx least (fun _ => operand) (.other (outer.join answer.1.span)) answer.2 := by
  induction hn : s.tokens.remaining using Nat.strongRecOn generalizing s e with
  | ind n ih =>
    cases htight : s.nextOperator ctx tighter with
    | none =>
      -- What was looked at for the tighter part is looked at again.
      rw [operations_none htight]
      exact (operations_peeked ctx least _ _ s).symm
    | some op =>
      rw [operations_some htight, operations_some (nextOperator_of_le hle htight)]
      cases (consume >>= fun _ => operand) s.peeked with
      | error error => rfl
      | ok answer =>
        obtain ⟨x, s'⟩ := answer
        dsimp only [Except.bind]
        by_cases hlt : s'.tokens.remaining < s.tokens.remaining
        · rw [if_pos hlt, if_pos hlt]
          have hgroup := ih s'.tokens.remaining (hn ▸ hlt) (.other (e.span.join x.span)) s' rfl
          show operations ctx least _ (.other ((outer.join e.span).join x.span)) s' = _
          rw [Span.join_assoc]
          exact hgroup
        · rw [if_neg hlt, if_neg hlt]

/-- A binary operator is a token with a text. It groups to the left, or is the power. -/
theorem binaryOperator_cases {type : TokenType} {op : BinaryOperator}
    (h : type.binaryOperator? = some op) : type ≠ .eof ∧ type ≠ .invalid ∧
      op.precedence ≤ op.rightPrecedence ∧ op.rightPrecedence ≤ 14 ∧
        (op.precedence < op.rightPrecedence ∨ type = .asteriskAsterisk) := by
  cases type <;> cases h <;> decide

/-- After an operator less is left to read. What stands to its right binds tighter, or there is one
power less. -/
theorem consume_operator {ctx : Context} {least : Nat} {s : ParserState} {op : BinaryOperator}
    (hs : s.Whole) (h : s.nextOperator ctx least = some op) :
    ∃ t s', consume s.peeked = .ok (t, s') ∧ Goes s s' ∧ s'.tokens.remaining < s.tokens.remaining ∧
      least ≤ op.rightPrecedence ∧ op.rightPrecedence ≤ 14 ∧
        (least < op.rightPrecedence ∨ powers s'.place.rest < powers s.place.rest) := by
  obtain ⟨hpeek, hstays⟩ : (s.tokens.peek .standard).1 = (nextToken .standard s.place).1 ∧ _ :=
    hs.chained.peek_spec .standard
  have hpeeked : s.peeked.place = s.place := hstays.position
  obtain ⟨t, s', hconsume⟩ : ∃ t s', consume s.peeked = .ok (t, s') := ⟨_, _, rfl⟩
  have hadmits : s.peeked.tokens.Admits .standard := fun h => nomatch h
  have hchained : s.peeked.tokens.Chained := hstays.chained
  have hread := answers_consumeIn hchained hadmits hconsume
  have hplace : s'.place = (nextToken .standard s.place).2 := by rw [hread.place, hpeeked]
  have hsize : s'.tokens.size = s.tokens.size := hread.size.trans hstays.size
  have hleads : s.place.Leads s'.place := hplace ▸ leads_nextToken _ _
  have hwhole := hs.later hread.chained hsize hleads
  unfold ParserState.nextOperator operatorAt at h
  split at h
  · cases h
  obtain ⟨hop, hleast⟩ := Option.filter_eq_some_iff.mp h
  have hleast := of_decide_eq_true hleast
  rw [hpeek] at hop
  obtain ⟨heof, hinvalid, hle, hright, hcases⟩ := binaryOperator_cases hop
  have hlt : s.place.offset < s'.place.offset := by
    have hstart := (leads_tokenStartIn .standard s.place).offset_le
    have htoken := nextToken_lt heof hinvalid
    rw [(nextToken_span .standard s.place).2] at htoken
    rw [hplace]
    exact Nat.lt_of_le_of_lt hstart htoken
  refine ⟨t, s', hconsume, ⟨hwhole, hsize, hleads⟩, hs.remaining_lt hwhole hsize hlt, ?_⟩
  refine ⟨Nat.le_trans hleast hle, hright, hcases.imp (Nat.lt_of_le_of_lt hleast) fun htype => ?_⟩
  exact hplace ▸ powers_lt_of_power htype

theorem agree_loop {α β : Type} {n : Nat} {round round' : β → Parse (Round β α)}
    (h : ∀ b, Agree n (round b) (round' b)) (b : β) :
    Agree n (loop round b) (loop round' b) := by
  intro s hs hn
  fun_induction loop round b s with
  | case1 b s e hround =>
    obtain ⟨heq, -⟩ := h b hs hn
    rw [loop, ← heq, hround]
    exact ⟨rfl, fun _ _ h => by cases h⟩
  | case2 b s a s' hround =>
    obtain ⟨heq, hgoes⟩ := h b hs hn
    rw [loop, ← heq, hround]
    refine ⟨rfl, fun a s'' h => ?_⟩
    cases h
    exact hgoes _ _ hround
  | case3 b s b' s' hround hlt ih =>
    obtain ⟨heq, hgoes⟩ := h b hs hn
    have hgo := hgoes _ _ hround
    obtain ⟨heq', hgoes'⟩ := ih hgo.whole (Nat.le_trans hgo.powers_le hn)
    rw [loop.eq_def round' b s, ← heq, hround]
    dsimp only
    rw [if_pos hlt]
    exact ⟨heq', fun a s'' h => hgo.trans (hgoes' a s'' h)⟩
  | case4 b s b' s' hround hlt =>
    obtain ⟨heq, -⟩ := h b hs hn
    rw [loop, ← heq, hround]
    dsimp only
    rw [if_neg hlt]
    exact ⟨rfl, fun _ _ h => by cases h⟩

theorem agree_operations_row {ctx : Context} {least n : Nat} {operand operand' : Parse Expr}
    (h : Agree n operand operand') (e : Expr) :
    Agree n (operations ctx least (fun _ => operand) e)
      (operations ctx least (fun _ => operand') e) := by
  refine agree_loop (fun e => agree_peek.bind fun t => ?_) e
  split
  · exact agree_pure _
  · exact agree_consume.bind fun _ => h.bind fun _ => agree_pure _

/-- What stands to the right of operators may be read as it groups. -/
theorem agree_operations {ctx : Context} {least n : Nat} {operand : Parse Expr}
    {right : BinaryOperator → Parse Expr} (hoperand : Agree n operand operand)
    (hright : ∀ op m, op.rightPrecedence ≤ 14 → m ≤ n →
      least < op.rightPrecedence ∨ (least ≤ op.rightPrecedence ∧ m < n) →
      Agree m (operand >>= operations ctx op.rightPrecedence fun _ => operand) (right op))
    (e : Expr) : Agree n (operations ctx least (fun _ => operand) e) (operations ctx least right e) := by
  intro s hs hn
  induction hm : s.tokens.remaining using Nat.strongRecOn generalizing s e with
  | ind m ih =>
    cases hop : s.nextOperator ctx least with
    | none =>
      rw [operations_none hop, operations_none hop]
      refine ⟨rfl, fun a s' h => ?_⟩
      cases h
      exact (agree_peek (n := n) hs hn).2 _ _ rfl
    | some op =>
      obtain ⟨t, s₁, hconsume, hgo₁, hlt, hleast, htight, hcases⟩ := consume_operator hs hop
      have hn₁ := Nat.le_trans hgo₁.powers_le hn
      have hread : ∀ p : Parse Expr, (consume >>= fun _ => p) s.peeked = p s₁ := by
        intro p
        rw [parse_bind, hconsume]
        rfl
      have hgroups := (hright op (powers s₁.place.rest) htight hn₁
        (hcases.imp_right fun h => ⟨hleast, Nat.lt_of_lt_of_le h hn⟩) hgo₁.whole (Nat.le_refl _)).1
      rw [operations_some hop, operations_some hop, hread, hread, ← hgroups, parse_bind]
      obtain ⟨-, hgoes⟩ := hoperand hgo₁.whole hn₁
      cases hfirst : operand s₁ with
      | error error => exact ⟨rfl, fun _ _ h => nomatch h⟩
      | ok first =>
        obtain ⟨x, s₂⟩ := first
        have hgo₂ := hgo₁.trans (hgoes x s₂ hfirst)
        have hlt₂ := Nat.lt_of_le_of_lt (hgoes x s₂ hfirst).remaining_le hlt
        have hn₂ := Nat.le_trans hgo₂.powers_le hn
        dsimp only [Except.bind]
        rw [if_pos hlt₂]
        rw [operations_group hleast operand e.span x s₂]
        have hrow : Agree n (operations ctx op.rightPrecedence (fun _ => operand) x)
            (operations ctx op.rightPrecedence (fun _ => operand) x) :=
          agree_operations_row hoperand x
        obtain ⟨-, hgoes'⟩ := hrow hgo₂.whole hn₂
        cases hinner : operations ctx op.rightPrecedence (fun _ => operand) x s₂ with
        | error error => exact ⟨rfl, fun _ _ h => nomatch h⟩
        | ok second =>
          obtain ⟨y, s₃⟩ := second
          have hgo₃ := hgoes' y s₃ hinner
          have hlt₃ := Nat.lt_of_le_of_lt hgo₃.remaining_le hlt₂
          dsimp only [Except.bind]
          rw [if_pos hlt₃]
          obtain ⟨hrest, hgoes''⟩ := ih s₃.tokens.remaining (hm ▸ hlt₃)
            (.other (e.span.join y.span)) hgo₃.whole (Nat.le_trans hgo₃.powers_le hn₂) rfl
          exact ⟨hrest, fun a s' h => hgo₂.trans (hgo₃.trans (hgoes'' a s' h))⟩

/-- **Operators read in a row are read as they group.** With enough fuel, which is one for each
precedence from the least one on and one for each power. -/
theorem agree_climb {ctx : Context} {base : Nat} {operand : Parse Expr}
    {operand' : Nat → Context → Parse Expr} {out : Parse Expr}
    (h : ∀ n fuel, base + n ≤ fuel → Agree n operand (operand' fuel ctx)) {least n fuel : Nat}
    (hleast : least ≤ 14) (hfuel : base + (15 - least) + n + 1 ≤ fuel) :
    Agree n (operand >>= operations ctx least fun _ => operand)
      (climb out operand' fuel ctx least) := by
  induction fuel generalizing least n with
  | zero => omega
  | succ fuel ih =>
    have hself : Agree n operand operand := fun s hs hn =>
      ⟨rfl, (h n fuel (by omega) hs hn).2⟩
    refine (h n fuel (by omega)).bind fun first => agree_operations hself ?_ first
    intro op m hop hm hcases
    exact ih hop (by omega)

end ModuleBundler
