import ModuleBundler.Proofs.FueledGrammar

/-!
# The nesting limit and how deep the parser calls itself

Text that nests deeper than `maxNesting` is refused, so that the parser does not call itself too
deep. Operators are no nesting, though: what stands to the right of one is read by the reader of
operators itself, and in `1**1**1…` each power stands in the right operand of the one before.

* `powerChain` : such a text with so many powers;
* `ReadTo` : tokens are read up to where a text is left, and nothing is recorded;
* `unaryLevel_run`, `operations_powerChain` : the operands and the powers of a chain are read;
* `climb_powerChain` : a chain uses up any fuel;
* `parseModule_powerChain` : and is a module, however long it is;
* `parseFueled_eq_parseModule` : so much fuel for each level of nesting, and one for each power, make
  no difference;
* `no_fuel_suffices` : without the powers no multiple of the nesting limit is enough.
-/

namespace ModuleBundler

/-! ## Chains of powers -/

/-- A text with so many powers, each in the right operand of the one before. -/
def powerChain : Nat → List Char
  | 0 => ['1']
  | n + 1 => '1' :: '*' :: '*' :: powerChain n

/-- What may stand after an operand of a chain. -/
def afterOperand : Nat → List Char
  | 0 => []
  | n + 1 => '*' :: '*' :: powerChain n

theorem powerChain_eq (n : Nat) : powerChain n = '1' :: afterOperand n := by cases n <;> rfl

theorem skipTrivia_one (offset : Nat) (rest : List Char) :
    Cursor.skipTrivia ⟨offset, '1' :: rest⟩ = (false, ⟨offset, '1' :: rest⟩) := by
  cases offset <;> rfl

theorem scanToken_one (b : Bool) (offset n : Nat) :
    scanToken b ⟨offset, '1' :: afterOperand n⟩ =
      ⟨.literalNumber, ⟨offset + 1, afterOperand n⟩⟩ := by
  cases n with
  | zero => rfl
  | succ n => rfl

theorem skipTrivia_star (offset : Nat) (rest : List Char) :
    Cursor.skipTrivia ⟨offset, '*' :: rest⟩ = (false, ⟨offset, '*' :: rest⟩) := by
  cases offset <;> rfl

theorem scanToken_star (offset n : Nat) :
    scanToken false ⟨offset, '*' :: '*' :: powerChain n⟩ =
      ⟨.asteriskAsterisk, ⟨offset + 2, powerChain n⟩⟩ := by
  have htype : (scanToken false ⟨offset, '*' :: '*' :: powerChain n⟩).type = .asteriskAsterisk := by
    cases n with
    | zero => rfl
    | succ n => rfl
  obtain ⟨rest, hrest, hstop⟩ := scanToken_power htype
  cases hrest
  rw [← htype, ← hstop]

theorem nextToken_operand {mode : LexMode} (hmode : mode ≠ .templateContinue) {c : Cursor} {n : Nat}
    (hc : c.rest = powerChain n) : (nextToken mode c).1.type = .literalNumber ∧
      (nextToken mode c).2.rest = afterOperand n := by
  obtain ⟨offset, rest⟩ := c
  obtain rfl : rest = '1' :: afterOperand n := by rw [← powerChain_eq]; exact hc
  unfold nextToken
  cases mode with
  | standard => simp only [skipTrivia_one, scanToken_one, and_self]
  | slashIsRegex => simp only [skipTrivia_one, scanToken_one, and_self]
  | templateContinue => exact absurd rfl hmode

theorem nextToken_power {c : Cursor} {n : Nat} (hc : c.rest = afterOperand (n + 1)) :
    (nextToken .standard c).1.type = .asteriskAsterisk ∧
      (nextToken .standard c).2.rest = powerChain n := by
  obtain ⟨offset, rest⟩ := c
  obtain rfl : rest = '*' :: '*' :: powerChain n := hc
  unfold nextToken
  simp only [skipTrivia_star, scanToken_star, and_self]

/-! ## Reading on -/

/-- Tokens are read up to where a text is left, and nothing is recorded. -/
structure ReadTo (rest : List Char) (s s' : ParserState) : Prop where
  goes : Goes s s'
  others : s' = { s with tokens := s'.tokens }
  rest : s'.place.rest = rest

section
variable {s s' s'' : ParserState} {rest rest' : List Char}

theorem ReadTo.trans (h : ReadTo rest s s') (h' : ReadTo rest' s' s'') : ReadTo rest' s s'' := by
  refine ⟨h.goes.trans h'.goes, ?_, h'.rest⟩
  rw [h'.others, h.others]

theorem bind_run {α β : Type} {p : Parse α} {f : α → Parse β} {a : α} (h : p s = .ok (a, s')) :
    (p >>= f) s = f a s' := by
  rw [parse_bind, h]
  rfl

theorem bind_error {α β : Type} {p : Parse α} {f : α → Parse β} {e : SyntaxError}
    (h : p s = .error e) : (p >>= f) s = .error e := by
  rw [parse_bind, h]
  rfl

theorem peekIn_run (hs : s.Whole) (mode : LexMode) : ∃ t s', peekIn mode s = .ok (t, s') ∧
    t.type = (nextToken mode s.place).1.type ∧ ReadTo s.place.rest s s' := by
  obtain ⟨hpeek, hstays⟩ := hs.chained.peek_spec mode
  have hplace : ({ s with tokens := (s.tokens.peek mode).2 } : ParserState).place = s.place :=
    hstays.position
  refine ⟨_, _, rfl, congrArg Token.type hpeek, ⟨⟨?_, hstays.size, ?_⟩, rfl, congrArg _ hplace⟩⟩
  · exact hs.later hstays.chained hstays.size (hplace ▸ .refl _)
  · exact hplace ▸ .refl _

theorem consumeIn_run (hs : s.Whole) {mode : LexMode} (hmode : mode ≠ .templateContinue) :
    ∃ t s', consumeIn mode s = .ok (t, s') ∧ t.type = (nextToken mode s.place).1.type ∧
      ReadTo (nextToken mode s.place).2.rest s s' := by
  obtain ⟨t, s', heq⟩ : ∃ t s', consumeIn mode s = .ok (t, s') := ⟨_, _, rfl⟩
  have hread := answers_consumeIn hs.chained (fun h => absurd h hmode) heq
  have hleads : s.place.Leads s'.place := hread.place ▸ leads_nextToken _ _
  refine ⟨t, s', heq, congrArg Token.type hread.token, ⟨?_, hread.size, hleads⟩, hread.others, ?_⟩
  · exact hs.later hread.chained hread.size hleads
  · rw [hread.place]

theorem peek2_run (hs : s.Whole) : ∃ pair s', peek2 s = .ok (pair, s') ∧
    pair.1.type = (nextToken .standard s.place).1.type ∧ ReadTo s.place.rest s s' := by
  obtain ⟨hpeek, hstays⟩ := hs.chained.peek2_spec
  have hplace : ({ s with tokens := s.tokens.peek2.2 } : ParserState).place = s.place :=
    hstays.position
  refine ⟨_, _, rfl, congrArg Token.type hpeek, ⟨⟨?_, hstays.size, ?_⟩, rfl, congrArg _ hplace⟩⟩
  · exact hs.later hstays.chained hstays.size (hplace ▸ .refl _)
  · exact hplace ▸ .refl _

/-- At the end of a text only that is ahead. -/
theorem peek_end (hs : s.Whole) (hn : s.place.rest = []) :
    ∃ t s', peek s = .ok (t, s') ∧ t.type = .eof ∧ ReadTo [] s s' := by
  obtain ⟨t, s', heq, htype, hs'⟩ := peekIn_run hs .standard
  rw [(nextToken_of_rest_eq_nil (by decide) hn).1] at htype
  exact ⟨t, s', heq, htype, hn ▸ hs'⟩

theorem consumeIf_end {type : TokenType} (hne : TokenType.eof ≠ type) (hs : s.Whole)
    (hn : s.place.rest = []) : ∃ s', consumeIf type s = .ok (false, s') ∧ ReadTo [] s s' := by
  obtain ⟨t, s', heq, htype, hs'⟩ := peek_end hs hn
  refine ⟨s', ?_, hs'⟩
  unfold consumeIf
  rw [bind_run heq, htype, if_neg hne]
  rfl

variable {round : Parse Bool}

theorem loopWhile_error {e : SyntaxError} (h : round s = .error e) :
    loopWhile round s = .error e := by
  unfold loopWhile
  rw [loop, bind_error h]

theorem loopWhile_again (h : round s = .ok (true, s'))
    (hlt : s'.tokens.remaining < s.tokens.remaining) : loopWhile round s = loopWhile round s' := by
  unfold loopWhile
  rw [loop, bind_run h]
  exact if_pos hlt

theorem loopWhile_done (h : round s = .ok (false, s')) : loopWhile round s = .ok ((), s') := by
  unfold loopWhile
  rw [loop, bind_run h]
  rfl

end

/-! ## Operands and powers -/

section
variable (g : Grammar) (ctx : Context) {s : ParserState} {n : Nat}

/-- The next token is looked at where an operand stands. -/
theorem peek_operand (hs : s.Whole) (hn : s.place.rest = powerChain n) :
    ∃ t s', peekIn .slashIsRegex s = .ok (t, s') ∧ t.type = .literalNumber ∧
      ReadTo (powerChain n) s s' := by
  obtain ⟨t, s', heq, htype, hs'⟩ := peekIn_run hs .slashIsRegex
  rw [(nextToken_operand (by decide) hn).1] at htype
  exact ⟨t, s', heq, htype, hn ▸ hs'⟩

/-- The next token is looked at where an operand has ended. It is a power or the end. -/
theorem peek_afterOperand (hs : s.Whole) (hn : s.place.rest = afterOperand n) :
    ∃ t s', peek s = .ok (t, s') ∧ (t.type = .asteriskAsterisk ∨ t.type = .eof) ∧
      ReadTo (afterOperand n) s s' := by
  obtain ⟨t, s', heq, htype, hs'⟩ := peekIn_run hs .standard
  refine ⟨t, s', heq, ?_, hn ▸ hs'⟩
  rw [htype]
  cases n with
  | zero => exact .inr (nextToken_of_rest_eq_nil (by decide) hn).1
  | succ n => exact .inl (nextToken_power hn).1

theorem primaryExpr_run (hs : s.Whole) (hn : s.place.rest = powerChain n) :
    ∃ e s', primaryExpr g ctx s = .ok (e, s') ∧ ReadTo (afterOperand n) s s' := by
  obtain ⟨t, s₁, hpeek, htype, hs₁⟩ := peek_operand hs hn
  obtain ⟨t', s₂, hconsume, -, hs₂⟩ := consumeIn_run hs₁.goes.whole
    (show LexMode.slashIsRegex ≠ .templateContinue by decide)
  rw [(nextToken_operand (by decide) hs₁.rest).2] at hs₂
  refine ⟨.other t.span, s₂, ?_, hs₁.trans hs₂⟩
  unfold primaryExpr
  rw [bind_run hpeek, htype]
  exact bind_run hconsume

theorem callChain_run (callsAllowed : Bool) (e : Expr) (hs : s.Whole)
    (hn : s.place.rest = afterOperand n) :
    ∃ s', callChain g ctx callsAllowed e s = .ok (e, s') ∧ ReadTo (afterOperand n) s s' := by
  obtain ⟨t, s₁, hpeek, htype, hs₁⟩ := peek_afterOperand hs hn
  refine ⟨s₁, ?_, hs₁⟩
  unfold callChain
  rw [loop, bind_run hpeek]
  rcases htype with htype | htype
  · rw [htype]
    rfl
  · rw [htype]
    rfl

theorem lhsLevel_run (hs : s.Whole) (hn : s.place.rest = powerChain n) :
    ∃ e s', lhsLevel g ctx s = .ok (e, s') ∧ ReadTo (afterOperand n) s s' := by
  obtain ⟨t, s₁, hpeek, htype, hs₁⟩ := peek_operand hs hn
  obtain ⟨e, s₂, hprimary, hs₂⟩ := primaryExpr_run g ctx hs₁.goes.whole hs₁.rest
  obtain ⟨s₃, hchain, hs₃⟩ := callChain_run g ctx true e hs₂.goes.whole hs₂.rest
  refine ⟨e, s₃, ?_, hs₁.trans (hs₂.trans hs₃)⟩
  unfold lhsLevel
  rw [bind_run hpeek, htype]
  exact (bind_run hprimary).trans hchain

theorem postfixExpr_run {g' : Grammar} (hlhs : g.lhsExpr ctx = lhsLevel g' ctx) (hs : s.Whole)
    (hn : s.place.rest = powerChain n) :
    ∃ e s', postfixExpr g ctx s = .ok (e, s') ∧ ReadTo (afterOperand n) s s' := by
  obtain ⟨e, s₁, heq, hs₁⟩ := lhsLevel_run g' ctx hs hn
  obtain ⟨t, s₂, hpeek, htype, hs₂⟩ := peek_afterOperand hs₁.goes.whole hs₁.rest
  refine ⟨e, s₂, ?_, hs₁.trans hs₂⟩
  unfold postfixExpr
  rw [hlhs, bind_run heq, bind_run hpeek]
  rcases htype with htype | htype
  · rw [htype]
    rfl
  · rw [htype]
    rfl

/-- An operand of a chain is read. -/
theorem unaryLevel_run {g' : Grammar} (hlhs : g.lhsExpr ctx = lhsLevel g' ctx) (hs : s.Whole)
    (hn : s.place.rest = powerChain n) :
    ∃ e s', unaryLevel g ctx s = .ok (e, s') ∧ ReadTo (afterOperand n) s s' := by
  obtain ⟨t, s₁, hpeek, htype, hs₁⟩ := peek_operand hs hn
  obtain ⟨e, s₂, heq, hs₂⟩ := postfixExpr_run g ctx hlhs hs₁.goes.whole hs₁.rest
  refine ⟨e, s₂, ?_, hs₁.trans hs₂⟩
  unfold unaryLevel
  rw [bind_run hpeek, htype]
  exact heq

end

/-- A grammar that reads nothing. -/
def Grammar.failing (e : SyntaxError) : Grammar :=
  ⟨fun _ => throw e, fun _ => throw e, fun _ => throw e, fun _ => throw e, fun _ _ => throw e,
    fun _ => throw e⟩

/-- With fuel an operand of a chain is read or the fuel runs out. -/
theorem operand_fueled (e : SyntaxError) (depth fuel : Nat) (ctx : Context) {s : ParserState}
    {n : Nat} (hs : s.Whole) (hn : s.place.rest = powerChain n) :
    (Grammar.fueled (.failing e) (depth + 2) fuel).unaryExpr ctx s = .error e ∨
      ∃ x s', (Grammar.fueled (.failing e) (depth + 2) fuel).unaryExpr ctx s = .ok (x, s') ∧
        ReadTo (afterOperand n) s s' := by
  match fuel with
  | 0 => exact .inl rfl
  | 1 =>
    obtain ⟨t, s₁, hpeek, htype, -⟩ := peek_operand hs hn
    left
    show unaryLevel (.failing e) ctx s = .error e
    unfold unaryLevel
    rw [bind_run hpeek, htype]
    rfl
  | fuel + 2 =>
    exact .inr (unaryLevel_run (Grammar.fueled (.failing e) (depth + 1) (fuel + 1)) ctx rfl hs hn)

/-- After an operand of a chain comes a power. It may stand in the right operand of any operator. -/
theorem nextOperator_power (ctx : Context) {least : Nat} (hleast : least ≤ 14) {s : ParserState}
    {n : Nat} (hs : s.Whole) (hn : s.place.rest = afterOperand (n + 1)) :
    s.nextOperator ctx least = some ⟨14, .right⟩ := by
  have hpeek : (s.tokens.peek .standard).1 = (nextToken .standard s.place).1 :=
    (hs.chained.peek_spec .standard).1
  unfold ParserState.nextOperator operatorAt
  have hin : (decide (TokenType.asteriskAsterisk = .keywordIn) && !ctx.inAllowed) = false := rfl
  rw [hpeek, (nextToken_power hn).1, hin, if_neg Bool.false_ne_true]
  exact Option.filter_eq_some_iff.mpr ⟨rfl, decide_eq_true hleast⟩

/-- At the end of a text there is no operator. -/
theorem nextOperator_end (ctx : Context) (least : Nat) {s : ParserState} (hs : s.Whole)
    (hn : s.place.rest = []) : s.nextOperator ctx least = none := by
  have hpeek : (s.tokens.peek .standard).1 = (nextToken .standard s.place).1 :=
    (hs.chained.peek_spec .standard).1
  unfold ParserState.nextOperator operatorAt
  rw [hpeek, (nextToken_of_rest_eq_nil (by decide) hn).1]
  rfl

/-- The power is read. -/
theorem consume_power {s : ParserState} {n : Nat} (hs : s.Whole)
    (hn : s.place.rest = afterOperand (n + 1)) :
    ∃ t s', consume s.peeked = .ok (t, s') ∧ ReadTo (powerChain n) s s' := by
  obtain ⟨t, s₁, hpeek, -, hs₁⟩ := peekIn_run hs .standard
  cases hpeek
  obtain ⟨t', s₂, hconsume, -, hs₂⟩ := consumeIn_run hs₁.goes.whole
    (show LexMode.standard ≠ .templateContinue by decide)
  rw [(nextToken_power (hs₁.rest.trans hn)).2] at hs₂
  exact ⟨t', s₂, hconsume, hs₁.trans hs₂⟩

/-- **A chain of powers uses up any fuel**, as each of them stands in the right operand of the one
before. -/
theorem climb_powerChain (e : SyntaxError) (depth : Nat) (ctx : Context) {least fuel n : Nat}
    (hleast : least ≤ 14) (hfuel : fuel ≤ n) {s : ParserState} (hs : s.Whole)
    (hn : s.place.rest = powerChain n) :
    climb (throw e) (fun fuel => (Grammar.fueled (.failing e) (depth + 2) fuel).unaryExpr) fuel ctx
      least s = .error e := by
  induction fuel generalizing least n s with
  | zero => rfl
  | succ fuel ih =>
    obtain ⟨n, rfl⟩ : ∃ m, n = m + 1 := ⟨n - 1, by omega⟩
    rw [climb]
    rcases operand_fueled e depth fuel ctx hs hn with hfails | ⟨x, s₁, hoperand, hs₁⟩
    · exact bind_error hfails
    obtain ⟨t, s₂, hconsume, hs₂⟩ := consume_power hs₁.goes.whole hs₁.rest
    have hright := ih (Nat.le_refl 14) (Nat.le_of_succ_le_succ hfuel) hs₂.goes.whole hs₂.rest
    rw [bind_run hoperand, operations_some (nextOperator_power ctx hleast hs₁.goes.whole hs₁.rest),
      bind_run hconsume]
    exact congrArg (fun result => Except.bind result _) hright

/-- The powers of a chain are read to its end. -/
theorem operations_powerChain (g : Grammar) (ctx : Context) {g' : Grammar}
    (hlhs : g.lhsExpr ctx = lhsLevel g' ctx) (e : Expr) {s : ParserState} {n : Nat} (hs : s.Whole)
    (hn : s.place.rest = afterOperand n) :
    ∃ e' s', operations ctx 0 (fun _ => unaryLevel g ctx) e s = .ok (e', s') ∧ ReadTo [] s s' := by
  induction n generalizing e s with
  | zero =>
    obtain ⟨t, s₁, heq, -, hs₁⟩ := peekIn_run hs .standard
    cases heq
    rw [show s.place.rest = [] from hn] at hs₁
    exact ⟨e, s.peeked, operations_none (nextOperator_end ctx 0 hs hn) e, hs₁⟩
  | succ n ih =>
    obtain ⟨t, s₁, hconsume, hs₁⟩ := consume_power hs hn
    obtain ⟨x, s₂, hoperand, hs₂⟩ := unaryLevel_run g ctx hlhs hs₁.goes.whole hs₁.rest
    have hgo := hs₁.trans hs₂
    obtain ⟨e', s₃, hrest, hs₃⟩ := ih (.other (e.span.join x.span)) hs₂.goes.whole hs₂.rest
    refine ⟨e', s₃, ?_, hgo.trans hs₃⟩
    have hlt : s₂.tokens.remaining < s.tokens.remaining := by
      rw [hs.remaining_eq, hgo.goes.whole.remaining_eq, hn, hgo.rest, afterOperand, powerChain_eq,
        byteLength_cons, byteLength_cons, byteLength_cons]
      have := Char.utf8Size_pos '*'
      omega
    rw [operations_some (nextOperator_power ctx (Nat.zero_le _) hs hn), bind_run hconsume, hoperand]
    show (if _ then _ else _) = _
    rw [if_pos hlt]
    exact hrest

/-! ## Statements and items -/

section
variable (g : Grammar) (ctx : Context) {s : ParserState} {n : Nat}

/-- A chain that is an expression is read by the reader of operators. -/
theorem assignLevelBy_chain (binary : Context → Parse Expr) (hs : s.Whole)
    (hn : s.place.rest = powerChain n) :
    ∃ s', ReadTo (powerChain n) s s' ∧
      assignLevelBy binary g ctx s = assignmentBy binary g ctx s' := by
  obtain ⟨t, s₁, hpeek, htype, hs₁⟩ := peek_operand hs hn
  refine ⟨s₁, hs₁, ?_⟩
  unfold assignLevelBy arrowFunctionAhead
  rw [bind_run hpeek, htype]
  rfl

/-- A chain that is a statement is read as an expression. -/
theorem statementLevel_chain (hs : s.Whole) (hn : s.place.rest = powerChain n) :
    ∃ s', ReadTo (powerChain n) s s' ∧ statementLevel g ctx s = expressionStatement g ctx s' := by
  obtain ⟨t, s₁, hpeek, htype, hs₁⟩ := peek_operand hs hn
  refine ⟨s₁, hs₁, ?_⟩
  unfold statementLevel
  rw [bind_run hpeek, htype]
  rfl

/-- A chain that is an item is read as a statement. -/
theorem moduleItemBody_chain {first : Token} (hfirst : first.type = .literalNumber) (hs : s.Whole)
    (hn : s.place.rest = powerChain n) :
    ∃ s', ReadTo (powerChain n) s s' ∧ moduleItemBody g ctx first s =
      (g.statement ctx >>= fun missing => pure (ItemKind.statement, missing)) s' := by
  obtain ⟨pair, s₁, hpeek, htype, hs₁⟩ := peek2_run hs
  rw [(nextToken_operand (by decide) hn).1] at htype
  refine ⟨s₁, hn ▸ hs₁, ?_⟩
  have hahead : declarationAhead s = .ok (false, s₁) := by
    unfold declarationAhead
    rw [bind_run hpeek]
    dsimp only
    rw [htype]
    rfl
  unfold moduleItemBody
  rw [hfirst, if_neg (by decide)]
  show (declarationAhead >>= fun isDeclaration => g.statement ctx >>= fun missing =>
    pure (if isDeclaration then ItemKind.declaration else .statement, missing)) s = _
  rw [bind_run hahead]
  rfl

/-- A chain that is an item is read as a statement, and recorded. -/
theorem moduleItem_chain (hs : s.Whole) (hn : s.place.rest = powerChain n) :
    ∃ s', ReadTo (powerChain n) { s with sideEffects := false } s' ∧
      (∀ e, g.statement ctx s' = .error e → moduleItem g ctx s = .error e) ∧
      ∀ missing s'', g.statement ctx s' = .ok (missing, s'') →
        ∃ items, moduleItem g ctx s = .ok ((), { s'' with items }) := by
  obtain ⟨first, s₁, hpeek, htype, hs₁⟩ := peek_operand hs hn
  have hquiet : ReadTo (powerChain n) { s with sideEffects := false }
      { s₁ with sideEffects := false } := by
    have hwhole : ParserState.Whole { s₁ with sideEffects := false } :=
      ⟨hs₁.goes.whole.chained, hs₁.goes.whole.size⟩
    refine ⟨⟨hwhole, hs₁.goes.size, hs₁.goes.leads⟩, ?_, hs₁.rest⟩
    rw [hs₁.others]
  obtain ⟨s₂, hs₂, hbody⟩ := moduleItemBody_chain g ctx htype hquiet.goes.whole hquiet.rest
  have hitem : ∃ item : Bool → ParserState → ModuleItem, moduleItem g ctx s =
      (g.statement ctx s₂).bind fun answer =>
        .ok ((), { answer.2 with items := answer.2.items.push (item answer.1 answer.2) }) := by
    refine ⟨fun missingSemicolon s' => {
      span := ⟨first.span.start, s'.tokens.lastEnd⟩
      kind := .statement
      missingSemicolon
      hasSideEffects := s'.sideEffects
      declarations := ⟨s₁.declarations.size, s'.declarations.size⟩
      references := ⟨s₁.references.size, s'.references.size⟩ }, ?_⟩
    unfold moduleItem
    rw [bind_run hpeek]
    show (moduleItemBody g ctx first { s₁ with sideEffects := false }).bind _ = _
    rw [hbody, parse_bind]
    cases g.statement ctx s₂ with
    | error e => rfl
    | ok answer => rfl
  obtain ⟨item, hitem⟩ := hitem
  refine ⟨s₂, hquiet.trans hs₂, fun e h => ?_, fun missing s'' h => ?_⟩
  · rw [hitem, h]
    rfl
  · refine ⟨s''.items.push (item missing s''), ?_⟩
    rw [hitem, h]
    rfl

/-- The first item of a module that is a chain. -/
theorem moduleRest_chain (hs : s.Whole) (hn : s.place.rest = powerChain n) :
    ∃ s', ReadTo (powerChain n) s s' ∧
      (∀ e, moduleItem g ctx s' = .error e → moduleRest g ctx s = .error e) ∧
      ∀ s'', moduleItem g ctx s' = .ok ((), s'') → s''.tokens.remaining < s.tokens.remaining →
        moduleRest g ctx s = moduleRest g ctx s'' := by
  obtain ⟨t, s₁, hpeek, htype, hs₁⟩ := peekIn_run hs .standard
  rw [(nextToken_operand (by decide) hn).1] at htype
  have hround : (do
      let t ← peek
      if t.type = .eof then pure false
      else
        moduleItem g ctx
        pure true : Parse Bool) s = (moduleItem g ctx >>= fun _ => pure true) s₁ := by
    have hpeek : peek s = .ok (t, s₁) := hpeek
    rw [bind_run hpeek, htype, if_neg (by decide)]
  refine ⟨s₁, hn ▸ hs₁, fun e h => ?_, fun s'' h hlt => ?_⟩
  · exact bind_error (loopWhile_error (hround.trans (bind_error h)))
  · unfold moduleRest
    rw [parse_bind, parse_bind, loopWhile_again (hround.trans (bind_run h)) hlt]

/-- The end of a module. -/
theorem moduleRest_end (hs : s.Whole) (hn : s.place.rest = []) {tree : ScopeTree}
    (htree : ScopeTree.build s.scopes s.declarations s.references = .ok tree) :
    ∃ record s', moduleRest g ctx s = .ok (record, s') := by
  obtain ⟨t, s₁, hpeek, htype, hs₁⟩ := peekIn_run hs .standard
  rw [(nextToken_of_rest_eq_nil (by decide) hn).1] at htype
  have hround : (do
      let t ← peek
      if t.type = .eof then pure false
      else
        moduleItem g ctx
        pure true : Parse Bool) s = .ok (false, s₁) := by
    have hpeek : peek s = .ok (t, s₁) := hpeek
    rw [bind_run hpeek, htype, if_pos rfl]
    rfl
  obtain ⟨t', s₂, hconsume, htype', hs₂⟩ := consumeIn_run hs₁.goes.whole
    (show LexMode.standard ≠ .templateContinue by decide)
  rw [(nextToken_of_rest_eq_nil (by decide) (hs₁.rest.trans hn)).1] at htype'
  have hrequire : require .eof s₁ = .ok (t', s₂) := by
    unfold require requireIn
    rw [bind_run hconsume, if_pos htype']
    rfl
  have htree₂ : ScopeTree.build s₂.scopes s₂.declarations s₂.references = .ok tree := by
    rw [(hs₁.trans hs₂).others]
    exact htree
  unfold moduleRest
  have hget : (get : Parse ParserState) s₂ = .ok (s₂, s₂) := rfl
  have hbuild : (liftM (ScopeTree.build s₂.scopes s₂.declarations s₂.references) : Parse ScopeTree)
      s₂ = .ok (tree, s₂) := by
    rw [htree₂]
    rfl
  rw [bind_run (loopWhile_done hround), bind_run hrequire, bind_run hget, bind_run hbuild]
  exact ⟨_, s₂, rfl⟩

end

/-- Without fuel a chain is not read. -/
theorem statement_failing (e : SyntaxError) (depth : Nat) {fuel n : Nat} (hfuel : fuel ≤ n)
    (ctx : Context) {s : ParserState} (hs : s.Whole) (hn : s.place.rest = powerChain n) :
    (Grammar.fueled (.failing e) (depth + 4) fuel).statement ctx s = .error e := by
  match fuel with
  | 0 => rfl
  | 1 =>
    obtain ⟨s₁, hs₁, heq⟩ := statementLevel_chain (.failing e) ctx hs hn
    exact heq.trans (bind_error (bind_error rfl))
  | fuel + 2 =>
    obtain ⟨s₁, hs₁, heq⟩ := statementLevel_chain
      (Grammar.fueled (.failing e) (depth + 3) (fuel + 1)) ctx hs hn
    obtain ⟨s₂, hs₂, heq₂⟩ := assignLevelBy_chain (Grammar.fueled (.failing e) (depth + 2) fuel) ctx
      (fun ctx => climb (throw e)
        (fun fuel => (Grammar.fueled (.failing e) (depth + 2) fuel).unaryExpr) fuel ctx 0)
      hs₁.goes.whole hs₁.rest
    have hclimb := climb_powerChain e depth ctx (Nat.zero_le 14) (by omega : fuel ≤ n)
      hs₂.goes.whole hs₂.rest
    have hassign := heq₂.trans (bind_error (bind_error hclimb))
    exact heq.trans (bind_error (bind_error hassign))

theorem parseFueled_powerChain (e : SyntaxError) {fuel n : Nat} (hfuel : fuel ≤ n) :
    parseFueled (.failing e) fuel (String.ofList (powerChain n)) = .error e := by
  have hs := ParserState.Whole.ofString (String.ofList (powerChain n))
  have hn : (ParserState.ofString (String.ofList (powerChain n))).place.rest = powerChain n :=
    String.toList_ofList
  let g := Grammar.fueled (.failing e) maxNesting fuel
  obtain ⟨s₁, hs₁, hrest, -⟩ := moduleRest_chain g .module hs hn
  have hwhole : ParserState.Whole { s₁ with sideEffects := false } :=
    ⟨hs₁.goes.whole.chained, hs₁.goes.whole.size⟩
  obtain ⟨s₂, hs₂, hitem, -⟩ := moduleItem_chain g .module hs₁.goes.whole hs₁.rest
  have hstatement := statement_failing e 996 hfuel .module hs₂.goes.whole hs₂.rest
  unfold parseFueled
  rw [hrest e (hitem e hstatement)]
  rfl

/-- Operators that reach the end of the text are the whole expression. -/
theorem assignmentBy_end {binary : Context → Parse Expr} (g : Grammar) (ctx : Context)
    {s s' : ParserState} {e : Expr} (hbinary : binary ctx s = .ok (e, s')) (hs : ReadTo [] s s') :
    ∃ s'', assignmentBy binary g ctx s = .ok (e, s'') ∧ ReadTo [] s s'' := by
  obtain ⟨s₁, hquestion, hs₁⟩ :=
    consumeIf_end (show TokenType.eof ≠ .question by decide) hs.goes.whole hs.rest
  obtain ⟨t, s₂, hpeek, htype, hs₂⟩ := peek_end hs₁.goes.whole hs₁.rest
  refine ⟨s₂, ?_, hs.trans (hs₁.trans hs₂)⟩
  have hconditional : conditionalBy binary g ctx s = .ok (e, s₁) := by
    unfold conditionalBy
    rw [bind_run hbinary, bind_run hquestion]
    rfl
  unfold assignmentBy
  rw [bind_run hconditional, bind_run hpeek, htype]
  rfl

/-- A chain that is an expression is read to its end. -/
theorem assignLevel_chain (depth : Nat) (ctx : Context) {s : ParserState} {n : Nat} (hs : s.Whole)
    (hn : s.place.rest = powerChain n) :
    ∃ e s', assignLevel (.ofDepth (depth + 2)) ctx s = .ok (e, s') ∧ ReadTo [] s s' := by
  let g := Grammar.ofDepth (depth + 2)
  let inner := Grammar.ofDepth (depth + 1)
  obtain ⟨s₁, hs₁, heq⟩ := assignLevelBy_chain g ctx (binaryExpr g) hs hn
  have hlhs : inner.lhsExpr ctx = lhsLevel (.ofDepth depth) ctx := rfl
  obtain ⟨x, s₂, hfirst, hs₂⟩ := unaryLevel_run inner ctx hlhs hs₁.goes.whole hs₁.rest
  obtain ⟨y, s₃, hrest, hs₃⟩ := operations_powerChain inner ctx hlhs x hs₂.goes.whole hs₂.rest
  have hbinary : binaryExpr g ctx s₁ = .ok (y, s₃) := by
    rw [binaryExpr_eq]
    exact (bind_run hfirst).trans hrest
  obtain ⟨s₄, hassignment, hs₄⟩ := assignmentBy_end g ctx hbinary (hs₂.trans hs₃)
  exact ⟨y, s₄, heq.trans hassignment, hs₁.trans hs₄⟩

/-- A chain that is a statement is read to its end. -/
theorem statement_chain (depth : Nat) (ctx : Context) {s : ParserState} {n : Nat} (hs : s.Whole)
    (hn : s.place.rest = powerChain n) :
    ∃ missing s', (Grammar.ofDepth (depth + 4)).statement ctx s = .ok (missing, s') ∧
      ReadTo [] s s' := by
  obtain ⟨s₁, hs₁, heq⟩ := statementLevel_chain (.ofDepth (depth + 3)) ctx hs hn
  obtain ⟨e, s₂, hassign, hs₂⟩ := assignLevel_chain depth ctx hs₁.goes.whole hs₁.rest
  obtain ⟨s₃, hcomma, hs₃⟩ :=
    consumeIf_end (show TokenType.eof ≠ .comma by decide) hs₂.goes.whole hs₂.rest
  obtain ⟨t, s₄, hpeek, htype, hs₄⟩ := peek_end hs₃.goes.whole hs₃.rest
  have hexpression : expression (.ofDepth (depth + 3)) ctx s₁ = .ok (e, s₃) := by
    refine (bind_run hassign).trans ?_
    rw [loop, bind_run hcomma]
    rfl
  have hsemicolon : requireSemicolon s₃ = .ok (true, s₄) := by
    unfold requireSemicolon
    rw [bind_run hpeek, htype]
    rfl
  refine ⟨true, s₄, ?_, hs₁.trans (hs₂.trans (hs₃.trans hs₄))⟩
  exact heq.trans ((bind_run hexpression).trans hsemicolon)

/-- A chain of powers is a module, however long it is. -/
theorem parseModule_powerChain (n : Nat) :
    ∃ record, parseModule (String.ofList (powerChain n)) = .ok record := by
  have hs := ParserState.Whole.ofString (String.ofList (powerChain n))
  have hn : (ParserState.ofString (String.ofList (powerChain n))).place.rest = powerChain n :=
    String.toList_ofList
  obtain ⟨s₁, hs₁, -, hrest⟩ := moduleRest_chain moduleGrammar .module hs hn
  obtain ⟨s₂, hs₂, -, hitem⟩ := moduleItem_chain moduleGrammar .module hs₁.goes.whole hs₁.rest
  obtain ⟨missing, s₃, hstatement, hs₃⟩ := statement_chain 996 .module hs₂.goes.whole hs₂.rest
  obtain ⟨items, hitem⟩ := hitem missing s₃ hstatement
  have hall := hs₂.trans hs₃
  have hwhole : ParserState.Whole { s₃ with items } :=
    ⟨hall.goes.whole.chained, hall.goes.whole.size⟩
  have htree : ∃ tree, ScopeTree.build s₃.scopes s₃.declarations s₃.references = .ok tree := by
    rw [hall.others, hs₁.others]
    exact ⟨_, rfl⟩
  obtain ⟨tree, htree⟩ := htree
  obtain ⟨record, s₄, hend⟩ := moduleRest_end moduleGrammar .module hwhole hall.rest htree
  have hlt : s₃.tokens.remaining <
      (ParserState.ofString (String.ofList (powerChain n))).tokens.remaining := by
    rw [hall.goes.whole.remaining_eq, hs.remaining_eq, hall.rest, hn, powerChain_eq,
      byteLength_cons]
    have := Char.utf8Size_pos '1'
    exact Nat.lt_of_lt_of_le this (Nat.le_add_right _ _)
  refine ⟨record, ?_⟩
  unfold parseModule
  rw [hrest _ hitem hlt, hend]
  rfl

/-! ## Recursion and the nesting limit -/

/-- **The nesting limit bounds recursion, but for powers.** Whatever happens without fuel, every
text is read as it is with fuel for all levels of nesting and one more for each power. -/
theorem parseFueled_eq_parseModule (bottom : Grammar) {fuel : Nat} {source : String}
    (h : 17 * (maxNesting + 1) + powers source.toList ≤ fuel) :
    parseFueled bottom fuel source = parseModule source := by
  have hagree : moduleGrammar.Agree (powers source.toList) (.fueled bottom maxNesting fuel) :=
    agree_fueled bottom (by omega)
  have hrest := agree_moduleRest hagree .module (ParserState.Whole.ofString source) (Nat.le_refl _)
  exact congrArg (Except.map Prod.fst) hrest.1.symm

/-- Fuel for all levels is enough for a text that nests a little. -/
theorem parseFueled_nested : 17 * (maxNesting + 1) + powers "f((-1) ** 2);".toList ≤ 17018 ∧
    parseFueled .exhausted 17018 "f((-1) ** 2);" = parseModule "f((-1) ** 2);" :=
  ⟨by decide, parseFueled_eq_parseModule .exhausted (by decide)⟩

/-- **No multiple of the nesting limit bounds recursion.** Chains of powers are modules however long
they are, but whatever the fuel, a chain is not read with it. -/
theorem no_fuel_suffices :
    (∀ n, ∃ record, parseModule (String.ofList (powerChain n)) = .ok record) ∧
      ¬ ∃ k, ∀ bottom source,
        parseFueled bottom (k * (maxNesting + 1)) source = parseModule source := by
  refine ⟨parseModule_powerChain, fun ⟨k, h⟩ => ?_⟩
  obtain ⟨record, hrecord⟩ := parseModule_powerChain (k * (maxNesting + 1))
  have hfails := parseFueled_powerChain ⟨.unexpectedEnd, .point 0, none⟩
    (Nat.le_refl (k * (maxNesting + 1)))
  rw [h, hrecord] at hfails
  cases hfails

end ModuleBundler
