import ModuleBundler.Proofs.Agreement

/-!
# The grammar with fuel

How deep the parser calls itself is counted by fuel: each level of nesting takes one, and so does
each operator in whose right operand reading goes on.

* `assignLevelBy` : expressions whose operators are read by a given reader;
* `Grammar.fueled` : the grammar of text that nests to a depth, with fuel. What happens without fuel
  is left open;
* `parseFueled` : modules read with fuel;
* `binaryExpr_eq` : operators in a row are operators of any precedence;
* `agree_fueled` : with enough fuel for each level and each power, all productions read the same.
-/

namespace ModuleBundler

/-! ## The grammar with fuel -/

/-- A condition with its two outcomes, or what binds tighter, with operators read by `binary`. -/
def conditionalBy (binary : Context → Parse Expr) (g : Grammar) (ctx : Context) : Parse Expr := do
  let test ← binary ctx
  if ← consumeIf .question then
    let _ ← g.assignExpr (ctx.withIn true)
    let _ ← require .colon
    let alternative ← g.assignExpr ctx
    pure (.other (test.span.join alternative.span))
  else pure test

/-- An assignment, or what binds tighter, with operators read by `binary`. -/
def assignmentBy (binary : Context → Parse Expr) (g : Grammar) (ctx : Context) : Parse Expr := do
  let target ← conditionalBy binary g ctx
  let operator ← peek
  if operator.type.isAssignmentOperator then
    if target.isAssignmentTarget then
      let _ ← consume
      markSideEffect ctx
      let value ← g.assignExpr ctx
      pure (.other (target.span.join value.span))
    else throw ⟨.expected "assignment target", target.span, some operator.type⟩
  else pure target

/-- An expression without commas at its top, with operators read by `binary`. -/
def assignLevelBy (binary : Context → Parse Expr) (g : Grammar) (ctx : Context) : Parse Expr := do
  let t ← peekIn .slashIsRegex
  if t.type = .keywordYield && ctx.yieldAllowed then yieldExpr g ctx
  else
    let arrow ← if ← arrowFunctionAhead t then arrowFunction g ctx else pure none
    match arrow with
    | some e => pure e
    | none => assignmentBy binary g ctx

theorem assignLevelBy_binaryExpr (g : Grammar) (ctx : Context) :
    assignLevelBy (binaryExpr g) g ctx = assignLevel g ctx := rfl

/-- The productions of a level, with the grammar of the next one for each amount of fuel. Operators
are read as they group. -/
def Grammar.climbing (out : Context → Parse Expr) (g : Nat → Grammar) (fuel : Nat) : Grammar where
  assignExpr := assignLevelBy
    (fun ctx => climb (out ctx) (fun fuel => (g fuel).unaryExpr) fuel ctx 0) (g fuel)
  unaryExpr := unaryLevel (g fuel)
  lhsExpr := lhsLevel (g fuel)
  newExpr := newLevel (g fuel)
  pattern := patternLevel (g fuel)
  statement := statementLevel (g fuel)

/-- The grammar of text that nests to a depth, with fuel. Without fuel it is `bottom`. -/
def Grammar.fueled (bottom : Grammar) : Nat → Nat → Grammar
  | 0, 0 => bottom
  | 0, _ + 1 => .exhausted
  | _ + 1, 0 => bottom
  | depth + 1, fuel + 1 => .climbing bottom.unaryExpr (Grammar.fueled bottom depth) fuel

/-- The record of a module text, read with fuel. -/
def parseFueled (bottom : Grammar) (fuel : Nat) (source : String) :
    Except SyntaxError ModuleRecord :=
  (moduleRest (.fueled bottom maxNesting fuel) .module (.ofString source)).map Prod.fst

/-! ## Enough fuel -/

/-- Operands in a row are operands with operators of any precedence between them. -/
theorem binaryExpr_eq (g : Grammar) (ctx : Context) :
    binaryExpr g ctx = g.unaryExpr ctx >>= operations ctx 0 fun _ => g.unaryExpr ctx := by
  have hround : ∀ e : Expr, (do
      let t ← peek
      if t.type.binaryOperator?.isNone || (t.type = .keywordIn && !ctx.inAllowed) then
        pure (.done e)
      else
        let _ ← consume
        let right ← g.unaryExpr ctx
        pure (.again (.other (e.span.join right.span)))) =
      operation ctx 0 (fun _ => g.unaryExpr ctx) e := by
    intro e
    refine bind_congr fun t => ?_
    unfold operatorAt
    rcases Bool.eq_false_or_eq_true (t.type = .keywordIn && !ctx.inAllowed) with hin | hin
    · rw [hin, Bool.or_true, if_pos rfl, if_pos rfl]
    · rw [hin, Bool.or_false, if_neg Bool.false_ne_true]
      cases t.type.binaryOperator? with
      | none => rfl
      | some op => rfl
  unfold binaryExpr operations
  rw [← funext hround]

variable {n : Nat} {bottom : Grammar}

theorem agree_assignLevelBy {binary binary' : Context → Parse Expr} {g g' : Grammar}
    (hg : g.Agree n g') (h : ∀ ctx, Agree n (binary ctx) (binary' ctx)) (ctx : Context) :
    Agree n (assignLevelBy binary g ctx) (assignLevelBy binary' g' ctx) := by
  have hconditional : Agree n (conditionalBy binary g ctx) (conditionalBy binary' g' ctx) := by
    refine (h ctx).bind fun test => (agree_consumeIf _).bind fun _ => agree_ite ?_ (agree_pure _)
    refine (hg.assignExpr _).bind fun _ => (agree_require _).bind fun _ => ?_
    exact (hg.assignExpr _).bind fun _ => agree_pure _
  have hassignment : Agree n (assignmentBy binary g ctx) (assignmentBy binary' g' ctx) := by
    refine hconditional.bind fun target => agree_peek.bind fun operator => ?_
    refine agree_ite (agree_ite ?_ (agree_throw _)) (agree_pure _)
    refine agree_consume.bind fun _ => (agree_markSideEffect ctx).bind fun _ => ?_
    exact (hg.assignExpr _).bind fun _ => agree_pure _
  refine (agree_peekIn _).bind fun t => agree_ite (agree_yieldExpr hg ctx) ?_
  refine (agree_self (keeps_arrowFunctionAhead t)).bind fun ahead => ?_
  refine agree_choice (agree_arrowFunction hg ctx) (agree_pure _) fun arrow => ?_
  dsimp only
  split
  · exact agree_pure _
  · exact hassignment

/-- With enough fuel for its levels and powers, a text is read in the same way. A level takes one
and as many as operators of rising precedence can stand in each other's right operands. -/
theorem agree_fueled (bottom : Grammar) {depth fuel : Nat} (h : 17 * depth + n + 1 ≤ fuel) :
    (Grammar.ofDepth depth).Agree n (.fueled bottom depth fuel) := by
  induction depth generalizing n fuel with
  | zero =>
    obtain ⟨fuel, rfl⟩ : ∃ m, fuel = m + 1 := ⟨fuel - 1, by omega⟩
    exact Grammar.agree_exhausted
  | succ depth ih =>
    obtain ⟨fuel, rfl⟩ : ∃ m, fuel = m + 1 := ⟨fuel - 1, by omega⟩
    have hg : (Grammar.ofDepth depth).Agree n (.fueled bottom depth fuel) := ih (by omega)
    have hbinary : ∀ ctx, Agree n (binaryExpr (.ofDepth depth) ctx)
        (climb (bottom.unaryExpr ctx) (fun fuel => (Grammar.fueled bottom depth fuel).unaryExpr)
          fuel ctx 0) := by
      intro ctx
      have hoperand : ∀ m fuel, 17 * depth + 1 + m ≤ fuel →
          Agree m ((Grammar.ofDepth depth).unaryExpr ctx)
            ((Grammar.fueled bottom depth fuel).unaryExpr ctx) := fun m fuel hm =>
        (ih (by omega)).unaryExpr ctx
      rw [binaryExpr_eq]
      exact agree_climb hoperand (by omega) (by omega)
    exact {
      assignExpr := agree_assignLevelBy hg hbinary
      unaryExpr := agree_unaryLevel hg
      lhsExpr := agree_lhsLevel hg
      newExpr := agree_newLevel hg
      pattern := agree_patternLevel hg
      statement := agree_statementLevel hg }

end ModuleBundler
