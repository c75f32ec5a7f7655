import ModuleBundler.Grammar.Nesting
import ModuleBundler.Proofs.BufferedTokens

/-!
# A parser that changes in place

The grammar reads in contexts that it never changes, and forgets what a reading did that failed. A
parser in a loop has one state, which a failure leaves as it is at that moment.

* `Surroundings` : what a parser keeps of where it is; `Surroundings.Fit` : as a context has it;
* `Machine`, `Work` : its state, and what it does, which changes the state also if it fails;
* `Work.inside`, `Work.nested`, `Work.deferred`, … : work in other surroundings;
* `Checkpoint`, `Machine.restore`, `Work.rewindable` : work that is undone if it has no answer, by
  cutting what was recorded back to its former length.
-/

namespace ModuleBundler

/-! ## Surroundings -/

/-- What `break` and `continue` can target, with the number of loops and switches around. -/
structure JumpCounts where
  /-- The labels around, the innermost first, and whether each labels a loop. -/
  labels : List (String × Bool)
  loops : Nat
  switches : Nat

/-- Whether a `break` or `continue` has a target. -/
def JumpCounts.check (jumps : JumpCounts) (keyword : Token) (label : Option Token) :
    Except SyntaxError Unit :=
  let isContinue := keyword.type = .keywordContinue
  let outside : SyntaxError := ⟨.jumpOutsideLoop, keyword.span, some keyword.type⟩
  match label with
  | none =>
    if jumps.loops = 0 ∧ (isContinue ∨ jumps.switches = 0) then .error outside else .ok ()
  | some label =>
    match jumps.labels.lookup label.text with
    | none => .error ⟨.undefinedLabel, label.span, some label.type⟩
    | some isLoop => if isContinue ∧ isLoop = false then .error outside else .ok ()

/-- Where a parser is. -/
structure Surroundings where
  /-- The innermost scope. -/
  scope : ScopeId
  /-- The number of functions around that are evaluated later. -/
  functionDepth : Nat
  /-- The number of expressions, statements and patterns around. -/
  depth : Nat
  jumps : JumpCounts

namespace Surroundings

def within (around : Surroundings) (scope : ScopeId) : Surroundings := { around with scope }

def deeper (around : Surroundings) : Surroundings := { around with depth := around.depth + 1 }

def jumpBoundary (around : Surroundings) : Surroundings := { around with jumps := ⟨[], 0, 0⟩ }

def deferred (around : Surroundings) : Surroundings :=
  { around.jumpBoundary with functionDepth := around.functionDepth + 1 }

def loopBody (around : Surroundings) : Surroundings :=
  { around with jumps := { around.jumps with loops := around.jumps.loops + 1 } }

def switchBody (around : Surroundings) : Surroundings :=
  { around with jumps := { around.jumps with switches := around.jumps.switches + 1 } }

def labelled (around : Surroundings) (label : String) (isLoop : Bool) : Surroundings :=
  { around with jumps := { around.jumps with labels := (label, isLoop) :: around.jumps.labels } }

/-- A parser at a depth is where a context says. -/
structure Fit (around : Surroundings) (depth : Nat) (ctx : Context) : Prop where
  depth : around.depth = depth
  scope : around.scope = ctx.scope
  isDeferred : ctx.isDeferred = decide (0 < around.functionDepth)
  labels : ctx.jumps.labels = around.jumps.labels
  inLoop : ctx.jumps.inLoop = decide (0 < around.jumps.loops)
  inSwitch : ctx.jumps.inSwitch = decide (0 < around.jumps.switches)

namespace Fit

variable {around : Surroundings} {depth : Nat} {ctx : Context}

theorem withIn (h : around.Fit depth ctx) (allowed : Bool) :
    around.Fit depth (ctx.withIn allowed) :=
  ⟨h.depth, h.scope, h.isDeferred, h.labels, h.inLoop, h.inSwitch⟩

theorem forFunction (h : around.Fit depth ctx) (isAsync isGenerator : Bool) :
    around.Fit depth (ctx.forFunction isAsync isGenerator) :=
  ⟨h.depth, h.scope, h.isDeferred, h.labels, h.inLoop, h.inSwitch⟩

theorem forStaticBlock (h : around.Fit depth ctx) : around.Fit depth ctx.forStaticBlock :=
  ⟨h.depth, h.scope, h.isDeferred, h.labels, h.inLoop, h.inSwitch⟩

theorem within (h : around.Fit depth ctx) (scope : ScopeId) :
    (around.within scope).Fit depth (ctx.within scope) :=
  ⟨h.depth, rfl, h.isDeferred, h.labels, h.inLoop, h.inSwitch⟩

theorem deeper (h : around.Fit depth ctx) : around.deeper.Fit (depth + 1) ctx :=
  ⟨congrArg (· + 1) h.depth, h.scope, h.isDeferred, h.labels, h.inLoop, h.inSwitch⟩

theorem jumpBoundary (h : around.Fit depth ctx) : around.jumpBoundary.Fit depth ctx.jumpBoundary :=
  ⟨h.depth, h.scope, h.isDeferred, rfl, rfl, rfl⟩

theorem deferred (hdepth : around.depth = depth) (hscope : around.scope = ctx.scope) :
    around.deferred.Fit depth ctx.deferred :=
  ⟨hdepth, hscope, (decide_eq_true (Nat.succ_pos _)).symm, rfl, rfl, rfl⟩

theorem loopBody (h : around.Fit depth ctx) : around.loopBody.Fit depth ctx.loopBody :=
  ⟨h.depth, h.scope, h.isDeferred, h.labels, (decide_eq_true (Nat.succ_pos _)).symm, h.inSwitch⟩

theorem switchBody (h : around.Fit depth ctx) : around.switchBody.Fit depth ctx.switchBody :=
  ⟨h.depth, h.scope, h.isDeferred, h.labels, h.inLoop, (decide_eq_true (Nat.succ_pos _)).symm⟩

theorem labelled (h : around.Fit depth ctx) (label : String) (isLoop : Bool) :
    (around.labelled label isLoop).Fit depth (ctx.labelled label isLoop) :=
  ⟨h.depth, h.scope, h.isDeferred, congrArg ((label, isLoop) :: ·) h.labels, h.inLoop, h.inSwitch⟩

end Fit
end Surroundings

/-! ## Machines -/

/-- A parser: the tokens and what was recorded so far, and where it is. -/
structure Machine where
  state : ParserState
  around : Surroundings

/-- What a parser does. A failure leaves it where it is. -/
def Work (α : Type) := Machine → Except SyntaxError α × Machine

/-- How much was read and recorded, and what else a parser goes back to. -/
structure Checkpoint where
  tokens : Nat
  scopes : Nat
  declarations : Nat
  references : Nat
  dynamicImports : Nat
  sideEffects : Bool
  scope : ScopeId
  functionDepth : Nat
  depth : Nat

namespace Machine

def withTokens (m : Machine) (tokens : TokenStream) : Machine :=
  { m with state := { m.state with tokens } }

def checkpoint (m : Machine) : Checkpoint where
  tokens := m.state.tokens.count
  scopes := m.state.scopes.size
  declarations := m.state.declarations.size
  references := m.state.references.size
  dynamicImports := m.state.dynamicImports.size
  sideEffects := m.state.sideEffects
  scope := m.around.scope
  functionDepth := m.around.functionDepth
  depth := m.around.depth

/-- Cuts what was read and recorded back to a checkpoint. The targets of jumps and the items of the
module with what they ask for and offer stay as they are. -/
def restore (m : Machine) (c : Checkpoint) : Machine where
  state := { m.state with
    tokens := m.state.tokens.rewindTo c.tokens
    scopes := m.state.scopes.take c.scopes
    declarations := m.state.declarations.take c.declarations
    references := m.state.references.take c.references
    dynamicImports := m.state.dynamicImports.take c.dynamicImports
    sideEffects := c.sideEffects }
  around := { m.around with
    scope := c.scope
    functionDepth := c.functionDepth
    depth := c.depth }

end Machine

namespace Work

variable {α β : Type}

protected def pure (a : α) : Work α := fun m => (.ok a, m)

protected def bind (work : Work α) (next : α → Work β) : Work β := fun m =>
  match work m with
  | (.ok a, m') => next a m'
  | (.error e, m') => (.error e, m')

protected def fail (e : SyntaxError) : Work α := fun m => (.error e, m)

/-! ### Tokens -/

/-- Looks at tokens or reads them. -/
def onTokens (look : TokenStream → α × TokenStream) : Work α := fun m =>
  (.ok (look m.state.tokens).1, m.withTokens (look m.state.tokens).2)

def lastEnd : Work Nat := fun m => (.ok m.state.tokens.lastEnd, m)

/-! ### Records -/

/-- Opens a scope inside the one at hand, and goes there. -/
def enterScope (type : ScopeType) : Work ScopeId := fun m =>
  (.ok m.state.scopes.size,
    { state := { m.state with scopes := m.state.scopes.push ⟨some m.around.scope, type⟩ }
      around := m.around.within m.state.scopes.size })

/-- Work that leaves for a scope when it is done. -/
def leavingTo (scope : ScopeId) (work : Work α) : Work α := fun m =>
  match work m with
  | (.ok a, m') => (.ok a, { m' with around := m'.around.within scope })
  | (.error e, m') => (.error e, m')

def declare (name : String) (span : Span) (kind : DeclarationKind) (shorthand : Bool) :
    Work Unit := fun m =>
  (.ok (), { m with state := { m.state with
    declarations := m.state.declarations.push ⟨name, span, m.around.scope, kind, shorthand⟩ } })

def refer (name : String) (span : Span) (shorthand : Bool) : Work Unit := fun m =>
  (.ok (), { m with state := { m.state with
    references := m.state.references.push ⟨name, span, m.around.scope, shorthand⟩ } })

def markSideEffect : Work Unit := fun m =>
  if m.around.functionDepth = 0 then
    (.ok (), { m with state := { m.state with sideEffects := true } })
  else (.ok (), m)

def recordDynamicImport (first : Token) (argument call : Span) : Work Unit := fun m =>
  if first.type = .literalString ∧ first.span = argument then
    match decodeString first.text with
    | some specifier =>
      (.ok (), { m with state := { m.state with
        dynamicImports :=
          m.state.dynamicImports.push ⟨⟨specifier, argument⟩, call, m.around.scope⟩ } })
    | none => (.ok (), m)
  else (.ok (), m)

/-! ### Surroundings -/

/-- Work in other surroundings, which are left however it ends. -/
def inside (enter : Surroundings → Surroundings)
    (leave : Surroundings → Surroundings → Surroundings) (work : Work α) : Work α := fun m =>
  let (answer, m') := work { m with around := enter m.around }
  (answer, { m' with around := leave m.around m'.around })

def tooDeep : Work α :=
  (onTokens (TokenStream.peek .standard)).bind fun t =>
    Work.fail ⟨.nestingTooDeep, t.span, some t.type⟩

/-- Work one level deeper, unless that is too deep. -/
def nested (work : Work α) : Work α := fun m =>
  if maxNesting ≤ m.around.depth then tooDeep m
  else work.inside Surroundings.deeper (fun _ a => { a with depth := a.depth - 1 }) m

/-- Work that no jump leaves. -/
def jumpBoundary (work : Work α) : Work α :=
  work.inside Surroundings.jumpBoundary fun outer a => { a with jumps := outer.jumps }

/-- Work on what is evaluated later. A failure leaves the parser at that depth of functions. -/
def deferred (work : Work α) : Work α := fun m =>
  match work.jumpBoundary
    { m with around := { m.around with functionDepth := m.around.functionDepth + 1 } } with
  | (.ok a, m') =>
    (.ok a, { m' with around := { m'.around with functionDepth := m'.around.functionDepth - 1 } })
  | (.error e, m') => (.error e, m')

def loopBody (work : Work α) : Work α :=
  work.inside Surroundings.loopBody fun _ a =>
    { a with jumps := { a.jumps with loops := a.jumps.loops - 1 } }

def switchBody (work : Work α) : Work α :=
  work.inside Surroundings.switchBody fun _ a =>
    { a with jumps := { a.jumps with switches := a.jumps.switches - 1 } }

/-- Work after a label, which may not stand inside itself. -/
def labelled (label : Token) (isLoop : Bool) (work : Work α) : Work α := fun m =>
  if (m.around.jumps.labels.lookup label.text).isSome then
    (.error ⟨.duplicateLabel, label.span, some label.type⟩, m)
  else
    work.inside (·.labelled label.text isLoop) (fun outer a =>
      let extra := a.jumps.labels.length - outer.jumps.labels.length
      { a with jumps := { a.jumps with labels := a.jumps.labels.drop extra } }) m

/-- Checks that a `break` or `continue` has a target. -/
def checkJump (keyword : Token) (label : Option Token) : Work Unit := fun m =>
  (m.around.jumps.check keyword label, m)

/-! ### Repeating and trying -/

/-- Repeats work until it is done. -/
def loop (round : β → Work (Round β α)) (b : β) (m : Machine) : Except SyntaxError α × Machine :=
  match round b m with
  | (.error e, m') => (.error e, m')
  | (.ok (.done a), m') => (.ok a, m')
  | (.ok (.again b'), m') =>
    if m'.state.tokens.remaining < m.state.tokens.remaining then loop round b' m'
    else (.error ⟨.unexpectedEnd, .point m'.state.tokens.lastEnd, none⟩, m')
termination_by m.state.tokens.remaining

/-- Whether work succeeds. If it does not, the parser stays where that failed. -/
def succeeds (work : Work Unit) : Work Bool := fun m => (.ok (work m).1.toBool, (work m).2)

/-- Work that is undone without an answer. -/
def rewindable (work : Work (Option α)) : Work (Option α) := fun m =>
  match work m with
  | (.ok none, m') => (.ok none, m'.restore m.checkpoint)
  | other => other

end Work

end ModuleBundler
