import ModuleBundler.Scope.Basic

/-!
# What is allowed where

* `Context` : what surrounds a piece of module text: which words are operators, the scope, whether
  evaluation is put off, and the targets of jumps;
* `JumpTargets` : the labels, loops and switches that `break` and `continue` can leave;
* `Context.forFunction`, `Context.deferred`, `Context.labelled`, … : the context of an inner piece.
-/

namespace ModuleBundler

/-- What `break` and `continue` can target. It never reaches across a function. -/
structure JumpTargets where
  /-- The labels around, the innermost first, and whether each labels a loop. -/
  labels : List (String × Bool)
  inLoop : Bool
  inSwitch : Bool

namespace JumpTargets

def none : JumpTargets := ⟨[], false, false⟩

/-- Whether a `break` or `continue` without a label has a target. -/
def allows (jumps : JumpTargets) (isContinue : Bool) : Bool :=
  jumps.inLoop || (!isContinue && jumps.inSwitch)

/-- Whether the label labels a loop, if it is around. -/
def label? (jumps : JumpTargets) (label : String) : Option Bool := jumps.labels.lookup label

end JumpTargets

/-- What surrounds a piece of module text. -/
structure Context where
  /-- `await` begins an operand: at the top level and in asynchronous functions. -/
  awaitAllowed : Bool
  /-- `yield` begins an expression: in generators. -/
  yieldAllowed : Bool
  /-- `in` is an operator, which it is not in the head of a `for`. -/
  inAllowed : Bool
  returnAllowed : Bool
  scope : ScopeId
  /-- The piece is evaluated when a function around it is called. -/
  isDeferred : Bool
  jumps : JumpTargets

namespace Context

/-- The top level of a module. -/
def module : Context := ⟨true, false, true, false, moduleScope, false, .none⟩

def withIn (ctx : Context) (allowed : Bool) : Context := { ctx with inAllowed := allowed }

def within (ctx : Context) (scope : ScopeId) : Context := { ctx with scope }

/-- What words mean inside a function. -/
def forFunction (ctx : Context) (isAsync isGenerator : Bool) : Context :=
  { ctx with
    awaitAllowed := isAsync
    yieldAllowed := isGenerator
    inAllowed := true
    returnAllowed := true }

/-- What words mean inside a static block of a class. -/
def forStaticBlock (ctx : Context) : Context :=
  { ctx with
    awaitAllowed := false
    yieldAllowed := false
    inAllowed := true
    returnAllowed := false }

/-- No jump leaves the piece. -/
def jumpBoundary (ctx : Context) : Context := { ctx with jumps := .none }

/-- The piece is evaluated later. -/
def deferred (ctx : Context) : Context := { ctx.jumpBoundary with isDeferred := true }

def loopBody (ctx : Context) : Context := { ctx with jumps := { ctx.jumps with inLoop := true } }

def switchBody (ctx : Context) : Context :=
  { ctx with jumps := { ctx.jumps with inSwitch := true } }

/-- The statement after a label. -/
def labelled (ctx : Context) (label : String) (isLoop : Bool) : Context :=
  { ctx with jumps := { ctx.jumps with labels := (label, isLoop) :: ctx.jumps.labels } }

end Context
end ModuleBundler
