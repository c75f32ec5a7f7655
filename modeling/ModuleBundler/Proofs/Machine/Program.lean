import ModuleBundler.Proofs.Machine.Refinement

/-!
# Readings as programs of a machine

* `Program` : a reading of the grammar, put together from what a machine can do, with what is known
  of the surroundings before and after it;
* `Program.run` : what the machine does; `Routine` : a program that ends where it began;
* `Program.grows`, `Program.does` : a program leaves what was there before, and does what its
  reading does;
* `Program.consumeIf`, `Program.ite`, `Program.loopWhile`, `Program.inScope`, … : single tokens,
  branches, loops and scopes.
-/

namespace ModuleBundler

/-- A reading of the grammar, put together from what a machine does. The surroundings in which it
begins and those in which it ends are given as far as they are known. -/
inductive Program : Option Surroundings → {α : Type} → Parse α → (α → Option Surroundings) → Type 1
  /-- What is known of the surroundings stays known, as far as it matters. -/
  | answer {α : Type} {known : Option Surroundings} {after : α → Option Surroundings} (a : α)
    (h : ∀ around ∈ after a, around ∈ known) : Program known (pure a) after
  | fail {α : Type} {known : Option Surroundings} {after : α → Option Surroundings}
    (e : SyntaxError) : Program known (throw e : Parse α) after
  | bind {α β : Type} {known : Option Surroundings} {reading : Parse α} {next : α → Parse β}
    {between : α → Option Surroundings} {after : β → Option Surroundings}
    (first : Program known reading between) (rest : ∀ a, Program (between a) (next a) after) :
    Program known (reading >>= next) after
  | peekIn {around : Surroundings} (mode : LexMode) :
    Program (some around) (peekIn mode) fun _ => some around
  | peek2 {around : Surroundings} : Program (some around) peek2 fun _ => some around
  | consumeIn {around : Surroundings} (mode : LexMode) :
    Program (some around) (consumeIn mode) fun _ => some around
  | lastEnd {around : Surroundings} : Program (some around) lastEnd fun _ => some around
  | enterScope {around : Surroundings} {parent : ScopeId} (h : around.scope = parent)
    (type : ScopeType) :
    Program (some around) (enterScope parent type) fun scope => some (around.within scope)
  /-- Goes to a scope when the reading is done. A failure stays where it is. -/
  | leaving {α : Type} {known : Option Surroundings} {reading : Parse α}
    {after : α → Option Surroundings} (scope : ScopeId) (program : Program known reading after) :
    Program known reading fun a => (after a).map (·.within scope)
  | declare {around : Surroundings} {ctx : Context} (h : around.scope = ctx.scope) (name : String)
    (span : Span) (kind : DeclarationKind) (shorthand : Bool) :
    Program (some around) (declare ctx name span kind shorthand) fun _ => some around
  | refer {around : Surroundings} {ctx : Context} (h : around.scope = ctx.scope) (name : String)
    (span : Span) (shorthand : Bool) :
    Program (some around) (refer ctx name span shorthand) fun _ => some around
  | markSideEffect {around : Surroundings} {depth : Nat} {ctx : Context}
    (h : around.Fit depth ctx) :
    Program (some around) (markSideEffect ctx) fun _ => some around
  | recordDynamicImport {around : Surroundings} {ctx : Context} (h : around.scope = ctx.scope)
    (first : Token) (argument call : Span) :
    Program (some around) (recordDynamicImport ctx first argument call) fun _ => some around
  | checkJump {around : Surroundings} {depth : Nat} {ctx : Context} (h : around.Fit depth ctx)
    (keyword : Token) (label : Option Token) :
    Program (some around) (checkJump ctx keyword label) fun _ => some around
  | nested {α : Type} {around : Surroundings} {reading : Parse α} (h : around.depth < maxNesting)
    (program : Program (some around.deeper) reading fun _ => some around.deeper) :
    Program (some around) reading fun _ => some around
  /-- Only at the limit the nesting is too deep. -/
  | tooDeep {α : Type} {around : Surroundings} (h : maxNesting ≤ around.depth) :
    Program (some around) (tooDeep : Parse α) fun _ => some around
  | jumpBoundary {α : Type} {around : Surroundings} {reading : Parse α}
    (program : Program (some around.jumpBoundary) reading fun _ => some around.jumpBoundary) :
    Program (some around) reading fun _ => some around
  | deferred {α : Type} {around : Surroundings} {reading : Parse α}
    (program : Program (some around.deferred) reading fun _ => some around.deferred) :
    Program (some around) reading fun _ => some around
  | loopBody {α : Type} {around : Surroundings} {reading : Parse α}
    (program : Program (some around.loopBody) reading fun _ => some around.loopBody) :
    Program (some around) reading fun _ => some around
  | switchBody {α : Type} {around : Surroundings} {reading : Parse α}
    (program : Program (some around.switchBody) reading fun _ => some around.switchBody) :
    Program (some around) reading fun _ => some around
  | labelled {α : Type} {around : Surroundings} {depth : Nat} {ctx : Context}
    (h : around.Fit depth ctx) (label : Token) (isLoop : Bool) {reading : Parse α}
    (program : Program (some (around.labelled label.text isLoop)) reading
      fun _ => some (around.labelled label.text isLoop)) :
    Program (some around)
      (if (ctx.jumps.label? label.text).isSome then label.fail .duplicateLabel else reading)
      fun _ => some around
  | loop {α β : Type} {around : Surroundings} {round : β → Parse (Round β α)}
    (program : ∀ b, Program (some around) (round b) fun _ => some around) (b : β) :
    Program (some around) (loop round b) fun _ => some around
  /-- After a failure it is not known where the machine is. -/
  | succeeds {around : Surroundings} {reading : Parse Unit}
    (program : Program (some around) reading fun _ => some around) :
    Program (some around) (succeeds reading) fun ok => cond ok (some around) none
  /-- Without an answer the machine goes back, from wherever it is. -/
  | attempt {α : Type} {around : Surroundings} {reading : Parse (Option α)}
    {after : Option α → Option Surroundings} (program : Program (some around) reading after) :
    Program (some around) (attempt reading) fun answer =>
      answer.elim (some around) fun a => after (some a)

/-- A program that ends where it began. -/
abbrev Routine {α : Type} (around : Surroundings) (reading : Parse α) : Type 1 :=
  Program (some around) reading fun _ => some around

namespace Program

variable {α : Type} {known : Option Surroundings} {reading : Parse α}
  {after : α → Option Surroundings}

/-- What the machine does. -/
def run {α : Type} {known : Option Surroundings} {reading : Parse α}
  {after : α → Option Surroundings} : Program known reading after → Work α
  | .answer a _ => Work.pure a
  | .fail e => Work.fail e
  | .bind first rest => first.run.bind fun a => (rest a).run
  | .peekIn mode => Work.onTokens (TokenStream.peek mode)
  | .peek2 => Work.onTokens TokenStream.peek2
  | .consumeIn mode => Work.onTokens (TokenStream.advance mode)
  | .lastEnd => Work.lastEnd
  | .enterScope _ type => Work.enterScope type
  | .leaving scope program => program.run.leavingTo scope
  | .declare _ name span kind shorthand => Work.declare name span kind shorthand
  | .refer _ name span shorthand => Work.refer name span shorthand
  | .markSideEffect _ => Work.markSideEffect
  | .recordDynamicImport _ first argument call => Work.recordDynamicImport first argument call
  | .checkJump _ keyword label => Work.checkJump keyword label
  | .nested _ program => program.run.nested
  | .tooDeep _ => Work.tooDeep
  | .jumpBoundary program => program.run.jumpBoundary
  | .deferred program => program.run.deferred
  | .loopBody program => program.run.loopBody
  | .switchBody program => program.run.switchBody
  | .labelled _ label isLoop program => program.run.labelled label isLoop
  | .loop program b => Work.loop (fun b => (program b).run) b
  | .succeeds program => program.run.succeeds
  | .attempt program => program.run.rewindable

/-! ## What programs do -/

theorem grows (source : String) (program : Program known reading after) :
    program.run.Grows source := by
  induction program with
  | answer a h => exact Work.grows_pure a
  | fail e => exact Work.grows_fail e
  | bind first rest ihfirst ihrest => exact ihfirst.bind ihrest
  | peekIn mode => exact Work.grows_onTokens (looks_peek mode)
  | peek2 => exact Work.grows_onTokens looks_peek2
  | consumeIn mode => exact Work.grows_onTokens (looks_advance mode)
  | lastEnd => exact Work.grows_lastEnd
  | enterScope h type => exact Work.grows_enterScope type
  | leaving scope program ih => exact ih.leavingTo scope
  | declare h name span kind shorthand => exact Work.grows_declare name span kind shorthand
  | refer h name span shorthand => exact Work.grows_refer name span shorthand
  | markSideEffect h => exact Work.grows_markSideEffect
  | recordDynamicImport h first argument call =>
    exact Work.grows_recordDynamicImport first argument call
  | checkJump h keyword label => exact Work.grows_checkJump keyword label
  | nested h program ih => exact ih.nested
  | tooDeep h => exact Work.grows_tooDeep
  | jumpBoundary program ih => exact ih.jumpBoundary
  | deferred program ih => exact ih.deferred
  | loopBody program ih => exact ih.loopBody
  | switchBody program ih => exact ih.switchBody
  | labelled h label isLoop program ih => exact ih.labelled label isLoop
  | loop program b ih => exact Work.grows_loop ih b
  | succeeds program ih => exact ih.succeeds
  | attempt program ih => exact ih.rewindable

/-- **A program does what its reading does.** -/
theorem does (source : String) (program : Program known reading after) :
    program.run.Does source known reading after := by
  induction program with
  | answer a h => exact Work.does_pure a h
  | fail e => exact Work.does_fail e
  | bind first rest ihfirst ihrest => exact ihfirst.bind (first.grows source) ihrest
  | peekIn mode => exact Work.does_onTokens (looks_peek mode)
  | peek2 => exact Work.does_onTokens looks_peek2
  | consumeIn mode => exact Work.does_onTokens (looks_advance mode)
  | lastEnd => exact Work.does_lastEnd
  | enterScope h type => exact Work.does_enterScope h type
  | leaving scope program ih => exact ih.leavingTo scope
  | declare h name span kind shorthand => exact Work.does_declare h name span kind shorthand
  | refer h name span shorthand => exact Work.does_refer h name span shorthand
  | markSideEffect h => exact Work.does_markSideEffect h
  | recordDynamicImport h first argument call =>
    exact Work.does_recordDynamicImport h first argument call
  | checkJump h keyword label => exact Work.does_checkJump h keyword label
  | nested h program ih => exact ih.nested h
  | tooDeep h => exact Work.does_tooDeep
  | jumpBoundary program ih => exact ih.jumpBoundary
  | deferred program ih => exact ih.deferred
  | loopBody program ih => exact ih.loopBody
  | switchBody program ih => exact ih.switchBody
  | labelled h label isLoop program ih => exact ih.labelled h label isLoop
  | loop program b ih => exact Work.does_loop ih (fun b => (program b).grows source) b
  | succeeds program ih => exact ih.succeeds
  | attempt program ih => exact ih.rewindable (program.grows source)

variable {around : Surroundings}

/-! ## Branching -/

def pure {α : Type} (a : α) : Routine around (pure a) := .answer a fun _ h => h

def map {α β : Type} {reading : Parse α} (f : α → β) (program : Routine around reading) :
    Routine around (f <$> reading) :=
  show Routine around (reading >>= fun a => Pure.pure (f a)) from .bind program fun _ => .pure _

/-- Either of two programs. -/
def ite {c : Prop} [inst : Decidable c] {x y : Parse α} (p : c → Program known x after)
    (q : ¬c → Program known y after) : Program known (if c then x else y) after :=
  match inst with
  | .isTrue h => p h
  | .isFalse h => q h

section
variable {α β : Type} {after : β → Option Surroundings} {c : Prop} [Decidable c]

/-- A program after one that may be left out. -/
def optional {first : Parse α} {rest : Parse β} (program : c → Routine around first)
    (next : Program (some around) rest after) :
    Program (some around) (if c then first >>= fun _ => rest else rest) after :=
  .ite (fun hc => .bind (program hc) fun _ => next) fun _ => next

/-- A program after one of two others. -/
def choice {p q : Parse α} {rest : α → Parse β} (program : c → Routine around p)
    (other : ¬c → Routine around q) (next : ∀ a, Routine around (rest a)) :
    Routine around (if c then p >>= rest else q >>= rest) :=
  .ite (fun hc => .bind (program hc) next) fun hc => .bind (other hc) next

end

/-! ## Single tokens -/

def peek : Routine around peek := .peekIn .standard

def consume : Routine around consume := .consumeIn .standard

def consumeIf (type : TokenType) : Routine around (consumeIf type) :=
  .bind .peek fun _ => .ite (fun _ => .bind .consume fun _ => .pure _) fun _ => .pure _

def requireIn (mode : LexMode) (type : TokenType) : Routine around (requireIn mode type) :=
  .bind (.consumeIn mode) fun _ => .ite (fun _ => .pure _) fun _ => .fail _

def require (type : TokenType) : Routine around (require type) := .requireIn .standard type

def requireThat (accepts : TokenType → Bool) (what : String) :
    Routine around (requireThat accepts what) :=
  .bind .consume fun _ => .ite (fun _ => .pure _) fun _ => .fail _

def requireSemicolon : Routine around requireSemicolon := by
  refine .bind .peek fun t => ?_
  -- What the reading is for each type of token is found by evaluation.
  generalize t.type = type
  induction type using TokenType.casesOn
  case semicolon => exact .bind .consume fun _ => .pure _
  case braceClose | eof => exact .pure _
  all_goals exact .ite (fun _ => .pure _) fun _ => .fail _

/-! ## Repeating -/

def loopWhile {round : Parse Bool} (program : Routine around round) :
    Routine around (loopWhile round) :=
  .loop (fun _ => .bind program fun _ => .ite (fun _ => .pure _) fun _ => .pure _) ()

def separatedList (separator close : TokenType) {item : Parse Unit}
    (program : Routine around item) : Routine around (separatedList separator close item) := by
  refine .loopWhile (.bind (.consumeIf close) fun _ => .ite (fun _ => .pure _) fun _ => ?_)
  refine .bind program fun _ => .bind (.consumeIf separator) fun _ => .ite (fun _ => .pure _) ?_
  exact fun _ => .bind (.require close) fun _ => .pure _

/-! ## Scopes -/

/-- What is read in a scope that is opened and left again. -/
def inScope {α : Type} {parent : ScopeId} {rest : ScopeId → Parse α} (h : around.scope = parent)
    (type : ScopeType) (program : ∀ scope, Routine (around.within scope) (rest scope)) :
    Routine around (ModuleBundler.enterScope parent type >>= rest) :=
  .bind (.enterScope h type) fun scope => .leaving around.scope (program scope)

end Program
end ModuleBundler
