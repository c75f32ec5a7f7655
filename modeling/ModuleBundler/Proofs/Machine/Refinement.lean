import ModuleBundler.Proofs.Machine.Growth

/-!
# Work that does what a reading does

* `Machine.At` : a machine is where a reading is; `Machine.Shows` : if it is known where that is. It
  is not known any more once something failed and reading goes on as if it had not begun;
* `Work.Does` : work with the answers and errors of a reading, which ends where that does;
* `Work.Does.bind`, `Work.does_enterScope`, `Work.Does.nested`, `Work.does_loop`,
  `Work.Does.rewindable`, … : what a machine does is what the grammar has for it.
-/

namespace ModuleBundler

/-! ## Machines that are where a reading is -/

namespace Machine

/-- The machine is where a reading in some surroundings is, but for the tokens looked at ahead. -/
structure At (source : String) (m : Machine) (s : ParserState) (around : Surroundings) : Prop where
  around : m.around = around
  text : s.tokens.OfText source
  state : ∃ ahead, m.state = { s with tokens := { s.tokens with ahead } }

namespace At

variable {source : String} {m : Machine} {s : ParserState} {around : Surroundings}

theorem withAhead (h : m.At source s around) (ahead : List BufferedToken) :
    (m.withAhead ahead).At source s around := by
  obtain ⟨haround, htext, ahead', hstate⟩ := h
  refine ⟨haround, htext, ahead, ?_⟩
  unfold Machine.withAhead Machine.withTokens
  rw [hstate]

theorem remaining (h : m.At source s around) :
    m.state.tokens.remaining = s.tokens.remaining := by
  obtain ⟨ahead, hstate⟩ := h.state
  rw [hstate]
  rfl

theorem lastEnd (h : m.At source s around) : m.state.tokens.lastEnd = s.tokens.lastEnd := by
  obtain ⟨ahead, hstate⟩ := h.state
  rw [hstate]
  rfl

end At

/-- The machine is where a reading is, if it is known where that is. -/
def Shows (source : String) (m : Machine) (s : ParserState) (known : Option Surroundings) : Prop :=
  ∀ around ∈ known, m.At source s around

theorem At.shows {source : String} {m : Machine} {s : ParserState} {around : Surroundings}
    (h : m.At source s around) : m.Shows source s (some around) := by
  intro around' haround
  cases haround
  exact h

end Machine

/-- Jumps are checked in the same way by what is counted around them. -/
theorem checkJump_eq {around : Surroundings} {depth : Nat} {ctx : Context}
    (h : around.Fit depth ctx) (keyword : Token) (label : Option Token) (s : ParserState) :
    checkJump ctx keyword label s = (around.jumps.check keyword label).map (·, s) := by
  unfold checkJump JumpCounts.check
  cases label with
  | none =>
    have hallows : ctx.jumps.allows (keyword.type = .keywordContinue) = false ↔
        around.jumps.loops = 0 ∧
          (keyword.type = .keywordContinue ∨ around.jumps.switches = 0) := by
      rw [JumpTargets.allows, h.inLoop, h.inSwitch]
      by_cases hcontinue : keyword.type = .keywordContinue
      · simp [hcontinue]
      · simp [hcontinue]
    dsimp only
    split
    · rename_i hallowed
      rw [if_neg fun houtside => by simp [hallows.mpr houtside] at hallowed]
      rfl
    · rename_i hallowed
      rw [if_pos (hallows.mp (Bool.eq_false_iff.mpr hallowed))]
      rfl
  | some label =>
    dsimp only [JumpTargets.label?]
    rw [h.labels]
    cases around.jumps.labels.lookup label.text with
    | none => rfl
    | some isLoop =>
      dsimp only
      by_cases hbad : keyword.type = .keywordContinue ∧ isLoop = false
      · rw [if_pos hbad, if_pos (by simp [hbad])]
        rfl
      · rw [if_neg hbad, if_neg (by simpa using hbad)]
        rfl

namespace Work

variable {source : String} {α β : Type}

/-- Work that does what a reading does: it has the same answer or fails with the same error. -/
def Does (source : String) (known : Option Surroundings) (reading : Parse α) (work : Work α)
    (after : α → Option Surroundings) : Prop :=
  ∀ (m : Machine) s, m.state.tokens.OfText source → m.Shows source s known →
    (work m).1 = (reading s).map Prod.fst ∧
      ∀ a s', reading s = .ok (a, s') → (work m).2.Shows source s' (after a)

section
variable {known : Option Surroundings} {reading : Parse α} {work : Work α}
  {after : α → Option Surroundings} {around : Surroundings}

theorem does_pure (a : α) (h : ∀ around ∈ after a, around ∈ known) :
    (Work.pure a).Does source known (pure a) after := by
  intro m s _ hs
  refine ⟨rfl, fun a' s' heq around haround => ?_⟩
  cases heq
  exact hs around (h around haround)

theorem does_fail (e : SyntaxError) :
    (Work.fail e).Does source known (throw e : Parse α) after :=
  fun _ _ _ _ => ⟨rfl, fun _ _ heq => nomatch heq⟩

theorem Does.bind {between : α → Option Surroundings} {after : β → Option Surroundings}
    {next : α → Parse β} {rest : α → Work β} (h : work.Does source known reading between)
    (hgrows : work.Grows source)
    (hrest : ∀ a, (rest a).Does source (between a) (next a) after) :
    (work.bind rest).Does source known (reading >>= next) after := by
  intro m s hm hs
  obtain ⟨hanswer, hshows⟩ := h m s hm hs
  have hgrown := hgrows m hm
  unfold Work.bind
  generalize work m = outcome at hanswer hshows hgrown ⊢
  obtain ⟨answer, m'⟩ := outcome
  show _ = (reading s >>= fun p => next p.1 p.2).map _ ∧
    ∀ b s', (reading s >>= fun p => next p.1 p.2) = .ok (b, s') → _
  cases hreading : reading s with
  | error e =>
    rw [hreading] at hanswer
    cases hanswer
    exact ⟨rfl, fun _ _ heq => nomatch heq⟩
  | ok p =>
    obtain ⟨a, s'⟩ := p
    rw [hreading] at hanswer
    cases hanswer
    exact hrest a m' s' (hgrown.text source hm) (hshows a s' hreading)

/-- Work that succeeds wherever the machine is in its surroundings, as the reading does. -/
theorem does_of_step
    (h : ∀ s ahead, s.tokens.OfText source →
      ({ s.tokens with ahead } : TokenStream).OfText source → ∃ a s' m',
        reading s = .ok (a, s') ∧
        work ⟨{ s with tokens := { s.tokens with ahead } }, around⟩ = (.ok a, m') ∧
        ∀ around' ∈ after a, m'.At source s' around') :
    work.Does source (some around) reading after := by
  rintro ⟨state, around⟩ s hm hs
  obtain ⟨rfl, htext, ahead, rfl⟩ := hs _ rfl
  obtain ⟨a, s', m', hreading, hwork, hat⟩ := h s ahead htext hm
  rw [hreading, hwork]
  refine ⟨rfl, fun a' s'' heq => ?_⟩
  cases heq
  exact hat

theorem does_onTokens {look : TokenStream → α × TokenStream} (h : Looks look) :
    (onTokens look).Does source (some around)
      (fun s => .ok ((look s.tokens).1, { s with tokens := (look s.tokens).2 }))
      fun _ => some around := by
  refine does_of_step fun s ahead htext hm => ?_
  obtain ⟨ahead', hagain⟩ := h.again htext hm
  refine ⟨_, _, ⟨{ s with tokens := { (look s.tokens).2 with ahead := ahead' } }, around⟩, rfl, ?_,
    Machine.At.shows ⟨rfl, h.text htext, ahead', rfl⟩⟩
  unfold onTokens
  dsimp only
  rw [hagain]
  rfl

theorem does_lastEnd :
    Work.lastEnd.Does source (some around) ModuleBundler.lastEnd fun _ => some around :=
  does_of_step fun _ ahead htext _ =>
    ⟨_, _, _, rfl, rfl, Machine.At.shows ⟨rfl, htext, ahead, rfl⟩⟩

theorem does_enterScope {parent : ScopeId} (h : around.scope = parent) (type : ScopeType) :
    (Work.enterScope type).Does source (some around) (ModuleBundler.enterScope parent type)
      fun scope => some (around.within scope) := by
  refine does_of_step fun s ahead htext _ => ⟨_, _, _, rfl, rfl, ?_⟩
  rw [← h]
  exact Machine.At.shows ⟨rfl, htext, ahead, rfl⟩

theorem Does.leavingTo (h : work.Does source known reading after) (scope : ScopeId) :
    (work.leavingTo scope).Does source known reading fun a => (after a).map (·.within scope) := by
  intro m s hm hs
  obtain ⟨hanswer, hshows⟩ := h m s hm hs
  unfold Work.leavingTo
  generalize work m = outcome at hanswer hshows ⊢
  obtain ⟨answer, m'⟩ := outcome
  cases answer with
  | error e =>
    refine ⟨hanswer, fun a s' heq => ?_⟩
    rw [heq] at hanswer
    cases hanswer
  | ok a =>
    refine ⟨hanswer, fun a' s' heq around haround => ?_⟩
    obtain ⟨inner, hinner, rfl⟩ := Option.map_eq_some_iff.mp haround
    have hat := hshows a' s' heq inner hinner
    exact ⟨congrArg (·.within scope) hat.around, hat.text, hat.state⟩

section
variable {depth : Nat} {ctx : Context}

theorem does_declare (h : around.scope = ctx.scope) (name : String) (span : Span)
    (kind : DeclarationKind) (shorthand : Bool) :
    (Work.declare name span kind shorthand).Does source (some around)
      (ModuleBundler.declare ctx name span kind shorthand) fun _ => some around := by
  refine does_of_step fun s ahead htext _ => ⟨_, _, _, rfl, rfl, ?_⟩
  rw [← h]
  exact Machine.At.shows ⟨rfl, htext, ahead, rfl⟩

theorem does_refer (h : around.scope = ctx.scope) (name : String) (span : Span)
    (shorthand : Bool) :
    (Work.refer name span shorthand).Does source (some around)
      (ModuleBundler.refer ctx name span shorthand) fun _ => some around := by
  refine does_of_step fun s ahead htext _ => ⟨_, _, _, rfl, rfl, ?_⟩
  rw [← h]
  exact Machine.At.shows ⟨rfl, htext, ahead, rfl⟩

theorem does_markSideEffect (h : around.Fit depth ctx) :
    Work.markSideEffect.Does source (some around) (ModuleBundler.markSideEffect ctx)
      fun _ => some around := by
  refine does_of_step fun s ahead htext _ => ?_
  unfold Work.markSideEffect
  dsimp only
  split
  · rename_i hzero
    have hnow : ctx.isDeferred = false := by rw [h.isDeferred, hzero]; rfl
    refine ⟨_, _, _, rfl, rfl, Machine.At.shows ⟨rfl, htext, ahead, ?_⟩⟩
    rw [hnow]
    dsimp only
    rw [Bool.not_false, Bool.or_true]
  · rename_i hpos
    have hlater : ctx.isDeferred = true := by
      rw [h.isDeferred, decide_eq_true (Nat.pos_of_ne_zero hpos)]
    refine ⟨_, _, _, rfl, rfl, Machine.At.shows ⟨rfl, htext, ahead, ?_⟩⟩
    rw [hlater]
    dsimp only
    rw [Bool.not_true, Bool.or_false]

theorem does_recordDynamicImport (h : around.scope = ctx.scope) (first : Token)
    (argument call : Span) :
    (Work.recordDynamicImport first argument call).Does source (some around)
      (ModuleBundler.recordDynamicImport ctx first argument call) fun _ => some around := by
  refine does_of_step fun s ahead htext _ => ?_
  unfold Work.recordDynamicImport ModuleBundler.recordDynamicImport
  split
  · cases decodeString first.text with
    | some specifier =>
      refine ⟨_, _, _, rfl, rfl, ?_⟩
      rw [← h]
      exact Machine.At.shows ⟨rfl, htext, ahead, rfl⟩
    | none => exact ⟨_, _, _, rfl, rfl, Machine.At.shows ⟨rfl, htext, ahead, rfl⟩⟩
  · exact ⟨_, _, _, rfl, rfl, Machine.At.shows ⟨rfl, htext, ahead, rfl⟩⟩

theorem does_checkJump (h : around.Fit depth ctx) (keyword : Token) (label : Option Token) :
    (Work.checkJump keyword label).Does source (some around)
      (ModuleBundler.checkJump ctx keyword label) fun _ => some around := by
  intro m s _ hs
  have hat := hs around rfl
  unfold Work.checkJump
  rw [checkJump_eq h keyword label s, hat.around]
  cases around.jumps.check keyword label with
  | error e => exact ⟨rfl, fun _ _ heq => nomatch heq⟩
  | ok a =>
    refine ⟨rfl, fun a' s' heq => ?_⟩
    cases heq
    exact hat.shows

end

/-! ### Other surroundings -/

theorem Does.inside {enter : Surroundings → Surroundings}
    {leave : Surroundings → Surroundings → Surroundings}
    (h : work.Does source (some (enter around)) reading fun _ => some (enter around))
    (hleave : leave around (enter around) = around) :
    (work.inside enter leave).Does source (some around) reading fun _ => some around := by
  intro m s hm hs
  have hat := hs around rfl
  have hentered : ({ m with around := enter m.around } : Machine).At source s (enter around) :=
    ⟨congrArg enter hat.around, hat.text, hat.state⟩
  obtain ⟨hanswer, hshows⟩ := h { m with around := enter m.around } s hm hentered.shows
  refine ⟨hanswer, fun a s' heq => ?_⟩
  have hat' := hshows a s' heq _ rfl
  refine Machine.At.shows ⟨?_, hat'.text, hat'.state⟩
  calc leave m.around (work { m with around := enter m.around }).2.around
      = leave m.around (enter around) := congrArg (leave m.around) hat'.around
    _ = around := by rw [hat.around, hleave]

theorem does_tooDeep :
    (tooDeep : Work α).Does source (some around) (ModuleBundler.tooDeep : Parse α) after :=
  (does_onTokens (looks_peek _)).bind (grows_onTokens (looks_peek _)) fun _ => does_fail _

theorem Does.nested (h : work.Does source (some around.deeper) reading fun _ => some around.deeper)
    (hdepth : around.depth < maxNesting) :
    work.nested.Does source (some around) reading fun _ => some around := by
  intro m s hm hs
  have hnot : ¬maxNesting ≤ m.around.depth := by
    rw [(hs around rfl).around]
    exact Nat.not_le.mpr hdepth
  unfold Work.nested
  rw [if_neg hnot]
  exact h.inside rfl m s hm hs

theorem Does.jumpBoundary
    (h : work.Does source (some around.jumpBoundary) reading fun _ => some around.jumpBoundary) :
    work.jumpBoundary.Does source (some around) reading fun _ => some around := h.inside rfl

theorem Does.deferred
    (h : work.Does source (some around.deferred) reading fun _ => some around.deferred) :
    work.deferred.Does source (some around) reading fun _ => some around := by
  let later (a : Surroundings) : Surroundings := { a with functionDepth := a.functionDepth + 1 }
  have hlater : work.jumpBoundary.Does source (some (later around)) reading
      fun _ => some (later around) := Does.jumpBoundary h
  intro m s hm hs
  have hat := hs around rfl
  have hentered : ({ m with around := later m.around } : Machine).At source s (later around) :=
    ⟨congrArg later hat.around, hat.text, hat.state⟩
  obtain ⟨hanswer, hshows⟩ := hlater { m with around := later m.around } s hm hentered.shows
  unfold Work.deferred
  generalize work.jumpBoundary _ = outcome at hanswer hshows ⊢
  obtain ⟨answer, m'⟩ := outcome
  cases answer with
  | error e =>
    refine ⟨hanswer, fun a s' heq => ?_⟩
    rw [heq] at hanswer
    cases hanswer
  | ok a =>
    refine ⟨hanswer, fun a' s' heq => ?_⟩
    have hat' := hshows a' s' heq (later around) rfl
    refine Machine.At.shows ⟨?_, hat'.text, hat'.state⟩
    dsimp only at hat' ⊢
    rw [hat'.around]
    rfl

theorem Does.loopBody
    (h : work.Does source (some around.loopBody) reading fun _ => some around.loopBody) :
    work.loopBody.Does source (some around) reading fun _ => some around := h.inside rfl

theorem Does.switchBody
    (h : work.Does source (some around.switchBody) reading fun _ => some around.switchBody) :
    work.switchBody.Does source (some around) reading fun _ => some around := h.inside rfl

theorem Does.labelled {depth : Nat} {ctx : Context} (hfit : around.Fit depth ctx) (label : Token)
    (isLoop : Bool)
    (h : work.Does source (some (around.labelled label.text isLoop)) reading
      fun _ => some (around.labelled label.text isLoop)) :
    (work.labelled label isLoop).Does source (some around)
      (if (ctx.jumps.label? label.text).isSome then label.fail .duplicateLabel else reading)
      fun _ => some around := by
  intro m s hm hs
  have hat := hs around rfl
  have hlabels : (m.around.jumps.labels.lookup label.text) = ctx.jumps.label? label.text := by
    rw [hat.around, ← hfit.labels]
    rfl
  have hinside : (work.inside (·.labelled label.text isLoop) fun outer a =>
      let extra := a.jumps.labels.length - outer.jumps.labels.length
      { a with jumps := { a.jumps with labels := a.jumps.labels.drop extra } }).Does source
        (some around) reading fun _ => some around := by
    refine h.inside ?_
    simp [Surroundings.labelled]
  unfold Work.labelled
  rw [hlabels]
  split
  · refine ⟨rfl, fun a s' heq => ?_⟩
    cases heq
  · exact hinside m s hm hs

/-! ### Repeating and trying -/

theorem does_loop {round : β → Parse (Round β α)} {workRound : β → Work (Round β α)}
    (h : ∀ b, (workRound b).Does source (some around) (round b) fun _ => some around)
    (hgrows : ∀ b, (workRound b).Grows source) (b : β) :
    Does source (some around) (ModuleBundler.loop round b) (loop workRound b)
      fun _ => some around := by
  intro m s hm hs
  fun_induction ModuleBundler.loop round b s generalizing m with
  | case1 b s e hround =>
    obtain ⟨hanswer, -⟩ := h b m s hm hs
    rw [hround] at hanswer
    unfold loop
    generalize workRound b m = outcome at hanswer ⊢
    obtain ⟨answer, m'⟩ := outcome
    cases hanswer
    exact ⟨rfl, fun _ _ heq => nomatch heq⟩
  | case2 b s a s' hround =>
    obtain ⟨hanswer, hshows⟩ := h b m s hm hs
    rw [hround] at hanswer
    unfold loop
    generalize workRound b m = outcome at hanswer hshows ⊢
    obtain ⟨answer, m'⟩ := outcome
    cases hanswer
    refine ⟨rfl, fun a' s'' heq => ?_⟩
    cases heq
    exact hshows _ _ hround
  | case3 b s b' s' hround hlt ih =>
    obtain ⟨hanswer, hshows⟩ := h b m s hm hs
    have hgrown := hgrows b m hm
    rw [hround] at hanswer
    unfold loop
    generalize workRound b m = outcome at hanswer hshows hgrown ⊢
    obtain ⟨answer, m'⟩ := outcome
    cases hanswer
    have hshows := hshows _ _ hround
    dsimp only
    rw [(hs around rfl).remaining, (hshows around rfl).remaining, if_pos hlt]
    exact ih m' (hgrown.text source hm) hshows
  | case4 b s b' s' hround hlt =>
    obtain ⟨hanswer, hshows⟩ := h b m s hm hs
    rw [hround] at hanswer
    unfold loop
    generalize workRound b m = outcome at hanswer hshows ⊢
    obtain ⟨answer, m'⟩ := outcome
    cases hanswer
    have hat' := hshows _ _ hround around rfl
    dsimp only
    rw [(hs around rfl).remaining, hat'.remaining, hat'.lastEnd, if_neg hlt]
    exact ⟨rfl, fun _ _ heq => nomatch heq⟩

theorem Does.succeeds {reading : Parse Unit} {work : Work Unit}
    (h : work.Does source (some around) reading fun _ => some around) :
    work.succeeds.Does source (some around) (ModuleBundler.succeeds reading)
      fun ok => cond ok (some around) none := by
  intro m s hm hs
  obtain ⟨hanswer, hshows⟩ := h m s hm hs
  unfold Work.succeeds ModuleBundler.succeeds
  cases hreading : reading s with
  | error e =>
    rw [hreading] at hanswer
    rw [hanswer]
    refine ⟨rfl, fun a s' heq => ?_⟩
    cases heq
    exact fun around haround => nomatch haround
  | ok p =>
    rw [hreading] at hanswer
    rw [hanswer]
    refine ⟨rfl, fun a s' heq => ?_⟩
    cases heq
    exact hshows _ _ hreading

theorem Does.rewindable {reading : Parse (Option α)} {work : Work (Option α)}
    {after : Option α → Option Surroundings} (h : work.Does source (some around) reading after)
    (hgrows : work.Grows source) :
    work.rewindable.Does source (some around) (attempt reading)
      fun answer => answer.elim (some around) fun a => after (some a) := by
  intro m s hm hs
  obtain ⟨hanswer, hshows⟩ := h m s hm hs
  have hgrown := hgrows m hm
  unfold Work.rewindable attempt
  generalize work m = outcome at hanswer hshows hgrown ⊢
  obtain ⟨answer, m'⟩ := outcome
  cases hreading : reading s with
  | error e =>
    rw [hreading] at hanswer
    cases hanswer
    exact ⟨rfl, fun _ _ heq => nomatch heq⟩
  | ok p =>
    obtain ⟨read, s'⟩ := p
    rw [hreading] at hanswer
    cases hanswer
    cases read with
    | none =>
      refine ⟨rfl, fun a s'' heq => ?_⟩
      cases heq
      show (m'.restore m.checkpoint).Shows source s (some around)
      rw [Machine.restore_of_grown hgrown hm]
      exact ((hs around rfl).withAhead _).shows
    | some a =>
      refine ⟨rfl, fun a' s'' heq => ?_⟩
      cases heq
      exact hshows _ _ hreading

end

end Work

end ModuleBundler
