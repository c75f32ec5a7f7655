import ModuleBundler.Grammar.Module
import ModuleBundler.Proofs.Machine.AbandonedArrow
import ModuleBundler.Proofs.Machine.JumpTargets

/-!
# What is checked of jumps and labels

* `Program.checks` : what a program checks on its way, with all that it has entered and not left;
* `JumpFrame.Reached` : what is around a check was entered step by step, the labels after a check
  that they are new;
* `Accounted`, `Program.checks_accounted` : so are all checks, which are made by what is around;
* `Program.fails_of_refused` : what is refused ends the reading;
* `jumps_checked_as_spelled` : jumps are checked exactly, but labels are compared as they are
  spelled and not by the names that they stand for.
-/

namespace ModuleBundler

/-! ## What a program checks -/

/-- A check that is made, and what it answers. -/
structure JumpCheck where
  /-- What is entered by then and not left. -/
  frames : List JumpFrame
  request : JumpRequest
  answer : Except SyntaxError Unit
  /-- If the reading fails the text is read in another way. -/
  isTrial : Bool

def JumpCheck.tried (c : JumpCheck) : JumpCheck := { c with isTrial := true }

namespace Machine

def entering (m : Machine) (enter : Surroundings → Surroundings) : Machine :=
  { m with around := enter m.around }

/-- The check that a machine makes. -/
def check (m : Machine) (frames : List JumpFrame) (request : JumpRequest) : JumpCheck :=
  ⟨frames, request, request.answer m.around.jumps, false⟩

end Machine

/-- What is noted in the rounds of a loop. -/
def Work.loopNotes {α β γ : Type} (round : β → Work (Round β α)) (notes : β → Machine → List γ)
    (b : β) (m : Machine) : List γ :=
  notes b m ++
    match round b m with
    | (.ok (.again b'), m') =>
      if m'.state.tokens.remaining < m.state.tokens.remaining then loopNotes round notes b' m'
      else []
    | (.ok (.done _), _) | (.error _, _) => []
termination_by m.state.tokens.remaining

namespace Program

/-- The checks that a machine makes when it runs a program inside of frames, in order. -/
def checks {α : Type} {known : Option Surroundings} {reading : Parse α}
    {after : α → Option Surroundings} :
    Program known reading after → List JumpFrame → Machine → List JumpCheck
  | .bind first rest, frames, m =>
    first.checks frames m ++
      match first.run m with
      | (.ok a, m') => (rest a).checks frames m'
      | (.error _, _) => []
  | .checkJump _ keyword label, frames, m => [m.check frames (.jump keyword label)]
  | .labelled _ label isLoop program, frames, m =>
    let c := m.check frames (.newLabel label)
    c :: match c.answer with
      | .ok _ => program.checks (.label label.text isLoop :: frames)
        (m.entering (·.labelled label.text isLoop))
      | .error _ => []
  | .loopBody program, frames, m => program.checks (.loop :: frames) (m.entering .loopBody)
  | .switchBody program, frames, m => program.checks (.switch :: frames) (m.entering .switchBody)
  | .jumpBoundary program, frames, m =>
    program.checks (.boundary :: frames) (m.entering .jumpBoundary)
  | .deferred program, frames, m => program.checks (.boundary :: frames) (m.entering .deferred)
  | .nested _ program, frames, m =>
    if maxNesting ≤ m.around.depth then [] else program.checks frames (m.entering .deeper)
  | .leaving _ program, frames, m => program.checks frames m
  | .loop program b, frames, m =>
    Work.loopNotes (fun b => (program b).run) (fun b => (program b).checks frames) b m
  | .succeeds program, frames, m => (program.checks frames m).map JumpCheck.tried
  | .attempt program, frames, m => program.checks frames m
  | .answer _ _, _, _ | .fail _, _, _ | .peekIn _, _, _ | .peek2, _, _ | .consumeIn _, _, _
  | .lastEnd, _, _ | .enterScope _ _, _, _ | .declare _ _ _ _ _, _, _ | .refer _ _ _ _, _, _
  | .markSideEffect _, _, _ | .recordDynamicImport _ _ _ _, _, _ | .tooDeep _, _, _ => []

end Program

/-! ## How what is around a check was entered -/

/-- Frames that were entered one by one, from where a log of checks begins. A statement with a label
was entered after a check that the label is new. -/
inductive JumpFrame.Reached (log : List JumpCheck) (start : List JumpFrame) :
    List JumpFrame → Prop
  | start : Reached log start start
  | loop {frames : List JumpFrame} (h : Reached log start frames) :
    Reached log start (.loop :: frames)
  | switch {frames : List JumpFrame} (h : Reached log start frames) :
    Reached log start (.switch :: frames)
  | boundary {frames : List JumpFrame} (h : Reached log start frames) :
    Reached log start (.boundary :: frames)
  | label {c : JumpCheck} {label : Token} (hc : c ∈ log) (hrequest : c.request = .newLabel label)
    (hanswer : c.answer = .ok ()) (isLoop : Bool) (h : Reached log start c.frames) :
    Reached log start (.label label.text isLoop :: c.frames)

namespace JumpFrame

variable {log log' : List JumpCheck} {start middle frames : List JumpFrame}

theorem Reached.mono (h : Reached log start frames)
    (hlog : ∀ c ∈ log, c ∈ log' ∨ c.tried ∈ log') : Reached log' start frames := by
  induction h with
  | start => exact .start
  | loop _ ih => exact .loop ih
  | switch _ ih => exact .switch ih
  | boundary _ ih => exact .boundary ih
  | label hc hrequest hanswer isLoop _ ih =>
    rcases hlog _ hc with hc | hc
    · exact .label hc hrequest hanswer isLoop ih
    · exact .label hc hrequest hanswer isLoop ih

theorem Reached.trans (h : Reached log start middle) (h' : Reached log middle frames) :
    Reached log start frames := by
  induction h' with
  | start => exact h
  | loop _ ih => exact .loop ih
  | switch _ ih => exact .switch ih
  | boundary _ ih => exact .boundary ih
  | label hc hrequest hanswer isLoop _ ih => exact .label hc hrequest hanswer isLoop ih

/-- Labels stay distinct names if none is entered that is the name of one around. -/
theorem Reached.distinct {key : String → String} (h : Reached log start frames)
    (hlog : ∀ c ∈ log, ∀ label, c.request = .newLabel label → c.answer = .ok () →
      c.request.Accepted key c.frames)
    (hstart : Distinct key start) : Distinct key frames := by
  induction h with
  | start => exact hstart
  | loop _ ih => exact ih
  | switch _ ih => exact ih
  | boundary _ ih =>
    -- No label is left.
    exact List.nodup_nil
  | label hc hrequest hanswer isLoop _ ih =>
    have hnew := hlog _ hc _ hrequest hanswer
    rw [hrequest] at hnew
    refine List.nodup_cons.mpr ⟨fun hmem => ?_, ih⟩
    obtain ⟨entry, hentry, hname⟩ := List.mem_map.mp hmem
    exact hnew entry hentry hname

end JumpFrame

/-- A log of checks that begins inside of frames: each is made by what is around it, and what is
around it was entered after checks of the log. -/
def Accounted (start : List JumpFrame) (log : List JumpCheck) : Prop :=
  ∀ c ∈ log, c.answer = c.request.answer (.of c.frames) ∧ JumpFrame.Reached log start c.frames

namespace Accounted

variable {log log' : List JumpCheck} {start frames : List JumpFrame}

theorem nil : Accounted start [] := fun _ hc => nomatch hc

theorem append (h : Accounted start log) (h' : Accounted start log') :
    Accounted start (log ++ log') := by
  intro c hc
  rcases List.mem_append.mp hc with hc | hc
  · exact (h c hc).imp_right (·.mono fun c hc => .inl (List.mem_append_left _ hc))
  · exact (h' c hc).imp_right (·.mono fun c hc => .inl (List.mem_append_right _ hc))

theorem tried (h : Accounted start log) : Accounted start (log.map JumpCheck.tried) := by
  intro c hc
  obtain ⟨untried, huntried, rfl⟩ := List.mem_map.mp hc
  exact (h untried huntried).imp_right (·.mono fun c hc => .inr (List.mem_map_of_mem hc))

/-- A frame is entered before the log begins. -/
theorem entered {frame : JumpFrame} (h : Accounted (frame :: start) log)
    (hframe : JumpFrame.Reached log start (frame :: start)) : Accounted start log :=
  fun c hc => (h c hc).imp_right hframe.trans

theorem check {m : Machine} (h : m.around.jumps = .of start) (request : JumpRequest) :
    Accounted start [m.check start request] := by
  intro c hc
  obtain rfl := List.mem_singleton.mp hc
  exact ⟨congrArg request.answer h, .start⟩

/-- A statement with a label is entered after the check of the label. -/
theorem labelled {m : Machine} (hm : m.around.jumps = .of start) {label : Token} {isLoop : Bool}
    (hanswer : (m.check start (.newLabel label)).answer = .ok ())
    (h : Accounted (.label label.text isLoop :: start) log) :
    Accounted start (m.check start (.newLabel label) :: log) := by
  have hcheck := check hm (.newLabel label)
  intro c hc
  rcases List.mem_cons.mp hc with rfl | hc
  · exact (hcheck _ List.mem_cons_self).imp_right (·.mono fun c hc =>
      .inl (List.mem_singleton.mp hc ▸ List.mem_cons_self))
  · refine (h c hc).imp_right fun hreached => ?_
    refine .trans ?_ (hreached.mono fun c hc => .inl (List.mem_cons_of_mem _ hc))
    exact .label List.mem_cons_self rfl hanswer isLoop .start

theorem loopNotes {α β : Type} {source : String} {round : β → Work (Round β α)}
    {notes : β → Machine → List JumpCheck} (hgrows : ∀ b, (round b).Grows source)
    (hnotes : ∀ b m, m.state.tokens.OfText source → m.around.jumps = .of start →
      Accounted start (notes b m)) (b : β) (m : Machine) (hm : m.state.tokens.OfText source)
    (hstart : m.around.jumps = .of start) :
    Accounted start (Work.loopNotes round notes b m) := by
  fun_induction Work.loopNotes round notes b m with
  | case1 b m ih =>
    refine (hnotes b m hm hstart).append ?_
    have hgrown := hgrows b m hm
    split
    · rename_i b' m' hround
      rw [hround] at hgrown
      split
      · exact ih b' m' ‹_› (hgrown.text source hm) (hgrown.jumps.trans hstart)
      · exact .nil
    · exact .nil
    · exact .nil

end Accounted

namespace Program

variable {α : Type} {known : Option Surroundings} {reading : Parse α}
  {after : α → Option Surroundings}

/-- **What a program checks is accounted for,** if a machine keeps what is around where it begins. -/
theorem checks_accounted (source : String) (program : Program known reading after)
    {frames : List JumpFrame} {m : Machine} (hm : m.state.tokens.OfText source)
    (hframes : m.around.jumps = .of frames) : Accounted frames (program.checks frames m) := by
  induction program generalizing frames m with
  | bind first rest ihfirst ihrest =>
    have hgrown := first.grows source m hm
    rw [checks]
    refine (ihfirst hm hframes).append ?_
    generalize first.run m = outcome at hgrown ⊢
    obtain ⟨answer, m'⟩ := outcome
    cases answer with
    | error e => exact .nil
    | ok a => exact ihrest a (hgrown.text source hm) (hgrown.jumps.trans hframes)
  | checkJump h keyword label => exact .check hframes _
  | labelled h label isLoop program ih =>
    dsimp only [checks]
    cases hanswer : (m.check frames (.newLabel label)).answer with
    | error e => exact .check hframes _
    | ok a =>
      exact .labelled hframes hanswer (ih hm (Surroundings.jumps_labelled hframes _ _))
  | loopBody program ih =>
    exact .entered (ih hm (Surroundings.jumps_loopBody hframes)) (.loop .start)
  | switchBody program ih =>
    exact .entered (ih hm (Surroundings.jumps_switchBody hframes)) (.switch .start)
  | jumpBoundary program ih => exact .entered (ih hm rfl) (.boundary .start)
  | deferred program ih => exact .entered (ih hm rfl) (.boundary .start)
  | nested h program ih =>
    dsimp only [checks]
    split
    · exact .nil
    · exact ih hm hframes
  | leaving scope program ih => exact ih hm hframes
  | loop program b ih =>
    exact .loopNotes (fun b => (program b).grows source) (fun b m => ih b) b m hm hframes
  | succeeds program ih => exact (ih hm hframes).tried
  | attempt program ih => exact ih hm hframes
  | _ => exact .nil

end Program

/-! ## What becomes of what is refused -/

theorem Work.labelled_answer {α : Type} (work : Work α) (label : Token) (isLoop : Bool)
    (m : Machine) : (work.labelled label isLoop m).1 =
      JumpRequest.answer m.around.jumps (.newLabel label) >>= fun _ =>
        (work (m.entering (·.labelled label.text isLoop))).1 := by
  unfold Work.labelled
  by_cases hknown : (m.around.jumps.labels.lookup label.text).isSome
  · rw [if_pos hknown, JumpRequest.answer, if_pos hknown]
    rfl
  · rw [if_neg hknown, JumpRequest.answer, if_neg hknown]
    rfl

/-- A loop fails as one of its rounds does. -/
theorem Work.loop_fails {α β γ : Type} {round : β → Work (Round β α)}
    {notes : β → Machine → List γ} {note : γ} {e : SyntaxError}
    (hround : ∀ b m, note ∈ notes b m → (round b m).1 = .error e) (b : β) (m : Machine)
    (hnote : note ∈ loopNotes round notes b m) : (loop round b m).1 = .error e := by
  fun_induction loopNotes round notes b m with
  | case1 b m ih =>
    rw [loop]
    rcases List.mem_append.mp hnote with hnote | hnote
    · have houtcome : round b m = (.error e, (round b m).2) := Prod.ext (hround b m hnote) rfl
      rw [houtcome]
    · split at hnote
      · rename_i b' m' hagain
        rw [hagain]
        dsimp only
        split at hnote
        · rw [if_pos ‹_›]
          exact ih b' m' ‹_› hnote
        · cases hnote
      · cases hnote
      · cases hnote

namespace Program

/-- **What is refused ends the reading** with the error for it, unless the text is read in another
way then. -/
theorem fails_of_refused (program : Program known reading after) {frames : List JumpFrame}
    {m : Machine} {c : JumpCheck} (hc : c ∈ program.checks frames m) (htrial : c.isTrial = false)
    {e : SyntaxError} (hanswer : c.answer = .error e) : (program.run m).1 = .error e := by
  induction program generalizing frames m with
  | bind first rest ihfirst ihrest =>
    rw [checks] at hc
    rw [run, Work.bind]
    rcases List.mem_append.mp hc with hc | hc
    · have houtcome : first.run m = (.error e, (first.run m).2) := Prod.ext (ihfirst hc) rfl
      rw [houtcome]
    · generalize first.run m = outcome at hc ⊢
      obtain ⟨answer, m'⟩ := outcome
      cases answer with
      | error e => cases hc
      | ok a => exact ihrest a hc
  | checkJump h keyword label =>
    obtain rfl := List.mem_singleton.mp hc
    exact hanswer
  | labelled h label isLoop program ih =>
    refine (program.run.labelled_answer label isLoop m).trans ?_
    rcases List.mem_cons.mp hc with rfl | hc
    · rw [show JumpRequest.answer m.around.jumps (.newLabel label) = .error e from hanswer]
      rfl
    · dsimp only [Machine.check] at hc
      generalize JumpRequest.answer m.around.jumps (.newLabel label) = answer at hc ⊢
      cases answer with
      | error e => cases hc
      | ok a => exact ih hc
  | loopBody program ih => exact ih hc
  | switchBody program ih => exact ih hc
  | jumpBoundary program ih => exact ih hc
  | deferred program ih =>
    let later : Machine :=
      { m with around := { m.around with functionDepth := m.around.functionDepth + 1 } }
    have houtcome : program.run.jumpBoundary later =
        (.error e, (program.run.jumpBoundary later).2) := Prod.ext (ih hc) rfl
    rw [run, Work.deferred, houtcome]
  | nested h program ih =>
    rw [checks] at hc
    rw [run, Work.nested]
    split at hc
    · cases hc
    · rw [if_neg ‹_›]
      exact ih hc
  | leaving scope program ih =>
    have houtcome : program.run m = (.error e, (program.run m).2) := Prod.ext (ih hc) rfl
    rw [run, Work.leavingTo, houtcome]
  | loop program b ih => exact Work.loop_fails (fun b m => ih b) b m hc
  | succeeds program ih =>
    obtain ⟨untried, -, rfl⟩ := List.mem_map.mp hc
    cases htrial
  | attempt program ih =>
    have houtcome : program.run m = (.error e, (program.run m).2) := Prod.ext (ih hc) rfl
    rw [run, Work.rewindable, houtcome]
  | _ => cases hc

end Program

/-! ## Jumps in the text of a module -/

/-- **Jumps are checked exactly, with labels as they are spelled.** Whatever a parser reads, and
wherever it is in a text: it answers what the reading does, and however that ends, jumps have the
targets again that they had before. Each check on the way has the answer that is expected of the
loops, the switches and the labels that were entered and not left since the innermost function or
static block, where those labels are the same that are spelled alike; and what is refused ends the
reading, unless that is only tried. Labels should be the same that stand for the same name. All
answers are as expected then exactly if no label is asked for that stands for the same name as one
around but is spelled in another way. -/
theorem jumps_checked_as_spelled {α : Type} {around : Surroundings} {reading : Parse α}
    (program : Routine around reading) {source : String} {s : ParserState}
    (hs : s.tokens.OfText source) {frames : List JumpFrame} (hframes : around.jumps = .of frames)
    (hdistinct : JumpFrame.Distinct decodeName frames) :
    let outcome := program.run ⟨s, around⟩
    let checks := program.checks frames ⟨s, around⟩
    outcome.1 = (reading s).map Prod.fst ∧ outcome.2.around.jumps = around.jumps ∧
      (∀ c ∈ checks, c.answer = c.request.expected id c.frames ∧
        ∀ e, c.answer = .error e → c.isTrial = false → outcome.1 = .error e) ∧
      ((∀ c ∈ checks, c.answer = c.request.expected decodeName c.frames) ↔
        ∀ c ∈ checks, c.request.SpelledAlike decodeName c.frames) := by
  intro outcome checks
  have haccounted := program.checks_accounted source (m := ⟨s, around⟩) hs hframes
  have hspelled : ∀ c ∈ checks, c.answer = c.request.expected id c.frames := by
    intro c hc
    obtain ⟨hanswer, hreached⟩ := haccounted c hc
    -- The first label that is found is the only one, since each was new when it was entered.
    refine hanswer.trans (JumpRequest.answer_eq_expected (hreached.distinct ?_ hdistinct.spelled))
    intro c hc label hrequest hok
    rw [(haccounted c hc).1, hrequest, JumpRequest.answer_newLabel] at hok
    rw [hrequest]
    exact JumpRequest.expected_eq_ok_iff.mp hok
  refine ⟨?_, (program.grows source ⟨s, around⟩ hs).jumps, fun c hc => ⟨hspelled c hc, ?_⟩, ?_, ?_⟩
  · have hat : Machine.At source ⟨s, around⟩ s around := ⟨rfl, hs, s.tokens.ahead, rfl⟩
    exact (program.does source ⟨s, around⟩ s hs hat.shows).1
  · exact fun e hanswer htrial => program.fails_of_refused hc htrial hanswer
  · intro hdecoded c hc
    -- Labels were refused that stand for a name around, so another spelling is of one label only.
    have hkept : JumpFrame.Distinct decodeName c.frames := by
      refine (haccounted c hc).2.distinct (fun c hc label _ hok => ?_) hdistinct
      exact JumpRequest.expected_eq_ok_iff.mp ((hdecoded c hc).symm.trans hok)
    exact (JumpRequest.expected_eq_iff hkept).mp ((hspelled c hc).symm.trans (hdecoded c hc))
  · intro halike c hc
    exact (hspelled c hc).trans (JumpRequest.expected_of_spelledAlike (halike c hc))

/-- A statement of a module. -/
def Program.moduleStatement : Routine Surroundings.top (moduleGrammar.statement .module) :=
  (Grammar.Programs.ofDepth maxNesting (Nat.zero_add maxNesting)).statement Surroundings.fit_top

/-- A loop in a static block in a switch in a loop. Each but the block has a label. The last jump
would go on with the switch. -/
def nestedJumps : String :=
  "a: for (;;) \x7b b: switch (x) \x7b case 0: class C \x7b static \x7b c: while (y) continue c " ++
    "\x7d \x7d continue a; default: continue b \x7d \x7d"

theorem nestedJumps_checked :
    let s : ParserState := .ofString nestedJumps
    let checks := Program.moduleStatement.checks [] ⟨s, .top⟩
    let refusal : SyntaxError := ⟨.jumpOutsideLoop, ⟨106, 114⟩, some .keywordContinue⟩
    s.tokens.OfText nestedJumps ∧ Surroundings.top.jumps = .of [] ∧
      JumpFrame.Distinct decodeName [] ∧
      (∃ c ∈ checks, c.frames = [.switch, .label "b" false, .loop, .label "a" true] ∧
        c.answer = .error refusal ∧ c.isTrial = false) ∧
      (Program.moduleStatement.run ⟨s, .top⟩).1 = .error refusal ∧
      (Program.moduleStatement.run ⟨s, .top⟩).2.around.jumps = Surroundings.top.jumps ∧
      ∀ c ∈ checks, c.answer = c.request.expected decodeName c.frames := by
  intro s checks refusal
  have htext : s.tokens.OfText nestedJumps := TokenStream.ofText_ofString nestedJumps
  have hdistinct : JumpFrame.Distinct decodeName [] := List.nodup_nil
  obtain ⟨hlast, halike⟩ : (∃ c ∈ checks,
      c.frames = [.switch, .label "b" false, .loop, .label "a" true] ∧ c.answer = .error refusal ∧
        c.isTrial = false) ∧ ∀ c ∈ checks, c.request.SpelledAlike decodeName c.frames := by
    decide +kernel
  obtain ⟨-, hjumps, hchecked, hdecoded⟩ :=
    jumps_checked_as_spelled Program.moduleStatement htext rfl hdistinct
  obtain ⟨c, hc, -, hanswer, htrial⟩ := id hlast
  exact ⟨htext, rfl, hdistinct, hlast, (hchecked c hc).2 refusal hanswer htrial, hjumps,
    hdecoded.mpr halike⟩

/-- A label is no target when it is spelled in another way, and it may stand inside itself. -/
theorem escapedLabel_unknown :
    let around := Program.moduleStatement.checks [] ⟨.ofString "a: \x7b break \\u0061; \x7d", .top⟩
    let inside := Program.moduleStatement.checks [] ⟨.ofString "a: \\u0061: ;", .top⟩
    (∃ c ∈ around, c.request.Accepted decodeName c.frames ∧
      c.answer = .error ⟨.undefinedLabel, ⟨11, 17⟩, some .identifier⟩) ∧
    (∃ c ∈ inside, ¬c.request.Accepted decodeName c.frames ∧ c.answer = .ok ()) ∧
    (parseModule "a: \x7b break \\u0061; \x7d").toOption = none ∧
    (parseModule "a: \\u0061: ;").toOption.isSome := by
  decide +kernel

end ModuleBundler
