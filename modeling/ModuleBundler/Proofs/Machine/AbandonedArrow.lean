import ModuleBundler.Proofs.Machine.Statement
import ModuleBundler.Proofs.Outcome

/-!
# Arrow functions that turn out to be something else

What begins like the parameters of an arrow function is read as such. If they are none, or no arrow
follows them, everything that was done is undone.

* `arrowFunction_none` : a reading that finds no arrow function has looked ahead and no more;
* `Routine.abandoned` : so has a machine, however the reading is put together;
* `abandonedArrow_leaves_no_trace` : the same of text that nests up to the limit.
-/

namespace ModuleBundler

/-- The surroundings of the items of a module. -/
def Surroundings.top : Surroundings := ⟨moduleScope, 0, 0, ⟨[], 0, 0⟩⟩

theorem Surroundings.fit_top : Surroundings.top.Fit 0 .module := ⟨rfl, rfl, rfl, rfl, rfl, rfl⟩

/-- A reading that finds no arrow function has looked ahead and no more. -/
theorem arrowFunction_none {g : Grammar} {ctx : Context} {s s' : ParserState}
    (h : arrowFunction g ctx s = .ok (none, s')) :
    ∃ ahead, s' = { s with tokens := { s.tokens with ahead } } := by
  obtain ⟨start, s₁, hpeek, hrest⟩ := stateBind_eq_ok.mp h
  obtain ⟨head, s₂, hattempt, hbody⟩ := stateBind_eq_ok.mp hrest
  cases hpeek
  cases head with
  | none =>
    cases hbody
    unfold attempt at hattempt
    split at hattempt
    · cases hattempt
      exact ⟨_, rfl⟩
    · rename_i hother
      exact absurd hattempt (hother _)
  | some inner =>
    obtain ⟨stop, s₃, -, hanswer⟩ := stateBind_eq_ok.mp hbody
    cases hanswer

/-- A machine that finds no arrow function is as it was, but for the tokens looked at ahead. -/
theorem Routine.abandoned {around : Surroundings} {g : Grammar} {ctx : Context}
    (program : Routine around (arrowFunction g ctx)) {source : String} {s : ParserState}
    (hs : s.tokens.OfText source) (hnone : (program.run ⟨s, around⟩).1 = .ok none) :
    ∃ ahead, (program.run ⟨s, around⟩).2 = Machine.withAhead ⟨s, around⟩ ahead := by
  have hat : Machine.At source ⟨s, around⟩ s around := ⟨rfl, hs, s.tokens.ahead, rfl⟩
  obtain ⟨hanswer, hshows⟩ := program.does source ⟨s, around⟩ s hs hat.shows
  cases hread : arrowFunction g ctx s with
  | error e =>
    rw [hread, hnone] at hanswer
    cases hanswer
  | ok p =>
    obtain ⟨answer, s'⟩ := p
    rw [hread, hnone] at hanswer
    cases hanswer
    obtain ⟨ahead, rfl⟩ := arrowFunction_none hread
    obtain ⟨haround, -, ahead', hstate⟩ := hshows none _ hread around rfl
    exact ⟨ahead', congr (congrArg Machine.mk hstate) haround⟩

/-- **An arrow function that turns out to be something else leaves no trace.** Wherever a parser is
in a text, the machine answers what the reading does. If that is that there is no arrow function,
the machine is as it was, but for the tokens that it looked at ahead: it has read as many tokens, it
has recorded the same scopes, declarations, references, dynamic imports and side effects, its items,
requests, imports and exports are the same, and it is in the same scope, at the same depth of
functions and of nesting, with the same labels, loops and switches around. -/
theorem abandonedArrow_leaves_no_trace {levels depth : Nat} (hdepth : depth + levels = maxNesting)
    {around : Surroundings} {ctx : Context} (hfit : around.Fit depth ctx) {source : String}
    {s : ParserState} (hs : s.tokens.OfText source) :
    let before : Machine := ⟨s, around⟩
    let outcome := (Program.arrowFunction (.ofDepth levels hdepth) hfit).run before
    outcome.1 = (arrowFunction (.ofDepth levels) ctx s).map Prod.fst ∧
      (outcome.1 = .ok none → ∃ ahead, outcome.2 = before.withAhead ahead) ∧
      ∀ s', arrowFunction (.ofDepth levels) ctx s = .ok (none, s') →
        ∃ ahead, s' = { s with tokens := { s.tokens with ahead } } := by
  intro before outcome
  have hat : before.At source s around := ⟨rfl, hs, s.tokens.ahead, rfl⟩
  obtain ⟨hanswer, -⟩ := (Program.arrowFunction (.ofDepth levels hdepth) hfit).does source
    before s hs hat.shows
  exact ⟨hanswer, Routine.abandoned _ hs, fun _ => arrowFunction_none⟩

/-- Parameters in which reading fails deep inside: at a jump in a method of a class in a loop with a
label, in a function that is a default value among the parameters of another arrow function. -/
def failingParameters : String :=
  "(a = (b = function () { l: for (;;) class C { m() { break l } } }) => b) => a"

theorem failingParameters_leave_no_trace :
    let before : Machine := ⟨.ofString failingParameters, Surroundings.top.deeper⟩
    let program : Routine Surroundings.top.deeper (arrowFunction (.ofDepth 999) .module) :=
      .arrowFunction (.ofDepth 999 (by decide)) Surroundings.fit_top.deeper
    (program.run before).1 = .ok none ∧
      ∃ ahead, (program.run before).2 = before.withAhead ahead := by
  have hread : ((arrowFunction (.ofDepth 999) .module (.ofString failingParameters)).map
      fun p => p.1.isNone) = .ok true := by
    decide +kernel
  intro before program
  obtain ⟨hanswer, hback, -⟩ := abandonedArrow_leaves_no_trace (by decide : 1 + 999 = maxNesting)
    Surroundings.fit_top.deeper (s := .ofString failingParameters)
    (TokenStream.ofText_ofString failingParameters)
  have hnone : (program.run before).1 = .ok none := by
    refine hanswer.trans ?_
    cases hcases : arrowFunction (.ofDepth 999) .module (.ofString failingParameters) with
    | error e =>
      rw [hcases] at hread
      cases hread
    | ok p =>
      obtain ⟨answer, s'⟩ := p
      rw [hcases] at hread
      cases answer with
      | none => rfl
      | some e => cases hread
  exact ⟨hnone, hback hnone⟩

end ModuleBundler
