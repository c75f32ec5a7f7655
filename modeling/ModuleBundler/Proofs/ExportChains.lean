import Mathlib.Logic.Relation
import ModuleBundler.Proofs.ExportHistory
import ModuleBundler.Proofs.NoInternalError

/-!
# Chains of exports

* `SourceModule.TakesFor` : for an export of its own a module takes something by a request;
* `ExportHop`, `LeadsOn` : that is an export of another module, under a name of its own;
* `ExportEndsIn`, `ExportUndeclared`, `NotExported` : an export leads no further;
* `exportStep_cases` : without `export *`, one of these is so of every export;
* `ChainAnswer` : what a chain of exports comes to, `ChainAnswer.of_end` and `ChainAnswer.of_loop` :
  nothing else;
* `freshAnswer_chain`, `answerAfter_chain` : that is the answer about an export, whatever queries
  came before.
-/

namespace ModuleBundler

open Relation

/-! ## Links of a chain -/

/-- For an export of its own a module takes something by a request, at a place in its text: it
exports that, or a variable that it imports. -/
inductive SourceModule.TakesFor (m : SourceModule) (e : ExportSpecifier) :
    Nat → Imported → Span → Prop where
  | reexport {request : Nat} {imported : Imported}
      (target : e.target = .reexport request imported) : m.TakesFor e request imported e.span
  | imported {name : String} {binding : BindingId} {request : Nat} {s : ImportSpecifier}
      (target : e.target = .binding name)
      (isVariable : m.record.scopes.moduleBinding? name = some binding)
      (kind : m.record.scopes.bindingKind? binding = some .imported)
      (source : (request, s) ∈ m.importSpecifiers) (localName : s.localName = name) :
      m.TakesFor e request s.imported s.span

/-- An export stands for another one, which a module takes at a place in its text. -/
def ExportHop (g : ModuleGraph) (key next : ExportKey) (m : SourceModule) (span : Span) : Prop :=
  g.modules[key.1]? = some m ∧ ∃ e request specifier, m.export? key.2 = some e ∧
    m.TakesFor e request (.name next.2) span ∧
    m.request? request = some (specifier, .module next.1)

/-- An export stands for another one. -/
def LeadsOn (g : ModuleGraph) (key next : ExportKey) : Prop := ∃ m span, ExportHop g key next m span

/-- An export stands for a variable of its module, for all exports of a module, or for something
outside. -/
inductive ExportEndsIn (g : ModuleGraph) (key : ExportKey) : Slot → Prop where
  | declared {m : SourceModule} {e : ExportSpecifier} {name : String} {binding : BindingId}
      (module : g.modules[key.1]? = some m) (own : m.export? key.2 = some e)
      (target : e.target = .binding name)
      (isVariable : m.record.scopes.moduleBinding? name = some binding)
      (kind : m.record.scopes.bindingKind? binding ≠ some .imported) :
      ExportEndsIn g key (.declared key.1 binding)
  | namespaceOf {m : SourceModule} {e : ExportSpecifier} {request target : Nat} {specifier : String}
      {span : Span} (module : g.modules[key.1]? = some m) (own : m.export? key.2 = some e)
      (takes : m.TakesFor e request .all span)
      (leads : m.request? request = some (specifier, .module target)) :
      ExportEndsIn g key (.namespaceOf target)
  | external {m : SourceModule} {e : ExportSpecifier} {request : Nat} {specifier : String}
      {imported : Imported} {span : Span} (module : g.modules[key.1]? = some m)
      (own : m.export? key.2 = some e) (takes : m.TakesFor e request imported span)
      (leads : m.request? request = some (specifier, .external)) :
      ExportEndsIn g key (.external specifier imported)

/-- A module exports a variable that it does not have, at a place in its text. -/
def ExportUndeclared (g : ModuleGraph) (key : ExportKey) (m : SourceModule) (name : String)
    (span : Span) : Prop :=
  g.modules[key.1]? = some m ∧ ∃ e, m.export? key.2 = some e ∧ e.target = .binding name ∧
    m.record.scopes.moduleBinding? name = none ∧ e.span = span

/-- A module has no export of the name. -/
def NotExported (g : ModuleGraph) (key : ExportKey) (m : SourceModule) : Prop :=
  g.modules[key.1]? = some m ∧ m.export? key.2 = none

/-! ## Links and steps -/

variable {g : ModuleGraph} {key next last : ExportKey} {m : SourceModule} {e : ExportSpecifier}
  {request : Nat} {imported : Imported} {span : Span} {slot : Slot} {name : String}

theorem SourceModule.TakesFor.ownStep_eq {count : Nat} (h : m.TakesFor e request imported span)
    (hm : m.WellFormed count) (index : Nat) :
    m.ownStep index e = m.requestStep request imported span := by
  unfold SourceModule.ownStep
  cases h with
  | reexport target => rw [target]
  | imported target isVariable kind source localName =>
    rw [target]
    dsimp only
    rw [isVariable]
    dsimp only
    rw [if_pos kind, ← localName, hm.importOf_eq source]

theorem exportStep_eq_ownStep (hm : g.modules[key.1]? = some m) (he : m.export? key.2 = some e) :
    exportStep g key = m.ownStep key.1 e := by
  unfold exportStep
  rw [hm]
  dsimp only
  rw [he]

theorem exportStep_of_takes (hg : g.WellFormed) (hm : g.modules[key.1]? = some m)
    (he : m.export? key.2 = some e) (htakes : m.TakesFor e request imported span) :
    exportStep g key = m.requestStep request imported span :=
  (exportStep_eq_ownStep hm he).trans
    (htakes.ownStep_eq (hg.modules m (Array.mem_of_getElem? hm)) key.1)

theorem ExportHop.step (h : ExportHop g key next m span) (hg : g.WellFormed) :
    exportStep g key = .forward m next span := by
  obtain ⟨hm, e, request, specifier, he, htakes, hrequest⟩ := h
  rw [exportStep_of_takes hg hm he htakes]
  unfold SourceModule.requestStep SourceModule.requestTarget
  rw [hrequest]

theorem ExportEndsIn.step (h : ExportEndsIn g key slot) (hg : g.WellFormed) :
    exportStep g key = .settled (.ok (some slot)) := by
  cases h with
  | declared hm he target isVariable kind =>
    rw [exportStep_eq_ownStep hm he, SourceModule.ownStep, target]
    dsimp only
    rw [isVariable]
    exact if_neg kind
  | namespaceOf hm he takes leads =>
    rw [exportStep_of_takes hg hm he takes]
    unfold SourceModule.requestStep SourceModule.requestTarget
    rw [leads]
  | external hm he takes leads =>
    rw [exportStep_of_takes hg hm he takes]
    unfold SourceModule.requestStep SourceModule.requestTarget
    rw [leads]

theorem ExportUndeclared.step (h : ExportUndeclared g key m name span) :
    exportStep g key = .settled (.error (m.error (.link (.undeclaredExport name)) span)) := by
  obtain ⟨hm, e, he, htarget, hnone, rfl⟩ := h
  rw [exportStep_eq_ownStep hm he, SourceModule.ownStep, htarget]
  dsimp only
  rw [hnone]

/-- No module of the graph takes over all exports of another. -/
def WithoutStars (g : ModuleGraph) : Prop := ∀ m ∈ g.modules, m.record.starExports = #[]

theorem NotExported.step (h : NotExported g key m) (hstars : WithoutStars g) :
    exportStep g key = .settled (.ok none) ∨ exportStep g key = .stars [] := by
  obtain ⟨hm, hnone⟩ := h
  have hempty : m.stars = [] := by
    rw [SourceModule.stars, hstars m (Array.mem_of_getElem? hm)]
    rfl
  unfold exportStep
  rw [hm]
  dsimp only
  rw [hnone]
  dsimp only
  rw [hempty]
  by_cases hdefault : key.2 = "default"
  · exact .inl (if_pos hdefault)
  · exact .inr (if_neg hdefault)

theorem exists_takesFor_cases (hindexed : m.Indexed g.size) (hm : g.modules[key.1]? = some m)
    (he : m.export? key.2 = some e) (htakes : m.TakesFor e request imported span)
    (hlt : request < m.record.requests.size) :
    (∃ next, next.1 < g.size ∧ ExportHop g key next m span) ∨ ∃ slot, ExportEndsIn g key slot := by
  obtain ⟨specifier, dependency, hrequest, htarget⟩ := hindexed.request hlt
  cases dependency with
  | external => exact .inr ⟨_, .external hm he htakes hrequest⟩
  | module target =>
    cases imported with
    | all => exact .inr ⟨_, .namespaceOf hm he htakes hrequest⟩
    | name name =>
      refine .inl ⟨(target, name), htarget target rfl, hm, ?_⟩
      exact ⟨e, request, specifier, he, htakes, hrequest⟩

/-- An export leads on to another one, ends in a slot or at a name that is not declared, or there is
no such export. -/
theorem exportStep_cases (hindexed : g.Indexed) (hkey : key.1 < g.size) :
    (∃ next m span, next.1 < g.size ∧ ExportHop g key next m span) ∨
      (∃ slot, ExportEndsIn g key slot) ∨ (∃ m name span, ExportUndeclared g key m name span) ∨
      ∃ m, NotExported g key m := by
  have hm : g.modules[key.1]? = some g.modules[key.1] := Array.getElem?_eq_getElem hkey
  have hm' := hindexed.modules _ (Array.getElem_mem hkey)
  have hcases : ∀ {e request imported span}, g.modules[key.1].export? key.2 = some e →
      g.modules[key.1].TakesFor e request imported span →
      request < g.modules[key.1].record.requests.size →
      (∃ next m span, next.1 < g.size ∧ ExportHop g key next m span) ∨
        ∃ slot, ExportEndsIn g key slot := by
    intro e request imported span he htakes hlt
    rcases exists_takesFor_cases hm' hm he htakes hlt with ⟨next, hnext, hhop⟩ | hends
    · exact .inl ⟨next, _, span, hnext, hhop⟩
    · exact .inr hends
  cases he : g.modules[key.1].export? key.2 with
  | none => exact .inr (.inr (.inr ⟨_, hm, he⟩))
  | some e =>
    have hrequested := hm'.exportRequests e (Array.mem_toList_iff.mp (List.mem_of_find?_eq_some he))
    cases htarget : e.target with
    | reexport request imported =>
      rw [htarget] at hrequested
      exact (hcases he (.reexport htarget) hrequested).imp_right .inl
    | binding name =>
      cases hbinding : g.modules[key.1].record.scopes.moduleBinding? name with
      | none => exact .inr (.inr (.inl ⟨_, name, e.span, hm, e, he, htarget, hbinding, rfl⟩))
      | some binding =>
        by_cases hkind : g.modules[key.1].record.scopes.bindingKind? binding = some .imported
        · obtain ⟨⟨request, s⟩, hs, rfl⟩ := hm'.importing name binding hbinding hkind
          obtain ⟨decl, hdecl, rfl, -⟩ := SourceModule.mem_importSpecifiers.mp hs
          have hlt := hm'.importRequests decl hdecl
          exact (hcases he (.imported htarget hbinding hkind hs rfl) hlt).imp_right .inl
        · exact .inr (.inl ⟨_, .declared hm he htarget hbinding hkind⟩)

/-! ## What chains come to -/

/-- What the chain of an export comes to: a slot, the first failure on its way, or nothing if the
export itself is not there. -/
inductive ChainAnswer (g : ModuleGraph) (key : ExportKey) :
    Except CompileError (Option Slot) → Prop where
  | slot {last : ExportKey} {slot : Slot} (way : ReflTransGen (LeadsOn g) key last)
      (ends : ExportEndsIn g last slot) : ChainAnswer g key (.ok (some slot))
  | undeclared {last : ExportKey} {m : SourceModule} {name : String} {span : Span}
      (way : ReflTransGen (LeadsOn g) key last) (ends : ExportUndeclared g last m name span) :
      ChainAnswer g key (.error (m.error (.link (.undeclaredExport name)) span))
  | circular {last again : ExportKey} {m : SourceModule} {span : Span}
      (way : ReflTransGen (LeadsOn g) key last) (hop : ExportHop g last again m span)
      (back : ReflTransGen (LeadsOn g) again last) :
      ChainAnswer g key (.error (m.error (.link (.circularReexport again.2)) span))
  | missing {last absent : ExportKey} {m exporter : SourceModule} {span : Span}
      (way : ReflTransGen (LeadsOn g) key last) (hop : ExportHop g last absent m span)
      (ends : NotExported g absent exporter) :
      ChainAnswer g key (.error (m.error (.link (.missingExport exporter.id absent.2)) span))
  | absent {m : SourceModule} (ends : NotExported g key m) : ChainAnswer g key (.ok none)

/-- A failure further on is one of the chain. -/
theorem ChainAnswer.error_of_hop {problem : CompileError} (hop : LeadsOn g key next)
    (h : ChainAnswer g next (.error problem)) : ChainAnswer g key (.error problem) := by
  cases h with
  | undeclared way ends => exact .undeclared (.head hop way) ends
  | circular way closing back => exact .circular (.head hop way) closing back
  | missing way onward ends => exact .missing (.head hop way) onward ends

/-- An answer without any from before is what the chain comes to. -/
theorem freshAnswer_chain (hg : g.WellFormed) (hindexed : g.Indexed) (hstars : WithoutStars g)
    {asked : ExportKey} {visiting : List ExportKey}
    (room : LookupRoom g (lookupNames g asked) visiting key) (hkey : key.1 < g.size)
    (hvisiting : ∀ before ∈ visiting, ReflTransGen (LeadsOn g) before key) :
    ChainAnswer g key (freshAnswer g visiting key) := by
  induction hdepth : g.lookupDepth - visiting.length generalizing visiting key with
  | zero =>
    have := room.length_lt
    omega
  | succ depth ih =>
    rw [freshAnswer_eq room, show g.lookupDepth - (visiting.length + 1) = depth by omega]
    rcases exportStep_cases hindexed hkey with ⟨next, m, span, hnext, hop⟩ | ⟨slot, hends⟩ |
        ⟨m, name, span, hends⟩ | ⟨m, hends⟩
    · have hleads : LeadsOn g key next := ⟨m, span, hop⟩
      have hvisiting' : ∀ before ∈ key :: visiting, ReflTransGen (LeadsOn g) before key :=
        List.forall_mem_cons.mpr ⟨.refl, hvisiting⟩
      rw [hop.step hg]
      by_cases hmem : next ∈ key :: visiting
      · show ChainAnswer g key (if next ∈ key :: visiting then _ else _)
        rw [if_pos hmem]
        exact .circular .refl hop (hvisiting' next hmem)
      · have hroom := room.next hkey ((exportStep_eq_forward (hop.step hg)).2 asked) hmem
        have hlength : g.lookupDepth - (key :: visiting).length = depth := by
          rw [List.length_cons]
          omega
        have hrest := ih hroom hnext (fun before hbefore =>
          (hvisiting' before hbefore).tail hleads) hlength
        rw [freshAnswer, hlength] at hrest
        show ChainAnswer g key (if next ∈ key :: visiting then _ else _)
        rw [if_neg hmem]
        cases hanswer : resolveExport g [] depth (key :: visiting) next with
        | error problem =>
          rw [hanswer] at hrest
          exact hrest.error_of_hop hleads
        | ok found =>
          rw [hanswer] at hrest
          cases hrest with
          | slot way ends => exact .slot (.head hleads way) ends
          | absent ends =>
            have hmissing := ChainAnswer.missing .refl hop ends
            show ChainAnswer g key (do
              let slot ← g.orMissing m next span none
              pure (some slot))
            unfold ModuleGraph.orMissing ModuleGraph.getModule
            rw [ends.1]
            exact hmissing
    · rw [hends.step hg]
      exact .slot .refl hends
    · rw [hends.step]
      exact .undeclared .refl hends
    · rcases hends.step hstars with hstep | hstep
      · rw [hstep]
        exact .absent hends
      · rw [hstep]
        exact .absent hends

/-! ## Nothing else -/

/-- What an export comes to if it leads no further. -/
def ExportStep.here? : ExportStep → Option (Except CompileError (Option Slot))
  | .settled answer => some answer
  | .forward .. => none
  | .stars _ => some (.ok none)

theorem NotExported.here? (h : NotExported g key m) (hstars : WithoutStars g) :
    (exportStep g key).here? = some (.ok none) := by
  rcases h.step hstars with hstep | hstep
  · rw [hstep]
    rfl
  · rw [hstep]
    rfl

theorem LeadsOn.here? (h : LeadsOn g key next) (hg : g.WellFormed) :
    (exportStep g key).here? = none := by
  obtain ⟨m, span, hop⟩ := h
  rw [hop.step hg]
  rfl

theorem leadsOn_rightUnique (hg : g.WellFormed) : Relator.RightUnique (LeadsOn g) := by
  rintro key next next' ⟨m, span, hop⟩ ⟨m', span', hop'⟩
  cases (hop.step hg).symm.trans (hop'.step hg)
  rfl

/-- From an export that leads no further no other one is reached. -/
theorem eq_of_here? (hg : g.WellFormed) {answer : Except CompileError (Option Slot)}
    (here : (exportStep g key).here? = some answer) (way : ReflTransGen (LeadsOn g) key next) :
    key = next := by
  rcases way.cases_head with heq | ⟨mid, hleads, -⟩
  · exact heq
  · rw [hleads.here? hg] at here
    cases here

/-- A chain has one end. -/
theorem end_unique (hg : g.WellFormed) {last' : ExportKey}
    {answer answer' : Except CompileError (Option Slot)}
    (way : ReflTransGen (LeadsOn g) key last) (way' : ReflTransGen (LeadsOn g) key last')
    (here : (exportStep g last).here? = some answer)
    (here' : (exportStep g last').here? = some answer') : last = last' := by
  rcases way.total_of_right_unique (leadsOn_rightUnique hg) way' with h | h
  · exact eq_of_here? hg here h
  · exact (eq_of_here? hg here' h).symm

/-- What leads back to itself leads to nothing else. -/
theorem loop_of_reached (hg : g.WellFormed) {again : ExportKey}
    (loop : TransGen (LeadsOn g) again again) (way : ReflTransGen (LeadsOn g) again last) :
    TransGen (LeadsOn g) last last := by
  induction way with
  | refl => exact loop
  | tail _ hleads ih =>
    obtain ⟨mid, hmid, hback⟩ := TransGen.head'_iff.mp ih
    cases leadsOn_rightUnique hg hleads hmid
    exact TransGen.tail' hback hleads

/-- A chain that comes to a loop has no end. -/
theorem not_end_of_loop (hg : g.WellFormed) {again : ExportKey}
    {answer : Except CompileError (Option Slot)} (way : ReflTransGen (LeadsOn g) key again)
    (loop : TransGen (LeadsOn g) again again) (way' : ReflTransGen (LeadsOn g) key last)
    (here : (exportStep g last).here? = some answer) : False := by
  have hloop : TransGen (LeadsOn g) last last := by
    rcases way.total_of_right_unique (leadsOn_rightUnique hg) way' with h | h
    · exact loop_of_reached hg loop h
    · cases eq_of_here? hg here h
      exact loop
  obtain ⟨next, hleads, -⟩ := TransGen.head'_iff.mp hloop
  rw [hleads.here? hg] at here
  cases here

/-- The failure is that of a module which is taken to have an export that it does not have. -/
def CompileError.IsMissing (problem : CompileError) : Prop :=
  ∃ exporter name, problem.cause = .link (.missingExport exporter name)

/-- The failure is that of a module which exports a variable that it does not have. -/
def CompileError.IsUndeclared (problem : CompileError) : Prop :=
  ∃ name, problem.cause = .link (.undeclaredExport name)

/-- The failure is that of modules which export a name from one another. -/
def CompileError.IsCircular (problem : CompileError) : Prop :=
  ∃ name, problem.cause = .link (.circularReexport name)

section
variable {answer here : Except CompileError (Option Slot)}

/-- A chain that has an end comes to what that says, or that misses what the one before takes. -/
theorem ChainAnswer.of_end (h : ChainAnswer g key answer) (hg : g.WellFormed)
    (hstars : WithoutStars g) (way : ReflTransGen (LeadsOn g) key last)
    (hhere : (exportStep g last).here? = some here) :
    (answer = here ∧ (here = .ok none → key = last)) ∨
      (here = .ok none ∧ TransGen (LeadsOn g) key last ∧
        ∃ problem, answer = .error problem ∧ problem.IsMissing) := by
  cases h with
  | slot way' ends =>
    have hhere' := congrArg ExportStep.here? (ends.step hg)
    cases end_unique hg way way' hhere hhere'
    cases hhere.symm.trans hhere'
    exact .inl ⟨rfl, fun h => nomatch h⟩
  | undeclared way' ends =>
    have hhere' := congrArg ExportStep.here? ends.step
    cases end_unique hg way way' hhere hhere'
    cases hhere.symm.trans hhere'
    exact .inl ⟨rfl, fun h => nomatch h⟩
  | circular way' hop back =>
    exact (not_end_of_loop hg way' (TransGen.head' ⟨_, _, hop⟩ back) way hhere).elim
  | missing way' hop ends =>
    have hhere' := ends.here? hstars
    have hleads := TransGen.tail' way' ⟨_, _, hop⟩
    cases end_unique hg way hleads.to_reflTransGen hhere hhere'
    cases hhere.symm.trans hhere'
    exact .inr ⟨rfl, hleads, _, rfl, _, _, rfl⟩
  | absent ends =>
    have hhere' := ends.here? hstars
    cases end_unique hg way .refl hhere hhere'
    cases hhere.symm.trans hhere'
    exact .inl ⟨rfl, fun _ => rfl⟩

/-- A chain that has a loop comes to that. -/
theorem ChainAnswer.of_loop (h : ChainAnswer g key answer) (hg : g.WellFormed)
    (hstars : WithoutStars g) {again : ExportKey} (way : ReflTransGen (LeadsOn g) key again)
    (loop : TransGen (LeadsOn g) again again) :
    ∃ problem, answer = .error problem ∧ problem.IsCircular := by
  have hnot : ∀ {last here}, ReflTransGen (LeadsOn g) key last →
      (exportStep g last).here? = some here → False := fun way' hhere =>
    not_end_of_loop hg way loop way' hhere
  cases h with
  | slot way' ends => exact (hnot way' (congrArg _ (ends.step hg))).elim
  | undeclared way' ends => exact (hnot way' (congrArg _ ends.step)).elim
  | circular way' hop back => exact ⟨_, rfl, _, rfl⟩
  | missing way' hop ends => exact (hnot (way'.tail ⟨_, _, hop⟩) (ends.here? hstars)).elim
  | absent ends => exact (hnot .refl (ends.here? hstars)).elim

theorem ChainAnswer.eq_slot_iff (h : ChainAnswer g key answer) (hg : g.WellFormed)
    (hstars : WithoutStars g) : answer = .ok (some slot) ↔
      ∃ last, ReflTransGen (LeadsOn g) key last ∧ ExportEndsIn g last slot := by
  constructor
  · rintro rfl
    cases h with
    | slot way ends => exact ⟨_, way, ends⟩
  · rintro ⟨last, way, ends⟩
    rcases h.of_end hg hstars way (congrArg _ (ends.step hg)) with ⟨heq, -⟩ | ⟨hnone, -⟩
    · exact heq
    · cases hnone

theorem ChainAnswer.isCircular_iff (h : ChainAnswer g key answer) (hg : g.WellFormed)
    (hstars : WithoutStars g) : (∃ problem, answer = .error problem ∧ problem.IsCircular) ↔
      ∃ again, ReflTransGen (LeadsOn g) key again ∧ TransGen (LeadsOn g) again again := by
  constructor
  · rintro ⟨problem, rfl, name, hname⟩
    cases h with
    | undeclared => cases hname
    | circular way hop back => exact ⟨_, way, TransGen.head' ⟨_, _, hop⟩ back⟩
    | missing => cases hname
  · rintro ⟨again, way, loop⟩
    exact h.of_loop hg hstars way loop

theorem ChainAnswer.isUndeclared_iff (h : ChainAnswer g key answer) (hg : g.WellFormed)
    (hstars : WithoutStars g) : (∃ problem, answer = .error problem ∧ problem.IsUndeclared) ↔
      ∃ last m name span, ReflTransGen (LeadsOn g) key last ∧
        ExportUndeclared g last m name span := by
  constructor
  · rintro ⟨problem, rfl, name, hname⟩
    cases h with
    | undeclared way ends => exact ⟨_, _, _, _, way, ends⟩
    | circular => cases hname
    | missing => cases hname
  · rintro ⟨last, m, name, span, way, ends⟩
    rcases h.of_end hg hstars way (congrArg _ ends.step) with ⟨heq, -⟩ | ⟨hnone, -⟩
    · exact ⟨_, heq, _, rfl⟩
    · cases hnone

theorem ChainAnswer.isMissing_iff (h : ChainAnswer g key answer) (hg : g.WellFormed)
    (hstars : WithoutStars g) : (∃ problem, answer = .error problem ∧ problem.IsMissing) ↔
      ∃ last m, TransGen (LeadsOn g) key last ∧ NotExported g last m := by
  constructor
  · rintro ⟨problem, rfl, exporter, name, hname⟩
    cases h with
    | undeclared => cases hname
    | circular => cases hname
    | missing way hop ends => exact ⟨_, _, TransGen.tail' way ⟨_, _, hop⟩, ends⟩
  · rintro ⟨last, m, way, ends⟩
    rcases h.of_end hg hstars way.to_reflTransGen (ends.here? hstars) with
      ⟨-, hlast⟩ | ⟨-, -, hmissing⟩
    · cases hlast rfl
      obtain ⟨next, hleads, -⟩ := TransGen.head'_iff.mp way
      have hnone := hleads.here? hg
      rw [ends.here? hstars] at hnone
      cases hnone
    · exact hmissing

theorem ChainAnswer.eq_none_iff (h : ChainAnswer g key answer) (hg : g.WellFormed)
    (hstars : WithoutStars g) : answer = .ok none ↔ ∃ m, NotExported g key m := by
  constructor
  · rintro rfl
    cases h with
    | absent ends => exact ⟨_, ends⟩
  · rintro ⟨m, ends⟩
    rcases h.of_end hg hstars .refl (ends.here? hstars) with ⟨heq, -⟩ | ⟨-, hleads, -⟩
    · exact heq
    · obtain ⟨next, hleads, -⟩ := TransGen.head'_iff.mp hleads
      have hnone := hleads.here? hg
      rw [ends.here? hstars] at hnone
      cases hnone

end

/-! ## Answers after others -/

theorem ExportHop.lt_size (h : ExportHop g key next m span) (hg : g.WellFormed) :
    next.1 < g.size := by
  obtain ⟨hm, e, request, specifier, -, -, hrequest⟩ := h
  obtain ⟨_, -, hrequest⟩ := Option.bind_eq_some_iff.mp hrequest
  obtain ⟨dependency, hdependency, hrequest⟩ := Option.bind_eq_some_iff.mp hrequest
  cases hrequest
  exact (hg.modules m (Array.mem_of_getElem? hm)).requests _ (List.mem_of_getElem? hdependency)

theorem hop_of_step (hg : g.WellFormed) (hindexed : g.Indexed) (hstars : WithoutStars g)
    (step : exportStep g key = .forward m next span) : ExportHop g key next m span := by
  rcases exportStep_cases hindexed (exportStep_eq_forward step).1 with
    ⟨next', m', span', -, hop⟩ | ⟨slot, hends⟩ | ⟨m', name, span', hends⟩ | ⟨m', hends⟩
  · cases (hop.step hg).symm.trans step
    exact hop
  · cases (hends.step hg).symm.trans step
  · cases hends.step.symm.trans step
  · have hhere := hends.here? hstars
    rw [step] at hhere
    cases hhere

theorem eq_nil_of_step (hg : g.WellFormed) (hindexed : g.Indexed) (hstars : WithoutStars g)
    {entries : List (String × Dependency)} (step : exportStep g key = .stars entries) :
    entries = [] := by
  rcases exportStep_cases hindexed (exportStep_eq_stars step) with
    ⟨next, m, span, -, hop⟩ | ⟨slot, hends⟩ | ⟨m, name, span, hends⟩ | ⟨m, hends⟩
  · cases (hop.step hg).symm.trans step
  · cases (hends.step hg).symm.trans step
  · cases hends.step.symm.trans step
  · rcases hends.step hstars with hstep | hstep
    · cases hstep.symm.trans step
    · cases hstep.symm.trans step
      rfl

/-- What a lookup comes to is on the chain. -/
theorem LookupPasses.reaches {asked : ExportKey} {visiting : List ExportKey}
    (passes : LookupPasses g asked visiting key) (hg : g.WellFormed) (hindexed : g.Indexed)
    (hstars : WithoutStars g) : ReflTransGen (LeadsOn g) asked key := by
  induction passes with
  | asked => exact .refl
  | forward passes step isNew ih => exact ih.tail ⟨_, _, hop_of_step hg hindexed hstars step⟩
  | star passes step fails isNew ih =>
    have := eq_nil_of_step hg hindexed hstars step
    simp at this

theorem freshAnswer_nil_chain (hg : g.WellFormed) (hindexed : g.Indexed) (hstars : WithoutStars g)
    (hkey : key.1 < g.size) : ChainAnswer g key (freshAnswer g [] key) := by
  have room : LookupRoom g (lookupNames g key) [] key := LookupPasses.asked.room
  exact freshAnswer_chain hg hindexed hstars room hkey fun _ hbefore =>
    absurd hbefore List.not_mem_nil

/-- All lookups that come to an export with a slot have that slot. -/
theorem starsAgree_of_withoutStars (hg : g.WellFormed) (hindexed : g.Indexed)
    (hstars : WithoutStars g) : StarsAgree g := by
  intro asked visiting passed slot passes hslot
  have way := passes.reaches hg hindexed hstars
  rcases way.cases_head with rfl | ⟨next, ⟨m, span, hm, -⟩, -⟩
  · exact hslot
  have hasked : asked.1 < g.size := (Array.getElem?_eq_some_iff.mp hm).1
  have hpassed : passed.1 < g.size := by
    rcases way.cases_tail with rfl | ⟨last, -, m, span, hop⟩
    · exact hasked
    · exact hop.lt_size hg
  have hchain := freshAnswer_nil_chain hg hindexed hstars hpassed
  obtain ⟨last, way', hends⟩ := (hchain.eq_slot_iff hg hstars).mp hslot
  have hchain' := freshAnswer_nil_chain hg hindexed hstars hasked
  exact (hchain'.eq_slot_iff hg hstars).mpr ⟨last, way.trans way', hends⟩

/-- **Chains of exports are followed to their end**, if no module takes over all exports of another:
whatever was asked before, the answer about an export is the slot in which its chain ends, a failure
if the chain has a loop or leads to a name that is not declared or exported, and nothing if the
export itself is not there. -/
theorem answerAfter_chain (hg : g.WellFormed) (hindexed : g.Indexed) (hstars : WithoutStars g)
    (history : List ExportKey) (hkey : key.1 < g.size) :
    ChainAnswer g key (answerAfter g history key) ∧
    (∀ slot, answerAfter g history key = .ok (some slot) ↔
      ∃ last, ReflTransGen (LeadsOn g) key last ∧ ExportEndsIn g last slot) ∧
    ((∃ problem, answerAfter g history key = .error problem ∧ problem.IsCircular) ↔
      ∃ again, ReflTransGen (LeadsOn g) key again ∧ TransGen (LeadsOn g) again again) ∧
    ((∃ problem, answerAfter g history key = .error problem ∧ problem.IsUndeclared) ↔
      ∃ last m name span, ReflTransGen (LeadsOn g) key last ∧
        ExportUndeclared g last m name span) ∧
    ((∃ problem, answerAfter g history key = .error problem ∧ problem.IsMissing) ↔
      ∃ last m, TransGen (LeadsOn g) key last ∧ NotExported g last m) ∧
    (answerAfter g history key = .ok none ↔ ∃ m, NotExported g key m) := by
  have hagree := starsAgree_of_withoutStars hg hindexed hstars
  rw [answerAfter_eq, resolveExport_eq_freshAnswer hagree (cacheAfter_isFresh hagree history)]
  have hchain := freshAnswer_nil_chain hg hindexed hstars hkey
  exact ⟨hchain, fun slot => hchain.eq_slot_iff hg hstars, hchain.isCircular_iff hg hstars,
    hchain.isUndeclared_iff hg hstars, hchain.isMissing_iff hg hstars,
    hchain.eq_none_iff hg hstars⟩

/-! ## Renamed exports -/

/-- Modules that pass on a variable under other names: `./a.js` imports and exports it, `./b.js`
exports it from `./c.js`. What `./a.js` exports as `loop` it takes from itself. -/
def renamedExports : ModuleProvider where
  resolve specifier _ := .ok (.module (.file specifier))
  load
    | .file "/index.js" => .text "import { x } from \"./a.js\";\nconsole.log(x);\n"
    | .file "./a.js" => .text
      "import { y as z } from \"./b.js\";\nexport { z as x };\nexport { loop } from \"./a.js\";\n"
    | .file "./b.js" => .text "export { w as y } from \"./c.js\";\n"
    | .file "./c.js" => .text "export const w = 1;\n"
    | id => .failed (.missing id.text)

/-- After `y` of `./b.js` was asked for, `x` of `./a.js` is found to be the variable of `./c.js`,
and `loop` to lead back to itself. -/
theorem renamedExports_answers : ∃ loads g,
    discover renamedExports (fun _ => false) 5 = some ⟨loads, .ok g⟩ ∧
      (answerAfter g [(2, "y")] (1, "x") = .ok (some (.declared 3 0)) ∧
        ∃ last, ReflTransGen (LeadsOn g) (1, "x") last ∧ ExportEndsIn g last (.declared 3 0)) ∧
      ∃ again, ReflTransGen (LeadsOn g) (1, "loop") again ∧ TransGen (LeadsOn g) again again := by
  have hrun : ((discover renamedExports (fun _ => false) 5).any fun logged =>
      logged.result.toOption.any fun g => 1 < g.size ∧
        (∀ m ∈ g.modules.toList, m.record.starExports = #[]) ∧
        answerAfter g [(2, "y")] (1, "x") = .ok (some (.declared 3 0)) ∧
        (answerAfter g [(2, "y")] (1, "loop")).mapError CompileError.cause =
          .error (.link (.circularReexport "loop"))) = true := by
    decide +kernel
  obtain ⟨⟨loads, result⟩, hdiscover, hrun⟩ := (Option.any_eq_true _ _).mp hrun
  cases result with
  | error => cases hrun
  | ok g =>
    obtain ⟨hsize, hstars, hslot, hloop⟩ := of_decide_eq_true hrun
    have hstars' : WithoutStars g := fun m hm => hstars m (Array.mem_toList_iff.mpr hm)
    have hg := discover_wellFormed hdiscover
    have hindexed := discover_indexed hdiscover
    refine ⟨loads, g, hdiscover, ⟨hslot, ?_⟩, ?_⟩
    · have hkey : ((1, "x") : ExportKey).1 < g.size := hsize
      obtain ⟨-, hslots, -⟩ := answerAfter_chain hg hindexed hstars' [(2, "y")] hkey
      exact (hslots _).mp hslot
    · have hkey : ((1, "loop") : ExportKey).1 < g.size := hsize
      obtain ⟨-, -, hcircular, -⟩ := answerAfter_chain hg hindexed hstars' [(2, "y")] hkey
      cases hanswer : answerAfter g [(2, "y")] (1, "loop") with
      | ok slot =>
        rw [hanswer] at hloop
        cases hloop
      | error problem =>
        rw [hanswer] at hloop
        exact hcircular.mp ⟨problem, hanswer, "loop", Except.error.inj hloop⟩

end ModuleBundler
