import ModuleBundler.Proofs.ExportLookup

/-!
# Lookups end

* `LookupTask` : what a lookup has to do, from any place on its way;
* `LookupEnds` : the lookup does it in finitely many steps, without any bound on how far it goes,
  and comes to certain stacks of exports on the way;
* `exists_lookupEnds` : every lookup ends, and its answer is that within the depth of lookups;
* `LookupEnds.unique` : there is one way only in which it does;
* `SoundStack`, `LookupEnds.sound` : no export is twice on a stack, and all on it are of modules of
  the graph under names that occur there.
-/

namespace ModuleBundler

/-- What a lookup has to do. -/
inductive LookupTask where
  /-- To find what an export stands for. -/
  | lookup (key : ExportKey)
  /-- To go on from the first step of a lookup, which is about a name. -/
  | step (name : String) (first : ExportStep)
  /-- To try the rest of the modules from which a name may be taken over. -/
  | stars (name : String) (outside : Option Slot) (entries : List (String × Dependency))

/-- The answer of a task, once the exports `visiting` have led to it. -/
def LookupTask.answer (g : ModuleGraph) (lookup : ExportLookup) (visiting : List ExportKey) :
    LookupTask → Except CompileError (Option Slot)
  | .lookup key => lookup visiting key
  | .step name first => first.run g lookup visiting name
  | .stars name outside entries => resolveStars lookup visiting name outside entries

/-- A task ends with an answer, once the exports `visiting` have led to it and with the answers so
far. On the way exports are put on those, and `passed` are all that have come to be there. -/
inductive LookupEnds (g : ModuleGraph) (cache : ExportCache) :
    List ExportKey → LookupTask → List (List ExportKey) → Except CompileError (Option Slot) →
      Prop where
  | kept {visiting : List ExportKey} {key : ExportKey} {slot : Option Slot}
      (known : cache.lookup key = some slot) :
      LookupEnds g cache visiting (.lookup key) [] (.ok slot)
  | enter {visiting : List ExportKey} {key : ExportKey} {passed : List (List ExportKey)}
      {answer : Except CompileError (Option Slot)} (unknown : cache.lookup key = none)
      (ends : LookupEnds g cache (key :: visiting) (.step key.2 (exportStep g key)) passed answer) :
      LookupEnds g cache visiting (.lookup key) ((key :: visiting) :: passed) answer
  | settled {visiting : List ExportKey} {name : String}
      {answer : Except CompileError (Option Slot)} :
      LookupEnds g cache visiting (.step name (.settled answer)) [] answer
  | circular {visiting : List ExportKey} {name : String} {m : SourceModule} {next : ExportKey}
      {span : Span} (met : next ∈ visiting) :
      LookupEnds g cache visiting (.step name (.forward m next span)) []
        (.error (m.error (.link (.circularReexport next.2)) span))
  | forward {visiting : List ExportKey} {name : String} {m : SourceModule} {next : ExportKey}
      {span : Span} {passed : List (List ExportKey)} {answer : Except CompileError (Option Slot)}
      (isNew : next ∉ visiting) (ends : LookupEnds g cache visiting (.lookup next) passed answer) :
      LookupEnds g cache visiting (.step name (.forward m next span)) passed
        (answer >>= fun slot => some <$> g.orMissing m next span slot)
  | stars {visiting : List ExportKey} {name : String} {entries : List (String × Dependency)}
      {passed : List (List ExportKey)} {answer : Except CompileError (Option Slot)}
      (ends : LookupEnds g cache visiting (.stars name none entries) passed answer) :
      LookupEnds g cache visiting (.step name (.stars entries)) passed answer
  | noStar {visiting : List ExportKey} {name : String} {outside : Option Slot} :
      LookupEnds g cache visiting (.stars name outside []) [] (.ok outside)
  | outside {visiting : List ExportKey} {name specifier : String} {outside : Option Slot}
      {rest : List (String × Dependency)} {passed : List (List ExportKey)}
      {answer : Except CompileError (Option Slot)}
      (ends : LookupEnds g cache visiting
        (.stars name (outside.or (some (.external specifier (.name name)))) rest) passed answer) :
      LookupEnds g cache visiting (.stars name outside ((specifier, .external) :: rest)) passed
        answer
  | met {visiting : List ExportKey} {name specifier : String} {outside : Option Slot}
      {target : Nat} {rest : List (String × Dependency)} {passed : List (List ExportKey)}
      {answer : Except CompileError (Option Slot)} (met : (target, name) ∈ visiting)
      (ends : LookupEnds g cache visiting (.stars name outside rest) passed answer) :
      LookupEnds g cache visiting (.stars name outside ((specifier, .module target) :: rest)) passed
        answer
  | starFails {visiting : List ExportKey} {name specifier : String} {outside : Option Slot}
      {target : Nat} {rest : List (String × Dependency)} {passed : List (List ExportKey)}
      {e : CompileError} (isNew : (target, name) ∉ visiting)
      (ends : LookupEnds g cache visiting (.lookup (target, name)) passed (.error e)) :
      LookupEnds g cache visiting (.stars name outside ((specifier, .module target) :: rest)) passed
        (.error e)
  | starHas {visiting : List ExportKey} {name specifier : String} {outside : Option Slot}
      {target : Nat} {rest : List (String × Dependency)} {passed : List (List ExportKey)}
      {slot : Slot} (isNew : (target, name) ∉ visiting)
      (ends : LookupEnds g cache visiting (.lookup (target, name)) passed (.ok (some slot))) :
      LookupEnds g cache visiting (.stars name outside ((specifier, .module target) :: rest)) passed
        (.ok (some slot))
  | starLacks {visiting : List ExportKey} {name specifier : String} {outside : Option Slot}
      {target : Nat} {rest : List (String × Dependency)} {passed passed' : List (List ExportKey)}
      {answer : Except CompileError (Option Slot)} (isNew : (target, name) ∉ visiting)
      (first : LookupEnds g cache visiting (.lookup (target, name)) passed (.ok none))
      (ends : LookupEnds g cache visiting (.stars name outside rest) passed' answer) :
      LookupEnds g cache visiting (.stars name outside ((specifier, .module target) :: rest))
        (passed ++ passed') answer

variable {g : ModuleGraph} {cache : ExportCache} {visiting : List ExportKey}

/-! ## Every lookup ends -/

/-- Trying modules ends if asking each of them does. -/
theorem exists_stars_end {lookup : ExportLookup} {name : String} {outside : Option Slot}
    {entries : List (String × Dependency)}
    (h : ∀ specifier target, (specifier, .module target) ∈ entries → (target, name) ∉ visiting →
      ∃ passed, LookupEnds g cache visiting (.lookup (target, name)) passed
        (lookup visiting (target, name))) :
    ∃ passed, LookupEnds g cache visiting (.stars name outside entries) passed
      (resolveStars lookup visiting name outside entries) := by
  induction entries generalizing outside with
  | nil => exact ⟨[], .noStar⟩
  | cons entry rest ih =>
    have hrest := fun specifier target hmem => h specifier target (List.mem_cons_of_mem _ hmem)
    obtain ⟨specifier, target | _⟩ := entry
    · rw [resolveStars]
      split
      · rename_i hmet
        obtain ⟨passed, hends⟩ := @ih outside hrest
        exact ⟨passed, .met hmet hends⟩
      · rename_i hnew
        obtain ⟨passed, hfirst⟩ := h specifier target List.mem_cons_self hnew
        cases hanswer : lookup visiting (target, name) with
        | error e =>
          rw [hanswer] at hfirst
          exact ⟨passed, .starFails hnew hfirst⟩
        | ok found =>
          rw [hanswer] at hfirst
          cases found with
          | some slot => exact ⟨passed, .starHas hnew hfirst⟩
          | none =>
            obtain ⟨passed', hends⟩ := @ih outside hrest
            exact ⟨_, .starLacks hnew hfirst hends⟩
    · rw [resolveStars]
      obtain ⟨passed, hends⟩ := @ih (outside.or (some (.external specifier (.name name)))) hrest
      exact ⟨passed, .outside hends⟩

/-- A step ends if the lookups that it leads to do. -/
theorem exists_step_end {lookup : ExportLookup} {name : String} {step : ExportStep}
    (hforward : ∀ m next span, step = .forward m next span → next ∉ visiting →
      ∃ passed, LookupEnds g cache visiting (.lookup next) passed (lookup visiting next))
    (hstars : ∀ entries, step = .stars entries → ∀ target, (target, name) ∉ visiting →
      ∃ passed, LookupEnds g cache visiting (.lookup (target, name)) passed
        (lookup visiting (target, name))) :
    ∃ passed, LookupEnds g cache visiting (.step name step) passed
      (step.run g lookup visiting name) := by
  cases step with
  | settled answer => exact ⟨[], .settled⟩
  | forward m next span =>
    unfold ExportStep.run
    dsimp only
    split
    · rename_i hmet
      exact ⟨[], .circular hmet⟩
    · rename_i hnew
      obtain ⟨passed, hends⟩ := hforward m next span rfl hnew
      exact ⟨passed, .forward hnew hends⟩
  | stars entries =>
    obtain ⟨passed, hends⟩ := exists_stars_end fun _ target _ => hstars entries rfl target
    exact ⟨passed, .stars hends⟩

/-- A lookup ends that has come from an export `asked` through others. These are distinct, so that
the depth of lookups leaves room for one more. -/
theorem exists_lookup_end {asked key : ExportKey} {path : List ExportKey}
    (hroom : LookupRoom g (lookupNames g asked) path key) (before : List ExportKey) :
    ∃ passed, LookupEnds g cache (path ++ before) (.lookup key) passed
      (resolveExport g cache (g.lookupDepth - path.length) (path ++ before) key) := by
  obtain ⟨count, hcount⟩ : ∃ count, g.lookupDepth - path.length = count := ⟨_, rfl⟩
  -- The induction is on what is left of the depth, which each further export takes one of.
  induction count generalizing path key with
  | zero =>
    have hlt := hroom.length_lt
    omega
  | succ count ih =>
    have hdepth : g.lookupDepth - (key :: path).length = count := by
      rw [List.length_cons]
      omega
    have hnext : ∀ next, key.1 < g.size → next.2 ∈ lookupNames g asked →
        next ∉ key :: (path ++ before) → ∃ passed, LookupEnds g cache (key :: (path ++ before))
          (.lookup next) passed (resolveExport g cache count (key :: (path ++ before)) next) := by
      intro next hkey hname hnew
      have hnew' : next ∉ key :: path := by
        intro hmem
        have hmem' : next ∈ (key :: path) ++ before := List.mem_append_left before hmem
        exact hnew hmem'
      have hends := ih (hroom.next hkey hname hnew') hdepth
      rwa [hdepth] at hends
    rw [hcount, resolveExport_succ]
    cases hknown : cache.lookup key with
    | some slot => exact ⟨[], .kept hknown⟩
    | none =>
      obtain ⟨passed, hends⟩ := @exists_step_end g cache (key :: (path ++ before))
        (resolveExport g cache count) key.2 (exportStep g key)
        (fun m next span hstep => by
          obtain ⟨hkey, hname⟩ := exportStep_eq_forward hstep
          exact hnext next hkey (hname asked))
        (fun entries hstep target => hnext (target, key.2) (exportStep_eq_stars hstep) hroom.name)
      exact ⟨_, .enter hknown hends⟩

/-- **Every lookup ends**, whatever has led to it and whatever answers there are from before. The
answer is that within the depth of lookups. -/
theorem exists_lookupEnds (g : ModuleGraph) (cache : ExportCache) (visiting : List ExportKey)
    (task : LookupTask) : ∃ passed, LookupEnds g cache visiting task passed
      (task.answer g (resolveExport g cache g.lookupDepth) visiting) := by
  have hlookup : ∀ key, ∃ passed, LookupEnds g cache visiting (.lookup key) passed
      (resolveExport g cache g.lookupDepth visiting key) := by
    intro key
    have passes : LookupPasses g key [] key := .asked
    exact exists_lookup_end passes.room visiting
  cases task with
  | lookup key => exact hlookup key
  | step name first =>
    exact exists_step_end (fun _ next _ _ _ => hlookup next) fun _ _ target _ => hlookup _
  | stars name outside entries => exact exists_stars_end fun _ target _ _ => hlookup _

/-- There is one way only in which a lookup ends. -/
theorem LookupEnds.unique {task : LookupTask} {passed passed' : List (List ExportKey)}
    {answer answer' : Except CompileError (Option Slot)}
    (h : LookupEnds g cache visiting task passed answer)
    (h' : LookupEnds g cache visiting task passed' answer') :
    passed' = passed ∧ answer' = answer := by
  induction h generalizing passed' answer' with
  | kept known =>
    cases h' with
    | kept known' => exact ⟨rfl, congrArg Except.ok (Option.some.inj (known'.symm.trans known))⟩
    | enter unknown _ => exact absurd (unknown.symm.trans known) nofun
  | enter unknown _ ih =>
    cases h' with
    | kept known => exact absurd (unknown.symm.trans known) nofun
    | enter _ ends =>
      obtain ⟨rfl, rfl⟩ := ih ends
      exact ⟨rfl, rfl⟩
  | settled =>
    cases h'
    exact ⟨rfl, rfl⟩
  | circular met =>
    cases h' with
    | circular => exact ⟨rfl, rfl⟩
    | forward isNew _ => exact absurd met isNew
  | forward isNew _ ih =>
    cases h' with
    | circular met => exact absurd met isNew
    | forward _ ends =>
      obtain ⟨rfl, rfl⟩ := ih ends
      exact ⟨rfl, rfl⟩
  | stars _ ih =>
    cases h' with
    | stars ends => exact ih ends
  | noStar =>
    cases h'
    exact ⟨rfl, rfl⟩
  | outside _ ih =>
    cases h' with
    | outside ends => exact ih ends
  | met met _ ih =>
    cases h' with
    | met _ ends => exact ih ends
    | starFails isNew _ | starHas isNew _ | starLacks isNew _ _ => exact absurd met isNew
  | starFails isNew _ ih =>
    cases h' with
    | met met _ => exact absurd met isNew
    | starFails _ ends | starHas _ ends => exact ih ends
    | starLacks _ first _ => exact absurd (ih first).2 nofun
  | starHas isNew _ ih =>
    cases h' with
    | met met _ => exact absurd met isNew
    | starFails _ ends | starHas _ ends => exact ih ends
    | starLacks _ first _ => exact absurd (ih first).2 nofun
  | starLacks isNew _ _ ihFirst ih =>
    cases h' with
    | met met _ => exact absurd met isNew
    | starFails _ ends | starHas _ ends => exact absurd (ihFirst ends).2 nofun
    | starLacks _ first ends =>
      obtain ⟨rfl, -⟩ := ihFirst first
      obtain ⟨rfl, rfl⟩ := ih ends
      exact ⟨rfl, rfl⟩

/-! ## Stacks -/

/-- Requests and dynamic imports lead to modules of the graph. -/
def ModuleGraph.Closed (g : ModuleGraph) : Prop :=
  ∀ m ∈ g.modules, ∀ index, .module index ∈ m.requests ∨ .module index ∈ m.dynamicImports →
    index < g.size

/-- The names are all those that can be asked for: those under which modules take something from
others are among them. -/
def CoversNames (g : ModuleGraph) (names : List String) : Prop :=
  ∀ m ∈ g.modules, ∀ name ∈ m.takenNames, name ∈ names

/-- No export is twice on a stack, and each is of a module of the graph and has one of the names. -/
structure SoundStack (g : ModuleGraph) (names : List String) (stack : List ExportKey) : Prop where
  nodup : stack.Nodup
  known : ∀ key ∈ stack, key.1 < g.size ∧ key.2 ∈ names

/-- All that a step leads to is in the graph. -/
def ExportStep.Within (g : ModuleGraph) (names : List String) : ExportStep → Prop
  | .settled answer => ∀ index, answer = .ok (some (.namespaceOf index)) → index < g.size
  | .forward _ next _ => next.1 < g.size ∧ next.2 ∈ names
  | .stars entries => ∀ specifier target, (specifier, .module target) ∈ entries → target < g.size

/-- A task can come up in the graph, where the exports `visiting` have led to it. -/
def LookupTask.Within (g : ModuleGraph) (names : List String) (visiting : List ExportKey) :
    LookupTask → Prop
  | .lookup key => key ∉ visiting ∧ key.1 < g.size ∧ key.2 ∈ names
  | .step name first =>
    first.Within g names ∧ ∀ entries, first = .stars entries → name ∈ names
  | .stars name _ entries =>
    name ∈ names ∧ ∀ specifier target, (specifier, .module target) ∈ entries → target < g.size

variable {names : List String}

theorem request?_within (hg : g.Closed) {m : SourceModule} (hm : m ∈ g.modules)
    {request target : Nat} {specifier : String}
    (h : m.request? request = some (specifier, .module target)) : target < g.size := by
  obtain ⟨entry, -, h⟩ := Option.bind_eq_some_iff.mp h
  obtain ⟨dependency, hdependency, heq⟩ := Option.bind_eq_some_iff.mp h
  cases heq
  exact hg m hm target (.inl (List.mem_of_getElem? hdependency))

/-- What a request takes is something of the graph or from outside. -/
theorem requestStep_within (hg : g.Closed) {m : SourceModule} (hm : m ∈ g.modules) (request : Nat)
    {imported : Imported} (himported : ∀ name, imported.single? = some name → name ∈ names)
    (span : Span) : (m.requestStep request imported span).Within g names := by
  unfold SourceModule.requestStep SourceModule.requestTarget
  cases hrequest : m.request? request with
  | none => exact nofun
  | some entry =>
    obtain ⟨specifier, target | _⟩ := entry
    · have hlt := request?_within hg hm hrequest
      cases imported with
      | all =>
        intro index heq
        cases heq
        exact hlt
      | name name => exact ⟨hlt, himported name rfl⟩
    · exact nofun

theorem ownStep_within (hg : g.Closed) (hnames : CoversNames g names) {m : SourceModule}
    (hm : m ∈ g.modules) (index : Nat) {e : ExportSpecifier} (he : e ∈ m.record.exports.toList) :
    (m.ownStep index e).Within g names := by
  unfold SourceModule.ownStep
  cases htarget : e.target with
  | reexport request imported =>
    refine requestStep_within hg hm request (fun name hname => hnames m hm name ?_) e.span
    refine List.mem_append_left _ (List.mem_filterMap.mpr ⟨e, he, ?_⟩)
    rw [htarget]
    exact hname
  | binding local_ =>
    dsimp only
    split
    · exact nofun
    · split
      · split
        · exact nofun
        · rename_i request s hs
          refine requestStep_within hg hm request (fun name hname => hnames m hm name ?_) s.span
          have hmem := (mem_importSpecifiers_of_importOf hs).1
          exact List.mem_append_right _ (List.mem_filterMap.mpr ⟨_, hmem, hname⟩)
      · exact nofun

theorem exportStep_within (hg : g.Closed) (hnames : CoversNames g names) (key : ExportKey) :
    (exportStep g key).Within g names := by
  unfold exportStep
  split
  · exact nofun
  · rename_i m hget
    have hm := Array.mem_of_getElem? hget
    split
    · rename_i e he
      exact ownStep_within hg hnames hm key.1 (List.mem_of_find?_eq_some he)
    · split
      · exact nofun
      · intro specifier target hstar
        obtain ⟨request, -, hrequest⟩ := List.mem_filterMap.mp hstar
        exact request?_within hg hm hrequest

/-- All stacks of a lookup are sound if it begins with one. -/
theorem LookupEnds.sound (hg : g.Closed) (hnames : CoversNames g names) {task : LookupTask}
    {passed : List (List ExportKey)} {answer : Except CompileError (Option Slot)}
    (h : LookupEnds g cache visiting task passed answer) (hvisiting : SoundStack g names visiting)
    (htask : task.Within g names visiting) : ∀ stack ∈ passed, SoundStack g names stack := by
  induction h with
  | kept | settled | circular | noStar => exact nofun
  | enter _ _ ih =>
    obtain ⟨hnew, hkey, hname⟩ := htask
    have hsound : SoundStack g names (_ :: _) :=
      ⟨List.nodup_cons.mpr ⟨hnew, hvisiting.nodup⟩,
        List.forall_mem_cons.mpr ⟨⟨hkey, hname⟩, hvisiting.known⟩⟩
    exact List.forall_mem_cons.mpr
      ⟨hsound, ih hsound ⟨exportStep_within hg hnames _, fun _ _ => hname⟩⟩
  | forward isNew _ ih => exact ih hvisiting ⟨isNew, htask.1⟩
  | stars _ ih => exact ih hvisiting ⟨htask.2 _ rfl, htask.1⟩
  | outside _ ih | met _ _ ih =>
    refine ih hvisiting ⟨htask.1, fun specifier target hmem => ?_⟩
    exact htask.2 specifier target (List.mem_cons_of_mem _ hmem)
  | starFails isNew _ ih | starHas isNew _ ih =>
    exact ih hvisiting ⟨isNew, htask.2 _ _ List.mem_cons_self, htask.1⟩
  | starLacks isNew _ _ ihFirst ih =>
    refine List.forall_mem_append.mpr
      ⟨ihFirst hvisiting ⟨isNew, htask.2 _ _ List.mem_cons_self, htask.1⟩,
        ih hvisiting ⟨htask.1, fun specifier target hmem => ?_⟩⟩
    exact htask.2 specifier target (List.mem_cons_of_mem _ hmem)

/-! ## Namespaces -/

/-- If the slot is the exports of a module, that is a module of the graph. -/
def NamespaceWithin (g : ModuleGraph) (slot : Option Slot) : Prop :=
  ∀ index, slot = some (.namespaceOf index) → index < g.size

/-- A task has no namespace at hand that is not of a module of the graph. -/
def LookupTask.NamespacesWithin (g : ModuleGraph) : LookupTask → Prop
  | .lookup _ => True
  | .step _ first => ∀ slot, first = .settled (.ok slot) → NamespaceWithin g slot
  | .stars _ outside _ => NamespaceWithin g outside

/-- If a lookup gives the exports of a module as an object, that is a module of the graph. -/
theorem LookupEnds.namespaceWithin (hg : g.Closed)
    (hcache : ∀ key slot, cache.lookup key = some slot → NamespaceWithin g slot)
    {task : LookupTask} {passed : List (List ExportKey)}
    {answer : Except CompileError (Option Slot)}
    (h : LookupEnds g cache visiting task passed answer) (htask : task.NamespacesWithin g) :
    ∀ slot, answer = .ok slot → NamespaceWithin g slot := by
  have hcovers : CoversNames g (g.modules.toList.flatMap SourceModule.takenNames) :=
    fun m hm name hname => List.mem_flatMap.mpr ⟨m, Array.mem_toList_iff.mpr hm, hname⟩
  induction h with
  | kept known =>
    rintro slot ⟨⟩
    exact hcache _ _ known
  | @enter _ key _ _ _ _ ih =>
    refine ih fun slot hstep index hslot => ?_
    have hwithin := exportStep_within hg hcovers key
    rw [hstep] at hwithin
    exact hwithin index (congrArg Except.ok hslot)
  | settled =>
    rintro slot rfl
    exact htask slot rfl
  | circular => exact nofun
  | forward _ _ ih =>
    intro slot heq
    obtain ⟨found, hfound, heq⟩ := bind_eq_ok.mp heq
    obtain ⟨slot', hslot, rfl⟩ := map_eq_ok.mp heq
    exact ih trivial _ (orMissing_eq_ok.mp hslot ▸ hfound)
  | stars _ ih => exact ih nofun
  | noStar =>
    rintro slot ⟨⟩
    exact htask
  | @outside _ _ _ outside _ _ _ _ ih =>
    refine ih fun index heq => ?_
    cases outside with
    | none => cases heq
    | some slot => exact htask index heq
  | met _ _ ih => exact ih htask
  | starFails => exact nofun
  | starHas _ _ ih => exact ih trivial
  | starLacks _ _ _ _ ih => exact ih htask

end ModuleBundler
