import ModuleBundler.Proofs.LinkingEnds
import ModuleBundler.Proofs.StarWalks

/-!
# The order in which stars are walked

* `SourceOrder` : what recursion meets that follows each star in turn, in the order of the text;
* `LastFirst` : what recursion meets that notes the new stars of a module from the last to the first
  before it goes on to any of them;
* `lastFirst_starWalk` : the walk with a stack is the second;
* `StarChain` : every module on the way takes over from one new thing at most;
* `StarChain.sourceOrder`, `StarChain.onlyModules_iff` : if stars make a chain the two meet the same,
  and for the modules among what is met only then;
* `StarsInOrder` : names and specifiers are gathered as the first recursion meets them;
* `starWalk_order` : which of all this holds of the walk of a module.
-/

namespace ModuleBundler

open StarWalk (start meet run)

/-! ## What is new -/

/-- What is new among targets, in their order: all that is outside, and each module that was not
visited before, once. -/
def newTargets : List Nat → List StarTarget → List StarTarget
  | _, [] => []
  | visited, .external specifier :: rest => .external specifier :: newTargets visited rest
  | visited, .module index :: rest =>
    if index ∈ visited then newTargets visited rest
    else .module index :: newTargets (index :: visited) rest

/-- What has been visited once targets were met. -/
def visitedAfter (visited : List Nat) (met : List StarTarget) : List Nat :=
  (targetModules met).reverse ++ visited

section
variable {visited : List Nat} {targets met more : List StarTarget}

@[simp] theorem targetModules_nil : targetModules [] = [] := rfl

@[simp] theorem targetModules_external (specifier : String) :
    targetModules (.external specifier :: targets) = targetModules targets := rfl

@[simp] theorem targetModules_module (index : Nat) :
    targetModules (.module index :: targets) = index :: targetModules targets := rfl

@[simp] theorem targetModules_append :
    targetModules (met ++ more) = targetModules met ++ targetModules more := List.filterMap_append

@[simp] theorem visitedAfter_nil : visitedAfter visited [] = visited := rfl

@[simp] theorem visitedAfter_append :
    visitedAfter visited (met ++ more) = visitedAfter (visitedAfter visited met) more := by
  simp [visitedAfter]

@[simp] theorem visitedAfter_external (specifier : String) :
    visitedAfter visited (.external specifier :: met) = visitedAfter visited met := rfl

@[simp] theorem visitedAfter_module (index : Nat) :
    visitedAfter visited (.module index :: met) = visitedAfter (index :: visited) met := by
  simp [visitedAfter]

theorem mem_visitedAfter_of_mem {index : Nat} (h : index ∈ visited) :
    index ∈ visitedAfter visited met := List.mem_append_right _ h

/-- Meeting targets notes what is new among them, and stacks its modules. -/
theorem foldl_meet (stack : List Nat) : targets.foldl meet ⟨visited, stack, met⟩ =
    ⟨visitedAfter visited (newTargets visited targets),
      (targetModules (newTargets visited targets)).reverse ++ stack,
      met ++ newTargets visited targets⟩ := by
  induction targets generalizing visited stack met with
  | nil => simp [newTargets]
  | cons target rest ih =>
    cases target with
    | external specifier =>
      rw [List.foldl_cons, newTargets]
      simp [meet, ih]
    | module index =>
      rw [List.foldl_cons, newTargets]
      by_cases hmem : index ∈ visited
      · simp [meet, ih, hmem]
      · simp [meet, ih, hmem]

/-- How often something is new: all that is outside counts, and a module once. -/
theorem count_newTargets (target : StarTarget) : (newTargets visited targets).count target =
    match target with
    | .external specifier => targets.count (.external specifier)
    | .module index => if index ∉ visited ∧ .module index ∈ targets then 1 else 0 := by
  induction targets generalizing visited with
  | nil => cases target <;> simp [newTargets]
  | cons first rest ih =>
    cases first with
    | external specifier =>
      rw [newTargets, List.count_cons, ih]
      cases target with
      | external other => exact List.count_cons.symm
      | module index => simp
    | module index =>
      rw [newTargets]
      cases target with
      | external other =>
        split
        · simp [ih]
        · simp [ih]
      | module other =>
        by_cases heq : other = index
        · subst heq
          split
          · simp_all
          · simp_all
        · split
          · simp_all
          · simp_all [Ne.symm heq]

/-- The same is new in reverse order. -/
theorem newTargets_reverse_perm :
    (newTargets visited targets.reverse).Perm (newTargets visited targets) := by
  refine List.perm_iff_count.mpr fun target => ?_
  rw [count_newTargets, count_newTargets]
  cases target with
  | external specifier => exact List.count_reverse
  | module index => simp only [List.mem_reverse]

end

/-! ## Two recursions -/

/-- Following targets in turn, where some modules were visited before, meets the targets `met`. A
module is met on entering it, and all that its own stars lead to before what comes after it. -/
inductive SourceOrder (next : Nat → List StarTarget) :
    List Nat → List StarTarget → List StarTarget → Prop where
  | nil {visited : List Nat} : SourceOrder next visited [] []
  | external {visited : List Nat} {specifier : String} {rest met : List StarTarget}
      (others : SourceOrder next visited rest met) :
      SourceOrder next visited (.external specifier :: rest) (.external specifier :: met)
  | again {visited : List Nat} {index : Nat} {rest met : List StarTarget}
      (isVisited : index ∈ visited) (others : SourceOrder next visited rest met) :
      SourceOrder next visited (.module index :: rest) met
  | enter {visited : List Nat} {index : Nat} {rest below later : List StarTarget}
      (isNew : index ∉ visited) (inner : SourceOrder next (index :: visited) (next index) below)
      (others : SourceOrder next (visitedAfter (index :: visited) below) rest later) :
      SourceOrder next visited (.module index :: rest) (.module index :: (below ++ later))

/-- Going through modules in turn, where those `visited` were met before, meets the targets `met`. Of
each module all that is new is met at once, from the last to the first, and the modules among that
are gone through before what comes after the module. -/
inductive LastFirst (next : Nat → List StarTarget) :
    List Nat → List Nat → List StarTarget → Prop where
  | nil {visited : List Nat} : LastFirst next visited [] []
  | cons {visited : List Nat} {index : Nat} {rest : List Nat} {new below later : List StarTarget}
      (isNew : newTargets visited (next index).reverse = new)
      (inner : LastFirst next (visitedAfter visited new) (targetModules new).reverse below)
      (others : LastFirst next (visitedAfter visited (new ++ below)) rest later) :
      LastFirst next visited (index :: rest) (new ++ (below ++ later))

variable {next : Nat → List StarTarget} {visited : List Nat} {index : Nat}
  {targets met met' : List StarTarget}

/-- There is no more than one such order. -/
theorem SourceOrder.unique (h : SourceOrder next visited targets met)
    (h' : SourceOrder next visited targets met') : met = met' := by
  induction h generalizing met' with
  | nil =>
    cases h'
    rfl
  | external others ih =>
    cases h' with
    | external others' => rw [ih others']
  | again isVisited others ih =>
    cases h' with
    | again _ others' => exact ih others'
    | enter isNew => exact absurd isVisited isNew
  | enter isNew inner others ihInner ihOthers =>
    cases h' with
    | again isVisited => exact absurd isVisited isNew
    | enter _ inner' others' =>
      obtain rfl := ihInner inner'
      rw [ihOthers others']

/-! ## The walk with a stack -/

/-- A walk takes what is on top of its stack and all that this leads to before what is below. -/
theorem LastFirst.run_eq {stack : List Nat} (h : LastFirst next visited stack met) (count : Nat)
    (below : List Nat) (before : List StarTarget) :
    run next (stack.length + (targetModules met).length + count)
        ⟨visited, stack ++ below, before⟩ =
      run next count ⟨visitedAfter visited met, below, before ++ met⟩ := by
  induction h generalizing count below before with
  | nil => simp
  | @cons visited index rest new inside later isNew inner others ihInner ihOthers =>
    have hcount : (index :: rest).length + (targetModules (new ++ (inside ++ later))).length +
        count = (targetModules new).reverse.length + (targetModules inside).length +
          (rest.length + (targetModules later).length + count) + 1 := by
      simp only [List.length_cons, targetModules_append, List.length_append, List.length_reverse]
      omega
    rw [hcount, List.cons_append, run]
    dsimp only
    rw [foldl_meet, isNew, ihInner]
    have hothers := ihOthers count below (before ++ new ++ inside)
    rw [visitedAfter_append] at hothers
    rw [hothers]
    simp [List.append_assoc]

/-- How many modules of a graph were not visited. -/
def unvisited (size : Nat) (visited : List Nat) : Nat :=
  (List.range size).countP (· ∉ visited)

theorem unvisited_cons {size : Nat} (hindex : index < size) (hnew : index ∉ visited) :
    unvisited size (index :: visited) + 1 = unvisited size visited := by
  unfold unvisited
  have hsplit := List.countP_eq_countP_filter_add (List.range size)
    (fun i => decide (i ∉ visited)) (fun i => decide (i = index))
  rw [List.countP_filter, List.countP_filter] at hsplit
  have hone : (List.range size).countP (fun i => decide (i ∉ visited) && decide (i = index)) = 1 := by
    have hcount := List.count_eq_one_of_mem List.nodup_range (List.mem_range.mpr hindex)
    rw [List.count] at hcount
    rw [← hcount]
    refine List.countP_congr fun i _ => ?_
    simp only [Bool.and_eq_true, decide_eq_true_eq, beq_iff_eq]
    exact ⟨And.right, fun heq => ⟨heq ▸ hnew, heq⟩⟩
  have hothers : (List.range size).countP (fun i => decide (i ∉ index :: visited)) =
      (List.range size).countP (fun i => decide (i ∉ visited) && !decide (i = index)) := by
    refine List.countP_congr fun i _ => ?_
    simp [and_comm]
  rw [hothers, hsplit, hone, Nat.add_comm]

/-- What is met for the first time in a graph was not visited before. -/
def MeetsNew (size : Nat) (visited : List Nat) (met : List StarTarget) : Prop :=
  unvisited size (visitedAfter visited met) + (targetModules met).length = unvisited size visited

theorem MeetsNew.append {size : Nat} {more : List StarTarget} (h : MeetsNew size visited met)
    (h' : MeetsNew size (visitedAfter visited met) more) : MeetsNew size visited (met ++ more) := by
  unfold MeetsNew at *
  rw [visitedAfter_append, targetModules_append, List.length_append]
  omega

theorem meetsNew_newTargets {size : Nat} (htargets : ∀ i ∈ targetModules targets, i < size) :
    MeetsNew size visited (newTargets visited targets) := by
  induction targets generalizing visited with
  | nil => simp [MeetsNew, newTargets]
  | cons target rest ih =>
    cases target with
    | external specifier => exact ih htargets
    | module index =>
      obtain ⟨hindex, hrest⟩ := List.forall_mem_cons.mp htargets
      rw [newTargets]
      split
      · exact ih hrest
      · rename_i hnew
        have hless := unvisited_cons hindex hnew
        have hinner : MeetsNew size (index :: visited) (newTargets (index :: visited) rest) := ih hrest
        unfold MeetsNew at *
        simp only [visitedAfter_module, targetModules_module, List.length_cons]
        omega

section
variable {size : Nat} (hnext : ∀ index, ∀ i ∈ targetModules (next index), i < size)
include hnext

/-- The recursion that notes new stars first ends. -/
theorem exists_lastFirst (visited stack : List Nat) :
    ∃ met, LastFirst next visited stack met ∧ MeetsNew size visited met := by
  induction hroom : unvisited size visited using Nat.strongRecOn generalizing visited stack with
  | ind room ih =>
    subst hroom
    have hless : ∀ stack visited', unvisited size visited' < unvisited size visited →
        ∃ met, LastFirst next visited' stack met ∧ MeetsNew size visited' met :=
      fun stack visited' hlt => ih _ hlt visited' stack rfl
    clear ih
    suffices h : ∀ visited', unvisited size visited' ≤ unvisited size visited →
        ∃ met, LastFirst next visited' stack met ∧ MeetsNew size visited' met from
      h visited (Nat.le_refl _)
    induction stack with
    | nil => exact fun visited' _ => ⟨[], .nil, by simp [MeetsNew]⟩
    | cons index rest ih =>
      intro visited' hle
      have hnew : MeetsNew size visited' (newTargets visited' (next index).reverse) := by
        refine meetsNew_newTargets fun i hi => hnext index i ?_
        rw [mem_targetModules, List.mem_reverse] at hi
        exact mem_targetModules.mpr hi
      generalize hnewEq : newTargets visited' (next index).reverse = new at hnew
      have hinner : ∃ below,
          LastFirst next (visitedAfter visited' new) (targetModules new).reverse below ∧
            MeetsNew size (visitedAfter visited' new) below := by
        by_cases hnone : targetModules new = []
        · refine ⟨[], ?_, by simp [MeetsNew]⟩
          rw [hnone]
          exact .nil
        · refine hless _ _ ?_
          have := List.length_pos_iff.mpr hnone
          unfold MeetsNew at hnew
          omega
      obtain ⟨below, hbelow, hmeets⟩ := hinner
      have hboth := hnew.append hmeets
      obtain ⟨later, hlater, hmeets'⟩ := ih (visitedAfter visited' (new ++ below)) (by
        unfold MeetsNew at hboth
        omega)
      refine ⟨new ++ (below ++ later), .cons hnewEq hbelow hlater, ?_⟩
      rw [← List.append_assoc]
      exact hboth.append hmeets'

/-- So does the one that follows each star in turn. -/
theorem exists_sourceOrder (visited : List Nat) (targets : List StarTarget)
    (htargets : ∀ i ∈ targetModules targets, i < size) :
    ∃ met, SourceOrder next visited targets met ∧ MeetsNew size visited met := by
  induction hroom : unvisited size visited using Nat.strongRecOn generalizing visited targets with
  | ind room ih =>
    subst hroom
    have hless : ∀ index visited', unvisited size visited' < unvisited size visited →
        ∃ met, SourceOrder next visited' (next index) met ∧ MeetsNew size visited' met :=
      fun index visited' hlt => ih _ hlt visited' (next index) (hnext index) rfl
    clear ih
    suffices h : ∀ visited', unvisited size visited' ≤ unvisited size visited →
        ∃ met, SourceOrder next visited' targets met ∧ MeetsNew size visited' met from
      h visited (Nat.le_refl _)
    induction targets with
    | nil => exact fun visited' _ => ⟨[], .nil, by simp [MeetsNew]⟩
    | cons target rest ih =>
      intro visited' hle
      cases target with
      | external specifier =>
        obtain ⟨met, hmet, hmeets⟩ := ih htargets visited' hle
        exact ⟨_, .external hmet, hmeets⟩
      | module index =>
        obtain ⟨hindex, hrest⟩ := List.forall_mem_cons.mp htargets
        by_cases hmem : index ∈ visited'
        · obtain ⟨met, hmet, hmeets⟩ := ih hrest visited' hle
          exact ⟨met, .again hmem hmet, hmeets⟩
        · have hentered := unvisited_cons hindex hmem
          obtain ⟨below, hbelow, hmeets⟩ := hless index (index :: visited') (by omega)
          obtain ⟨later, hlater, hmeets'⟩ := ih hrest (visitedAfter (index :: visited') below) (by
            unfold MeetsNew at hmeets
            omega)
          refine ⟨_, .enter hmem hbelow hlater, ?_⟩
          have hboth := hmeets.append hmeets'
          unfold MeetsNew at hboth ⊢
          rw [visitedAfter_module, targetModules_module, List.length_cons]
          omega

end

/-- **The walk with a stack** meets what recursion meets that notes the new stars of a module from
the last to the first. -/
theorem lastFirst_starWalk {g : ModuleGraph} (hg : g.WellFormed) (index : Nat) :
    LastFirst g.starTargets [index] [index] (starWalk g index) := by
  have hnext : ∀ index, ∀ i ∈ targetModules (g.starTargets index), i < g.size := fun index i hi =>
    (mem_starTargets.mp (mem_targetModules.mp hi)).lt_size hg
  obtain ⟨met, hmet, hmeets⟩ := exists_lastFirst hnext [index] [index]
  have hroom : unvisited g.size [index] ≤ g.size := by
    have := List.countP_le_length (l := List.range g.size) (p := (· ∉ [index]))
    rwa [List.length_range] at this
  have hcount : g.size + 1 = [index].length + (targetModules met).length +
      (g.size - (targetModules met).length) := by
    unfold MeetsNew at hmeets
    rw [List.length_singleton]
    omega
  have hrun := hmet.run_eq (g.size - (targetModules met).length) [] []
  have hwalk : starWalk g index = met := by
    unfold starWalk
    rw [hcount]
    change (run _ _ ⟨[index], [index] ++ [], []⟩).met = met
    rw [hrun]
    generalize g.size - (targetModules met).length = rest
    cases rest <;> simp [run]
  rw [hwalk]
  exact hmet

/-! ## Chains of stars -/

/-- From a module on, stars lead to one new thing after the other: no module on the way takes over
from two things that are new. -/
inductive StarChain (next : Nat → List StarTarget) : List Nat → Nat → Prop where
  | last {visited : List Nat} {index : Nat} (isLast : newTargets visited (next index) = []) :
      StarChain next visited index
  | outside {visited : List Nat} {index : Nat} {specifier : String}
      (isOnly : newTargets visited (next index) = [.external specifier]) :
      StarChain next visited index
  | on {visited : List Nat} {index target : Nat}
      (isOnly : newTargets visited (next index) = [.module target])
      (rest : StarChain next (target :: visited) target) : StarChain next visited index

theorem newTargets_eq_nil_iff : newTargets visited targets = [] ↔
    ∀ target ∈ targets, ∃ index ∈ visited, target = .module index := by
  induction targets with
  | nil => simp [newTargets]
  | cons target rest ih =>
    cases target with
    | external specifier => simp [newTargets]
    | module index =>
      by_cases hmem : index ∈ visited
      · simp [newTargets, hmem, ih]
      · simp [newTargets, hmem]

/-- What is not new does not become so. -/
theorem newTargets_visitedAfter (h : newTargets visited targets = []) :
    newTargets (visitedAfter visited met) targets = [] := by
  refine newTargets_eq_nil_iff.mpr fun target htarget => ?_
  obtain ⟨index, hindex, rfl⟩ := newTargets_eq_nil_iff.mp h target htarget
  exact ⟨index, mem_visitedAfter_of_mem hindex, rfl⟩

/-- Nothing is met where nothing is new. -/
theorem sourceOrder_of_nil (h : newTargets visited targets = []) :
    SourceOrder next visited targets [] := by
  rw [newTargets_eq_nil_iff] at h
  induction targets with
  | nil => exact .nil
  | cons target rest ih =>
    obtain ⟨⟨index, hmem, rfl⟩, hrest⟩ := List.forall_mem_cons.mp h
    exact .again hmem (ih hrest)

theorem sourceOrder_of_external {specifier : String}
    (h : newTargets visited targets = [.external specifier]) :
    SourceOrder next visited targets [.external specifier] := by
  induction targets with
  | nil => cases h
  | cons target rest ih =>
    cases target with
    | external other =>
      obtain ⟨heq, hrest⟩ := List.cons.inj h
      rw [← heq]
      exact .external (sourceOrder_of_nil hrest)
    | module index =>
      rw [newTargets] at h
      split at h
      · rename_i hmem
        exact .again hmem (ih h)
      · cases h

theorem sourceOrder_of_module {below : List StarTarget}
    (h : newTargets visited targets = [.module index])
    (hbelow : SourceOrder next (index :: visited) (next index) below) :
    SourceOrder next visited targets (.module index :: below) := by
  induction targets with
  | nil => cases h
  | cons target rest ih =>
    cases target with
    | external specifier => cases h
    | module other =>
      rw [newTargets] at h
      split at h
      · rename_i hmem
        exact .again hmem (ih h)
      · rename_i hnew
        obtain ⟨heq, hrest⟩ := List.cons.inj h
        cases heq
        have hlater : newTargets (visitedAfter (index :: visited) below) rest = [] :=
          newTargets_visitedAfter hrest
        have hall := SourceOrder.enter hnew hbelow (sourceOrder_of_nil hlater)
        rwa [List.append_nil] at hall

/-- What is met first is the first that is new. -/
theorem SourceOrder.head_eq (h : SourceOrder next visited targets met) :
    met.head? = (newTargets visited targets).head? := by
  induction h with
  | nil => rfl
  | external => rfl
  | again isVisited others ih => rw [ih, newTargets, if_pos isVisited]
  | enter isNew => rw [newTargets, if_neg isNew]; rfl

/-- Where a single module is new, the rest of what is met comes after it. -/
theorem SourceOrder.of_module {target : Nat} (h : SourceOrder next visited targets met)
    (hnew : newTargets visited targets = [.module target]) : ∃ below,
      met = .module target :: below ∧
        SourceOrder next (target :: visited) (next target) below := by
  induction h with
  | nil => cases hnew
  | external => cases hnew
  | again isVisited others ih =>
    rw [newTargets, if_pos isVisited] at hnew
    exact ih hnew
  | enter isNew inner others =>
    rw [newTargets, if_neg isNew] at hnew
    obtain ⟨heq, hrest⟩ := List.cons.inj hnew
    cases heq
    obtain rfl := others.unique (sourceOrder_of_nil (newTargets_visitedAfter hrest))
    exact ⟨_, by rw [List.append_nil], inner⟩

/-- Where one thing at most is new, it is so in reverse order too. -/
theorem newTargets_reverse_eq (h : (newTargets visited targets).length ≤ 1) :
    newTargets visited targets.reverse = newTargets visited targets := by
  have hperm : (newTargets visited targets.reverse).Perm (newTargets visited targets) :=
    newTargets_reverse_perm
  match hnew : newTargets visited targets with
  | [] => rw [hnew] at hperm; exact hperm.eq_nil
  | [target] => rw [hnew] at hperm; exact List.perm_singleton.mp hperm
  | _ :: _ :: _ => rw [hnew] at h; simp at h

/-- **If stars make a chain**, both recursions meet the same. -/
theorem StarChain.sourceOrder (h : StarChain next visited index)
    (hlast : LastFirst next visited [index] met) :
    SourceOrder next visited (next index) met := by
  induction h generalizing met with
  | last isLast =>
    cases hlast with
    | cons isNew inner others =>
      rw [newTargets_reverse_eq (by rw [isLast]; exact Nat.zero_le _), isLast] at isNew
      subst isNew
      cases inner
      cases others
      exact sourceOrder_of_nil isLast
  | outside isOnly =>
    cases hlast with
    | cons isNew inner others =>
      rw [newTargets_reverse_eq (by rw [isOnly]; exact Nat.le_refl _), isOnly] at isNew
      subst isNew
      cases inner
      cases others
      exact sourceOrder_of_external isOnly
  | on isOnly rest ih =>
    cases hlast with
    | @cons _ _ _ new below later isNew inner others =>
      rw [newTargets_reverse_eq (by rw [isOnly]; exact Nat.le_refl _), isOnly] at isNew
      subst isNew
      cases others
      rw [List.append_nil]
      refine sourceOrder_of_module isOnly (ih ?_)
      simpa using inner

/-- Of targets without repetition, those that are new are the ones that were not visited. -/
theorem newTargets_of_nodup (h : targets.Nodup) :
    newTargets visited targets = targets.filter (· ∉ visited.map StarTarget.module) := by
  induction targets generalizing visited with
  | nil => rfl
  | cons target rest ih =>
    obtain ⟨hnot, hrest⟩ := List.nodup_cons.mp h
    cases target with
    | external specifier => simp [newTargets, ih hrest]
    | module index =>
      by_cases hmem : index ∈ visited
      · simp [newTargets, hmem, ih hrest]
      · rw [newTargets, if_neg hmem, ih hrest, List.filter_cons_of_pos (by simpa using hmem)]
        refine congrArg _ (List.filter_congr fun target htarget => ?_)
        have hne : target ≠ .module index := fun heq => hnot (heq ▸ htarget)
        simp [hne]

/-- **Only then**, if no module takes over from the same thing twice. -/
theorem StarChain.of_sourceOrder (hnodup : ∀ index, (next index).Nodup)
    (h : LastFirst next visited [index] met) (h' : SourceOrder next visited (next index) met) :
    StarChain next visited index := by
  induction hlength : met.length using Nat.strongRecOn generalizing visited index met with
  | ind length ih =>
    subst hlength
    cases h with
    | @cons _ _ _ new below later isNew inner others =>
      cases others
      rw [List.append_nil] at h' ih
      have hreverse : new = (newTargets visited (next index)).reverse := by
        rw [← isNew, newTargets_of_nodup (List.nodup_reverse.mpr (hnodup index)),
          newTargets_of_nodup (hnodup index), List.filter_reverse]
      have hhead := h'.head_eq
      match hnext : newTargets visited (next index) with
      | [] => exact .last hnext
      | [.external specifier] => exact .outside hnext
      | [.module target] =>
        rw [hnext] at hreverse
        subst hreverse
        have hinner : LastFirst next (target :: visited) [target] below := by simpa using inner
        obtain ⟨below', hmet, hsource⟩ := h'.of_module hnext
        obtain rfl : below = below' := by simpa using hmet
        exact .on hnext (ih _ (by simp) hinner hsource rfl)
      | first :: second :: rest =>
        -- The last of several new targets is met before the first.
        rw [hreverse, hnext] at hhead
        have hlast : (second :: rest).getLast? = some first := by
          rw [← List.getLast?_cons_cons (a := first), ← List.head?_reverse]
          rwa [List.head?_append_of_ne_nil _ (by simp)] at hhead
        have hnew : (first :: second :: rest).Nodup := by
          rw [← hnext, newTargets_of_nodup (hnodup index)]
          exact (hnodup index).filter _
        exact absurd (List.mem_of_getLast? hlast) (List.nodup_cons.mp hnew).1

/-! ## Modules alone -/

/-- The modules among targets, as targets. -/
def onlyModules (targets : List StarTarget) : List StarTarget :=
  (targetModules targets).map .module

@[simp] theorem onlyModules_nil : onlyModules [] = [] := rfl

@[simp] theorem onlyModules_external (specifier : String) :
    onlyModules (.external specifier :: targets) = onlyModules targets := rfl

@[simp] theorem onlyModules_module :
    onlyModules (.module index :: targets) = .module index :: onlyModules targets := rfl

@[simp] theorem onlyModules_append :
    onlyModules (met ++ met') = onlyModules met ++ onlyModules met' := by
  simp [onlyModules]

@[simp] theorem targetModules_onlyModules :
    targetModules (onlyModules targets) = targetModules targets := by
  induction targets with
  | nil => rfl
  | cons target rest ih => cases target <;> simp [ih]

@[simp] theorem visitedAfter_onlyModules :
    visitedAfter visited (onlyModules met) = visitedAfter visited met := by
  simp [visitedAfter]

theorem onlyModules_reverse : (onlyModules targets).reverse = onlyModules targets.reverse := by
  simp [onlyModules, targetModules]

theorem newTargets_onlyModules :
    newTargets visited (onlyModules targets) = onlyModules (newTargets visited targets) := by
  induction targets generalizing visited with
  | nil => rfl
  | cons target rest ih =>
    cases target with
    | external specifier => exact ih
    | module index =>
      by_cases hmem : index ∈ visited
      · simp [newTargets, hmem, ih]
      · simp [newTargets, hmem, ih]

/-- Modules are met in the same order without what is outside. -/
theorem SourceOrder.onlyModules (h : SourceOrder next visited targets met) :
    SourceOrder (fun index => onlyModules (next index)) visited (ModuleBundler.onlyModules targets)
      (ModuleBundler.onlyModules met) := by
  induction h with
  | nil => exact .nil
  | external others ih => exact ih
  | again isVisited others ih => exact .again isVisited ih
  | enter isNew inner others ihInner ihOthers =>
    rw [onlyModules_module, onlyModules_module, onlyModules_append]
    refine .enter isNew ihInner ?_
    rwa [visitedAfter_onlyModules]

theorem LastFirst.onlyModules {stack : List Nat} (h : LastFirst next visited stack met) :
    LastFirst (fun index => onlyModules (next index)) visited stack
      (ModuleBundler.onlyModules met) := by
  induction h with
  | nil => exact .nil
  | cons isNew inner others ihInner ihOthers =>
    rw [onlyModules_append, onlyModules_append]
    refine .cons ?_ ?_ ?_
    · rw [onlyModules_reverse, newTargets_onlyModules, isNew]
    · rwa [visitedAfter_onlyModules, targetModules_onlyModules]
    · rwa [← onlyModules_append, visitedAfter_onlyModules]

/-- **Modules are met in the same order just if the stars between modules make a chain.** -/
theorem StarChain.onlyModules_iff (hnodup : ∀ index, (targetModules (next index)).Nodup)
    (h : LastFirst next visited [index] met) (h' : SourceOrder next visited (next index) met') :
    targetModules met = targetModules met' ↔
      StarChain (fun index => onlyModules (next index)) visited index := by
  constructor
  · intro heq
    have hboth : onlyModules met = onlyModules met' := congrArg (List.map StarTarget.module) heq
    refine .of_sourceOrder (fun index => ?_) h.onlyModules (hboth ▸ h'.onlyModules)
    exact (hnodup index).map fun _ _ => StarTarget.module.inj
  · intro hchain
    have hboth := (hchain.sourceOrder h.onlyModules).unique h'.onlyModules
    have hmodules := congrArg targetModules hboth
    rwa [targetModules_onlyModules, targetModules_onlyModules] at hmodules

/-! ## What is gathered -/

/-- The names that a module exports where its stars meet targets in an order. -/
def namesAlong (g : ModuleGraph) (index : Nat) (met : List StarTarget) : List String :=
  (g.ownExportNames index ++
    ((targetModules met).flatMap g.ownExportNames).filter (· ≠ "default")).eraseDups

/-- The specifiers that are met in an order. -/
def specifiersAlong (met : List StarTarget) : List String :=
  (met.filterMap StarTarget.specifier?).eraseDups

/-- Recursion that follows the stars of a module in turn gathers its names and specifiers. -/
structure StarsInOrder (g : ModuleGraph) (index : Nat) (met : List StarTarget) : Prop where
  order : SourceOrder g.starTargets [index] (g.starTargets index) met
  names : exportNames g index = namesAlong g index met
  specifiers : starSpecifiers g index = specifiersAlong met

/-- A bundle takes over the exports of what the walk from the entry has met outside. -/
theorem entryStars_of_link {g : ModuleGraph} {l : Linkage} (h : link g = .ok l) :
    l.entryStars = starSpecifiers g 0 := by
  obtain ⟨_, -, h⟩ := bind_eq_ok.mp h
  obtain ⟨⟨linkage, cache⟩, hrun, h⟩ := bind_eq_ok.mp h
  cases h
  obtain ⟨_, _, -, hrun⟩ := stateBind_eq_ok.mp hrun
  obtain ⟨_, _, -, hrun⟩ := stateBind_eq_ok.mp hrun
  obtain ⟨_, _, -, hrun⟩ := stateBind_eq_ok.mp hrun
  cases hrun
  rfl

/-- **Stars are walked from the last to the first.** Recursion in the order of the text meets targets in
one order `met`. The walk notes all that is new to a module at once, from the last to the first,
before it goes on to any of it, and names and specifiers are gathered as it notes them, those for a
bundle too. That is `met` if every module on the way takes over from one new thing at most. For the
modules among what is met it is so only then, if none takes over from the same one twice. -/
theorem starWalk_order {g : ModuleGraph} (hg : g.WellFormed) (index : Nat) :
    (∀ l, link g = .ok l → l.entryStars = starSpecifiers g 0) ∧
    ∃ met, SourceOrder g.starTargets [index] (g.starTargets index) met ∧
      LastFirst g.starTargets [index] [index] (starWalk g index) ∧
      exportNames g index = namesAlong g index (starWalk g index) ∧
      starSpecifiers g index = specifiersAlong (starWalk g index) ∧
      (StarChain g.starTargets [index] index → starWalk g index = met ∧ StarsInOrder g index met) ∧
      ((∀ i, (targetModules (g.starTargets i)).Nodup) →
        (targetModules (starWalk g index) = targetModules met ↔
          StarChain (fun i => onlyModules (g.starTargets i)) [index] index)) := by
  have hnext : ∀ index, ∀ i ∈ targetModules (g.starTargets index), i < g.size := fun index i hi =>
    (mem_starTargets.mp (mem_targetModules.mp hi)).lt_size hg
  obtain ⟨met, hmet, -⟩ := exists_sourceOrder hnext [index] (g.starTargets index) (hnext index)
  have hwalk := lastFirst_starWalk hg index
  refine ⟨fun l => entryStars_of_link, met, hmet, hwalk, rfl, rfl, fun hchain => ?_, fun hnodup =>
    StarChain.onlyModules_iff hnodup hwalk hmet⟩
  have heq := (hchain.sourceOrder hwalk).unique hmet
  exact ⟨heq, hmet, congrArg (namesAlong g index) heq, congrArg specifiersAlong heq⟩

/-- The entry takes over the exports of a module, and this those of one outside. -/
def chainedStars : ModuleProvider where
  resolve specifier _ := .ok (if specifier = "lib" then .external else .module (.file specifier))
  load
    | .file "/index.js" => .text "export const z = 0;\nexport * from \"./x.js\";\n"
    | .file "./x.js" => .text "export const x = 1;\nexport * from \"lib\";\n"
    | id => .failed (.missing id.text)

/-- Each of the two modules has a single star. -/
theorem chainedStars_in_order : ∃ loads g l,
    discover chainedStars (fun _ => false) 5 = some ⟨loads, .ok g⟩ ∧ link g = .ok l ∧
      exportNames g 0 = ["z", "x"] ∧ l.entryStars = ["lib"] ∧
      StarsInOrder g 0 [.module 1, .external "lib"] := by
  have hlinked : ((discover chainedStars (fun _ => false) 5).any fun logged =>
      logged.result.toOption.any fun g => (link g).toOption.any fun _ =>
        starWalk g 0 = [.module 1, .external "lib"] ∧ exportNames g 0 = ["z", "x"] ∧
          newTargets [0] (g.starTargets 0) = [.module 1] ∧
          newTargets [1, 0] (g.starTargets 1) = [.external "lib"]) = true := by
    decide +kernel
  obtain ⟨loads, g, l, hdiscover, hlink, hchecked⟩ := exists_linked_of_any hlinked
  obtain ⟨hwalk, hnames, hfirst, hsecond⟩ := of_decide_eq_true hchecked
  obtain ⟨hstars, met, -, -, -, hspecifiers, hchain, -⟩ :=
    starWalk_order (discover_wellFormed hdiscover) 0
  obtain ⟨heq, hmet⟩ := hchain (.on hfirst (.outside hsecond))
  rw [← heq, hwalk] at hmet
  refine ⟨loads, g, l, hdiscover, hlink, hnames, ?_, hmet⟩
  rw [hstars l hlink, hspecifiers, hwalk]
  rfl

/-- The entry takes over the exports of two modules, and of two outside. -/
def siblingStars : ModuleProvider where
  resolve specifier _ := .ok (if specifier = "first" ∨ specifier = "second" then .external
    else .module (.file specifier))
  load
    | .file "/index.js" => .text ("export * from \"./x.js\";\nexport * from \"./y.js\";\n" ++
        "export * from \"first\";\nexport * from \"second\";\n")
    | .file "./x.js" => .text "export const x = 1;\n"
    | .file "./y.js" => .text "export const y = 2;\n"
    | id => .failed (.missing id.text)

/-- Names and specifiers come in reverse. -/
theorem siblingStars_reversed : ∃ loads g l,
    discover siblingStars (fun _ => false) 5 = some ⟨loads, .ok g⟩ ∧ link g = .ok l ∧
      exportNames g 0 = ["y", "x"] ∧ l.entryStars = ["second", "first"] ∧
      SourceOrder g.starTargets [0] (g.starTargets 0)
        [.module 1, .module 2, .external "first", .external "second"] ∧
      ∀ met, ¬ StarsInOrder g 0 met := by
  have hlinked : ((discover siblingStars (fun _ => false) 5).any fun logged =>
      logged.result.toOption.any fun g => (link g).toOption.any fun l =>
        exportNames g 0 = ["y", "x"] ∧ starSpecifiers g 0 = ["second", "first"] ∧
          l.entryStars = ["second", "first"] ∧
          g.starTargets 0 = [.module 1, .module 2, .external "first", .external "second"] ∧
          g.starTargets 1 = [] ∧ g.starTargets 2 = []) = true := by
    decide +kernel
  obtain ⟨loads, g, l, hdiscover, hlink, hchecked⟩ := exists_linked_of_any hlinked
  obtain ⟨hnames, hspecifiers, hstars, hentry, hx, hy⟩ := of_decide_eq_true hchecked
  have hsource : SourceOrder g.starTargets [0] (g.starTargets 0)
      [.module 1, .module 2, .external "first", .external "second"] := by
    have hnone : ∀ {visited : List Nat} {index : Nat}, g.starTargets index = [] →
        SourceOrder g.starTargets visited (g.starTargets index) [] :=
      fun h => sourceOrder_of_nil (by rw [h]; rfl)
    rw [hentry]
    exact .enter (by decide) (hnone hx) (.enter (by decide) (hnone hy) (.external (.external .nil)))
  refine ⟨loads, g, l, hdiscover, hlink, hnames, hstars, hsource, fun met hmet => ?_⟩
  obtain rfl := hmet.order.unique hsource
  have horder := hmet.specifiers
  rw [hspecifiers] at horder
  exact absurd horder (by decide)

end ModuleBundler
