import Mathlib.Logic.Relation
import Mathlib.Data.Set.Insert
import ModuleBundler.Proofs.EvaluationOrder
import ModuleBundler.Proofs.ReachableGraph

/-!
# Evaluation in post-order

* `PostOrder` : going depth-first through modules in order, each is left after all it leads to;
* `PostOrder.unique`, `PostOrder.precedes` : there is one such order, and what a module leads to comes
  before it unless that leads back;
* `StackWalk` : a walk with the way to where it is on a stack, and the request to follow next;
* `StackWalk.reaches_of_postOrder` : it leaves modules in post-order;
* `order_postOrder` : all this holds of the order in which the modules of a graph are evaluated.
-/

namespace ModuleBundler
namespace ModuleGraph

/-- Going through modules in order, where those `entered` have been entered before, leaves the
modules `left`. One that is entered is left after all that are left on the way through what it leads to. -/
inductive PostOrder (next : Nat → List Nat) : Set Nat → List Nat → List Nat → Prop where
  | nil {entered : Set Nat} : PostOrder next entered [] []
  | skip {entered : Set Nat} {index : Nat} {rest left : List Nat} (isEntered : index ∈ entered)
      (others : PostOrder next entered rest left) : PostOrder next entered (index :: rest) left
  | enter {entered : Set Nat} {index : Nat} {rest below left : List Nat} (isNew : index ∉ entered)
      (inner : PostOrder next (insert index entered) (next index) below)
      (others : PostOrder next (insert index entered ∪ {i | i ∈ below}) rest left) :
      PostOrder next entered (index :: rest) (below ++ index :: left)

namespace PostOrder

variable {next : Nat → List Nat} {entered : Set Nat} {todo left left' : List Nat}

/-- There is no more than one post-order. -/
theorem unique (h : PostOrder next entered todo left) (h' : PostOrder next entered todo left') :
    left = left' := by
  induction h generalizing left' with
  | nil =>
    cases h'
    rfl
  | skip isEntered others ih =>
    cases h' with
    | skip _ others' => exact ih others'
    | enter isNew => exact absurd isEntered isNew
  | enter isNew inner others ihInner ihOthers =>
    cases h' with
    | skip isEntered => exact absurd isEntered isNew
    | enter _ inner' others' =>
      obtain rfl := ihInner inner'
      rw [ihOthers others']

/-- All modules that are gone through are left, unless they were entered before. -/
theorem mem_or (h : PostOrder next entered todo left) {index : Nat} (hindex : index ∈ todo) :
    index ∈ left ∨ index ∈ entered := by
  induction h with
  | nil => cases hindex
  | skip isEntered others ih =>
    rcases List.mem_cons.mp hindex with rfl | hrest
    · exact .inr isEntered
    · exact ih hrest
  | @enter entered other rest below left isNew inner others ihInner ihOthers =>
    rcases List.mem_cons.mp hindex with rfl | hrest
    · exact .inl (List.mem_append_right _ List.mem_cons_self)
    · rcases ihOthers hrest with hleft | (rfl | hentered) | hbelow
      · exact .inl (List.mem_append_right _ (List.mem_cons_of_mem _ hleft))
      · exact .inl (List.mem_append_right _ List.mem_cons_self)
      · exact .inr hentered
      · exact .inl (List.mem_append_left _ hbelow)

end PostOrder

/-! ## What comes before -/

/-- The first of two modules comes before the other in an order. -/
def Precedes (order : List Nat) (first second : Nat) : Prop :=
  ∃ before after, order = before ++ second :: after ∧ first ∈ before

section
variable {order more : List Nat} {first second : Nat}

theorem Precedes.append_right (h : Precedes order first second) (more : List Nat) :
    Precedes (order ++ more) first second := by
  obtain ⟨before, after, rfl, hmem⟩ := h
  exact ⟨before, after ++ more, by rw [List.append_assoc, List.cons_append], hmem⟩

theorem Precedes.append_left (h : Precedes order first second) (more : List Nat) :
    Precedes (more ++ order) first second := by
  obtain ⟨before, after, rfl, hmem⟩ := h
  exact ⟨more ++ before, after, (List.append_assoc ..).symm, List.mem_append_right _ hmem⟩

theorem precedes_append (hfirst : first ∈ more) (hsecond : second ∈ order) :
    Precedes (more ++ order) first second := by
  obtain ⟨before, after, rfl⟩ := List.append_of_mem hsecond
  exact ⟨more ++ before, after, (List.append_assoc ..).symm, List.mem_append_left _ hfirst⟩

/-- In an order without repetition, what comes before has the lower index. -/
theorem Precedes.idxOf_lt (h : Precedes order first second) (hnodup : order.Nodup) :
    order.idxOf first < order.idxOf second := by
  obtain ⟨before, after, rfl, hmem⟩ := h
  have hnew : second ∉ before := fun hsecond =>
    (List.nodup_append.mp hnodup).2.2 second hsecond second List.mem_cons_self rfl
  rw [List.idxOf_append_of_mem hmem, List.idxOf_append_of_notMem hnew, List.idxOf_cons_self]
  exact List.idxOf_lt_length_of_mem hmem

end

/-- What a module leads to is left before it, unless it leads back or was entered and is not on the
way. All modules on the way `path` lead to those that are gone through. -/
theorem PostOrder.precedes_or {next : Nat → List Nat} {entered : Set Nat} {todo left : List Nat}
    (h : PostOrder next entered todo left) {path : Set Nat}
    (hpath : ∀ p ∈ path, ∀ i ∈ todo, Relation.TransGen (fun a b => b ∈ next a) p i) :
    ∀ index ∈ left, ∀ target ∈ next index, Precedes left target index ∨
      (target ∈ entered ∧ target ∉ path) ∨
      Relation.TransGen (fun a b => b ∈ next a) target index := by
  induction h generalizing path with
  | nil => exact fun _ hindex => nomatch hindex
  | skip isEntered others ih => exact ih fun p hp i hi => hpath p hp i (List.mem_cons_of_mem _ hi)
  | @enter entered root rest below left isNew inner others ihInner ihOthers =>
    have hroot : ∀ p ∈ path, Relation.TransGen (fun a b => b ∈ next a) p root := fun p hp =>
      hpath p hp root List.mem_cons_self
    have hinner : ∀ p ∈ insert root path, ∀ i ∈ next root,
        Relation.TransGen (fun a b => b ∈ next a) p i := by
      intro p hp i hi
      rcases hp with rfl | hp
      · exact .single hi
      · exact (hroot p hp).tail hi
    have hbelow := ihInner hinner
    have hleft := ihOthers fun p hp i hi => hpath p hp i (List.mem_cons_of_mem _ hi)
    intro index hindex target htarget
    rcases List.mem_append.mp hindex with hindex | hindex
    · rcases hbelow index hindex target htarget with hbefore | ⟨rfl | hentered, hout⟩ | hback
      · exact .inl (hbefore.append_right _)
      · exact absurd (Set.mem_insert _ _) hout
      · exact .inr (.inl ⟨hentered, fun hp => hout (Set.mem_insert_of_mem _ hp)⟩)
      · exact .inr (.inr hback)
    rcases List.mem_cons.mp hindex with rfl | hlater
    · rcases inner.mem_or htarget with htarget | rfl | hentered
      · exact .inl ⟨below, left, rfl, htarget⟩
      · exact .inr (.inr (.single htarget))
      · by_cases hp : target ∈ path
        · exact .inr (.inr (hroot target hp))
        · exact .inr (.inl ⟨hentered, hp⟩)
    · rcases hleft index hlater target htarget with hbefore | ⟨hentered, hout⟩ | hback
      · exact .inl ((hbefore.append_left [root]).append_left below)
      · rcases hentered with (rfl | hentered) | hmem
        · exact .inl ((precedes_append (List.mem_singleton_self target) hlater).append_left below)
        · exact .inr (.inl ⟨hentered, hout⟩)
        · exact .inl (precedes_append hmem (List.mem_cons_of_mem _ hlater))
      · exact .inr (.inr hback)

/-! ## Walks by recursion -/

/-- A walk that goes through modules leaves them in post-order. -/
def Walk.Leaves (next : Nat → List Nat) (walk : Walk) (todo : List Nat) (walk' : Walk) : Prop :=
  ∃ left, PostOrder next {i | i ∈ walk.visited} todo left ∧
    walk'.finished = walk.finished ++ left ∧
    {i | i ∈ walk'.visited} = {i | i ∈ walk.visited} ∪ {i | i ∈ left}

theorem setOf_mem_cons (index : Nat) (indices : List Nat) :
    {i | i ∈ index :: indices} = insert index {i | i ∈ indices} :=
  Set.ext fun _ => List.mem_cons

/-- What was entered once a module and those below it are left. -/
theorem insert_union_setOf (index : Nat) (entered : Set Nat) (below : List Nat) :
    insert index entered ∪ {i | i ∈ below} = entered ∪ {i | i ∈ below ++ [index]} :=
  Set.ext fun i => by simp; tauto

/-- What is left on the way through a first module and then through others is left on the way
through all of them. -/
theorem PostOrder.cons {next : Nat → List Nat} {entered : Set Nat} {index : Nat}
    {rest first left : List Nat} (h : PostOrder next entered [index] first)
    (hrest : PostOrder next (entered ∪ {i | i ∈ first}) rest left) :
    PostOrder next entered (index :: rest) (first ++ left) := by
  cases h with
  | skip isEntered others =>
    cases others
    have hsame : entered ∪ {i | i ∈ ([] : List Nat)} = entered := Set.ext fun i => by simp
    exact .skip isEntered (hsame ▸ hrest)
  | enter isNew inner others =>
    cases others
    rw [← insert_union_setOf] at hrest
    rw [List.append_assoc]
    exact .enter isNew inner hrest

section
variable {next : Nat → List Nat} {size : Nat} {path : List Nat} {walk : Walk}

theorem Walk.Holds.foldl_leaves {step : Walk → Nat → Walk}
    (hstep : ∀ walk : Walk, walk.Holds size path → ∀ index < size,
      walk.GoesTo size path [index] (step walk index) ∧ walk.Leaves next [index] (step walk index))
    {indices : List Nat} (hindices : ∀ i ∈ indices, i < size) (h : walk.Holds size path) :
    walk.Leaves next indices (indices.foldl step walk) := by
  induction indices generalizing walk with
  | nil => exact ⟨[], .nil, (List.append_nil _).symm, by simp⟩
  | cons index rest ih =>
    obtain ⟨hindex, hrest⟩ := List.forall_mem_cons.mp hindices
    obtain ⟨hgoes, first, hfirst, hfinished, hvisited⟩ := hstep walk h index hindex
    obtain ⟨left, hleft, hfinished', hvisited'⟩ := ih hrest hgoes.holds
    rw [hvisited] at hleft hvisited'
    refine ⟨first ++ left, hfirst.cons hleft, ?_, ?_⟩
    · rw [List.foldl_cons, hfinished', hfinished, List.append_assoc]
    · rw [List.foldl_cons, hvisited', Set.union_assoc]
      exact congrArg _ (Set.ext fun i => List.mem_append.symm)

/-- Going to a module leaves it and what it leads to in post-order. -/
theorem Walk.Holds.visit_leaves (hnext : ∀ index, ∀ i ∈ next index, i < size) {depth : Nat}
    (h : walk.Holds size path) (hdepth : path.length + depth = size) {index : Nat}
    (hindex : index < size) :
    walk.Leaves next [index] (ModuleGraph.visit next depth walk index) := by
  have hskip : index ∈ walk.visited → walk.Leaves next [index] walk := fun hmem =>
    ⟨[], .skip hmem .nil, (List.append_nil _).symm, by simp⟩
  induction depth generalizing path walk index with
  | zero => exact hskip (h.mem_of_length_eq hdepth hindex)
  | succ depth ih =>
    unfold ModuleGraph.visit
    split
    · rename_i hmem
      exact hskip hmem
    · rename_i hnew
      have hentered := h.enter hindex hnew
      have hlength : (index :: path).length + depth = size := by
        rw [List.length_cons]
        omega
      obtain ⟨below, hbelow, hfinished, hvisited⟩ := hentered.foldl_leaves
        (fun walk h i hi => ⟨h.visit hnext hlength hi, ih h hlength hi fun hmem =>
          ⟨[], .skip hmem .nil, (List.append_nil _).symm, by simp⟩⟩) (hnext index)
      dsimp only at hbelow hfinished hvisited ⊢
      rw [setOf_mem_cons] at hbelow hvisited
      refine ⟨below ++ [index], .enter hnew hbelow .nil, ?_, ?_⟩
      · rw [hfinished, List.append_assoc]
      · rw [hvisited, insert_union_setOf]

end

/-- Modules are evaluated in post-order, from the entry on. -/
theorem postOrder_order {g : ModuleGraph} (hg : ∀ index, ∀ i ∈ g.successors index, i < g.size) :
    PostOrder g.successors ∅ g.indices g.order := by
  have hstart : Walk.Holds g.size [] ⟨[], []⟩ :=
    ⟨List.nodup_nil, fun _ h => (nomatch h), fun _ => Iff.rfl⟩
  have hindices : ∀ i ∈ g.indices, i < g.size := fun i hi => List.mem_range.mp hi
  obtain ⟨left, hleft, hfinished, -⟩ := hstart.foldl_leaves (fun walk h i hi =>
    ⟨h.visit hg (Nat.zero_add _) hi, h.visit_leaves hg (Nat.zero_add _) hi⟩) hindices
  obtain rfl : g.order = left := hfinished
  have hempty : {i | i ∈ ([] : List Nat)} = ∅ := Set.ext fun i => by simp
  exact hempty ▸ hleft

/-! ## Walks with a stack -/

/-- What the requests of a module lead to. -/
def requestsOf (g : ModuleGraph) (index : Nat) : List Dependency :=
  ((g.modules[index]?).map SourceModule.requests).getD []

theorem successors_eq (g : ModuleGraph) (index : Nat) :
    g.successors index = (g.requestsOf index).filterMap Dependency.module? := by
  unfold successors requestsOf
  cases g.modules[index]? with
  | none => rfl
  | some m => rfl

/-- A walk that keeps the way to where it is: the modules on it with the number of their requests
that were followed, the latest first. `roots` are the modules to begin at. -/
structure StackWalk where
  roots : List Nat
  visited : List Nat
  stack : List (Nat × Nat)
  order : List Nat

namespace StackWalk

def start (g : ModuleGraph) : StackWalk := ⟨g.indices, [], [], []⟩

/-- Follows the next request of the module where the walk is, or leaves that. From an empty stack it
begins at the next root. -/
def step (g : ModuleGraph) (walk : StackWalk) : Option StackWalk :=
  match walk.stack with
  | [] =>
    match walk.roots with
    | [] => none
    | root :: roots =>
      if root ∈ walk.visited then some { walk with roots }
      else some { walk with roots, visited := root :: walk.visited, stack := [(root, 0)] }
  | (index, count) :: below =>
    match (g.requestsOf index)[count]? with
    | some (.module target) =>
      let stack := (index, count + 1) :: below
      if target ∈ walk.visited then some { walk with stack }
      else some { walk with visited := target :: walk.visited, stack := (target, 0) :: stack }
    | some .external => some { walk with stack := (index, count + 1) :: below }
    | none => some { walk with stack := below, order := walk.order ++ [index] }

/-- Steps lead from one walk to another. -/
def Reaches (g : ModuleGraph) : StackWalk → StackWalk → Prop :=
  Relation.ReflTransGen fun walk walk' => walk.step g = some walk'

variable {g : ModuleGraph} {roots visited order : List Nat} {below : List (Nat × Nat)}
  {index count : Nat}

/-- Requests that lead outside are passed over, up to the next one that leads to a module. -/
theorem reaches_request {target : Nat} {rest : List Nat}
    (h : ((g.requestsOf index).drop count).filterMap Dependency.module? = target :: rest) :
    ∃ at_, (g.requestsOf index)[at_]? = some (.module target) ∧
      ((g.requestsOf index).drop (at_ + 1)).filterMap Dependency.module? = rest ∧
      Reaches g ⟨roots, visited, (index, count) :: below, order⟩
        ⟨roots, visited, (index, at_) :: below, order⟩ := by
  generalize hdrop : (g.requestsOf index).drop count = requests at h
  induction requests generalizing count with
  | nil => cases h
  | cons dependency requests ih =>
    have hget : (g.requestsOf index)[count]? = some dependency := by
      rw [← List.head?_drop, hdrop, List.head?_cons]
    have hrest : (g.requestsOf index).drop (count + 1) = requests := by
      rw [← List.tail_drop, hdrop, List.tail_cons]
    cases dependency with
    | module other =>
      obtain ⟨rfl, rfl⟩ := List.cons.inj h
      exact ⟨count, hget, by rw [hrest], .refl⟩
    | external =>
      obtain ⟨at_, hat, hafter, hreaches⟩ := ih hrest h
      refine ⟨at_, hat, hafter, .head ?_ hreaches⟩
      simp only [step, hget]

/-- Once no request leads to a module any more, the module is left. -/
theorem reaches_leave
    (h : ((g.requestsOf index).drop count).filterMap Dependency.module? = []) :
    Reaches g ⟨roots, visited, (index, count) :: below, order⟩
      ⟨roots, visited, below, order ++ [index]⟩ := by
  generalize hdrop : (g.requestsOf index).drop count = requests at h
  induction requests generalizing count with
  | nil =>
    have hget : (g.requestsOf index)[count]? = none := by
      rw [← List.head?_drop, hdrop, List.head?_nil]
    refine .single ?_
    simp only [step, hget]
  | cons dependency requests ih =>
    have hget : (g.requestsOf index)[count]? = some dependency := by
      rw [← List.head?_drop, hdrop, List.head?_cons]
    cases dependency with
    | module other => cases h
    | external =>
      refine .head ?_ (ih (by rw [← List.tail_drop, hdrop, List.tail_cons]) h)
      simp only [step, hget]

/-- From a module whose next requests lead to `todo`, the walk leaves these in post-order and then
the module itself. -/
theorem reaches_of_postOrder {entered : Set Nat} {todo left : List Nat}
    (h : PostOrder g.successors entered todo left)
    (htodo : ((g.requestsOf index).drop count).filterMap Dependency.module? = todo)
    (hvisited : {i | i ∈ visited} = entered) :
    ∃ visited', {i | i ∈ visited'} = entered ∪ {i | i ∈ left} ∧
      Reaches g ⟨roots, visited, (index, count) :: below, order⟩
        ⟨roots, visited', below, order ++ (left ++ [index])⟩ := by
  induction h generalizing index count visited below order with
  | nil => exact ⟨visited, by simp [hvisited], reaches_leave htodo⟩
  | @skip entered target rest left isEntered others ih =>
    obtain ⟨at_, hat, hafter, hreaches⟩ := reaches_request htodo
    obtain ⟨visited', hvisited', hleft⟩ := ih hafter hvisited
    refine ⟨visited', hvisited', hreaches.trans (.head ?_ hleft)⟩
    have hmem : target ∈ visited := by rwa [← hvisited] at isEntered
    simp only [step, hat, if_pos hmem]
  | @enter entered target rest inside left isNew inner others ihInner ihOthers =>
    obtain ⟨at_, hat, hafter, hreaches⟩ := reaches_request htodo
    have hnew : target ∉ visited := by rwa [← hvisited] at isNew
    have hentered : {i | i ∈ target :: visited} = insert target entered := by
      rw [setOf_mem_cons, hvisited]
    have hinside : ∃ mid, {i | i ∈ mid} = insert target entered ∪ {i | i ∈ inside} ∧
        Reaches g ⟨roots, target :: visited, (target, 0) :: (index, at_ + 1) :: below, order⟩
          ⟨roots, mid, (index, at_ + 1) :: below, order ++ (inside ++ [target])⟩ :=
      ihInner (successors_eq g target).symm hentered
    obtain ⟨mid, hmid, hinner⟩ := hinside
    have hothers : ∃ visited', {i | i ∈ visited'} = _ ∧
        Reaches g ⟨roots, mid, (index, at_ + 1) :: below, order ++ (inside ++ [target])⟩
          ⟨roots, visited', below, order ++ (inside ++ [target]) ++ (left ++ [index])⟩ :=
      ihOthers hafter hmid
    obtain ⟨visited', hvisited', hleft⟩ := hothers
    refine ⟨visited', ?_, hreaches.trans (.head ?_ (hinner.trans ?_))⟩
    · rw [hvisited']
      exact Set.ext fun i => by simp; tauto
    · simp only [step, hat, if_neg hnew]
    · rw [List.append_assoc, List.append_assoc] at hleft
      rw [List.append_assoc]
      exact hleft

/-- From its roots the walk leaves all modules in post-order. -/
theorem reaches_end {entered : Set Nat} {left : List Nat}
    (h : PostOrder g.successors entered roots left) (hvisited : {i | i ∈ visited} = entered) :
    ∃ visited', Reaches g ⟨roots, visited, [], order⟩ ⟨[], visited', [], order ++ left⟩ := by
  induction h generalizing visited order with
  | nil => exact ⟨visited, by rw [List.append_nil]; exact .refl⟩
  | @skip entered root roots left isEntered others ih =>
    obtain ⟨visited', hleft⟩ := ih hvisited
    refine ⟨visited', .head ?_ hleft⟩
    have hmem : root ∈ visited := by rwa [← hvisited] at isEntered
    simp only [step, if_pos hmem]
  | @enter entered root roots inside left isNew inner others ihInner ihOthers =>
    have hnew : root ∉ visited := by rwa [← hvisited] at isNew
    have hentered : {i | i ∈ root :: visited} = insert root entered := by
      rw [setOf_mem_cons, hvisited]
    have hinside : ∃ mid, {i | i ∈ mid} = insert root entered ∪ {i | i ∈ inside} ∧
        Reaches g ⟨roots, root :: visited, [(root, 0)], order⟩
          ⟨roots, mid, [], order ++ (inside ++ [root])⟩ :=
      reaches_of_postOrder inner (successors_eq g root).symm hentered
    obtain ⟨mid, hmid, hinner⟩ := hinside
    have hothers : ∃ visited', Reaches g ⟨roots, mid, [], order ++ (inside ++ [root])⟩
        ⟨[], visited', [], order ++ (inside ++ [root]) ++ left⟩ :=
      ihOthers hmid
    obtain ⟨visited', hleft⟩ := hothers
    refine ⟨visited', .head ?_ (hinner.trans ?_)⟩
    · simp only [step, if_neg hnew]
    · rw [List.append_assoc, List.append_assoc] at hleft
      exact hleft

end StackWalk

/-! ## The order of evaluation -/

/-- A module leads to another one through static requests. -/
def StaticallyReaches (g : ModuleGraph) : Nat → Nat → Prop :=
  Relation.TransGen fun index target => target ∈ g.successors index

/-- **Modules are evaluated in post-order.** Every module is evaluated once. What it requests comes
before it, unless that leads back to it. The order is the one in which recursion leaves modules, and
the one in which a walk with a stack leaves them before it ends. -/
theorem order_postOrder {g : ModuleGraph}
    (hg : ∀ m ∈ g.modules, ∀ index, .module index ∈ m.requests → index < g.size) :
    g.order.Perm g.indices ∧
      (∀ index, ∀ target ∈ g.successors index, ¬ g.StaticallyReaches target index →
        g.order.idxOf target < g.order.idxOf index) ∧
      (∀ order, PostOrder g.successors ∅ g.indices order ↔ order = g.order) ∧
      ∃ last, StackWalk.Reaches g (.start g) last ∧ last.step g = none ∧ last.order = g.order := by
  have hbound : ∀ index, ∀ i ∈ g.successors index, index < g.size ∧ i < g.size := by
    intro index i hi
    unfold successors at hi
    cases hm : g.modules[index]? with
    | none =>
      rw [hm] at hi
      cases hi
    | some m =>
      rw [hm] at hi
      obtain ⟨dependency, hmem, htarget⟩ := List.mem_filterMap.mp hi
      cases dependency with
      | external => cases htarget
      | module target =>
        cases htarget
        exact ⟨(Array.getElem?_eq_some_iff.mp hm).1, hg m (Array.mem_of_getElem? hm) _ hmem⟩
  have hsuccessors : ∀ index, ∀ i ∈ g.successors index, i < g.size := fun index i hi =>
    (hbound index i hi).2
  obtain ⟨hnodup, hmem⟩ := order_holds hsuccessors
  have horder := postOrder_order hsuccessors
  refine ⟨?_, fun index target htarget hback => ?_, fun order => ⟨fun h => h.unique horder, ?_⟩, ?_⟩
  · refine (List.perm_ext_iff_of_nodup hnodup List.nodup_range).mpr fun index => ?_
    rw [hmem, List.mem_range]
  · have hindex := (hmem index).mpr (hbound index target htarget).1
    have hpath : ∀ p ∈ (∅ : Set Nat), ∀ i ∈ g.indices, g.StaticallyReaches p i := fun _ hp =>
      hp.elim
    rcases horder.precedes_or hpath index hindex target htarget with hbefore | ⟨hentered, -⟩ | hreaches
    · exact hbefore.idxOf_lt hnodup
    · exact hentered.elim
    · exact absurd hreaches hback
  · rintro rfl
    exact horder
  · have hempty : {i | i ∈ ([] : List Nat)} = ∅ := Set.ext fun i => by simp
    have hend : ∃ visited, StackWalk.Reaches g (.start g) ⟨[], visited, [], [] ++ g.order⟩ :=
      StackWalk.reaches_end horder hempty
    obtain ⟨visited, hreaches⟩ := hend
    exact ⟨_, hreaches, rfl, rfl⟩

/-- Of the tangled files, `/a.js`, which requests itself, comes first, and `/c.js`, which only a
dynamic import leads to, comes last. `/b.js` comes before the entry, which it requests in turn. -/
theorem tangledSite_postOrder : ∃ loads g,
    discover tangledSite.provider (fun _ => false) 5 = some ⟨loads, .ok g⟩ ∧
      g.order = [1, 2, 0, 3] ∧ g.order.Perm g.indices ∧
      PostOrder g.successors ∅ g.indices [1, 2, 0, 3] ∧
      ∃ last, StackWalk.Reaches g (.start g) last ∧ last.order = [1, 2, 0, 3] := by
  have hrun : ((discover tangledSite.provider (fun _ => false) 5).any fun logged =>
      logged.result.toOption.any fun g => g.order = [1, 2, 0, 3]) = true := by
    decide +kernel
  obtain ⟨⟨loads, result⟩, hdiscover, hrun⟩ := (Option.any_eq_true _ _).mp hrun
  cases result with
  | error => cases hrun
  | ok g =>
    have horder : g.order = [1, 2, 0, 3] := of_decide_eq_true hrun
    have hg := (discover_wellFormed hdiscover).modules
    obtain ⟨hperm, -, hpost, last, hreaches, -, hlast⟩ :=
      order_postOrder (g := g) fun m hm => (hg m hm).requests
    refine ⟨loads, g, hdiscover, horder, hperm, ?_, last, hreaches, hlast.trans horder⟩
    rw [hpost, horder]

end ModuleGraph
end ModuleBundler
