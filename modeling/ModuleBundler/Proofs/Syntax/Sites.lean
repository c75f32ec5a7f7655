import ModuleBundler.Proofs.Enclosing
import ModuleBundler.Proofs.Syntax.Module

/-!
# The parts of a module text

* `Outline.of_mem_sites` : what holds of an outline and of all that stands in it holds of its nodes;
* `ScopesFrom` : scopes that were opened one after the other from a number on;
* `Outline.climb_of_mem_leaves` : from whatever stands in an outline a way leads out of it;
* `Derives.functions_split` : the parameters of a function come before anything else in it.
-/

namespace ModuleBundler

/-! ## Nodes -/

namespace Outline

/-- What holds of an outline and goes over to all that stands in it holds of its nodes. -/
theorem of_mem_sites {R : Outline → ScopeId → ScopeId → Prop}
    (hleaf : ∀ {l : Leaf} {rest : Outline} {scope next : ScopeId},
      R (.leaf l rest) scope next → R rest scope next)
    (hnode : ∀ {kind : NodeKind} {inner rest : Outline} {scope next : ScopeId},
      R (.node kind inner rest) scope next →
        R inner (kind.inside scope next) (next + kind.scopeCount) ∧
          R rest scope (next + kind.scopeCount + inner.scopeCount))
    {o : Outline} {scope next : ScopeId} (h : R o scope next) {F : Site}
    (hF : F ∈ o.sites scope next) : ∃ rest, R (.node F.kind F.inner rest) F.outer F.next := by
  induction o generalizing scope next with
  | nil => cases hF
  | leaf l rest ih => exact ih (hleaf h) hF
  | node kind inner rest ihinner ih =>
    rcases List.mem_cons.mp hF with rfl | hF
    · exact ⟨rest, h⟩
    · rcases List.mem_append.mp hF with hF | hF
      · exact ihinner (hnode h).1 hF
      · exact ih (hnode h).2 hF

/-- What stands in a node stands in the outline. -/
theorem leaves_of_mem_sites {o : Outline} {scope next : ScopeId} {F : Site}
    (hF : F ∈ o.sites scope next) :
    F.inner.leaves (F.kind.inside F.outer F.next) (F.next + F.kind.scopeCount) ⊆
      o.leaves scope next := by
  obtain ⟨rest, hrest⟩ := of_mem_sites
    (R := fun part scope' next' => part.leaves scope' next' ⊆ o.leaves scope next)
    (fun h => List.Subset.trans (List.subset_cons_self _ _) h)
    (fun h => List.append_subset.mp h) (List.Subset.refl _) hF
  exact (List.append_subset.mp hrest).1

end Outline

/-! ## Scopes -/

/-- The scopes from some number on are these. -/
def ScopesFrom (scopes : Array Scope) (next : Nat) (opened : List Scope) : Prop :=
  ∀ (i : Nat) scope, opened[i]? = some scope → scopes[next + i]? = some scope

theorem ScopesFrom.append {scopes : Array Scope} {next : Nat} {first second : List Scope}
    (h : ScopesFrom scopes next (first ++ second)) :
    ScopesFrom scopes next first ∧ ScopesFrom scopes (next + first.length) second := by
  refine ⟨fun i scope hi => h i scope ?_, fun i scope hi => ?_⟩
  · rw [List.getElem?_append_left (List.getElem?_eq_some_iff.mp hi).1]
    exact hi
  · rw [Nat.add_assoc]
    refine h _ scope ?_
    rw [List.getElem?_append_right (Nat.le_add_right _ _), Nat.add_sub_cancel_left]
    exact hi

namespace Outline

/-- The scopes that an outline opens are those of its parts. -/
theorem scopesFrom_node {scopes : Array Scope} {kind : NodeKind} {inner rest : Outline}
    {scope next : ScopeId} (h : ScopesFrom scopes next ((node kind inner rest).scopes scope next)) :
    ScopesFrom scopes next (kind.opened scope) ∧
      ScopesFrom scopes (next + kind.scopeCount)
        (inner.scopes (kind.inside scope next) (next + kind.scopeCount)) ∧
      ScopesFrom scopes (next + kind.scopeCount + inner.scopeCount)
        (rest.scopes scope (next + kind.scopeCount + inner.scopeCount)) := by
  obtain ⟨hopened, h⟩ := h.append
  rw [kind.length_opened] at h
  obtain ⟨hinner, hrest⟩ := h.append
  rw [length_scopes] at hrest
  exact ⟨hopened, hinner, hrest⟩

/-- The scopes that an outline opens are there for each of its nodes. -/
theorem scopesFrom_of_mem_sites {scopes : Array Scope} {o : Outline} {scope next : ScopeId}
    (h : ScopesFrom scopes next (o.scopes scope next)) {F : Site}
    (hF : F ∈ o.sites scope next) :
    ScopesFrom scopes F.next (F.kind.opened F.outer) ∧
      ScopesFrom scopes (F.next + F.kind.scopeCount)
        (F.inner.scopes (F.kind.inside F.outer F.next) (F.next + F.kind.scopeCount)) := by
  obtain ⟨rest, hrest⟩ := of_mem_sites
    (R := fun part scope next => ScopesFrom scopes next (part.scopes scope next)) id
    (fun h => (scopesFrom_node h).2) h hF
  exact ⟨(scopesFrom_node hrest).1, (scopesFrom_node hrest).2.1⟩

/-- Scopes are numbered from some number on. -/
theorem next_le_of_mem_sites {o : Outline} {scope next : ScopeId} {F : Site}
    (hF : F ∈ o.sites scope next) : next ≤ F.next := by
  obtain ⟨rest, hle⟩ := of_mem_sites (R := fun _ _ next' => next ≤ next') id
    (fun h => ⟨Nat.le_add_right_of_le h, Nat.le_add_right_of_le (Nat.le_add_right_of_le h)⟩)
    (Nat.le_refl next) hF
  exact hle

/-- From whatever stands in an outline a way leads to the scope around it. -/
theorem climb_of_mem_leaves {tree : ScopeTree} {o : Outline} {scope next own : ScopeId} {l : Leaf}
    (h : ScopesFrom tree.scopes next (o.scopes scope next)) (hnext : 0 < next)
    (hl : (own, l) ∈ o.leaves scope next) : ∃ way, tree.Climb own way scope := by
  induction o generalizing scope next with
  | nil => cases hl
  | leaf first rest ih =>
    rcases List.mem_cons.mp hl with heq | hl
    · cases heq
      exact ⟨[], .here _⟩
    · exact ih h hnext hl
  | node kind inner rest ihinner ih =>
    obtain ⟨hopened, hinner, hrest⟩ := scopesFrom_node h
    rcases List.mem_append.mp hl with hl | hl
    · obtain ⟨way, hclimb⟩ := ihinner hinner (Nat.lt_of_lt_of_le hnext (Nat.le_add_right _ _)) hl
      unfold NodeKind.inside at hclimb
      unfold NodeKind.opened at hopened
      cases htype : kind.scopeType? with
      | none =>
        rw [htype] at hclimb
        exact ⟨way, hclimb⟩
      | some type =>
        -- The node has a scope of its own, one step inside.
        rw [htype] at hclimb hopened
        have hparent : (tree.scopes[next]?).bind Scope.parent = some scope :=
          congrArg (Option.bind · Scope.parent) (hopened 0 _ rfl)
        exact ⟨way ++ [next], hclimb.append (Nat.ne_of_gt hnext) hparent⟩
    · have hle : next ≤ next + kind.scopeCount + inner.scopeCount :=
        Nat.le_add_right_of_le (Nat.le_add_right _ _)
      exact ih hrest (Nat.lt_of_lt_of_le hnext hle) hl

end Outline

/-! ## Functions -/

/-- Whether the part is a function, method or arrow function. -/
def NodeKind.isFunction : NodeKind → Bool
  | function | arrow => true
  | scope _ | parameters | body | instanceField => false

/-- The parameters come before anything else. -/
def Outline.StartsWithParameters (o : Outline) : Prop :=
  ∃ parameters rest, o = .node .parameters parameters rest

/-- Whether the parameters come before anything else. -/
def Phrase.startsWithParameters : Phrase → Bool
  | node .parameters _ => true
  | seq first _ => first.startsWithParameters
  | empty | token .. | placeholder _ | effect _ | rule _ | node .. | or .. | many _ => false

/-- Whether functions start with their parameters. -/
def Phrase.isSplit : Phrase → Bool
  | node kind inner => (!kind.isFunction || inner.startsWithParameters) && inner.isSplit
  | empty | token .. | placeholder _ | effect _ | rule _ => true
  | seq first rest => first.isSplit && rest.isSplit
  | or left right => left.isSplit && right.isSplit
  | many item => item.isSplit

theorem syntaxRules_isSplit (n : Nonterminal) : (syntaxRules n).isSplit = true := by
  cases n with
  | pattern kind => cases kind <;> rfl
  | assignment | unary | leftHandSide | new | statement => rfl

namespace Derives

variable {rules : Rules} {p : Phrase} {o : Outline}

theorem startsWithParameters (h : Derives rules p o) (hp : p.startsWithParameters = true) :
    o.StartsWithParameters := by
  induction h with
  | empty | token | placeholder | effect | rule | left | right | none | more => cases hp
  | @node kind inner o _ _ =>
    cases kind with
    | parameters => exact ⟨o, .nil, rfl⟩
    | scope | function | arrow | body | instanceField => cases hp
  | seq _ _ ih _ =>
    obtain ⟨parameters, rest, rfl⟩ := ih hp
    exact ⟨parameters, _, rfl⟩

/-- All functions start with their parameters, if the rules say so. -/
theorem functions_split (hrules : ∀ n, (rules n).isSplit = true) (h : Derives rules p o)
    (hp : p.isSplit = true) (scope next : ScopeId) :
    ∀ F ∈ o.sites scope next, F.kind.isFunction = true → F.inner.StartsWithParameters := by
  induction h generalizing next scope with
  | empty | token | placeholder | effect | none => exact fun _ hF => nomatch hF
  | @rule n _ _ ih => exact ih (hrules n) scope next
  | @node kind inner o derives ih =>
    obtain ⟨hstarts, hinner⟩ := Bool.and_eq_true_iff.mp hp
    refine List.forall_mem_cons.mpr ⟨fun hfunction => ?_, ?_⟩
    · change kind.isFunction = true at hfunction
      rw [hfunction] at hstarts
      exact derives.startsWithParameters hstarts
    · refine List.forall_mem_append.mpr ⟨ih hinner _ _, fun _ hF => nomatch hF⟩
  | seq _ _ ih ih' =>
    obtain ⟨hfirst, hrest⟩ := Bool.and_eq_true_iff.mp hp
    rw [Outline.sites_append]
    exact List.forall_mem_append.mpr ⟨ih hfirst _ _, ih' hrest _ _⟩
  | left _ ih => exact ih (Bool.and_eq_true_iff.mp hp).1 scope next
  | right _ ih => exact ih (Bool.and_eq_true_iff.mp hp).2 scope next
  | more _ _ ih ih' =>
    rw [Outline.sites_append]
    exact List.forall_mem_append.mpr ⟨ih hp _ _, ih' hp _ _⟩

end Derives

theorem Itemized.functions_split {o : Outline} {items : List ModuleItem} (h : Itemized o items)
    (scope next : ScopeId) :
    ∀ F ∈ o.sites scope next, F.kind.isFunction = true → F.inner.StartsWithParameters := by
  induction h generalizing next with
  | none => exact fun _ hF => nomatch hF
  | more itemized outlined ih =>
    rw [Outline.sites_append]
    exact List.forall_mem_append.mpr
      ⟨ih next, outlined.derives.functions_split syntaxRules_isSplit rfl scope _⟩

end ModuleBundler
