import ModuleBundler.Grammar.Parse
import ModuleBundler.Token.Literal

/-!
# Outlines of module text

* `Role`, `Effect`, `Leaf` : what stands in a text: tokens with what they declare or use, and what
  their evaluation does that may be observed;
* `NodeKind` : the parts of a text that matter to scopes and to when something is evaluated;
* `Outline` : a text as leaves and nodes in a row, with what stands in each node;
* `Outline.tokens`, `Outline.scopes`, `Outline.declarations`, `Outline.references`,
  `Outline.effects` : what an outline has of each, and how it is put together from its parts;
* `Outline.names`, `Outline.Bare` : the tokens that declare or use something, and texts without such;
* `Outline.sites` : the nodes of an outline, each with the scopes around it.

An outline is read off a text by its grammar alone. Scopes are counted in the order in which they
open: an outline that stands in the scope `scope` opens scopes from `next` on.
-/

namespace ModuleBundler

/-- What a token is there for. -/
inductive Role where
  | plain
  | declares (kind : DeclarationKind) (shorthand : Bool)
  | uses (shorthand : Bool)
  deriving DecidableEq

/-- What is done when a text is evaluated, as far as others may notice. -/
inductive Effect where
  | call | construct | taggedTemplate | update | delete | await | yield | importCall
  /-- Something is assigned to by an operator. -/
  | assignment
  /-- Each round of a loop assigns to something that was there before. -/
  | loopTarget
  /-- Each round of a loop waits. -/
  | loopAwait
  deriving DecidableEq

/-- Whether the parser takes notice. -/
def Effect.isNoted : Effect → Bool
  | loopTarget | loopAwait => false
  | call | construct | taggedTemplate | update | delete | await | yield | importCall
  | assignment => true

inductive Leaf where
  | token (b : BufferedToken) (role : Role)
  /-- A default export without a name is declared under a name that is not in the text. -/
  | placeholder (offset : Nat) (kind : DeclarationKind)
  | effect (effect : Effect)

/-- A part of a text with a scope of its own or a time of its own at which it is evaluated. -/
inductive NodeKind where
  /-- A block, a loop, a clause, a field or block that belongs to the class, or what stands around a
  function or class for its name. -/
  | scope (type : ScopeType)
  /-- Parameters and body of a function or method. -/
  | function
  /-- Parameters and body of an arrow function. -/
  | arrow
  | parameters
  | body
  /-- The value of a field of each instance. -/
  | instanceField
  deriving DecidableEq

namespace NodeKind

/-- The type of the scope of its own that a part has. -/
def scopeType? : NodeKind → Option ScopeType
  | scope type => some type
  | function | arrow | instanceField => some .function
  | parameters | body => none

/-- Whether the parser takes the part for something that is evaluated later. -/
def isDeferred : NodeKind → Bool
  | function | body | instanceField => true
  | scope _ | arrow | parameters => false

/-- Whether the part is evaluated later. -/
def isLater : NodeKind → Bool
  | function | body | instanceField | parameters => true
  | scope _ | arrow => false

/-- The scope that a part in a scope opens. -/
def opened (kind : NodeKind) (scope : ScopeId) : List Scope :=
  (kind.scopeType?.map fun type => ⟨some scope, type⟩).toList

/-- The scope that holds what stands in the part. -/
def inside (kind : NodeKind) (scope next : ScopeId) : ScopeId :=
  if kind.scopeType?.isSome then next else scope

def scopeCount (kind : NodeKind) : Nat := if kind.scopeType?.isSome then 1 else 0

theorem length_opened (kind : NodeKind) (scope : ScopeId) :
    (kind.opened scope).length = kind.scopeCount := by
  unfold opened scopeCount
  cases kind.scopeType? with
  | none => rfl
  | some type => rfl

/-- What is taken for evaluated later is so. -/
theorem isLater_of_isDeferred {kind : NodeKind} (h : kind.isDeferred = true) :
    kind.isLater = true := by
  cases kind with
  | scope | arrow | parameters => cases h
  | function | body | instanceField => rfl

end NodeKind

/-- A text as leaves and nodes in a row. -/
inductive Outline where
  | nil
  | leaf (leaf : Leaf) (rest : Outline)
  | node (kind : NodeKind) (inner rest : Outline)

namespace Leaf

def token? : Leaf → Option BufferedToken
  | token b _ => some b
  | placeholder .. | effect _ => none

/-- What a leaf in a scope declares. -/
def declaration? (scope : ScopeId) : Leaf → Option Declaration
  | token b (.declares kind shorthand) =>
    some ⟨decodeName b.token.text, b.token.span, scope, kind, shorthand⟩
  | placeholder offset kind => some ⟨defaultBinding, .point offset, scope, kind, false⟩
  | token _ .plain | token _ (.uses _) | effect _ => none

/-- What a leaf in a scope uses. -/
def reference? (scope : ScopeId) : Leaf → Option Reference
  | token b (.uses shorthand) =>
    some ⟨decodeName b.token.text, b.token.span, scope, shorthand⟩
  | token _ .plain | token _ (.declares ..) | placeholder .. | effect _ => none

/-- The token of a leaf that declares or uses something. -/
def name? : Leaf → Option BufferedToken
  | token b (.declares ..) | token b (.uses _) => some b
  | token _ .plain | placeholder .. | effect _ => none

def placeholder? : Leaf → Option Nat
  | placeholder offset _ => some offset
  | token .. | effect _ => none

def effect? : Leaf → Option Effect
  | effect e => some e
  | token .. | placeholder .. => none

theorem eq_of_declaration? {own : ScopeId} {l : Leaf} {d : Declaration}
    (h : l.declaration? own = some d) :
    (∃ b kind shorthand, l = token b (.declares kind shorthand) ∧
      d = ⟨decodeName b.token.text, b.token.span, own, kind, shorthand⟩) ∨
    ∃ offset kind, l = placeholder offset kind ∧
      d = ⟨defaultBinding, .point offset, own, kind, false⟩ := by
  cases l with
  | token b role =>
    cases role with
    | declares kind shorthand =>
      cases h
      exact .inl ⟨b, kind, shorthand, rfl, rfl⟩
    | plain | uses => cases h
  | placeholder offset kind =>
    cases h
    exact .inr ⟨offset, kind, rfl, rfl⟩
  | effect e => cases h

theorem eq_of_reference? {own : ScopeId} {l : Leaf} {r : Reference}
    (h : l.reference? own = some r) : ∃ b shorthand, l = token b (.uses shorthand) ∧
      r = ⟨decodeName b.token.text, b.token.span, own, shorthand⟩ := by
  cases l with
  | token b role =>
    cases role with
    | uses shorthand =>
      cases h
      exact ⟨b, shorthand, rfl, rfl⟩
    | plain | declares => cases h
  | placeholder | effect => cases h

end Leaf

namespace Outline

/-- A node of an outline, with the scope around it and the number of scopes that open before it. -/
structure Site where
  kind : NodeKind
  inner : Outline
  outer : ScopeId
  next : Nat

protected def append : Outline → Outline → Outline
  | nil, o => o
  | leaf l rest, o => leaf l (rest.append o)
  | node kind inner rest, o => node kind inner (rest.append o)

instance : Append Outline := ⟨Outline.append⟩

/-- What the leaves have of a kind, in the order of the text. -/
def collect {α : Type} (f : Leaf → Option α) : Outline → List α
  | nil => []
  | leaf l rest => (f l).toList ++ rest.collect f
  | node _ inner rest => inner.collect f ++ rest.collect f

def tokens (o : Outline) : List BufferedToken := o.collect Leaf.token?

/-- Where something is declared under a name that is not in the text. -/
def placeholders (o : Outline) : List Nat := o.collect Leaf.placeholder?

/-- The tokens that declare or use something. -/
def names (o : Outline) : List BufferedToken := o.collect Leaf.name?

/-- A text declares and uses nothing, and no import is called in it. -/
structure Bare (o : Outline) : Prop where
  names : o.names = []
  calls : ∀ b ∈ o.tokens, b.token.type ≠ .keywordImport

/-- The number of scopes that are opened. -/
def scopeCount : Outline → Nat
  | nil => 0
  | leaf _ rest => rest.scopeCount
  | node kind inner rest => kind.scopeCount + inner.scopeCount + rest.scopeCount

/-- The scopes that are opened, in order. -/
def scopes (scope next : ScopeId) : Outline → List Scope
  | nil => []
  | leaf _ rest => rest.scopes scope next
  | node kind inner rest =>
    kind.opened scope ++ (inner.scopes (kind.inside scope next) (next + kind.scopeCount) ++
      rest.scopes scope (next + kind.scopeCount + inner.scopeCount))

/-- The leaves, each with the scope around it. -/
def leaves (scope next : ScopeId) : Outline → List (ScopeId × Leaf)
  | nil => []
  | leaf l rest => (scope, l) :: rest.leaves scope next
  | node kind inner rest =>
    inner.leaves (kind.inside scope next) (next + kind.scopeCount) ++
      rest.leaves scope (next + kind.scopeCount + inner.scopeCount)

def declarations (scope next : ScopeId) (o : Outline) : List Declaration :=
  (o.leaves scope next).filterMap fun l => l.2.declaration? l.1

def references (scope next : ScopeId) (o : Outline) : List Reference :=
  (o.leaves scope next).filterMap fun l => l.2.reference? l.1

/-- What is done in the parts that are not of a kind. -/
def effects (skipped : NodeKind → Bool) : Outline → List Effect
  | nil => []
  | leaf l rest => l.effect?.toList ++ rest.effects skipped
  | node kind inner rest =>
    (if skipped kind then [] else inner.effects skipped) ++ rest.effects skipped

/-- Whether the parser notices that something is done. -/
def isNoted (o : Outline) : Bool := (o.effects NodeKind.isDeferred).any Effect.isNoted

/-- All nodes. -/
def sites (scope next : ScopeId) : Outline → List Site
  | nil => []
  | leaf _ rest => rest.sites scope next
  | node kind inner rest =>
    ⟨kind, inner, scope, next⟩ ::
      (inner.sites (kind.inside scope next) (next + kind.scopeCount) ++
        rest.sites scope (next + kind.scopeCount + inner.scopeCount))

/-! ## Outlines in a row -/

variable (o o' : Outline) (scope next : ScopeId)

@[simp] theorem nil_append : nil ++ o = o := rfl

@[simp] theorem leaf_append (l : Leaf) (rest : Outline) : leaf l rest ++ o = leaf l (rest ++ o) :=
  rfl

@[simp] theorem node_append (kind : NodeKind) (inner rest : Outline) :
    node kind inner rest ++ o = node kind inner (rest ++ o) := rfl

@[simp] theorem append_nil : o ++ nil = o := by
  induction o with
  | nil => rfl
  | leaf l rest ih => rw [leaf_append, ih]
  | node kind inner rest _ ih => rw [node_append, ih]

theorem append_assoc (o'' : Outline) : o ++ o' ++ o'' = o ++ (o' ++ o'') := by
  induction o with
  | nil => rfl
  | leaf l rest ih => rw [leaf_append, leaf_append, leaf_append, ih]
  | node kind inner rest _ ih => rw [node_append, node_append, node_append, ih]

theorem collect_append {α : Type} (f : Leaf → Option α) :
    (o ++ o').collect f = o.collect f ++ o'.collect f := by
  induction o with
  | nil => rfl
  | leaf l rest ih => rw [leaf_append, collect, collect, ih, List.append_assoc]
  | node kind inner rest _ ih => rw [node_append, collect, collect, ih, List.append_assoc]

@[simp] theorem tokens_append : (o ++ o').tokens = o.tokens ++ o'.tokens := collect_append ..

@[simp] theorem placeholders_append : (o ++ o').placeholders = o.placeholders ++ o'.placeholders :=
  collect_append ..

theorem names_append : (o ++ o').names = o.names ++ o'.names := collect_append ..

variable {o o'} in
theorem Bare.append (h : o.Bare) (h' : o'.Bare) : (o ++ o').Bare where
  names := by rw [names_append, h.names, h'.names, List.nil_append]
  calls := by
    rw [tokens_append, List.forall_mem_append]
    exact ⟨h.calls, h'.calls⟩

@[simp] theorem tokens_nil : nil.tokens = [] := rfl

theorem tokens_node (kind : NodeKind) (inner rest : Outline) :
    (node kind inner rest).tokens = inner.tokens ++ rest.tokens := rfl

@[simp] theorem tokens_token (b : BufferedToken) (role : Role) (rest : Outline) :
    (leaf (.token b role) rest).tokens = b :: rest.tokens := rfl

@[simp] theorem tokens_placeholder (offset : Nat) (kind : DeclarationKind) (rest : Outline) :
    (leaf (.placeholder offset kind) rest).tokens = rest.tokens := rfl

@[simp] theorem scopeCount_append : (o ++ o').scopeCount = o.scopeCount + o'.scopeCount := by
  induction o with
  | nil => exact (Nat.zero_add _).symm
  | leaf l rest ih => rw [leaf_append, scopeCount, scopeCount, ih]
  | node kind inner rest _ ih => rw [node_append, scopeCount, scopeCount, ih, ← Nat.add_assoc]

/-- The scopes that the second of two outlines opens come after those of the first. -/
theorem scopes_append : (o ++ o').scopes scope next =
    o.scopes scope next ++ o'.scopes scope (next + o.scopeCount) := by
  induction o generalizing next with
  | nil => rfl
  | leaf l rest ih => rw [leaf_append, scopes, scopes, ih, scopeCount]
  | node kind inner rest _ ih =>
    rw [node_append, scopes, scopes, ih, scopeCount, List.append_assoc, List.append_assoc]
    simp only [Nat.add_assoc]

theorem leaves_append : (o ++ o').leaves scope next =
    o.leaves scope next ++ o'.leaves scope (next + o.scopeCount) := by
  induction o generalizing next with
  | nil => rfl
  | leaf l rest ih => rw [leaf_append, leaves, leaves, ih, scopeCount, List.cons_append]
  | node kind inner rest _ ih =>
    rw [node_append, leaves, leaves, ih, scopeCount, List.append_assoc]
    simp only [Nat.add_assoc]

theorem declarations_append : (o ++ o').declarations scope next =
    o.declarations scope next ++ o'.declarations scope (next + o.scopeCount) := by
  unfold declarations
  rw [leaves_append, List.filterMap_append]

theorem references_append : (o ++ o').references scope next =
    o.references scope next ++ o'.references scope (next + o.scopeCount) := by
  unfold references
  rw [leaves_append, List.filterMap_append]

theorem effects_append (skipped : NodeKind → Bool) :
    (o ++ o').effects skipped = o.effects skipped ++ o'.effects skipped := by
  induction o with
  | nil => rfl
  | leaf l rest ih => rw [leaf_append, effects, effects, ih, List.append_assoc]
  | node kind inner rest _ ih => rw [node_append, effects, effects, ih, List.append_assoc]

theorem isNoted_append : (o ++ o').isNoted = (o.isNoted || o'.isNoted) := by
  unfold isNoted
  rw [effects_append, List.any_append]

theorem sites_append : (o ++ o').sites scope next =
    o.sites scope next ++ o'.sites scope (next + o.scopeCount) := by
  induction o generalizing next with
  | nil => rfl
  | leaf l rest ih => rw [leaf_append, sites, sites, ih, scopeCount]
  | node kind inner rest _ ih =>
    rw [node_append, sites, sites, ih, scopeCount, List.cons_append, List.append_assoc]
    simp only [Nat.add_assoc]

theorem length_scopes : (o.scopes scope next).length = o.scopeCount := by
  induction o generalizing scope next with
  | nil => rfl
  | leaf l rest ih => exact ih scope next
  | node kind inner rest ihinner ih =>
    rw [scopes, List.length_append, List.length_append, kind.length_opened, ihinner, ih,
      scopeCount, Nat.add_assoc]

theorem filterMap_leaves {α : Type} (f : Leaf → Option α) :
    (o.leaves scope next).filterMap (fun l => f l.2) = o.collect f := by
  induction o generalizing scope next with
  | nil => rfl
  | leaf l rest ih =>
    rw [leaves, collect, ← ih scope next, List.filterMap_cons]
    cases f l with
    | none => rfl
    | some a => rfl
  | node kind inner rest ihinner ih =>
    rw [leaves, collect, List.filterMap_append, ihinner, ih]

/-! ## What declares and what is used -/

variable {o scope next} in
theorem token_mem_of_mem_leaves {own : ScopeId} {b : BufferedToken} {role : Role}
    (h : (own, .token b role) ∈ o.leaves scope next) : b ∈ o.tokens := by
  unfold tokens
  rw [← filterMap_leaves o scope next, List.mem_filterMap]
  exact ⟨_, h, rfl⟩

variable {o scope next} in
theorem mem_names_of_mem_leaves {own : ScopeId} {l : Leaf} {b : BufferedToken}
    (h : (own, l) ∈ o.leaves scope next) (hl : l.name? = some b) : b ∈ o.names := by
  unfold names
  rw [← filterMap_leaves o scope next, List.mem_filterMap]
  exact ⟨(own, l), h, hl⟩

variable {o} in
theorem mem_tokens_of_mem_names {b : BufferedToken} (h : b ∈ o.names) : b ∈ o.tokens := by
  unfold names at h
  rw [← filterMap_leaves o 0 0, List.mem_filterMap] at h
  obtain ⟨⟨own, l⟩, hl, hname⟩ := h
  cases l with
  | token b' role =>
    have hb : b' = b := by
      cases role with
      | plain => cases hname
      | declares | uses => exact Option.some.inj hname
    exact hb ▸ token_mem_of_mem_leaves hl
  | placeholder | effect => cases hname

variable {o scope next} in
/-- A token spells what is declared, or it has a name that is not in the text. -/
theorem spelled_of_mem_declarations {d : Declaration} (h : d ∈ o.declarations scope next) :
    (∃ b ∈ o.tokens, d.span = b.token.span ∧ d.name = decodeName b.token.text) ∨
      ∃ offset ∈ o.placeholders, d.span = .point offset ∧ d.name = defaultBinding := by
  obtain ⟨⟨own, l⟩, hl, hd⟩ := List.mem_filterMap.mp h
  rcases Leaf.eq_of_declaration? hd with ⟨b, _, _, rfl, rfl⟩ | ⟨offset, _, rfl, rfl⟩
  · exact .inl ⟨b, token_mem_of_mem_leaves hl, rfl, rfl⟩
  · refine .inr ⟨offset, ?_, rfl, rfl⟩
    unfold placeholders
    rw [← filterMap_leaves o scope next, List.mem_filterMap]
    exact ⟨_, hl, rfl⟩

variable {o scope next} in
/-- A token spells what is used. -/
theorem spelled_of_mem_references {r : Reference} (h : r ∈ o.references scope next) :
    ∃ b ∈ o.tokens, r.span = b.token.span ∧ r.name = decodeName b.token.text := by
  obtain ⟨⟨own, l⟩, hl, hr⟩ := List.mem_filterMap.mp h
  obtain ⟨b, _, rfl, rfl⟩ := Leaf.eq_of_reference? hr
  exact ⟨b, token_mem_of_mem_leaves hl, rfl, rfl⟩

/-! ## One node -/

theorem isNoted_node (kind : NodeKind) :
    (node kind o nil).isNoted = (!kind.isDeferred && o.isNoted) := by
  unfold isNoted
  rw [effects, effects, List.append_nil]
  cases kind.isDeferred with
  | true => rfl
  | false => rfl

end Outline
end ModuleBundler
