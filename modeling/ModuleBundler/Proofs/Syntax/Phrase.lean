import ModuleBundler.Proofs.Syntax.Outline

/-!
# Phrases

* `Phrase` : what a text of some form is made of, `Nonterminal` the forms that nest in each other;
* `Derives` : an outline is that of a text of the form of a phrase, by the rules of a grammar;
* `Derives.tokens_ne_nil` : a phrase that is not nullable has a token;
* `Derives.all_tokens`, `Derives.placeholders_eq_nil` : what holds of all tokens and declarations of
  a text, as it holds of those that the rules name.

A phrase says of each token what it declares or uses, of each part what it is, and what is done.
-/

namespace ModuleBundler

/-- The forms of text that nest in each other. -/
inductive Nonterminal where
  | assignment | unary | leftHandSide | new | pattern (kind : DeclarationKind) | statement
  deriving DecidableEq

/-- What a text of some form is made of. -/
inductive Phrase where
  | empty
  | token (accepts : TokenType → Bool) (role : Role)
  | placeholder (kind : DeclarationKind)
  | effect (effect : Effect)
  | rule (n : Nonterminal)
  | node (kind : NodeKind) (inner : Phrase)
  | seq (first rest : Phrase)
  | or (left right : Phrase)
  | many (item : Phrase)

namespace Phrase

/-- A token of one type. -/
def tok (type : TokenType) : Phrase := token (· = type) .plain

/-- A token of one of some types. -/
def word (accepts : TokenType → Bool) : Phrase := token accepts .plain

/-- One phrase after the other. -/
def row : List Phrase → Phrase
  | [] => empty
  | p :: rest => seq p (row rest)

/-- One of some phrases. -/
def oneOf : List Phrase → Phrase
  | [] => token (fun _ => false) .plain
  | p :: rest => or p (oneOf rest)

def optional (p : Phrase) : Phrase := or p empty

/-- Items with separators between them, up to and with a closing token. A separator may stand after
the last item. -/
def list (separator close : TokenType) (item : Phrase) : Phrase :=
  row [many (row [item, tok separator]), oneOf [tok close, row [item, tok close]]]

end Phrase

/-- The rules of a grammar: what a text of each form is made of. -/
abbrev Rules := Nonterminal → Phrase

/-- An outline is that of a text of the form of a phrase. -/
inductive Derives (rules : Rules) : Phrase → Outline → Prop where
  | empty : Derives rules .empty .nil
  | token {accepts : TokenType → Bool} {role : Role} {b : BufferedToken}
      (accepted : accepts b.token.type = true) :
      Derives rules (.token accepts role) (.leaf (.token b role) .nil)
  | placeholder (offset : Nat) (kind : DeclarationKind) :
      Derives rules (.placeholder kind) (.leaf (.placeholder offset kind) .nil)
  | effect (e : Effect) : Derives rules (.effect e) (.leaf (.effect e) .nil)
  | rule {n : Nonterminal} {o : Outline} (derives : Derives rules (rules n) o) :
      Derives rules (.rule n) o
  | node {kind : NodeKind} {inner : Phrase} {o : Outline} (derives : Derives rules inner o) :
      Derives rules (.node kind inner) (.node kind o .nil)
  | seq {first rest : Phrase} {o o' : Outline} (derives : Derives rules first o)
      (derives' : Derives rules rest o') : Derives rules (.seq first rest) (o ++ o')
  | left {left right : Phrase} {o : Outline} (derives : Derives rules left o) :
      Derives rules (.or left right) o
  | right {left right : Phrase} {o : Outline} (derives : Derives rules right o) :
      Derives rules (.or left right) o
  | none {item : Phrase} : Derives rules (.many item) .nil
  | more {item : Phrase} {o o' : Outline} (derives : Derives rules (.many item) o)
      (derives' : Derives rules item o') : Derives rules (.many item) (o ++ o')

/-! ## What holds of all texts -/

namespace Phrase

/-- Whether a text of the form may have no token. A text of a nonterminal has one. -/
def isNullable : Phrase → Bool
  | empty | placeholder _ | effect _ | many _ => true
  | token .. | rule _ => false
  | node _ inner => inner.isNullable
  | seq first rest => first.isNullable && rest.isNullable
  | or left right => left.isNullable || right.isNullable

/-- Whether no token of the phrase is the end of a text or none at all. -/
def isProper : Phrase → Bool
  | token accepts _ => !accepts .eof && !accepts .invalid
  | empty | placeholder _ | effect _ | rule _ => true
  | node _ inner => inner.isProper
  | seq first rest => first.isProper && rest.isProper
  | or left right => left.isProper && right.isProper
  | many item => item.isProper

/-- Whether all that the phrase declares is named in the text. -/
def isNamed : Phrase → Bool
  | placeholder _ => false
  | empty | token .. | effect _ | rule _ => true
  | node _ inner => inner.isNamed
  | seq first rest => first.isNamed && rest.isNamed
  | or left right => left.isNamed && right.isNamed
  | many item => item.isNamed

/-- Whether no token of the phrase declares or uses anything or is the word `import`. -/
def isBare : Phrase → Bool
  | token accepts role => role = .plain && !accepts .keywordImport
  | empty | placeholder _ | effect _ => true
  | rule _ => false
  | node _ inner => inner.isBare
  | seq first rest => first.isBare && rest.isBare
  | or left right => left.isBare && right.isBare
  | many item => item.isBare

end Phrase

/-- A text of one of some forms. -/
theorem Derives.oneOf {rules : Rules} {p : Phrase} {phrases : List Phrase} {o : Outline}
    (hp : p ∈ phrases) (h : Derives rules p o) : Derives rules (.oneOf phrases) o := by
  induction phrases with
  | nil => cases hp
  | cons first rest ih =>
    rcases List.mem_cons.mp hp with rfl | hp
    · exact .left h
    · exact .right (ih hp)

/-- A token with a text. -/
def TokenType.IsProper (type : TokenType) : Prop := type ≠ .eof ∧ type ≠ .invalid

namespace Derives

variable {rules : Rules} {p : Phrase} {o : Outline}

/-- A phrase that is not nullable has a token. -/
theorem tokens_ne_nil (hrules : ∀ n, (rules n).isNullable = false) (h : Derives rules p o)
    (hp : p.isNullable = false) : o.tokens ≠ [] := by
  induction h with
  | empty | placeholder | effect | none | more => cases hp
  | token => exact List.cons_ne_nil _ _
  | @rule n _ _ ih => exact ih (hrules n)
  | node _ ih =>
    rw [Outline.tokens_node]
    exact List.append_ne_nil_of_left_ne_nil (ih hp) _
  | seq _ _ ih ih' =>
    rw [Outline.tokens_append]
    rcases Bool.and_eq_false_iff.mp hp with hp | hp
    · exact List.append_ne_nil_of_left_ne_nil (ih hp) _
    · exact List.append_ne_nil_of_right_ne_nil _ (ih' hp)
  | left _ ih => exact ih (Bool.or_eq_false_iff.mp hp).1
  | right _ ih => exact ih (Bool.or_eq_false_iff.mp hp).2

/-- No token of a text is its end or none at all, if no rule asks for such. -/
theorem all_tokens (hrules : ∀ n, (rules n).isProper = true) (h : Derives rules p o)
    (hp : p.isProper = true) : ∀ b ∈ o.tokens, b.token.type.IsProper := by
  induction h with
  | empty | placeholder | effect | none => exact fun _ hb => nomatch hb
  | @token accepts _ b accepted =>
    intro b' hb'
    obtain rfl := List.mem_singleton.mp hb'
    simp only [Phrase.isProper, Bool.and_eq_true, Bool.not_eq_true'] at hp
    constructor
    · intro heq
      rw [heq, hp.1] at accepted
      cases accepted
    · intro heq
      rw [heq, hp.2] at accepted
      cases accepted
  | @rule n _ _ ih => exact ih (hrules n)
  | node _ ih =>
    rw [Outline.tokens_node, Outline.tokens_nil, List.append_nil]
    exact ih hp
  | seq _ _ ih ih' =>
    rw [Outline.tokens_append, List.forall_mem_append]
    obtain ⟨hp, hp'⟩ := Bool.and_eq_true_iff.mp hp
    exact ⟨ih hp, ih' hp'⟩
  | left _ ih => exact ih (Bool.and_eq_true_iff.mp hp).1
  | right _ ih => exact ih (Bool.and_eq_true_iff.mp hp).2
  | more _ _ ih ih' =>
    rw [Outline.tokens_append, List.forall_mem_append]
    exact ⟨ih hp, ih' hp⟩

/-- All that a text declares is named in it, if no rule says otherwise. -/
theorem placeholders_eq_nil (hrules : ∀ n, (rules n).isNamed = true) (h : Derives rules p o)
    (hp : p.isNamed = true) : o.placeholders = [] := by
  induction h with
  | empty | none | token | effect => rfl
  | placeholder => cases hp
  | @rule n _ _ ih => exact ih (hrules n)
  | node _ ih => exact List.append_eq_nil_iff.mpr ⟨ih hp, rfl⟩
  | seq _ _ ih ih' =>
    rw [Outline.placeholders_append]
    obtain ⟨hp, hp'⟩ := Bool.and_eq_true_iff.mp hp
    exact List.append_eq_nil_iff.mpr ⟨ih hp, ih' hp'⟩
  | left _ ih => exact ih (Bool.and_eq_true_iff.mp hp).1
  | right _ ih => exact ih (Bool.and_eq_true_iff.mp hp).2
  | more _ _ ih ih' =>
    rw [Outline.placeholders_append]
    exact List.append_eq_nil_iff.mpr ⟨ih hp, ih' hp⟩

/-- Nothing is declared, used or imported in a text of a bare phrase. -/
theorem bare (h : Derives rules p o) (hp : p.isBare = true) : o.Bare := by
  induction h with
  | empty | placeholder | effect | none => exact ⟨rfl, fun _ hb => nomatch hb⟩
  | @token accepts role b accepted =>
    obtain ⟨hrole, haccepts⟩ := Bool.and_eq_true_iff.mp hp
    obtain rfl := of_decide_eq_true hrole
    refine ⟨rfl, List.forall_mem_singleton.mpr fun htype => ?_⟩
    rw [← htype, accepted] at haccepts
    cases haccepts
  | rule => cases hp
  | node _ ih =>
    obtain ⟨hnames, hcalls⟩ := ih hp
    refine ⟨List.append_eq_nil_iff.mpr ⟨hnames, rfl⟩, ?_⟩
    rw [Outline.tokens_node, Outline.tokens_nil, List.append_nil]
    exact hcalls
  | seq _ _ ih ih' =>
    obtain ⟨hp, hp'⟩ := Bool.and_eq_true_iff.mp hp
    exact (ih hp).append (ih' hp')
  | left _ ih => exact ih (Bool.and_eq_true_iff.mp hp).1
  | right _ ih => exact ih (Bool.and_eq_true_iff.mp hp).2
  | more _ _ ih ih' => exact (ih hp).append (ih' hp)

end Derives
end ModuleBundler
