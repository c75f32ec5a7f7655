import ModuleBundler.Proofs.Syntax.Rules
import ModuleBundler.Proofs.TokenChain

/-!
# Outlines that are found by search

* `Phrase.readings`, `readingsWithin` : the outlines of a form that some tokens begin with, found by
  trying everything down to some depth;
* `Phrase.of_mem_readings` : each of them is one by the rules of the grammar;
* `standardTokens` : the tokens of a text in which a slash always divides;
* `Phrase.of_mem_readings_text` : what is found of all the tokens of a text is an outline of it.

The search tells of a given text what may be read in it. It knows nothing of the parser.
-/

namespace ModuleBundler

open TokenStream (readAt)

/-- An outline of the first of some tokens, with the tokens after them. -/
abbrev Reading := Outline × List BufferedToken

/-- Up to `count` more outlines after one that has been read. -/
def readMany (item : List BufferedToken → List Reading) : Nat → Reading → List Reading
  | 0, read => [read]
  | count + 1, read =>
    read :: (item read.2).flatMap fun next => readMany item count (read.1 ++ next.1, next.2)

namespace Phrase

/-- The outlines of a form that some tokens begin with. What is declared without a name is so at the
start of the text. -/
def readings (nested : Nonterminal → List BufferedToken → List Reading) (count : Nat) :
    Phrase → List BufferedToken → List Reading
  | empty => fun tokens => [(.nil, tokens)]
  | token accepts role => fun tokens =>
    match tokens with
    | [] => []
    | b :: rest => if accepts b.token.type then [(.leaf (.token b role) .nil, rest)] else []
  | placeholder kind => fun tokens => [(.leaf (.placeholder 0 kind) .nil, tokens)]
  | effect e => fun tokens => [(.leaf (.effect e) .nil, tokens)]
  | rule n => nested n
  | node kind inner => fun tokens =>
    (inner.readings nested count tokens).map fun read => (.node kind read.1 .nil, read.2)
  | seq first rest => fun tokens =>
    (first.readings nested count tokens).flatMap fun read =>
      (rest.readings nested count read.2).map fun next => (read.1 ++ next.1, next.2)
  | or left right => fun tokens =>
    left.readings nested count tokens ++ right.readings nested count tokens
  | many item => fun tokens => readMany (item.readings nested count) count (.nil, tokens)

end Phrase

/-- The same for the forms that nest in each other, up to a depth. -/
def readingsWithin (rules : Rules) : Nat → Nonterminal → List BufferedToken → List Reading
  | 0, _, _ => []
  | depth + 1, n, tokens => (rules n).readings (readingsWithin rules depth) depth tokens

/-! ## What is found is so by the rules -/

variable {rules : Rules}

/-- What was read of some tokens is of a form. -/
structure Reading.Of (rules : Rules) (p : Phrase) (tokens : List BufferedToken)
    (read : Reading) : Prop where
  derives : Derives rules p read.1
  tokens : tokens = read.1.tokens ++ read.2

theorem Reading.Of.seq {first rest : Phrase} {tokens : List BufferedToken} {read next : Reading}
    (h : read.Of rules first tokens) (h' : next.Of rules rest read.2) :
    Reading.Of rules (.seq first rest) tokens (read.1 ++ next.1, next.2) where
  derives := .seq h.derives h'.derives
  tokens := by rw [h.tokens, h'.tokens, Outline.tokens_append, List.append_assoc]

/-- So is what comes of going on with more items. -/
theorem Reading.Of.of_mem_readMany {item : Phrase} {each : List BufferedToken → List Reading}
    (heach : ∀ tokens, ∀ next ∈ each tokens, next.Of rules item tokens) {count : Nat}
    {tokens : List BufferedToken} {read found : Reading} (h : read.Of rules (.many item) tokens)
    (hfound : found ∈ readMany each count read) : found.Of rules (.many item) tokens := by
  induction count generalizing read with
  | zero =>
    obtain rfl := List.mem_singleton.mp hfound
    exact h
  | succ count ih =>
    rcases List.mem_cons.mp hfound with rfl | hfound
    · exact h
    · obtain ⟨next, hnext, hfound⟩ := List.mem_flatMap.mp hfound
      have hmore := heach read.2 next hnext
      refine ih ⟨.more h.derives hmore.derives, ?_⟩ hfound
      rw [h.tokens, hmore.tokens, Outline.tokens_append, List.append_assoc]

theorem Phrase.of_mem_readings {nested : Nonterminal → List BufferedToken → List Reading}
    (hnested : ∀ n tokens, ∀ read ∈ nested n tokens, read.Of rules (.rule n) tokens) {count : Nat}
    (p : Phrase) : ∀ tokens, ∀ read ∈ p.readings nested count tokens, read.Of rules p tokens := by
  induction p with
  | empty =>
    intro tokens read hread
    obtain rfl := List.mem_singleton.mp hread
    exact ⟨.empty, rfl⟩
  | token accepts role =>
    intro tokens read hread
    cases tokens with
    | nil => cases hread
    | cons b rest =>
      unfold readings at hread
      dsimp only at hread
      split at hread
      · rename_i haccepted
        obtain rfl := List.mem_singleton.mp hread
        exact ⟨.token haccepted, rfl⟩
      · cases hread
  | placeholder kind =>
    intro tokens read hread
    obtain rfl := List.mem_singleton.mp hread
    exact ⟨.placeholder 0 kind, rfl⟩
  | effect e =>
    intro tokens read hread
    obtain rfl := List.mem_singleton.mp hread
    exact ⟨.effect e, rfl⟩
  | rule n => exact hnested n
  | node kind inner ih =>
    intro tokens _ hread
    obtain ⟨read, hinner, rfl⟩ := List.mem_map.mp hread
    obtain ⟨hderives, htokens⟩ := ih tokens read hinner
    refine ⟨.node hderives, ?_⟩
    rw [Outline.tokens_node, Outline.tokens_nil, List.append_nil]
    exact htokens
  | seq first rest ihfirst ihrest =>
    intro tokens _ hread
    obtain ⟨read, hfirst, hmap⟩ := List.mem_flatMap.mp hread
    obtain ⟨next, hnext, rfl⟩ := List.mem_map.mp hmap
    exact (ihfirst tokens read hfirst).seq (ihrest read.2 next hnext)
  | or left right ihleft ihright =>
    intro tokens read hread
    rcases List.mem_append.mp hread with hread | hread
    · obtain ⟨hderives, htokens⟩ := ihleft tokens read hread
      exact ⟨.left hderives, htokens⟩
    · obtain ⟨hderives, htokens⟩ := ihright tokens read hread
      exact ⟨.right hderives, htokens⟩
  | many item ih => exact fun tokens read hread => .of_mem_readMany ih ⟨.none, rfl⟩ hread

theorem of_mem_readingsWithin {depth : Nat} : ∀ n tokens,
    ∀ read ∈ readingsWithin rules depth n tokens, read.Of rules (.rule n) tokens := by
  induction depth with
  | zero => exact fun _ _ _ h => nomatch h
  | succ depth ih =>
    intro n tokens read hread
    obtain ⟨hderives, htokens⟩ := (rules n).of_mem_readings ih tokens read hread
    exact ⟨.rule hderives, htokens⟩

/-! ## Tokens of a text -/

/-- The tokens of a text from a place on, up to `count`, as those of a text in which a slash always
divides. -/
def standardTokens : Nat → Cursor → List BufferedToken
  | 0, _ => []
  | count + 1, place =>
    let next := readAt .standard place
    if next.token.type = .eof then [] else next :: standardTokens count next.after

theorem readFrom_standardTokens (count : Nat) (place : Cursor) :
    ReadFrom place (standardTokens count place) := by
  induction count generalizing place with
  | zero => exact trivial
  | succ count ih =>
    unfold standardTokens
    dsimp only
    split
    · exact trivial
    · exact ⟨rfl, ih _⟩

/-- What is found of all the tokens of a text is an outline of the text. -/
theorem Phrase.of_mem_readings_text {source : String} {p : Phrase} {depth count : Nat}
    {read : Reading} (h : read ∈ p.readings (readingsWithin rules depth) depth
      (standardTokens count (.ofString source))) (hall : read.2.isEmpty = true) :
    Derives rules p read.1 ∧ read.1.tokens = standardTokens count (.ofString source) ∧
      ReadFrom (.ofString source) read.1.tokens := by
  obtain ⟨hderives, htokens⟩ := p.of_mem_readings of_mem_readingsWithin _ _ h
  rw [List.isEmpty_iff.mp hall, List.append_nil] at htokens
  refine ⟨hderives, htokens.symm, ?_⟩
  rw [← htokens]
  exact readFrom_standardTokens _ _

end ModuleBundler
