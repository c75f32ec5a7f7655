import ModuleBundler.Proofs.Ending.Module

/-!
# Parsing ends

* `Production` : the readers that the grammar is made of, wherever they are called;
* `Production.advances` : one that succeeds reads some tokens, each of them with a text;
* `parsing_ends` : so every loop of the parser comes to an end by itself.
-/

namespace ModuleBundler

open Phrase

/-- The readers that the grammar is made of, by what they give. -/
inductive Production : Type → Type
  | expression : Production Expr
  | assignExpr : Production Expr
  | unaryExpr : Production Expr
  | lhsExpr : Production Expr
  | statement : Production Bool
  | pattern (kind : DeclarationKind) : Production Unit
  | propertyKey : Production PropertyKey
  | classMember : Production Unit
  | objectMember : Production Unit
  | moduleItem : Production Unit

namespace Production

variable {α : Type} {source : String}

/-- Reads over the grammar of what nests. -/
def read (g : Grammar) (ctx : Context) : Production α → Parse α
  | expression => ModuleBundler.expression g ctx
  | assignExpr => g.assignExpr ctx
  | unaryExpr => g.unaryExpr ctx
  | lhsExpr => g.lhsExpr ctx
  | statement => g.statement ctx
  | pattern kind => g.pattern ctx kind
  | propertyKey => ModuleBundler.propertyKey g ctx
  | classMember => ModuleBundler.classMember g ctx
  | objectMember => ModuleBundler.objectMember g ctx
  | moduleItem => ModuleBundler.moduleItem g ctx

/-- What is recorded of an item, before and after it is read, changes no token. -/
theorem advances_moduleItem {g : Grammar} (hg : g.Conforms) (ctx : Context) {s : ParserState}
    (hs : s.Steady) : Answers s (ModuleBundler.moduleItem g ctx) fun _ s' => Advances s s' := by
  refine Answers.bind (hs.unread_peekIn (by decide)) fun first s₁ ⟨hunread, _⟩ => ?_
  refine answers_modify.bind fun _ s₂ hs₂ => ?_
  refine answers_declarationCount.bind fun _ s₃ ⟨_, hs₃⟩ => ?_
  refine answers_referenceCount.bind fun _ s₄ ⟨_, hs₄⟩ => ?_
  subst hs₂ hs₃ hs₄
  have hsteady : ParserState.Steady { s₁ with sideEffects := false } :=
    ⟨hunread.steady.chained, hunread.steady.ahead⟩
  refine (itemParsed_moduleItemBody hg ctx first hsteady).bind fun (kind, missing) s₅ hitem => ?_
  refine answers_modify.mono fun _ s₆ hs₆ => ?_
  have hadvances := hitem.parsed.advances hsteady rfl rfl
  exact hadvances.ofTokens hunread.behind.symm (congrArg ParserState.tokens hs₆ ▸ rfl)

theorem advances {g : Grammar} (hg : g.Conforms) (ctx : Context) (p : Production α)
    {s : ParserState} (hs : s.Steady) : Answers s (p.read g ctx) fun _ s' => Advances s s' := by
  cases p with
  | expression => exact Parses.advances (parses_expression hg ctx hs) hs fun _ => ⟨rfl, rfl⟩
  | assignExpr => exact Parses.advances (hg.assignExpr ctx hs) hs fun _ => ⟨rfl, rfl⟩
  | unaryExpr => exact Parses.advances (hg.unaryExpr ctx hs) hs fun _ => ⟨rfl, rfl⟩
  | lhsExpr => exact Parses.advances (hg.lhsExpr ctx hs) hs fun _ => ⟨rfl, rfl⟩
  | statement => exact Parses.advances (hg.statement ctx hs) hs fun _ => ⟨rfl, rfl⟩
  | pattern kind => exact Parses.advances (hg.pattern ctx kind hs) hs fun _ => ⟨rfl, rfl⟩
  | propertyKey => exact Parses.advances (parses_propertyKey hg ctx hs) hs fun _ => ⟨rfl, rfl⟩
  | classMember => exact Parses.advances (parses_classMember hg ctx hs) hs fun _ => ⟨rfl, rfl⟩
  | objectMember => exact Parses.advances (parses_objectMember hg ctx hs) hs fun _ => ⟨rfl, rfl⟩
  | moduleItem => exact advances_moduleItem hg ctx hs

theorem ends {g : Grammar} (hg : g.Ending source) (ctx : Context) (p : Production α) :
    Ends source (p.read g ctx) := by
  cases p with
  | expression => exact ends_expression hg ctx
  | assignExpr => exact hg.assignExpr ctx
  | unaryExpr => exact hg.unaryExpr ctx
  | lhsExpr => exact hg.lhsExpr ctx
  | statement => exact hg.statement ctx
  | pattern kind => exact hg.pattern ctx kind
  | propertyKey => exact ends_propertyKey hg ctx
  | classMember => exact ends_classMember hg ctx
  | objectMember => exact ends_objectMember hg ctx
  | moduleItem => exact ends_moduleItem hg ctx

end Production

/-- **Every production that succeeds reads on, so parsing ends.**

A token is not empty unless it is the end of the text or none at all. Wherever the parser of a text
can be and whatever nests how deep, each production that succeeds has read at least one token, none
of them the end of the text or none at all, and where the last token ends is further on.

So every loop of the parser comes to an end by itself, in a production, in the items of a module and
in what is only tried to tell whether an arrow function follows: from wherever the parser can be,
its rounds come to what the loop gives. The guard of `loop` never stops one: wherever such a reader
is started it goes on in the text, or it fails for another reason, and so does a whole module. -/
theorem parsing_ends (source : String) :
    (∀ (mode : LexMode) (place : Cursor), (nextToken mode place).1.type.IsProper →
      (nextToken mode place).1.span.start < (nextToken mode place).1.span.stop) ∧
    (∀ (depth : Nat) (ctx : Context) {α : Type} (p : Production α) {s s' : ParserState} {a : α},
      s.tokens.Reached source → p.read (.ofDepth depth) ctx s = .ok (a, s') → Advances s s') ∧
    (∀ (depth : Nat) (ctx : Context) {α : Type} (p : Production α),
      Ends source (p.read (.ofDepth depth) ctx)) ∧
    (∀ (depth : Nat) (ctx : Context), Ends source (arrowHead (.ofDepth depth) ctx) ∧
      Ends source (functionParameters (.ofDepth depth) ctx)) ∧
    Ends source (moduleRest moduleGrammar .module) ∧
    (∀ {α : Type} {reader : Parse α} {s : ParserState}, Ends source reader →
      s.tokens.Reached source → Proceeds source s (reader s)) ∧
    ∀ e, parseModule source = .error e → ¬ e.IsStall := by
  have hrest : Ends source (moduleRest moduleGrammar .module) :=
    ends_moduleRest (Grammar.ending_ofDepth maxNesting) .module
  refine ⟨fun mode place h => nextToken_lt h.1 h.2, fun depth ctx α p s s' a hs heq => ?_,
    fun depth ctx α p => p.ends (Grammar.ending_ofDepth depth) ctx, fun depth ctx => ⟨?_, ?_⟩,
    hrest, fun hends hs => hends.proceeds hs, fun e he => ?_⟩
  · exact p.advances (Grammar.conforms_ofDepth depth) ctx (steady_of_reached hs) heq
  · exact ends_arrowHead (Grammar.ending_ofDepth depth) ctx
  · exact ends_functionParameters (Grammar.ending_ofDepth depth) ctx
  · have hproceeds := hrest.proceeds (s := .ofString source) .start
    unfold parseModule at he
    cases hread : moduleRest moduleGrammar .module (.ofString source) with
    | error problem =>
      rw [hread] at he hproceeds
      cases he
      exact hproceeds
    | ok answer =>
      rw [hread] at he
      cases he

/-- A call with a template among its arguments goes past the text up to the semicolon after it. -/
theorem call_advances : ∃ missing s', Production.statement.read (.ofDepth 999) .module
    (.ofString "f(\x60a$\x7bx\x7d\x60, ...y);") = .ok (missing, s') ∧
      Advances (.ofString "f(\x60a$\x7bx\x7d\x60, ...y);") s' := by
  have hread : (Production.statement.read (.ofDepth 999) .module
      (.ofString "f(\x60a$\x7bx\x7d\x60, ...y);")).toOption.isSome = true := by decide +kernel
  cases h : Production.statement.read (.ofDepth 999) .module
      (.ofString "f(\x60a$\x7bx\x7d\x60, ...y);") with
  | error e =>
    rw [h] at hread
    cases hread
  | ok answer =>
    exact ⟨answer.1, answer.2, rfl, (parsing_ends _).2.1 999 .module .statement .start h⟩

end ModuleBundler
