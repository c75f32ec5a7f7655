import ModuleBundler.Grammar.Statement

/-!
# Levels of nesting

* `Grammar.over` : one level more around a grammar;
* `Grammar.ofDepth` : a grammar for text that nests so deep and no deeper;
* `moduleGrammar` : the grammar of modules, with `maxNesting` levels.
-/

namespace ModuleBundler

/-- Deeper nesting of expressions, statements and patterns is refused. -/
def maxNesting : Nat := 1000

/-- The productions of a level, where what nests in them is read by the grammar of the next one. -/
def Grammar.over (g : Grammar) : Grammar where
  assignExpr := assignLevel g
  unaryExpr := unaryLevel g
  lhsExpr := lhsLevel g
  newExpr := newLevel g
  pattern := patternLevel g
  statement := statementLevel g

/-- The grammar of text that nests to a depth. -/
def Grammar.ofDepth : Nat → Grammar
  | 0 => .exhausted
  | depth + 1 => (Grammar.ofDepth depth).over

def moduleGrammar : Grammar := .ofDepth maxNesting

end ModuleBundler
