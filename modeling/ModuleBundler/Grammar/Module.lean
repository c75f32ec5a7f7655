import ModuleBundler.Grammar.ImportExport

/-!
# Modules

* `moduleItem` : one item at the top level;
* `moduleRest` : items to the end of the text, and the names in them bound;
* `parseModule` : the record of a module text.
-/

namespace ModuleBundler

/-- Reads one item, which is a declaration that ties modules together, or a statement. -/
def moduleItemBody (g : Grammar) (ctx : Context) (first : Token) : Parse (ItemKind × Bool) := do
  let isImport ←
    if first.type = .keywordImport then do
      let (_, next) ← peek2
      pure (next.type ≠ .parenthesisOpen && next.type ≠ .dot)
    else pure false
  if isImport then importDeclaration ctx
  else if first.type = .keywordExport then exportDeclaration g ctx
  else
    let isDeclaration ← declarationAhead
    let missing ← g.statement ctx
    pure (if isDeclaration then .declaration else .statement, missing)

/-- Reads one item and records it. -/
def moduleItem (g : Grammar) (ctx : Context) : Parse Unit := do
  let first ← peekIn .slashIsRegex
  modify fun s => { s with sideEffects := false }
  let declarations ← declarationCount
  let references ← referenceCount
  let (kind, missingSemicolon) ← moduleItemBody g ctx first
  modify fun s =>
    { s with
      items := s.items.push {
        span := ⟨first.span.start, s.tokens.lastEnd⟩
        kind
        missingSemicolon
        hasSideEffects := s.sideEffects
        declarations := ⟨declarations, s.declarations.size⟩
        references := ⟨references, s.references.size⟩ } }

/-- Reads items to the end of the text and binds the names in them. -/
def moduleRest (g : Grammar) (ctx : Context) : Parse ModuleRecord := do
  loopWhile do
    let t ← peek
    if t.type = .eof then pure false
    else
      moduleItem g ctx
      pure true
  let _ ← require .eof
  let s ← get
  let scopes ← ScopeTree.build s.scopes s.declarations s.references
  pure {
    items := s.items
    requests := s.requests
    imports := s.imports
    exports := s.exports
    starExports := s.starExports
    dynamicImports := s.dynamicImports
    scopes
    tokenStarts := s.tokens.tokenStarts }

/-- The record of a module text, or why it is none. -/
def parseModule (source : String) : Except SyntaxError ModuleRecord :=
  (moduleRest moduleGrammar .module (.ofString source)).map Prod.fst

end ModuleBundler
