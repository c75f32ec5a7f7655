import ModuleBundler.Grammar.Nesting

/-!
# Imports and exports

* `importDeclaration`, `exportDeclaration` : the items that tie modules together;
* `moduleRequest` : the specifier of another module, with the attributes after it;
* `exportDefault` : a default export, of a declaration or an expression.
-/

namespace ModuleBundler

/-- A name in a list of imports or exports: any word, or a string. -/
structure ModuleExportName where
  name : String
  span : Span
  /-- It could also be the name of a variable. -/
  isIdentifier : Bool

def moduleExportName : Parse ModuleExportName := do
  let t ← consume
  if t.type = .literalString then
    match decodeString t.text with
    | some name => pure ⟨name, t.span, false⟩
    | none => t.fail .invalidToken
  else if t.type.isIdentifierName then pure ⟨decodeName t.text, t.span, t.type.isIdentifier⟩
  else t.fail (.expected "import or export name")

/-- An attribute of an import: a name and a string. -/
def importAttribute : Parse Unit := do
  let _ ← moduleExportName
  let _ ← require .colon
  let _ ← require .literalString

/-- Reads the specifier of a module and the attributes after it, and answers the index of the
request. -/
def moduleRequest : Parse Nat := do
  let t ← require .literalString
  match decodeString t.text with
  | none => t.fail .invalidToken
  | some specifier =>
    let (a, b) ← peek2
    let hasAttributes :=
      !a.afterLineBreak && b.type = .braceOpen &&
        (a.type = .keywordWith || (a.type = .identifier && a.text = "assert"))
    if hasAttributes then
      let _ ← consume
      let _ ← consume
      separatedList .comma .braceClose importAttribute
    let s ← get
    set { s with requests := s.requests.push ⟨specifier, t.span⟩ }
    pure s.requests.size

/-! ## Imports -/

/-- Reads the name that an import is bound to and declares it. -/
def importBinding (ctx : Context) (imported : Imported) : Parse ImportSpecifier := do
  let (name, span) ← bindingIdentifier
  declare ctx name span .imported false
  pure ⟨imported, name, span⟩

/-- One name in a list of imports, with another name for it after `as`. -/
def importSpecifier (ctx : Context) : Parse ImportSpecifier := do
  let imported ← moduleExportName
  if ← consumeIf .keywordAs then importBinding ctx (.name imported.name)
  else if imported.isIdentifier then
    declare ctx imported.name imported.span .imported false
    pure ⟨.name imported.name, imported.name, imported.span⟩
  else imported.span.fail (.missingToken .keywordAs)

/-- Items with commas between them up to a closing brace, in order. -/
def bracedList {α : Type} (item : Parse α) : Parse (List α) :=
  loop (fun (read : List α) => do
    if ← consumeIf .braceClose then pure (.done read)
    else
      let next ← item
      if ← consumeIf .comma then pure (.again (read ++ [next]))
      else
        let _ ← require .braceClose
        pure (.done (read ++ [next]))) []

/-- Reads a namespace import or a list of imports. -/
def importClause (ctx : Context) : Parse (List ImportSpecifier) := do
  if ← consumeIf .asterisk then
    let _ ← require .keywordAs
    let specifier ← importBinding ctx .all
    pure [specifier]
  else
    let _ ← require .braceOpen
    bracedList (importSpecifier ctx)

/-- Reads what an import declaration binds, up to and with `from`. -/
def importClauses (ctx : Context) : Parse (List ImportSpecifier) := do
  let t ← peek
  let specifiers ←
    if t.type.isIdentifier then do
      let first ← importBinding ctx (.name "default")
      if ← consumeIf .comma then
        let rest ← importClause ctx
        pure (first :: rest)
      else pure [first]
    else importClause ctx
  let _ ← require .keywordFrom
  pure specifiers

/-- Reads an import declaration. -/
def importDeclaration (ctx : Context) : Parse (ItemKind × Bool) := do
  let _ ← require .keywordImport
  let t ← peek
  let specifiers ← if t.type = .literalString then pure [] else importClauses ctx
  let request ← moduleRequest
  let missing ← requireSemicolon
  modify fun s => { s with imports := s.imports.push ⟨request, specifiers⟩ }
  pure (.importDeclaration, missing)

/-! ## Exports -/

def addExport (specifier : ExportSpecifier) : Parse Unit :=
  modify fun s => { s with exports := s.exports.push specifier }

/-- Reads an export of everything from another module, under a name or one by one. -/
def exportStar : Parse (ItemKind × Bool) := do
  let _ ← consume
  if ← consumeIf .keywordAs then
    let exported ← moduleExportName
    let _ ← require .keywordFrom
    let request ← moduleRequest
    addExport ⟨exported.name, exported.span, .reexport request .all⟩
  else
    let _ ← require .keywordFrom
    let request ← moduleRequest
    modify fun s => { s with starExports := s.starExports.push request }
  let missing ← requireSemicolon
  pure (.exportFrom, missing)

/-- A name in a list of exports and the name that it is exported as. -/
def exportListItem : Parse (ModuleExportName × ModuleExportName) := do
  let name ← moduleExportName
  if ← consumeIf .keywordAs then
    let exported ← moduleExportName
    pure (name, exported)
  else pure (name, name)

/-- Records exports of the module's own variables. Only names of variables can be among them. -/
def addOwnExports : List (ModuleExportName × ModuleExportName) → Parse Unit
  | [] => pure ()
  | (name, exported) :: rest => do
    if name.isIdentifier then
      addExport ⟨exported.name, exported.span, .binding name.name⟩
      addOwnExports rest
    else name.span.fail (.expected "local binding name")

/-- Records exports of what another module exports. -/
def addReexports (request : Nat) : List (ModuleExportName × ModuleExportName) → Parse Unit
  | [] => pure ()
  | (name, exported) :: rest => do
    addExport ⟨exported.name, exported.span, .reexport request (.name name.name)⟩
    addReexports request rest

/-- Reads a list of exports, of the module's own variables or from another module. -/
def exportList : Parse (ItemKind × Bool) := do
  let _ ← consume
  let names ← bracedList exportListItem
  if ← consumeIf .keywordFrom then
    let request ← moduleRequest
    addReexports request names
    let missing ← requireSemicolon
    pure (.exportFrom, missing)
  else
    addOwnExports names
    let missing ← requireSemicolon
    pure (.exportList, missing)

/-- The exports that declarations make: one for each that stands directly in the module. -/
def declaredExports (declarations : List Declaration) : List ExportSpecifier :=
  (declarations.filter fun d => d.scope = moduleScope && d.kind ≠ .imported).map fun d =>
    ⟨d.name, d.span, .binding d.name⟩

/-- Reads a declaration after `export` and exports what it declares. -/
def exportedDeclaration (g : Grammar) (ctx : Context) (strip : Span) :
    Parse (ItemKind × Bool) := do
  let start ← declarationCount
  let missing ← g.statement ctx
  modify fun s =>
    let added := s.declarations.toList.drop start
    { s with exports := s.exports ++ (declaredExports added).toArray }
  pure (.exportDeclaration strip, missing)

/-- Reads a function or class after `export default`. Without a name it is bound to the name of
default exports. -/
def defaultDefinition (g : Grammar) (ctx : Context) (isFunction : Bool) : Parse Definition := do
  let definition ←
    if isFunction then function g ctx .defaultExport else classDefinition g ctx .defaultExport
  if definition.name.isNone then
    declare ctx defaultBinding (.point definition.nameAt)
      (if isFunction then .function else .classDecl) false
  pure definition

/-- Whether a function stands here, which begins with the next token. -/
def functionAhead (next : Token) : Parse Bool :=
  if next.type = .keywordFunction then pure true
  else if next.type = .keywordAsync then declarationAhead
  else pure false

/-- Reads a default export from the word `default` on. -/
def exportDefault (g : Grammar) (ctx : Context) (keyword : Span) : Parse (ItemKind × Bool) := do
  let word ← consume
  let next ← peekIn .slashIsRegex
  let strip : Span := ⟨keyword.start, next.span.start⟩
  let isFunction ← functionAhead next
  if isFunction || next.type = .keywordClass then
    let definition ← defaultDefinition g ctx isFunction
    let name := (definition.name.map Prod.fst).getD defaultBinding
    addExport ⟨"default", word.span, .binding name⟩
    let nameAt := if definition.name.isNone then some definition.nameAt else none
    pure (.exportDefaultDeclaration strip nameAt, false)
  else
    declare ctx defaultBinding (.point strip.stop) .const false
    let e ← g.assignExpr (ctx.withIn true)
    let missing ← requireSemicolon
    addExport ⟨"default", word.span, .binding defaultBinding⟩
    pure (.exportDefaultExpression strip e.span, missing)

/-- Reads an export declaration. -/
def exportDeclaration (g : Grammar) (ctx : Context) : Parse (ItemKind × Bool) := do
  let keyword ← require .keywordExport
  let t ← peek
  match t.type with
  | .keywordDefault => exportDefault g ctx keyword.span
  | .asterisk => exportStar
  | .braceOpen => exportList
  | _ =>
    if ← declarationAhead then
      exportedDeclaration g ctx ⟨keyword.span.start, t.span.start⟩
    else t.fail (.expected "exportable declaration or export list")

end ModuleBundler
