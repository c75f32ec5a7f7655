import ModuleBundler.Json.Value
import ModuleBundler.Naming
import ModuleBundler.SourceMap.Builder

/-!
# The code of a bundle

* `Edit` : a piece of a module's text and what takes its place;
* `Fragment` : a piece of code with the place it comes from; `itemFragments` : the code of an item;
* `Output` : code with the source map of it;
* `emit` : the code of a bundle: imports from outside, the objects that hold the exports of modules,
  the items of the modules in the order of their evaluation, and the exports of the entry.
-/

namespace ModuleBundler

/-! ## Names and texts -/

/-- A name in a list of imports or exports. What is no identifier is quoted. -/
def exportName (name : String) : String :=
  if isIdentifierName name.toList then name else quoteJson name

/-- The text up to an offset and the place there, if that is between characters. -/
def Cursor.split (c : Cursor) (stop : Nat) : Except CompileError (String × Cursor) :=
  let next := c.advanceTo stop
  if c.offset ≤ stop ∧ next.offset = stop then .ok (c.textUpTo stop, next)
  else .error (.internal .outOfRange)

/-- The text of a module at a span. -/
def SourceModule.textAt (m : SourceModule) (span : Span) : Except CompileError String := do
  let (_, start) ← (Cursor.ofString m.source).split span.start
  let (text, _) ← start.split span.stop
  pure text

/-- The name of a variable of the bundle. -/
def Names.nameOf (n : Names) (slot : Slot) : Except CompileError String :=
  match n.get? slot with
  | some name => .ok name
  | none => .error (.internal (.unnamed slot.describe))

/-! ## Edits -/

/-- What takes the place of a piece of a module's text. -/
structure Edit where
  span : Span
  text : String
  /-- The name that the text replaces, if it does replace a name. -/
  name : Option String
  deriving DecidableEq

namespace Edit

/-- Leaves a piece out. -/
def delete (span : Span) : Edit := ⟨span, "", none⟩

/-- Whether an edit begins before another, or with it and ends no later. -/
def before (a b : Edit) : Bool :=
  a.span.start < b.span.start || (a.span.start = b.span.start && a.span.stop ≤ b.span.stop)

end Edit

/-- Writes the new name of a variable where the module has another one. A shorthand property keeps
its name and gets the variable as its value. -/
def SourceModule.rename (m : SourceModule) (span : Span) (shorthand : Bool) (old new : String) :
    Except CompileError (Option Edit) := do
  let written ← m.textAt span
  if new = written then pure none
  else pure (some ⟨span, if shorthand then written ++ ": " ++ new else new, some old⟩)

/-- Renames a reference. -/
def referenceEdit? (l : Linkage) (n : Names) (m : SourceModule) (index reference : Nat) :
    Except CompileError (Option Edit) :=
  match l.referenceSlot m index reference, m.record.scopes.references[reference]? with
  | some slot, some r => do
    let name ← n.nameOf slot
    m.rename r.span r.shorthand r.name name
  | some _, none => .error (.internal .outOfRange)
  | none, _ => .ok none

/-- Renames a declaration of a variable of the module. -/
def declarationEdit? (n : Names) (m : SourceModule) (index declaration : Nat) :
    Except CompileError (Option Edit) :=
  let scopes := m.record.scopes
  match scopes.ofDeclaration[declaration]?, scopes.declarations[declaration]? with
  | some binding, some d =>
    if scopes.isModuleBinding binding && d.kind ≠ .imported && d.name ≠ defaultBinding then do
      let name ← n.nameOf (.declared index binding)
      m.rename d.span d.shorthand d.name name
    else .ok none
  | _, _ => .error (.internal .outOfRange)

/-- The name of what the module exports as its default. -/
def defaultName (n : Names) (m : SourceModule) (index : Nat) : Except CompileError String :=
  match m.record.scopes.moduleBinding? defaultBinding with
  | some binding => n.nameOf (.declared index binding)
  | none => .error (.internal .unboundDefault)

def isBlank (c : Char) : Bool := c = ' ' || c = '\t'

/-- Puts a name into a function or class without one. It takes the place of the blanks after the
keyword. -/
def insertName (m : SourceModule) (offset : Nat) (name : String) : Edit :=
  let rest := ((Cursor.ofString m.source).advanceTo offset).rest
  let gap := rest.takeWhile isBlank
  let after := if (rest.drop gap.length).head? = some '(' then "" else " "
  ⟨⟨offset, offset + byteLength gap⟩, " " ++ name ++ after, none⟩

/-- Takes the exporting away from an item and leaves what it declares. -/
def exportEdits (n : Names) (m : SourceModule) (index : Nat) :
    ItemKind → Except CompileError (List Edit)
  | .exportDeclaration strip | .exportDefaultDeclaration strip none => .ok [.delete strip]
  | .exportDefaultDeclaration strip (some offset) => do
    let name ← defaultName n m index
    pure [.delete strip, insertName m offset name]
  | .exportDefaultExpression strip _ => do
    let name ← defaultName n m index
    pure [⟨strip, "const " ++ name ++ " = ", none⟩]
  | .importDeclaration | .exportList | .exportFrom | .declaration | .statement => .ok []

/-- Makes a dynamic import of a module of the bundle a promise of the object with its exports. -/
def dynamicEdit (n : Names) (dynamic : DynamicImport) (slot : Slot) : Except CompileError Edit := do
  let name ← n.nameOf slot
  pure ⟨dynamic.span, "Promise.resolve().then(() => " ++ name ++ ")", none⟩

/-- The edits of an item: of references, declarations, exports and dynamic imports. -/
def itemEdits (l : Linkage) (n : Names) (m : SourceModule) (index : Nat) (item : ModuleItem) :
    Except CompileError (List Edit) := do
  let references ← item.references.toList.mapM (referenceEdit? l n m index)
  let declarations ← item.declarations.toList.mapM (declarationEdit? n m index)
  let exports ← exportEdits n m index item.kind
  let inItem := m.dynamicSlots.filter fun entry => item.span.contains entry.1.span.start
  let dynamic ← inItem.mapM fun entry => dynamicEdit n entry.1 entry.2
  pure (references.filterMap id ++ declarations.filterMap id ++ exports ++ dynamic)

/-! ## The code of an item -/

/-- A piece of code. -/
inductive Fragment where
  | text (text : String)
  /-- Says that the code from here on comes from an offset in the module, and which name it
  replaces. -/
  | origin (offset : Nat) (name : Option String)
  deriving DecidableEq

def Fragment.toText : Fragment → String
  | text s => s
  | origin .. => ""

/-- The text up to an offset, with the origin of each of the tokens in it. -/
def copyFragments (stop : Nat) : Cursor → List Nat → Except CompileError (List Fragment)
  | c, [] => do
    let (text, _) ← c.split stop
    pure [.text text]
  | c, token :: tokens =>
    if token < stop then do
      let (text, c) ← c.split token
      let others ← copyFragments stop c tokens
      pure (.text text :: .origin token none :: others)
    else do
      let (text, _) ← c.split stop
      pure [.text text]

/-- The text from a place on with edits in it, up to an offset. An edit that begins inside of one
before does not count. -/
def editFragments (stop : Nat) :
    Cursor → List Nat → List Edit → Except CompileError (List Fragment)
  | c, tokens, [] => copyFragments stop c tokens
  | c, tokens, edit :: edits =>
    if edit.span.start < c.offset then editFragments stop c tokens edits
    else do
      let copied ← copyFragments edit.span.start c tokens
      let (_, next) ← c.split edit.span.stop
      let others ← editFragments stop next (tokens.dropWhile (· < edit.span.stop)) edits
      let replaced : List Fragment :=
        if edit.text = "" then [] else [.origin edit.span.start edit.name, .text edit.text]
      pure (copied ++ replaced ++ others)

/-- The code of an item, on lines of its own. -/
def itemFragments (m : SourceModule) (item : ModuleItem) (edits : List Edit) :
    Except CompileError (List Fragment) := do
  let (_, start) ← (Cursor.ofString m.source).split item.span.start
  let tokens := m.record.tokenStarts.dropWhile (· < item.span.start)
  let body ← editFragments item.span.stop start tokens (edits.mergeSort Edit.before)
  pure (body ++ [.text (if item.missingSemicolon then ";" else ""), .text "\n"])

/-! ## Output -/

/-- Code with the source map of it. -/
structure Output where
  code : String
  map : MapBuilder

namespace Output

def empty : Output := ⟨"", .empty⟩

/-- Writes a text at the end. -/
def push (o : Output) (text : String) : Output := ⟨o.code ++ text, o.map.advance text⟩

/-- Writes a piece of the code of a source. -/
def write (source : Nat) (lines : LineIndex) (o : Output) : Fragment → Output
  | .text text => o.push text
  | .origin offset name => { o with map := o.map.addMapping source (lines.place offset) name }

end Output

/-- Writes the needed items of a module. -/
def emitModule (g : ModuleGraph) (l : Linkage) (needs : Needs) (n : Names) (o : Output)
    (index : Nat) : Except CompileError Output := do
  let m ← g.getModule index
  let (source, map) := o.map.addSource m.id.text (some m.source)
  let items := (needs.keptItems m index).filter fun item => !item.kind.isModuleSyntax
  let fragments ← items.mapM fun item => do
    let edits ← itemEdits l n m index item
    itemFragments m item edits
  pure (fragments.flatten.foldl (Output.write source (.ofString m.source)) { o with map })

/-! ## Imports and exports of the bundle -/

/-- Where the bundle imports from: the specifiers of requests that lead outside, in the order of the
modules, then those of variables that only exports lead to. -/
def outsideSpecifiers (g : ModuleGraph) (n : Names) : List String :=
  let requested := g.entryFirst.flatMap fun index =>
    match g.modules[index]? with
    | none => []
    | some m =>
      (m.record.requests.toList.zip m.requests).filterMap fun (request, dependency) =>
        if dependency = .external then some request.specifier else none
  let named := n.externals.filterMap fun slot =>
    match slot with
    | .external specifier _ => some specifier
    | .declared .. | .namespaceOf _ => none
  (requested ++ named).eraseDups

/-- What is imported from a specifier, with the names that it gets. -/
def importedFrom (n : Names) (specifier : String) :
    Except CompileError (List (Imported × String)) := do
  let imports := n.externals.filterMap fun slot =>
    match slot with
    | .external s imported => if s = specifier then some (slot, imported) else none
    | .declared .. | .namespaceOf _ => none
  imports.mapM fun (slot, imported) => do
    let name ← n.nameOf slot
    pure (imported, name)

/-- One of a list of imports. -/
def importText (name binding : String) : String :=
  if name = binding then binding else exportName name ++ " as " ++ binding

/-- The imports from a specifier. Where nothing is imported and nothing exported from it in turn, it
is imported for its effects. -/
def importStatements (l : Linkage) (n : Names) (specifier : String) :
    Except CompileError String := do
  let imports ← importedFrom n specifier
  let «from» := quoteJson specifier
  let named := imports.filterMap fun (imported, binding) =>
    match imported with
    | .name name => some (importText name binding)
    | .all => none
  let whole := imports.filterMap fun (imported, binding) =>
    match imported with
    | .name _ => none
    | .all => some ("import * as " ++ binding ++ " from " ++ «from» ++ ";\n")
  let list :=
    if named.isEmpty then ""
    else "import \x7b " ++ ", ".intercalate named ++ " \x7d from " ++ «from» ++ ";\n"
  let bare :=
    if imports.isEmpty && !l.entryStars.contains specifier then "import " ++ «from» ++ ";\n"
    else ""
  pure (list ++ String.join whole ++ bare)

/-- The object that holds the exports of a module. -/
def namespaceText (n : Names) (index : Nat) (exports : ExportList) :
    Except CompileError String := do
  let name ← n.nameOf (.namespaceOf index)
  let getters ← exports.mapM fun (exported, slot) => do
    let target ← n.nameOf slot
    pure ("  get " ++ exportName exported ++ "() \x7b return " ++ target ++ "; \x7d,\n")
  pure ("const " ++ name ++ " = Object.freeze(\x7b\n  __proto__: null,\n" ++
    "  [Symbol.toStringTag]: \"Module\",\n" ++ String.join getters ++ "\x7d);\n")

/-- The objects that hold the exports of modules, as far as something needs them. -/
def namespaceTexts (l : Linkage) (needs : Needs) (n : Names) :
    Except CompileError (List String) :=
  (l.namespaces.filter fun entry => needs.isLive (.namespaceOf entry.1)).mapM fun entry =>
    namespaceText n entry.1 entry.2

/-- The exports of the entry. -/
def exportStatements (l : Linkage) (n : Names) : Except CompileError String := do
  let list ← l.entryExports.mapM fun (exported, slot) => do
    let name ← n.nameOf slot
    pure (if name = exported then name else name ++ " as " ++ exportName exported)
  let named :=
    if list.isEmpty then "" else "export \x7b " ++ ", ".intercalate list ++ " \x7d;\n"
  let stars := l.entryStars.map fun specifier => "export * from " ++ quoteJson specifier ++ ";\n"
  pure (named ++ String.join stars)

/-- The code of a bundle. -/
def emit (g : ModuleGraph) (l : Linkage) (needs : Needs) (n : Names) :
    Except CompileError Output := do
  let imports ← (outsideSpecifiers g n).mapM (importStatements l n)
  let namespaces ← namespaceTexts l needs n
  let start := (imports ++ namespaces).foldl Output.push .empty
  let body ← g.order.foldlM (emitModule g l needs n) start
  let exports ← exportStatements l n
  pure (body.push exports)

end ModuleBundler
