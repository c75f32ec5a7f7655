import ModuleBundler.Diagnostic.Basic

/-!
# Drawing diagnostics

* `RenderOptions` : colour and the width of tabs;
* `Diagnostic.render` : the message, where it is, and the line with carets under the place.
-/

namespace ModuleBundler

structure RenderOptions where
  color : Bool
  tabWidth : Nat

def RenderOptions.plain : RenderOptions := ⟨false, 2⟩

/-- A text in bold red, if there is colour. -/
def RenderOptions.highlight (options : RenderOptions) (text : String) : String :=
  if options.color then "\x1b[1;31m" ++ text ++ "\x1b[0m" else text

/-- The columns that a character takes. -/
def displayWidth (tabWidth : Nat) (c : Char) : Nat := if c = '\t' then max tabWidth 1 else 1

def blanks (count : Nat) : String := String.ofList (List.replicate count ' ')

/-- A line with blanks for its tabs. -/
def expandTabs (tabWidth : Nat) (line : List Char) : String :=
  String.ofList (line.flatMap fun c =>
    if c = '\t' then List.replicate (displayWidth tabWidth c) ' ' else [c])

/-- The column at which what stands at an offset in a line is drawn. -/
def displayColumn (tabWidth : Nat) : Nat → List Char → Nat
  | _, [] => 0
  | offset, c :: rest =>
    if offset = 0 then 0
    else displayWidth tabWidth c + displayColumn tabWidth (offset - c.utf8Size) rest

/-- The line of a text from an offset on. -/
def lineFrom (text : String) (start : Nat) : List Char :=
  (((Cursor.ofString text).advanceTo start).rest).takeWhile fun c => !isLineTerminator c

/-- The line with the place, and carets under it. At least one caret is drawn, and none beyond the
end of the line. -/
def renderLine (options : RenderOptions) (text : String) (position : Position) (span : Span) :
    String :=
  let start := (LineIndex.ofString text).lineStart (position.line - 1)
  let line := lineFrom text start
  let stop := start + byteLength line
  let number := toString position.line
  let gutter := blanks number.length
  let first := min (max span.start start) stop
  let last := min (max span.stop first) stop
  let startColumn := displayColumn options.tabWidth (first - start) line
  let stopColumn := displayColumn options.tabWidth (last - start) line
  let carets := String.ofList (List.replicate (max (stopColumn - startColumn) 1) '^')
  gutter ++ " |\n" ++
    number ++ " | " ++ expandTabs options.tabWidth line ++ "\n" ++
    gutter ++ " | " ++ blanks startColumn ++ options.highlight carets ++ "\n"

/-- A diagnostic as lines of text. `sourceOf` gives the texts of modules, as far as they are
known. -/
def Diagnostic.render (options : RenderOptions) (sourceOf : ModuleId → Option String)
    (d : Diagnostic) : String :=
  let headline := options.highlight "error" ++ "[" ++ d.code ++ "]: " ++ d.message ++ "\n"
  match d.module with
  | none => headline
  | some id =>
    match d.position, d.span with
    | some position, some span =>
      headline ++ " --> " ++ id.text ++ ":" ++ toString position.line ++ ":" ++
        toString (position.column + 1) ++ "\n" ++
        match sourceOf id with
        | some text => renderLine options text position span
        | none => "  | (source unavailable)\n"
    | _, _ => headline ++ " --> " ++ id.text ++ "\n"

end ModuleBundler
