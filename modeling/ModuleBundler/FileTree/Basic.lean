import ModuleBundler.FileSet

/-!
# Trees of files

* `FileTree` : a file, or a directory of named files and directories;
* `FileTree.files` : the texts in a directory by their paths in it;
* `FileError` : why there is nothing to read or write at a path.

Names and contents are bytes, which need not be the UTF-8 form of a text.
-/

namespace ModuleBundler

inductive FileTree where
  | file (content : ByteArray)
  | directory (entries : List (ByteArray × FileTree))
  /-- Neither a file nor a directory, as a link that is not followed. -/
  | other

/-- Why there is nothing to read or write at a path. -/
inductive FileError where
  | notFound
  | notDirectory
  | isDirectory
  | notText
  deriving DecidableEq

def FileError.message : FileError → String
  | .notFound => "No such file or directory (os error 2)"
  | .notDirectory => "Not a directory (os error 20)"
  | .isDirectory => "Is a directory (os error 21)"
  | .notText => "stream did not contain valid UTF-8"

/-- Whether a name begins with a dot. -/
def isHiddenName (name : ByteArray) : Bool := name.data[0]? = some 0x2e

/-- A path in a directory as a path of a project. Backslashes count as slashes. -/
def projectPath (path : List String) : String :=
  ("/" ++ "/".intercalate path).map fun c => if c = '\\' then '/' else c

namespace FileTree

mutual

/-- The texts in a tree at a path, by their paths. What is hidden is left out, and so is what is no
text or has no text for a name. -/
def filesAt (path : List String) : FileTree → List (String × String)
  | file content =>
    match String.fromUTF8? content with
    | some text => [(projectPath path, text)]
    | none => []
  | directory entries => entryFiles path entries
  | other => []

/-- The texts in the entries of a directory at a path. -/
def entryFiles (path : List String) : List (ByteArray × FileTree) → List (String × String)
  | [] => []
  | (name, tree) :: rest =>
    let found :=
      if isHiddenName name then []
      else
        match String.fromUTF8? name with
        | some text => filesAt (path ++ [text]) tree
        | none => []
    found ++ entryFiles path rest

end

/-- The texts in a directory, by their paths in it. -/
def files (tree : FileTree) : FileSet := .ofList (tree.filesAt [])

def isDirectory : FileTree → Bool
  | directory _ => true
  | file _ | other => false

/-- The text of a file. -/
def text : FileTree → Except FileError String
  | file content =>
    match String.fromUTF8? content with
    | some text => .ok text
    | none => .error .notText
  | directory _ => .error .isDirectory
  | other => .error .notFound

end FileTree
end ModuleBundler
