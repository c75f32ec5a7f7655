import ModuleBundler.FileTree.Basic

/-!
# Paths in a tree of files

* `FileTree.find` : what stands at a path; `FileTree.write` : the tree with a text at a path;
* `Disk` : a tree with the directory that relative paths start at;
* `Disk.find`, `Disk.write` : the same for paths as they are given in a command line.
-/

namespace ModuleBundler

namespace FileTree

/-- The entry of a directory. -/
def entry (name : String) : FileTree → Except FileError FileTree
  | directory entries =>
    match entries.lookup name.toUTF8 with
    | some tree => .ok tree
    | none => .error .notFound
  | file _ | other => .error .notDirectory

/-- What the names lead to. -/
def find : FileTree → List String → Except FileError FileTree
  | tree, [] => .ok tree
  | tree, name :: rest => do
    let next ← tree.entry name
    next.find rest

/-- The names that lead from the root to what a path leads to from a directory. A dot stays there,
two go up. -/
def locate (root : FileTree) : List String → List String → Except FileError (List String)
  | names, [] => .ok names
  | names, segment :: rest => do
    let here ← root.find names
    if !here.isDirectory then throw .notDirectory
    if segment = "" ∨ segment = "." then root.locate names rest
    else if segment = ".." then root.locate names.dropLast rest
    else
      let _ ← here.entry segment
      root.locate (names ++ [segment]) rest

/-- Puts a tree into the entries of a directory, instead of one with the same name. -/
def putEntry (name : ByteArray) (tree : FileTree) :
    List (ByteArray × FileTree) → List (ByteArray × FileTree)
  | [] => [(name, tree)]
  | (n, t) :: rest => if n = name then (name, tree) :: rest else (n, t) :: putEntry name tree rest

/-- The tree with another tree at the place to which names lead. -/
def put (added : FileTree) : List String → FileTree → FileTree
  | [], _ => added
  | name :: rest, directory entries =>
    let inner := (entries.lookup name.toUTF8).getD (directory [])
    directory (putEntry name.toUTF8 (put added rest inner) entries)
  | _ :: _, tree => tree

end FileTree

/-- A tree of files with the directory that relative paths start at. -/
structure Disk where
  root : FileTree
  workingDirectory : List String

namespace Disk

/-- The names at which a path starts. -/
def startOf (disk : Disk) (path : String) : List String :=
  if path.startsWith "/" then [] else disk.workingDirectory

def segments (path : String) : List String := (path.toList.splitOn '/').map String.ofList

/-- What stands at a path. -/
def find (disk : Disk) (path : String) : Except FileError FileTree := do
  let names ← disk.root.locate (disk.startOf path) (segments path)
  disk.root.find names

/-- The disk with a text in the file at a path. The directory of the file has to be there. A path
that ends in a slash is that of a directory, whether there is one or not. -/
def write (disk : Disk) (path text : String) : Except FileError Disk := do
  let segments := segments path
  let named := (segments.reverse.dropWhile (· = "")).reverse
  let directory ← disk.root.locate (disk.startOf path) named.dropLast
  let here ← disk.root.find directory
  if !here.isDirectory then throw .notDirectory
  let name := named.getLast?.getD "."
  if named.length < segments.length ∨ name = "." ∨ name = ".." then throw .isDirectory
  match here.entry name with
  | .ok (.directory _) => throw .isDirectory
  | _ => pure { disk with root := .put (.file text.toUTF8) (directory ++ [name]) disk.root }

end Disk
end ModuleBundler
