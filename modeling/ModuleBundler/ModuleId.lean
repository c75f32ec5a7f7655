import ModuleBundler.Url.Parse

/-!
# Module ids

* `ModuleId` : which module it is, a file of the project or one at a URL;
* `ModuleId.text` : its path or URL;
* `ModuleId.stem`, `identifierStem` : the start of a name for what belongs to it.
-/

namespace ModuleBundler

inductive ModuleId where
  /-- A file of the project, by its path. -/
  | file (path : String)
  /-- A module that is fetched. -/
  | remote (url : Url)
  deriving DecidableEq

/-- The last part of a path that is not empty, up to its first dot. A dot in front belongs to it. -/
def fileStem (path : String) : List Char :=
  let last := ((path.toList.splitOn '/').reverse.find? fun part => !part.isEmpty).getD []
  match last with
  | '.' :: _ => last
  | _ => last.takeWhile (· ≠ '.')

/-- What a path gives for the start of a name: ASCII letters, digits, `_` and `$`, and no digit in
front. -/
def identifierStem (path : String) : String :=
  let inName (c : Char) : Bool := c.isAlphanum || c = '_' || c = '$'
  let name := (fileStem path).map fun c => if inName c then c else '_'
  String.ofList (if name.head?.all Char.isDigit then '_' :: name else name)

namespace ModuleId

def text : ModuleId → String
  | .file path => path
  | .remote url => url.href

def isRemote : ModuleId → Bool
  | .file _ => false
  | .remote _ => true

/-- The start of a name for what belongs to the module. -/
def stem : ModuleId → String
  | .file path => identifierStem path
  | .remote url => identifierStem url.pathname

end ModuleId
end ModuleBundler
