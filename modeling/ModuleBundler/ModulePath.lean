/-!
# Paths of modules

* `entryPath` : the path of the module at which a project begins;
* `pathSegments`, `joinSegments`, `joinPath` : the path that a relative specifier means.
-/

namespace ModuleBundler

/-- The path of the module at which a project begins. -/
def entryPath : String := "/index.js"

/-- The parts of a path between its slashes, without empty ones. -/
def pathSegments (path : List Char) : List (List Char) :=
  (path.splitOn '/').filter fun segment => !segment.isEmpty

/-- Follows a segment from a directory. Two dots lead to the directory above, of which the root is
its own. -/
def joinSegment (directory : List (List Char)) (segment : List Char) : List (List Char) :=
  if segment = [] ∨ segment = ['.'] then directory
  else if segment = ['.', '.'] then directory.dropLast
  else directory ++ [segment]

/-- Follows the segments of a specifier from a directory. -/
def joinSegments (directory segments : List (List Char)) : List (List Char) :=
  segments.foldl joinSegment directory

/-- The path with the given segments. -/
def pathOfSegments (segments : List (List Char)) : List Char :=
  '/' :: ['/'].intercalate segments

/-- The path that a specifier means in the module at a path. -/
def joinPath (importer specifier : String) : String :=
  let directory := (pathSegments importer.toList).dropLast
  String.ofList (pathOfSegments (joinSegments directory (specifier.toList.splitOn '/')))

end ModuleBundler
