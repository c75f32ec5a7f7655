import ModuleBundler.CommandLine.Run

/-!
# The command line program

Reads what a command line asks for, and writes what the plan for it holds. No requests are made: a
module at a URL counts as one that cannot be reached.
-/

namespace ModuleBundler

/-- What the system says of a failure, with its number. -/
def failureText : IO.Error → String
  | .noFileOrDirectory _ code reason | .permissionDenied _ code reason
  | .inappropriateType _ code reason => reason ++ " (os error " ++ toString code ++ ")"
  | e => toString e

/-- The tree at an entry of a directory. -/
partial def readTree (entry : IO.FS.DirEntry) : IO FileTree := do
  match (← entry.path.metadata).type with
  | .file => .file <$> IO.FS.readBinFile entry.path
  | .dir =>
    let entries ← entry.path.readDir
    let trees ← entries.toList.mapM fun inner => do
      let tree ← if isHiddenName inner.fileName.toUTF8 then pure .other else readTree inner
      pure (inner.fileName.toUTF8, tree)
    pure (.directory trees)
  | .symlink | .other => pure .other

/-- Reads the settings file and the directory of a command line. -/
def readInputs (c : CommandLine) : IO Inputs := do
  let config ← c.config.mapM fun path => do
    try
      let bytes ← IO.FS.readBinFile path
      match (FileTree.file bytes).text with
      | .ok text => pure (.ok text)
      | .error e => pure (.error e.message)
    catch e => pure (.error (failureText e))
  let directory ← try some <$> readTree ⟨c.directory, "."⟩ catch _ => pure none
  pure ⟨config, directory⟩

/-- Writes the files of a plan and then its outputs. -/
def carryOut (p : Plan) : IO UInt32 := do
  for (path, text) in p.files do
    try IO.FS.writeFile path text
    catch e =>
      IO.eprintln ("error: " ++ (RunError.write path (failureText e)).message)
      return 1
  IO.print p.stdout
  IO.eprint p.stderr
  return if p.succeeds then 0 else 1

end ModuleBundler

open ModuleBundler in
/-- Compiles what the arguments ask for. -/
def main (arguments : List String) : IO UInt32 := do
  match CommandLine.ofArguments arguments with
  | .error .usage =>
    IO.eprint usageText
    return 2
  | .error .help =>
    IO.print helpText
    return 0
  | .error .version =>
    IO.print versionText
    return 0
  | .ok c =>
    let inputs ← readInputs c
    let rounds := (inputs.directory.map fun tree => tree.files.size + 2).getD 2
    match c.plan unreachable rounds inputs with
    | some (.ok p) => carryOut p
    | some (.error e) =>
      IO.eprintln ("error: " ++ e.message)
      return 1
    | none => return 1
