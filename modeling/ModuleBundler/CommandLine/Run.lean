import ModuleBundler.CommandLine.Arguments
import ModuleBundler.Compile
import ModuleBundler.Diagnostic.Render
import ModuleBundler.FileTree.Path
import ModuleBundler.Settings

/-!
# Running a command line

* `Inputs` : what a command line reads; `Plan` : what it is to write;
* `CommandLine.plan` : what to write for what has been read;
* `Report` : what a run leaves behind; `runOn` : a run on a disk.
-/

namespace ModuleBundler

/-- The name and version of the program. -/
def versionText : String := "bundle-js 0.1.0\n"

def helpText : String := "Bundle a directory of ES modules into one module\n"

def usageText : String := "usage: bundle-js [options] <dir>\n"

/-- Why a command line cannot be carried out. -/
inductive RunError where
  | readConfig (path reason : String)
  | parseConfig (path : String)
  | settings (error : SettingsError)
  | notDirectory (path : String)
  | write (path reason : String)

/-- The error and all that is behind it. -/
def RunError.message : RunError → String
  | .readConfig path reason => "failed to read " ++ path ++ ": " ++ reason ++ ": " ++ reason
  | .parseConfig path => "failed to parse " ++ path
  | .settings error =>
    error.message ++
      (match error.reason with
        | some reason => ": " ++ reason
        | none => "")
  | .notDirectory path => path ++ " is not a directory"
  | .write path reason => "failed to write " ++ path ++ ": " ++ reason

/-- What a command line reads. -/
structure Inputs where
  /-- The text of the settings file, if one is named, or why there is none. -/
  config : Option (Except String String)
  /-- What stands at the path of the directory. -/
  directory : Option FileTree

/-- What is to be written: files in order, and if all goes well the two outputs. -/
structure Plan where
  files : List (String × String)
  stdout : String
  stderr : String
  succeeds : Bool

namespace CommandLine

/-- What the settings file says. -/
def settingsFile (c : CommandLine) (inputs : Inputs) : Except RunError SettingsFile :=
  match c.config, inputs.config with
  | some path, some (.ok text) =>
    match SettingsFile.ofString? text with
    | some file => .ok file
    | none => .error (.parseConfig path)
  | some path, some (.error reason) => .error (.readConfig path reason)
  | some _, none | none, _ => .ok .empty

def flags (c : CommandLine) : SettingsFlags := ⟨c.origin, c.keepUnused, c.omitSources⟩

/-- The settings and files of a compilation. -/
def project (c : CommandLine) (inputs : Inputs) : Except RunError (Settings × FileSet) := do
  let file ← c.settingsFile inputs
  match Settings.merge file c.flags with
  | .error e => .error (.settings e)
  | .ok settings =>
    match inputs.directory.filter FileTree.isDirectory with
    | some tree => pure (settings, tree.files)
    | none => .error (.notDirectory c.directory)

/-- The last part of a path. -/
def fileName (path : String) : String :=
  let parts := (Disk.segments path).filter fun part => part ≠ "" && part ≠ "."
  match parts.getLast? with
  | some name => if name = ".." then path else name
  | none => path

/-- Writes to the output that is named, after other files, or else to the standard one. -/
def outputPlan (c : CommandLine) (files : List (String × String)) (text : String)
    (succeeds : Bool) : Plan :=
  match c.output with
  | some path => ⟨files ++ [(path, text)], "", "", succeeds⟩
  | none => ⟨files, text, "", succeeds⟩

/-- Writes code with or without its source map. -/
def bundlePlan (c : CommandLine) (bundle : Bundle) : Plan :=
  if c.inlineSourceMap then
    c.outputPlan [] (withSourceMapUrl bundle.code bundle.map.dataUrl) true
  else
    match c.sourceMap with
    | some path =>
      c.outputPlan [(path, bundle.map.text)] (withSourceMapUrl bundle.code (fileName path)) true
    | none => c.outputPlan [] bundle.code true

/-- Writes what comes of a compilation. -/
def resultPlan (c : CommandLine) (files : FileSet) (result : Except CompileError Bundle) : Plan :=
  if c.json then c.outputPlan [] ((resultJson result).pretty ++ "\n") result.toBool
  else
    match result with
    | .ok bundle => c.bundlePlan bundle
    | .error e => ⟨[], "", e.diagnostic.render .plain files.moduleText, false⟩

/-- What to write for what has been read. There is no answer if loading takes `rounds` or more
rounds. -/
def plan (c : CommandLine) (fetch : Url → Loaded FetchError) (rounds : Nat) (inputs : Inputs) :
    Option (Except RunError Plan) :=
  match c.project inputs with
  | .error e => some (.error e)
  | .ok (settings, files) =>
    let site : Site := ⟨files, some settings.origin, fetch⟩
    (compile site.provider settings.options (fun _ => false) rounds).map fun compiled =>
      .ok (c.resultPlan files compiled.result)

end CommandLine

/-! ## Runs -/

/-- What a run leaves behind. -/
structure Report where
  exitCode : Nat
  stdout : String
  stderr : String
  disk : Disk

namespace Report

/-- Nothing is done but to say something. -/
def refuse (disk : Disk) : Refusal → Report
  | .usage => ⟨2, "", usageText, disk⟩
  | .help => ⟨0, helpText, "", disk⟩
  | .version => ⟨0, versionText, "", disk⟩

def fail (disk : Disk) (e : RunError) : Report := ⟨1, "", "error: " ++ e.message ++ "\n", disk⟩

/-- Writes files in order up to the first that cannot be written. -/
def ofPlan (p : Plan) : Disk → List (String × String) → Report
  | disk, [] => ⟨if p.succeeds then 0 else 1, p.stdout, p.stderr, disk⟩
  | disk, (path, text) :: rest =>
    match disk.write path text with
    | .ok disk => ofPlan p disk rest
    | .error e => .fail disk (.write path e.message)

end Report

/-- What a command line reads on a disk. -/
def CommandLine.inputsOn (c : CommandLine) (disk : Disk) : Inputs where
  config := c.config.map fun path =>
    match disk.find path >>= FileTree.text with
    | .ok text => .ok text
    | .error e => .error e.message
  directory := (disk.find c.directory).toOption

/-- A run on a disk. -/
def runOn (disk : Disk) (fetch : Url → Loaded FetchError) (rounds : Nat)
    (arguments : List String) : Option Report :=
  match CommandLine.ofArguments arguments with
  | .error refusal => some (.refuse disk refusal)
  | .ok c =>
    (c.plan fetch rounds (c.inputsOn disk)).map fun
      | .error e => .fail disk e
      | .ok p => .ofPlan p disk p.files

end ModuleBundler
