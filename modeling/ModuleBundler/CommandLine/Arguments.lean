/-!
# Command lines

* `CommandLine` : what to compile, how, and where the result goes;
* `Refusal` : why nothing is compiled, which may be that something else was asked for;
* `CommandLine.ofArguments` : the command line of a list of arguments.

A long option begins with two dashes. Its value follows it or stands after an equals sign in it. The
one short option with a value has it in the same argument or after it. After two dashes alone there
are no options. Nothing may be given twice.
-/

namespace ModuleBundler

/-- Options with a value. -/
inductive ValueOption where
  | output | origin | config | sourceMap
  deriving DecidableEq

/-- Options without a value. -/
inductive Switch where
  | json | keepUnused | inlineSourceMap | omitSources | trace
  deriving DecidableEq

/-- What an option is for. -/
inductive OptionMeaning where
  | value (option : ValueOption)
  | switch (switch : Switch)
  | help
  | version

/-- Why nothing is compiled. -/
inductive Refusal where
  | usage
  | help
  | version
  deriving DecidableEq

/-- The arguments so far. -/
structure Arguments where
  directory : Option String
  values : List (ValueOption × String)
  switches : List Switch

/-- What to compile, how, and where the result goes. -/
structure CommandLine where
  directory : String
  output : Option String
  /-- Write all of the result in JSON. -/
  json : Bool
  keepUnused : Bool
  origin : Option String
  config : Option String
  sourceMap : Option String
  inlineSourceMap : Bool
  omitSources : Bool
  trace : Bool
  deriving DecidableEq

def longOptions : List (String × OptionMeaning) :=
  [("output", .value .output), ("json", .switch .json), ("no-treeshake", .switch .keepUnused),
   ("origin", .value .origin), ("config", .value .config), ("source-map", .value .sourceMap),
   ("inline-source-map", .switch .inlineSourceMap), ("no-sources-content", .switch .omitSources),
   ("trace", .switch .trace), ("help", .help), ("version", .version)]

def shortOptions : List (Char × OptionMeaning) :=
  [('o', .value .output), ('h', .help), ('V', .version)]

namespace Arguments

def empty : Arguments := ⟨none, [], []⟩

/-- Adds the value of an option. Only an origin may be empty. -/
def addValue (a : Arguments) (option : ValueOption) (value : String) : Except Refusal Arguments :=
  if (a.values.lookup option).isSome || (value = "" && option ≠ .origin) then .error .usage
  else .ok { a with values := (option, value) :: a.values }

def addSwitch (a : Arguments) (switch : Switch) : Except Refusal Arguments :=
  if switch ∈ a.switches then .error .usage
  else .ok { a with switches := switch :: a.switches }

/-- Adds an argument that is no option. -/
def addDirectory (a : Arguments) (path : String) : Except Refusal Arguments :=
  if a.directory.isSome || path = "" then .error .usage
  else .ok { a with directory := some path }

end Arguments

/-- Whether an argument begins with a dash and more. -/
def looksLikeOption (argument : String) : Bool :=
  argument.startsWith "-" && argument ≠ "-"

/-- The meaning of an option and the value in the same argument. -/
def readOption (argument : String) : Option (OptionMeaning × Option String) :=
  match argument.toList with
  | '-' :: '-' :: rest =>
    let name := rest.takeWhile (· ≠ '=')
    let value := rest.drop name.length
    (longOptions.lookup (String.ofList name)).map fun meaning =>
      (meaning, if value.isEmpty then none else some (String.ofList (value.drop 1)))
  | '-' :: letter :: rest =>
    (shortOptions.lookup letter).map fun meaning =>
      match meaning, rest with
      | .value option, '=' :: value => (.value option, some (String.ofList value))
      | .value option, [] => (.value option, none)
      | .value option, value => (.value option, some (String.ofList value))
      | meaning, _ => (meaning, none)
  | _ => none

/-- Reads arguments one after another. The first that cannot be read decides. -/
def readArguments : Arguments → List String → Except Refusal Arguments
  | a, [] => .ok a
  | a, "--" :: rest => rest.foldlM Arguments.addDirectory a
  | a, argument :: rest =>
    if !looksLikeOption argument then do
      let a ← a.addDirectory argument
      readArguments a rest
    else
      match readOption argument with
      | some (.help, none) => .error .help
      | some (.version, none) => .error .version
      | some (.switch switch, none) => do
        let a ← a.addSwitch switch
        readArguments a rest
      | some (.value option, some value) => do
        let a ← a.addValue option value
        readArguments a rest
      | some (.value option, none) =>
        match rest with
        | [] => .error .usage
        | value :: rest =>
          if looksLikeOption value then .error .usage
          else do
            let a ← a.addValue option value
            readArguments a rest
      | some (_, some _) | none => .error .usage

namespace CommandLine

/-- The command line of a list of arguments. There has to be a directory, and the source map goes to
one place. -/
def ofArguments (arguments : List String) : Except Refusal CommandLine := do
  let a ← readArguments .empty arguments
  let has (switch : Switch) : Bool := a.switches.contains switch
  match a.directory with
  | none => .error .usage
  | some directory =>
    let sourceMap := a.values.lookup .sourceMap
    if sourceMap.isSome && has .inlineSourceMap then .error .usage
    else
      pure {
        directory
        output := a.values.lookup .output
        json := has .json
        keepUnused := has .keepUnused
        origin := a.values.lookup .origin
        config := a.values.lookup .config
        sourceMap
        inlineSourceMap := has .inlineSourceMap
        omitSources := has .omitSources
        trace := has .trace }

end CommandLine
end ModuleBundler
