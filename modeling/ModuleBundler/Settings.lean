import ModuleBundler.Options
import ModuleBundler.Url.Origin

/-!
# Settings of a project

* `SettingsFile` : what a settings file says; `SettingsFlags` : what a command line says;
* `Settings` : the origin that a project is served from, and the options of its compilation;
* `Settings.merge` : the settings that follow from both, the command line before the file;
* `redirectAllowed` : whether a request may go on to another URL.
-/

namespace ModuleBundler

/-- What a settings file says. -/
structure SettingsFile where
  origin : Option String
  dropUnused : Option Bool
  includeSources : Option Bool

namespace SettingsFile

def empty : SettingsFile := ⟨none, none, none⟩

/-- What a text says, if it is a settings file. -/
def ofString? (text : String) : Option SettingsFile := do
  let node ← JsonNode.ofString text
  let fields ← node.fields? ["origin", "treeshake", "sourcesContent"] false
  let origin ← JsonNode.field? fields "origin" (JsonNode.orNull? JsonNode.string?) (some none)
  let dropUnused ← JsonNode.field? fields "treeshake" (JsonNode.orNull? JsonNode.bool?) (some none)
  let includeSources ←
    JsonNode.field? fields "sourcesContent" (JsonNode.orNull? JsonNode.bool?) (some none)
  pure ⟨origin, dropUnused, includeSources⟩

end SettingsFile

/-- What a command line says. -/
structure SettingsFlags where
  origin : Option String
  keepUnused : Bool
  omitSources : Bool

/-- Why settings make no sense. -/
inductive SettingsError where
  | invalidOrigin (origin : String) (reason : UrlError)
  /-- The URL has no server. -/
  | noOrigin (url : Url)
  deriving DecidableEq

namespace SettingsError

def message : SettingsError → String
  | invalidOrigin origin reason =>
    "\x60" ++ origin ++ "\x60 is not a valid origin URL: " ++ reason.message
  | noOrigin url => "\x60" ++ url.href ++ "\x60 has no origin that modules could be served from"

/-- What is behind the error. -/
def reason : SettingsError → Option String
  | invalidOrigin _ reason => some reason.message
  | noOrigin _ => none

end SettingsError

/-- The origin that a project is served from, and the options of its compilation. -/
structure Settings where
  origin : Origin
  options : CompileOptions

/-- The origin of a project for which none is given. -/
def usualOrigin : String := "http://localhost"

/-- The origin of the URL that a text gives. -/
def parseOrigin (text : String) : Except SettingsError Origin :=
  match Url.parse text with
  | .error reason => .error (.invalidOrigin text reason)
  | .ok url =>
    match url.origin with
    | some origin => .ok origin
    | none => .error (.noOrigin url)

/-- The settings that follow from a file and a command line. -/
def Settings.merge (file : SettingsFile) (flags : SettingsFlags) :
    Except SettingsError Settings := do
  let usual := CompileOptions.default
  let origin ← parseOrigin ((flags.origin.or file.origin).getD usualOrigin)
  pure {
    origin
    options := {
      dropUnused := !flags.keepUnused && file.dropUnused.getD usual.dropUnused
      includeSources := !flags.omitSources && file.includeSources.getD usual.includeSources } }

/-- Whether a request may go on to another URL after so many redirects: only on the origin at which
it began, and ten times at most. -/
def redirectAllowed (first next : Url) (redirects : Nat) : Bool :=
  redirects < 10 && sameOrigin first.origin next.origin

end ModuleBundler
