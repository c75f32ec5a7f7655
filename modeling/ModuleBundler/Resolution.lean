import ModuleBundler.CompileError
import ModuleBundler.FileSet
import ModuleBundler.ModulePath

/-!
# Resolving and loading modules

* `Resolution` : what a specifier means, a module or something that stays outside;
* `ModuleProvider` : where modules come from, by whatever rules;
* `Site` : the files of a project and the network, as far as it has the project's origin;
* `Site.provider` : the rules by which a site provides modules.
-/

namespace ModuleBundler

/-- What a specifier means. -/
inductive Resolution where
  | module (id : ModuleId)
  /-- No module that could be bundled, so that the import stays as it is. -/
  | external
  deriving DecidableEq

/-- What comes of loading something. -/
inductive Loaded (error : Type) where
  | text (text : String)
  | failed (error : error)
  /-- The loader itself broke down. -/
  | crashed (message : String)

/-- Where modules come from. -/
structure ModuleProvider where
  /-- What a specifier means in the module that has it. -/
  resolve : (specifier : String) → (importer : ModuleId) → Except ResolveError Resolution
  load : ModuleId → Loaded LoadError

/-- The files of a project, the origin that it is served from, and the network. -/
structure Site where
  files : FileSet
  origin : Option Origin
  fetch : Url → Loaded FetchError

/-- A network that answers nothing. -/
def offline (url : Url) : Loaded FetchError :=
  .failed (.network url "network access is disabled")

/-- A network on which no server answers. -/
def unreachable (url : Url) : Loaded FetchError :=
  .failed (.network url ("error sending request for url (" ++ url.href ++ ")"))

/-- Whether a specifier is relative to the module that has it. -/
def isRelative (specifier : String) : Bool :=
  specifier.startsWith "./" || specifier.startsWith "../"

namespace Site

/-- The module at a URL, if it is on the origin of the site. -/
def remoteModule (site : Site) (url : Url) : Except ResolveError Resolution :=
  if sameOrigin url.origin site.origin then .ok (.module (.remote url))
  else .error (.crossOrigin url site.origin)

/-- The module at the URL that a specifier gives, if it gives one. -/
def remoteResolution (site : Site) (specifier : String) (url : Except UrlError Url) :
    Except ResolveError Resolution :=
  match url with
  | .ok url => site.remoteModule url
  | .error reason => .error (.invalidUrl specifier reason)

/-- What a specifier means in a module. URLs come first, then files by their paths, and relative
paths last. -/
def resolve (site : Site) (specifier : String) (importer : ModuleId) :
    Except ResolveError Resolution :=
  if specifier.startsWith "http" then site.remoteResolution specifier (Url.parse specifier)
  else if site.files.contains specifier then .ok (.module (.file specifier))
  else
    match importer with
    | .remote base =>
      if isRelative specifier || specifier.startsWith "/" then
        site.remoteResolution specifier (base.join specifier)
      else .ok .external
    | .file path =>
      let joined := joinPath path specifier
      if isRelative specifier && site.files.contains joined then .ok (.module (.file joined))
      else .ok .external

/-- The text of a module. -/
def load (site : Site) : ModuleId → Loaded LoadError
  | .remote url =>
    match site.fetch url with
    | .text text => .text text
    | .failed error => .failed (.fetch error)
    | .crashed message => .crashed message
  | .file path =>
    match site.files.get? path with
    | some text => .text text
    | none => .failed (.missing path)

/-- The rules by which the site provides modules. -/
def provider (site : Site) : ModuleProvider := ⟨site.resolve, site.load⟩

end Site
end ModuleBundler
