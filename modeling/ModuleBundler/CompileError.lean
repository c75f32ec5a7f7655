import ModuleBundler.Diagnostic.Basic
import ModuleBundler.SyntaxError
import ModuleBundler.Url.Origin

/-!
# Why a compilation fails

* `ResolveError`, `FetchError`, `LoadError`, `LinkError`, `InternalError` : the causes, by what
  fails;
* `CompileError` : a cause, the module it concerns and the place in it;
* `CompileError.diagnostic` : its code, message and position.
-/

namespace ModuleBundler

/-- Why a specifier is rejected. -/
inductive ResolveError where
  | invalidUrl (specifier : String) (reason : UrlError)
  /-- The URL is not on the origin that the project is served from. -/
  | crossOrigin (url : Url) (origin : Option Origin)
  deriving DecidableEq

namespace ResolveError

def kind : ResolveError → ErrorKind
  | invalidUrl .. => .invalidUrl
  | crossOrigin .. => .crossOrigin

def code : ResolveError → String
  | crossOrigin .. => "BJ0001"
  | invalidUrl .. => "BJ0002"

def message : ResolveError → String
  | invalidUrl specifier reason =>
    "\x60" ++ specifier ++ "\x60 is not a valid URL: " ++ reason.message
  | crossOrigin url origin =>
    "\x60" ++ url.href ++ "\x60 is not on the same origin as the editor (" ++ originText origin ++
      "), so it can't be imported"

end ResolveError

/-- Why no text comes from a URL. -/
inductive FetchError where
  /-- An answer that says by its number that there is no text. -/
  | status (number : Nat) (url : Url)
  | network (url : Url) (reason : String)
  deriving DecidableEq

def FetchError.message : FetchError → String
  | .status number url => "HTTP " ++ toString number ++ " for URL: " ++ url.href
  | .network url reason => "request for " ++ url.href ++ " failed: " ++ reason

/-- Why a module has no text. -/
inductive LoadError where
  | fetch (error : FetchError)
  /-- No file has the path. -/
  | missing (path : String)
  deriving DecidableEq

namespace LoadError

def code : LoadError → String
  | fetch _ => "BJ0003"
  | missing _ => "BJ0004"

def message : LoadError → String
  | fetch error => error.message
  | missing path => "file \x60" ++ path ++ "\x60 does not exist"

end LoadError

/-- Why an import or export stands for nothing. -/
inductive LinkError where
  | missingExport (module : ModuleId) (name : String)
  /-- The module exports a variable that it does not have. -/
  | undeclaredExport (name : String)
  /-- Modules export the name from one another, and none declares it. -/
  | circularReexport (name : String)
  | duplicateExport (name : String)
  deriving DecidableEq

namespace LinkError

def code : LinkError → String
  | missingExport .. => "BJ0101"
  | undeclaredExport _ => "BJ0102"
  | circularReexport _ => "BJ0103"
  | duplicateExport _ => "BJ0104"

def message : LinkError → String
  | missingExport module name =>
    "module \x60" ++ module.text ++ "\x60 does not provide an export named \x60" ++ name ++ "\x60"
  | undeclaredExport name =>
    "exported binding \x60" ++ name ++ "\x60 is not declared in this module"
  | circularReexport name =>
    "export \x60" ++ name ++ "\x60 is re-exported in a cycle and never declared"
  | duplicateExport name => "duplicate export \x60" ++ name ++ "\x60"

end LinkError

/-- What is nobody's fault but the compiler's, or that of what it runs on. -/
inductive InternalError where
  /-- Loading a module broke down. -/
  | crash (message : String)
  | notImported (name : String)
  | unboundImport (name : String)
  | unboundDefault
  | unnamed (what : String)
  /-- Following exports does not come to an end. -/
  | endlessExports
  /-- Something refers to a module, an item or a place in a text that is not there. -/
  | outOfRange
  deriving DecidableEq

def InternalError.message : InternalError → String
  | .crash message => message
  | .notImported name => "\x60" ++ name ++ "\x60 is not an import binding"
  | .unboundImport name => "import \x60" ++ name ++ "\x60 has no binding"
  | .unboundDefault => "anonymous default export has no binding"
  | .unnamed what => "no name was assigned to " ++ what
  | .endlessExports => "exports are followed without end"
  | .outOfRange => "index out of range"

/-- The cause of a failure. -/
inductive CompileError.Cause where
  | resolve (error : ResolveError)
  | load (error : LoadError)
  | parse (error : SyntaxError)
  | link (error : LinkError)
  | cancelled
  | internal (error : InternalError)
  deriving DecidableEq

namespace CompileError.Cause

def kind : Cause → ErrorKind
  | resolve error => error.kind
  | load _ => .load
  | parse _ => .parse
  | link _ => .link
  | cancelled => .cancelled
  | internal _ => .internal

def code : Cause → String
  | resolve error => error.code
  | load error => error.code
  | parse error => error.cause.code
  | link error => error.code
  | cancelled => "BJ0900"
  | internal _ => "BJ0999"

def message : Cause → String
  | resolve error => error.message
  | load error => error.message
  | parse error => error.message
  | link error => error.message
  | cancelled => "compilation was cancelled"
  | internal error => "internal compiler error: " ++ error.message

end CompileError.Cause

/-- A place in a module: the text of the module and a span of it. -/
structure SourcePlace where
  source : String
  span : Span
  deriving DecidableEq

/-- Why a compilation fails, and where. -/
structure CompileError where
  cause : CompileError.Cause
  module : Option ModuleId
  place : Option SourcePlace
  deriving DecidableEq

namespace CompileError

def cancelled : CompileError := ⟨.cancelled, none, none⟩

def internal (error : InternalError) : CompileError := ⟨.internal error, none, none⟩

/-- All that is told of the failure. -/
def diagnostic (e : CompileError) : Diagnostic where
  kind := e.cause.kind
  code := e.cause.code
  message := e.cause.message
  module := e.module
  position := e.place.map fun place => Position.ofOffset place.source place.span.start
  span := e.place.map SourcePlace.span

end CompileError
end ModuleBundler
