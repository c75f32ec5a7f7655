import ModuleBundler.Url.Parse

/-!
# Origins

* `Origin` : scheme, host and port, which URLs with a server of their own share;
* `Url.origin` : the origin of a URL, none if it shares it with no other;
* `sameOrigin` : whether two URLs share an origin; `originText` : how an origin is written.
-/

namespace ModuleBundler

/-- What URLs of one server have in common. -/
structure Origin where
  scheme : String
  host : Host
  port : Nat
  deriving DecidableEq

/-- The origin of a URL whose scheme has a server. -/
def Url.serverOrigin (url : Url) : Option Origin := do
  let usual ← defaultPort? url.scheme
  let host ← url.host
  pure ⟨url.scheme, host, url.port.getD usual⟩

/-- The origin of a URL. That of a `blob` is the origin of the URL that its path holds, through
`depth` of them. -/
def Url.originWithin : Nat → Url → Option Origin
  | 0, _ => none
  | depth + 1, url =>
    if url.scheme = "blob" then
      match Url.parse url.pathname with
      | .ok inner => inner.originWithin depth
      | .error _ => none
    else url.serverOrigin

/-- The origin of a URL, unless it has one of its own that equals no other. A path holds fewer
nested URLs than it has characters. -/
def Url.origin (url : Url) : Option Origin := url.originWithin (url.pathname.length + 1)

/-- Whether two origins are the same. One without a server is not even the same as itself. -/
def sameOrigin (a b : Option Origin) : Bool := a.isSome && a = b

/-- An origin as text. The usual port of its scheme is left out. -/
def Origin.toText (o : Origin) : String :=
  o.scheme ++ "://" ++ o.host.toText ++
    (if defaultPort? o.scheme = some o.port then "" else ":" ++ toString o.port)

def originText : Option Origin → String
  | some o => o.toText
  | none => "null"

end ModuleBundler
