/-!
# URLs

* `Host` : a domain or an address; `UrlPath` : a list of segments or a text as a whole;
* `Url` : the parts of an absolute URL, encoded as they are written;
* `Url.href`, `Url.pathname`, `Host.toText` : how they are written;
* `isSpecialScheme`, `defaultPort?` : the schemes with a host, a path of segments and a usual port.
-/

namespace ModuleBundler

inductive Host where
  /-- A domain, or for a scheme that is not special any text. The empty one stands for no host after
  the two slashes. -/
  | domain (name : String)
  | ipv4 (address : Nat)
  /-- Eight numbers of 16 bits. -/
  | ipv6 (pieces : List Nat)
  deriving DecidableEq

inductive UrlPath where
  | segments (names : List String)
  /-- A path without structure, to which nothing can be relative. -/
  | whole (text : String)
  deriving DecidableEq

/-- The parts of an absolute URL. -/
structure Url where
  scheme : String
  username : String
  password : String
  host : Option Host
  port : Option Nat
  path : UrlPath
  query : Option String
  fragment : Option String
  deriving DecidableEq

/-- The port that a scheme uses if none is given. -/
def defaultPort? : String → Option Nat
  | "http" | "ws" => some 80
  | "https" | "wss" => some 443
  | "ftp" => some 21
  | _ => none

/-- Schemes whose URLs have a host and a path of segments, and whose backslashes are slashes. -/
def isSpecialScheme (scheme : String) : Bool := (defaultPort? scheme).isSome || scheme = "file"

/-! ## Writing hosts -/

/-- The four bytes of an address, the highest first. -/
def ipv4Bytes (address : Nat) : List Nat :=
  [address / 0x1000000 % 256, address / 0x10000 % 256, address / 0x100 % 256, address % 256]

/-- The number of zeros that a list begins with. -/
def zeroRun (pieces : List Nat) : Nat := (pieces.takeWhile (· = 0)).length

/-- Where the first of the longest runs of at least two zeros begins, and how long it is. -/
def longestZeroRun (pieces : List Nat) : Option (Nat × Nat) :=
  (List.range pieces.length).foldl (fun best start =>
    let length := zeroRun (pieces.drop start)
    let longest := (best.map Prod.snd).getD 1
    if longest < length then some (start, length) else best) none

def hexText (n : Nat) : String := String.ofList (Nat.toDigits 16 n)

def hexPieces (pieces : List Nat) : String := ":".intercalate (pieces.map hexText)

/-- The pieces of an address, with two colons for the first of the longest runs of zeros. -/
def ipv6Text (pieces : List Nat) : String :=
  match longestZeroRun pieces with
  | some (start, length) =>
    hexPieces (pieces.take start) ++ "::" ++ hexPieces (pieces.drop (start + length))
  | none => hexPieces pieces

def Host.toText : Host → String
  | .domain name => name
  | .ipv4 address => ".".intercalate ((ipv4Bytes address).map toString)
  | .ipv6 pieces => "[" ++ ipv6Text pieces ++ "]"

/-! ## Writing URLs -/

namespace UrlPath

def toText : UrlPath → String
  | .segments names => String.join (names.map ("/" ++ ·))
  | .whole text => text

/-- Whether the path would be read as a host if it came right after the scheme. -/
def looksLikeHost : UrlPath → Bool
  | .segments ("" :: _ :: _) => true
  | _ => false

end UrlPath

namespace Url

def isSpecial (url : Url) : Bool := isSpecialScheme url.scheme

def pathname (url : Url) : String := url.path.toText

/-- The user information as it stands before the host. -/
def userInfo (url : Url) : String :=
  if url.username = "" ∧ url.password = "" then ""
  else if url.password = "" then url.username ++ "@"
  else url.username ++ ":" ++ url.password ++ "@"

/-- What stands between the scheme and the path. A URL of a file has two slashes even without a
host. -/
def authority (url : Url) : String :=
  match url.host with
  | some host =>
    "//" ++ url.userInfo ++ host.toText ++
      (match url.port with
        | some port => ":" ++ toString port
        | none => "")
  | none =>
    if url.scheme = "file" then "//" else if url.path.looksLikeHost then "/." else ""

/-- The URL as text. -/
def href (url : Url) : String :=
  url.scheme ++ ":" ++ url.authority ++ url.pathname ++
    (match url.query with
      | some query => "?" ++ query
      | none => "") ++
    (match url.fragment with
      | some fragment => "#" ++ fragment
      | none => "")

end Url
end ModuleBundler
