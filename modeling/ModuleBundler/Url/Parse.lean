import ModuleBundler.Url.Host

/-!
# Reading URLs

* `Url.parse` : the URL of a text;
* `Url.join` : the URL of a text that may be relative to another URL;
* `OpenPath.addSegments` : a path with more segments, among which dots walk up the path;
* `parseAuthority` : user information, host and port.

What a text says after a question mark or a number sign never changes what stands before, so that is
cut off first.
-/

namespace ModuleBundler

/-! ## Pieces of the text -/

/-- Tabs and line ends, which count for nothing wherever they stand. -/
def isUrlGap (c : Char) : Bool := c = '\t' || c = '\n' || c = '\r'

/-- A text without the blanks around it. -/
def trimUrlText (text : String) : List Char :=
  let isBlank (c : Char) : Bool := c.toNat ≤ 0x20
  ((text.toList.dropWhile isBlank).reverse.dropWhile isBlank).reverse

/-- How many characters follow each gap. -/
def gapsOf : List Char → List Nat
  | [] => []
  | c :: rest =>
    if isUrlGap c then (rest.filter fun c => !isUrlGap c).length :: gapsOf rest else gapsOf rest

/-- What stands in front of the query and the fragment, and these two, all of it without gaps. -/
structure UrlText where
  body : List Char
  /-- How many characters of the body follow each of its gaps. -/
  gaps : List Nat
  query : Option (List Char)
  fragment : Option (List Char)

def UrlText.ofString (input : String) : UrlText :=
  let cs := trimUrlText input
  let beforeFragment := cs.takeWhile (· ≠ '#')
  let fragment := cs.drop beforeFragment.length
  let body := beforeFragment.takeWhile (· ≠ '?')
  let query := beforeFragment.drop body.length
  let withoutGaps (part : List Char) := part.filter fun c => !isUrlGap c
  let rest (part : List Char) := if part.isEmpty then none else some (withoutGaps (part.drop 1))
  ⟨withoutGaps body, gapsOf body, rest query, rest fragment⟩

/-- Whether nothing follows the body. -/
def UrlText.endsWithBody (text : UrlText) : Bool := text.query.isNone && text.fragment.isNone

/-- A query, encoded. -/
def UrlText.encodedQuery (special : Bool) (text : UrlText) : Option String :=
  text.query.map (percentEncode (inQuerySet special))

/-- A fragment, encoded. -/
def UrlText.encodedFragment (text : UrlText) : Option String :=
  text.fragment.map (percentEncode inFragmentSet)

/-- The scheme in lower case and what follows its colon. -/
def splitScheme (cs : List Char) : Option (String × List Char) :=
  let inScheme (c : Char) : Bool := c.isAlphanum || c = '+' || c = '-' || c = '.'
  match cs.dropWhile inScheme with
  | ':' :: rest =>
    let scheme := cs.takeWhile inScheme
    if scheme.head?.any Char.isAlpha then some (String.ofList (scheme.map Char.toLower), rest)
    else none
  | _ => none

/-- A slash, or for special schemes a backslash. -/
def isPathSlash (special : Bool) (c : Char) : Bool := c = '/' || (special && c = '\\')

def isAnySlash (c : Char) : Bool := isPathSlash true c

/-! ## Paths -/

/-- Splits at the slashes. -/
def splitSegments (special : Bool) (cs : List Char) : List (List Char) :=
  cs.splitOnP (isPathSlash special)

/-- The segment with its encoded dots as dots. -/
def plainDots : List Char → List Char
  | '%' :: '2' :: 'e' :: rest | '%' :: '2' :: 'E' :: rest => '.' :: plainDots rest
  | c :: rest => c :: plainDots rest
  | [] => []

def isSingleDot (segment : List Char) : Bool := plainDots segment = ['.']

def isDoubleDot (segment : List Char) : Bool := plainDots segment = ['.', '.']

/-- A letter and a colon or a bar. -/
def isDriveLetter : List Char → Bool
  | [letter, mark] => letter.isAlpha && (mark = ':' || mark = '|')
  | _ => false

def isPlainDriveLetter (segment : String) : Bool :=
  match segment.toList with
  | [letter, ':'] => letter.isAlpha
  | _ => false

/-- Whether a text begins with the segment of a drive letter. -/
def startsWithDriveLetter (cs : List Char) : Bool :=
  isDriveLetter (cs.take 2) && ((cs.drop 2).head?.all isAnySlash)

/-- The path without its last segment, unless that is a drive letter. -/
def parentSegments (path : List String) : List String :=
  if path.getLast?.any fun segment => startsWithDriveLetter segment.toList then path
  else path.dropLast

/-- A path to which segments are added. -/
structure OpenPath where
  /-- The segments with a slash after them. -/
  closed : List String
  /-- What the last segment begins with. -/
  opened : String
  /-- Whether a drive letter was added right after the first slash of the path of a file. -/
  hasDrive : Bool

namespace OpenPath

/-- The path with nothing after its first slash. -/
def root : OpenPath := ⟨[], "", false⟩

/-- The path that leads to the last segment of another path. The drive letter of a file stays, and
what is added comes right after it. -/
def besides (isFile : Bool) (path : List String) : OpenPath :=
  match path.getLast? with
  | some last =>
    if isFile && isPlainDriveLetter last then ⟨path.dropLast, last, false⟩
    else ⟨path.dropLast, "", false⟩
  | none => root

/-- Whether there is nothing but the first slash. -/
def isRoot (p : OpenPath) : Bool := p.closed.isEmpty && p.opened = ""

/-- The path with a slash after its last segment. -/
def close (p : OpenPath) : OpenPath := { p with closed := p.closed ++ [p.opened], opened := "" }

/-- The path with a slash at its end. -/
def closeIfOpened (p : OpenPath) : OpenPath := if p.opened = "" then p else p.close

/-- The path with more text in its last segment. -/
def append (p : OpenPath) (text : List Char) : OpenPath :=
  { p with opened := p.opened ++ percentEncode inPathSet text }

/-- A drive letter at the start of the path of a file is a segment even if text comes after it. -/
def closeDrive (isFile : Bool) (p : OpenPath) : OpenPath :=
  if isFile && p.closed.isEmpty && isPlainDriveLetter p.opened then p.close else p

/-- Adds a segment at the end or with a slash after it. One dot stays where it is and two go up;
both leave a slash at the end. At the start of the path of a file, a bar after a drive letter
becomes a colon. -/
def addSegment (isFile isLast : Bool) (p : OpenPath) (segment : List Char) : OpenPath :=
  if isDoubleDot segment then
    if p.opened = "" then { p with closed := parentSegments p.closed }
    else if isLast then p
    else p.close
  else if isSingleDot segment then p.closeIfOpened
  else
    let added :=
      if isFile && p.isRoot && isDriveLetter segment then
        { p with opened := String.ofList (segment.take 1 ++ [':']), hasDrive := true }
      else p.append segment
    if isLast then added else added.close

/-- Whether a gap parts a segment with more segments after it from the drive letter in front of
it. -/
def hasCutDrive (gaps : List Nat) (segment : List Char) (rest : List (List Char)) : Bool :=
  isPlainDriveLetter (String.ofList (segment.take 2)) && 2 < segment.length &&
    gaps.contains (['/'].intercalate (segment.drop 2 :: rest)).length

/-- Adds segments with slashes between them. Where a gap parts text from a drive letter at the start
of the path of a file, the two are segments, and the text is taken as it is. -/
def addSegments (isFile : Bool) (gaps : List Nat) : OpenPath → List (List Char) → OpenPath
  | p, [] => p
  | p, segment :: rest =>
    let next :=
      if isFile && p.isRoot && hasCutDrive gaps segment rest then
        let cut := (p.append (segment.take 2)).close.append (segment.drop 2)
        if rest.isEmpty then cut else cut.close
      else
        let base := if segment.isEmpty then p else p.closeDrive isFile
        base.addSegment isFile rest.isEmpty segment
    addSegments isFile gaps next rest

end OpenPath

/-- The path of a file does not begin with empty segments. -/
def dropEmptySegments : List String → List String
  | "" :: next :: rest => dropEmptySegments (next :: rest)
  | path => path

/-- A path to which the segments of a text are added. -/
def extendPath (scheme : String) (gaps : List Nat) (path : OpenPath) (cs : List Char) : OpenPath :=
  path.addSegments (scheme = "file") gaps (splitSegments (isSpecialScheme scheme) cs)

/-- The segments of a path. -/
def OpenPath.segments (scheme : String) (p : OpenPath) : List String :=
  let all := p.closed ++ [p.opened]
  if scheme = "file" then dropEmptySegments all else all

/-- The path after a host, up to the end of the text. Its first slash goes without saying. -/
def openPathAfterHost (scheme : String) (gaps : List Nat) (cs : List Char) : OpenPath :=
  match cs with
  | [] => extendPath scheme gaps .root []
  | c :: rest =>
    extendPath scheme gaps .root
      (if isPathSlash (isSpecialScheme scheme) c then rest else c :: rest)

/-- The path after a host. That of a special URL is never empty. -/
def pathAfterHost (scheme : String) (gaps : List Nat) (cs : List Char) : List String :=
  if cs.isEmpty && !isSpecialScheme scheme then []
  else (openPathAfterHost scheme gaps cs).segments scheme

/-! ## Authorities -/

/-- User information, host and port, and the text after them. -/
structure Authority where
  username : String
  password : String
  host : Host
  port : Option Nat
  rest : List Char

/-- What stands before and after the last `@`. -/
def splitUserInfo (cs : List Char) : Option (List Char × List Char) :=
  if cs.contains '@' then
    let host := (cs.reverse.takeWhile (· ≠ '@')).reverse
    some (cs.take (cs.length - host.length - 1), host)
  else none

/-- The text of a host, which ends at a slash or at a colon outside of brackets. -/
def spanHost (special : Bool) : Bool → List Char → List Char × List Char
  | _, [] => ([], [])
  | inBrackets, c :: rest =>
    if isPathSlash special c || (c = ':' && !inBrackets) then ([], c :: rest)
    else
      let (host, after) := spanHost special (c = '[' || (inBrackets && c ≠ ']')) rest
      (c :: host, after)

/-- Reads digits up to the end or a slash. The usual port of the scheme is left out. -/
def parsePort (scheme : String) (cs : List Char) : Except UrlError (Option Nat × List Char) :=
  let digits := cs.takeWhile Char.isDigit
  let rest := cs.drop digits.length
  let port := (digitsValue? 10 digits).getD 0
  if 65535 < port || !(rest.head?.all isAnySlash) then .error .invalidPort
  else if digits.isEmpty || defaultPort? scheme = some port then .ok (none, rest)
  else .ok (some port, rest)

/-- Reads a host and a port. -/
def parseHostAndPort (scheme : String) (cs : List Char) :
    Except UrlError (Host × Option Nat × List Char) := do
  let special := isSpecialScheme scheme
  let (text, rest) := spanHost special false cs
  if special && text.isEmpty then throw .emptyHost
  let host ← if special then Host.parse text else Host.parseText text
  match rest with
  | ':' :: afterColon =>
    if host = .domain "" then throw .emptyHost
    let (port, rest) ← parsePort scheme afterColon
    pure (host, port, rest)
  | _ => pure (host, none, rest)

/-- Reads what follows the two slashes. Where there is user information, there has to be a host. -/
def parseAuthority (scheme : String) (endsWithBody : Bool) (cs : List Char) :
    Except UrlError Authority := do
  let special := isSpecialScheme scheme
  let authority := cs.takeWhile fun c => !isPathSlash special c
  let path := cs.drop authority.length
  match splitUserInfo authority with
  | none =>
    let (host, port, rest) ← parseHostAndPort scheme cs
    pure ⟨"", "", host, port, rest⟩
  | some (info, hostText) =>
    if info.isEmpty && hostText.isEmpty && !(path.isEmpty && endsWithBody) then throw .emptyHost
    let name := info.takeWhile (· ≠ ':')
    let username := percentEncode inUserInfoSet name
    let password := percentEncode inUserInfoSet (info.drop (name.length + 1))
    let (host, port, rest) ← parseHostAndPort scheme (hostText ++ path)
    if host = .domain "" && (username ≠ "" || password ≠ "") then throw .emptyHost
    pure ⟨username, password, host, port, rest⟩

/-! ## Whole URLs -/

/-- A URL with an authority. -/
def parseWithAuthority (scheme : String) (text : UrlText) (cs : List Char) :
    Except UrlError Url := do
  let a ← parseAuthority scheme text.endsWithBody cs
  pure {
    scheme
    username := a.username
    password := a.password
    host := some a.host
    port := a.port
    path := .segments (pathAfterHost scheme text.gaps a.rest)
    query := text.encodedQuery (isSpecialScheme scheme)
    fragment := text.encodedFragment }

/-- A URL that takes its query from a base if nothing stands before its own. -/
def withoutBody (base : Url) (text : UrlText) : Url :=
  { base with
    query := if text.query.isSome then text.encodedQuery base.isSpecial else base.query
    fragment := text.encodedFragment }

/-- A URL with another path than a base. -/
def withPath (base : Url) (text : UrlText) (path : OpenPath) : Url :=
  { base with
    path := .segments (path.segments base.scheme)
    query := text.encodedQuery base.isSpecial
    fragment := text.encodedFragment }

/-- The segments of the path of a URL. -/
def Url.pathSegments (url : Url) : List String :=
  match url.path with
  | .segments names => names
  | .whole _ => []

/-- The URL of a file without a host. -/
def fileUrl (text : UrlText) (path : OpenPath) : Url where
  scheme := "file"
  username := ""
  password := ""
  host := none
  port := none
  path := .segments (path.segments "file")
  query := text.encodedQuery true
  fragment := text.encodedFragment

/-- The path of a file to which the segments of a text are added. -/
def filePath (text : UrlText) (path : OpenPath) (cs : List Char) : OpenPath :=
  extendPath "file" text.gaps path cs

/-- The URL of a file from what follows its two slashes. A drive letter is no host, and a path that
begins with one needs none. Without a host the slash after it is one more than the first of the
path. -/
def parseFileHost (text : UrlText) (cs : List Char) : Except UrlError Url := do
  let hostText := cs.takeWhile fun c => !isAnySlash c
  if isDriveLetter hostText then pure (fileUrl text (filePath text .root cs))
  else
    let host ← if hostText.isEmpty then pure (.domain "") else Host.parse hostText
    let rest := cs.drop hostText.length
    if host = .domain "" || host = .domain "localhost" then
      pure (fileUrl text (filePath text .root rest))
    else
      let path := openPathAfterHost "file" text.gaps rest
      if path.hasDrive then pure (fileUrl text path)
      else pure { fileUrl text path with host := some host }

/-- The URL of a file from what follows one slash. The host and the drive letter are those of the
base. -/
def parseFilePath (base : Option Url) (text : UrlText) (cs : List Char) : Url :=
  if startsWithDriveLetter cs then fileUrl text (filePath text .root cs)
  else
    match base with
    | none => fileUrl text (filePath text .root cs)
    | some base =>
      match base.pathSegments.head?.filter isPlainDriveLetter with
      | some drive => fileUrl text (filePath text ⟨[drive], "", false⟩ cs)
      | none => { fileUrl text (filePath text .root cs) with host := base.host }

/-- The URL of a file, from what follows its scheme. -/
def parseFile (base : Option Url) (text : UrlText) (cs : List Char) : Except UrlError Url :=
  match cs with
  | c :: rest =>
    if isAnySlash c then
      match rest with
      | d :: rest' =>
        if isAnySlash d then parseFileHost text rest' else .ok (parseFilePath base text rest)
      | [] => .ok (parseFilePath base text rest)
    else
      match base.filter fun _ => !startsWithDriveLetter cs with
      | some base => .ok (withPath base text (filePath text (.besides true base.pathSegments) cs))
      | none => .ok (fileUrl text (filePath text .root cs))
  | [] =>
    match base with
    | some base => .ok (withoutBody base text)
    | none => .ok (fileUrl text .root)

/-- A URL relative to one of the same scheme, which has a path of segments and is no file. After two
slashes comes a host, so that a third one leaves it empty. Where backslashes are among the first
two, the host comes after all of them. -/
def parseRelative (base : Url) (text : UrlText) (cs : List Char) : Except UrlError Url :=
  match cs with
  | [] => .ok (withoutBody base text)
  | c :: rest =>
    if isAnySlash c then
      if rest.head?.any isAnySlash then
        let slashes := if cs.take 2 = ['/', '/'] then 2 else (cs.takeWhile isAnySlash).length
        parseWithAuthority base.scheme text (cs.drop slashes)
      else .ok (withPath base text (extendPath base.scheme text.gaps .root rest))
    else
      .ok (withPath base text
        (extendPath base.scheme text.gaps (.besides false base.pathSegments) cs))

/-- A URL with a scheme of its own that is not special, from what follows the scheme. -/
def parseOther (scheme : String) (text : UrlText) (cs : List Char) : Except UrlError Url :=
  match cs with
  | '/' :: '/' :: rest => parseWithAuthority scheme text rest
  | _ =>
    let path : UrlPath :=
      match cs with
      | '/' :: rest => .segments ((extendPath scheme text.gaps .root rest).segments scheme)
      | _ => .whole (percentEncode inControlSet cs)
    .ok {
      scheme
      username := ""
      password := ""
      host := none
      port := none
      path
      query := text.encodedQuery false
      fragment := text.encodedFragment }

/-- A URL with a scheme of its own, from what follows the scheme. -/
def parseAfterScheme (base : Option Url) (scheme : String) (text : UrlText) (cs : List Char) :
    Except UrlError Url :=
  let alike := base.filter fun b => b.scheme = scheme
  if scheme = "file" then parseFile alike text cs
  else if isSpecialScheme scheme then
    match alike with
    | some base =>
      if 2 ≤ (cs.takeWhile isAnySlash).length then
        parseWithAuthority scheme text (cs.dropWhile isAnySlash)
      else parseRelative base text cs
    | none => parseWithAuthority scheme text (cs.dropWhile isAnySlash)
  else parseOther scheme text cs

/-- The URL of a text, which may be relative if there is a base. -/
def parseUrl (base : Option Url) (input : String) : Except UrlError Url :=
  let text := UrlText.ofString input
  match splitScheme text.body, base with
  | some (scheme, rest), _ => parseAfterScheme base scheme text rest
  | none, none => .error .relativeWithoutBase
  | none, some base =>
    if text.body.isEmpty && text.query.isNone && text.fragment.isSome then
      .ok { base with fragment := text.encodedFragment }
    else
      match base.path with
      | .whole _ => .error .relativeToWholePath
      | .segments _ =>
        if base.scheme = "file" then parseFile (some base) text text.body
        else parseRelative base text text.body

namespace Url

/-- The URL of a text. -/
def parse (text : String) : Except UrlError Url := parseUrl none text

/-- The URL of a text that may be relative to another URL. -/
def join (base : Url) (text : String) : Except UrlError Url := parseUrl (some base) text

end Url
end ModuleBundler
