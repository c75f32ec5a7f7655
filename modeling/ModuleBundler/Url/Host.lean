import ModuleBundler.Url.Basic
import ModuleBundler.Url.Domain
import ModuleBundler.Url.Percent

/-!
# Reading hosts

* `UrlError` : why a text is no URL;
* `parseIpv4Number?`, `parseIpv4`, `parseIpv6` : addresses;
* `Host.parse` : the host of a special URL, `Host.parseText` that of any other.
-/

namespace ModuleBundler

/-- Why a text is no URL. -/
inductive UrlError where
  | emptyHost
  | invalidDomain
  | invalidPort
  | invalidIpv4Address
  | invalidIpv6Address
  | invalidHostCharacter
  | relativeWithoutBase
  /-- Relative to a URL whose path has no segments. -/
  | relativeToWholePath
  deriving DecidableEq

def UrlError.message : UrlError → String
  | .emptyHost => "empty host"
  | .invalidDomain => "invalid international domain name"
  | .invalidPort => "invalid port number"
  | .invalidIpv4Address => "invalid IPv4 address"
  | .invalidIpv6Address => "invalid IPv6 address"
  | .invalidHostCharacter => "invalid domain character"
  | .relativeWithoutBase => "relative URL without a base"
  | .relativeToWholePath => "relative URL with a cannot-be-a-base base"

/-! ## IPv4 -/

/-- The value of digits in a radix, if all are digits of it. -/
def digitsValue? (radix : Nat) (cs : List Char) : Option Nat :=
  cs.foldlM (fun value c => do
    let d ← hexDigit? c
    if d < radix then some (value * radix + d) else none) 0

/-- A number in decimal, in octal after a zero, or in hexadecimal after `0x`. -/
def parseIpv4Number? : List Char → Option Nat
  | [] => none
  | '0' :: 'x' :: digits | '0' :: 'X' :: digits => digitsValue? 16 digits
  | '0' :: d :: digits => digitsValue? 8 (d :: digits)
  | digits => digitsValue? 10 digits

/-- The labels between the dots. An empty one at the end does not count. -/
def domainLabels (cs : List Char) : List (List Char) :=
  let labels := cs.splitOn '.'
  if labels.getLast? = some [] then labels.dropLast else labels

/-- Whether a domain is an address, as its last label is a number. -/
def endsInNumber (cs : List Char) : Bool :=
  match (domainLabels cs).getLast? with
  | some last =>
    (!last.isEmpty && last.all Char.isDigit) || (parseIpv4Number? last).isSome
  | none => false

/-- Up to four numbers. The last one fills the bytes that the others leave. -/
def parseIpv4 (cs : List Char) : Except UrlError Nat :=
  match (domainLabels cs).mapM parseIpv4Number? with
  | some numbers =>
    let bytes := numbers.dropLast
    let last := numbers.getLast?.getD 0
    if 4 < numbers.length || bytes.any (255 < ·) || 1 <<< (8 * (4 - bytes.length)) ≤ last then
      .error .invalidIpv4Address
    else
      .ok (bytes.zipIdx.foldl (fun total (byte, i) => total + (byte <<< (8 * (3 - i)))) last)
  | none => .error .invalidIpv4Address

/-! ## IPv6 -/

/-- A decimal number below 256 without a zero in front. -/
def parseByte? (cs : List Char) : Option Nat :=
  if cs.isEmpty || !cs.all Char.isDigit || (cs.head? = some '0' && cs.length ≠ 1) then none
  else do
    let value ← digitsValue? 10 cs
    if value < 256 then some value else none

/-- Four decimal bytes as two pieces. -/
def parseDotted? (cs : List Char) : Option (List Nat) := do
  match ← (cs.splitOn '.').mapM parseByte? with
  | [a, b, c, d] => some [a * 256 + b, c * 256 + d]
  | _ => none

/-- A piece of one to four hexadecimal digits. -/
def parsePiece? (cs : List Char) : Option Nat :=
  if cs.isEmpty || 4 < cs.length then none else digitsValue? 16 cs

/-- Pieces between colons, none of them empty. The last may be four decimal bytes. -/
def parsePieces? : List (List Char) → Option (List Nat)
  | [] => some []
  | [last] =>
    if last.contains '.' then parseDotted? last else (parsePiece? last).map ([·])
  | piece :: rest => do
    let n ← parsePiece? piece
    let ns ← parsePieces? rest
    pure (n :: ns)

/-- Pieces between colons, or nothing. -/
def parseSide? (cs : List Char) : Option (List Nat) :=
  if cs.isEmpty then some [] else parsePieces? (cs.splitOn ':')

/-- What stands before and after the first two colons in a row. -/
def splitDoubleColon : List Char → Option (List Char × List Char)
  | ':' :: ':' :: rest => some ([], rest)
  | c :: rest => (splitDoubleColon rest).map fun (before, after) => (c :: before, after)
  | [] => none

/-- Eight pieces, or fewer with two colons for one or more zeros. -/
def parseIpv6 (cs : List Char) : Except UrlError (List Nat) :=
  let pieces? : Option (List Nat) := do
    match splitDoubleColon cs with
    | none =>
      let pieces ← parseSide? cs
      if pieces.length = 8 then some pieces else none
    | some (before, after) =>
      let left ← parseSide? before
      let right ← parseSide? after
      if before.contains '.' then none
      else if left.length + right.length ≤ 7 then
        some (left ++ List.replicate (8 - left.length - right.length) 0 ++ right)
      else none
  match pieces? with
  | some pieces => .ok pieces
  | none => .error .invalidIpv6Address

/-! ## Hosts -/

/-- The text between brackets, if the text begins with one. -/
def parseBracketed (cs : List Char) : Except UrlError Host :=
  if cs.getLast? = some ']' then .ipv6 <$> parseIpv6 (cs.drop 1).dropLast
  else .error .invalidIpv6Address

/-- The host of a special URL: an address or a domain. -/
def Host.parse (cs : List Char) : Except UrlError Host :=
  if cs.head? = some '[' then parseBracketed cs
  else
    let decoded := String.fromUTF8? (percentDecode cs).toByteArray
    match decoded.bind fun text => domainToAscii text.toList with
    | none => .error .invalidDomain
    | some [] => .error .emptyHost
    | some name =>
      if endsInNumber name then .ipv4 <$> parseIpv4 name
      else .ok (.domain (String.ofList name))

/-- Characters that no host may hold. -/
def isForbiddenInHost (c : Char) : Bool :=
  c = '\x00' || c = '\t' || c = '\n' || c = '\r' || c = ' ' || c = '#' || c = '/' || c = ':' ||
    c = '<' || c = '>' || c = '?' || c = '@' || c = '[' || c = '\\' || c = ']' || c = '^' || c = '|'

/-- The host of a URL that is not special: an address in brackets or a text. -/
def Host.parseText (cs : List Char) : Except UrlError Host :=
  if cs.head? = some '[' then parseBracketed cs
  else if cs.any isForbiddenInHost then .error .invalidHostCharacter
  else .ok (.domain (percentEncode inControlSet cs))

end ModuleBundler
