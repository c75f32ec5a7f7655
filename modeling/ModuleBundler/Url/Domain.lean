import ModuleBundler.Unicode.Normalization
import ModuleBundler.Url.Domain.Label
import ModuleBundler.Url.Domain.LetterTable
import ModuleBundler.Url.Domain.RefusedTable
import ModuleBundler.Url.Domain.WordTable
import ModuleBundler.Url.Punycode

/-!
# Domain names

* `foldDomainChar` : what becomes of a character, so that spellings of one name agree;
* `foldDomain` : what becomes of a name, in the composed normal form;
* `DomainLabel` : a label as it is read and as it is written in ASCII;
* `domainToAscii` : the ASCII form of a domain, in lower case and with each label beyond ASCII in
  Punycode.
-/

namespace ModuleBundler

/-! ## Characters -/

/-- ASCII characters that no domain may hold. -/
def isForbiddenInDomain (c : Char) : Bool :=
  c.toNat ≤ 0x20 || c = '#' || c = '%' || c = '/' || c = ':' || c = '<' || c = '>' || c = '?' ||
    c = '@' || c = '[' || c = '\\' || c = ']' || c = '^' || c = '|' || c = '\x7f'

/-- What becomes of a character, unless no domain may hold it. -/
def foldDomainChar (c : Char) : Option (List Char) :=
  if c.toNat < 0x80 then some [c.toLower]
  else if isRefusedInDomain c then none
  else if isIgnoredInDomain c then some []
  else
    match letterRanges.find? fun r => r.first ≤ c.toNat && c.toNat ≤ r.last with
    | some r => some [r.apply c.toNat]
    | none => some ((domainWord? c).getD [c])

/-- What becomes of a name. Only what comes of it in the end is held against the characters that are
forbidden. -/
def foldDomain (domain : List Char) : Option (List Char) := do
  let folded ← domain.mapM foldDomainChar
  let normal := normalize folded.flatten
  if normal.any isForbiddenInDomain then none else some normal

/-! ## Labels -/

/-- The mark in front of a label in Punycode. -/
def punycodeMark : List Char := ['x', 'n', '-', '-']

/-- The most characters that Punycode is read from, and the most that it is written for. -/
def longestPunycode : Nat := 2000

def longestLabel : Nat := 1000

/-- A label as it is read and as it is written in ASCII. -/
structure DomainLabel where
  characters : List Char
  ascii : List Char

/-- What the Punycode of a label stands for. It has to need Punycode, and folding must not change
it. -/
def decodeLabel (code : List Char) : Option (List Char) := do
  let label ← if longestPunycode < code.length then none else Punycode.decode code
  if label.any (fun c => 0x80 ≤ c.toNat) && foldDomain label = some label then some label else none

/-- Whether characters may stand next to each other as they do in a label. -/
def isCoherent (label : List Char) : Bool :=
  !label.head?.any isMark && joinersFit label &&
    (label.length ≤ longestLabel || label.all fun c => c.toNat < 0x80)

namespace DomainLabel

/-- The label of folded characters. -/
def ofCharacters (label : List Char) : Option DomainLabel := do
  let read ←
    if punycodeMark.isPrefixOf label then
      (decodeLabel (label.drop punycodeMark.length)).map fun decoded => ⟨decoded, label⟩
    else if label.all fun c => c.toNat < 0x80 then some ⟨label, label⟩
    else some ⟨label, punycodeMark ++ Punycode.encode label⟩
  if isCoherent read.characters then some read else none

end DomainLabel

/-! ## Domains -/

/-- Whether labels can stand in one domain: as soon as something in it is written from right to
left, each of them reads in one direction. -/
def areOneDomain (labels : List DomainLabel) : Bool :=
  !labels.any (fun l => l.characters.any isRightToLeft) ||
    labels.all fun l => isOneDirection l.characters

/-- The ASCII form of a domain, if it has one. -/
def domainToAscii (domain : List Char) : Option (List Char) := do
  let folded ← foldDomain domain
  let labels ← (folded.splitOn '.').mapM DomainLabel.ofCharacters
  if areOneDomain labels then some (['.'].intercalate (labels.map DomainLabel.ascii)) else none

end ModuleBundler
