/-!
# Reading JSON

* `JsonNode` : a value as it was read. Its strings and numbers are kept as written, so that only
  those that someone asks for have to make sense;
* `JsonNode.ofString` : the value that makes up a text;
* `JsonNode.string?`, `JsonNode.bool?`, `JsonNode.natBelow?`, … : what a value is;
* `JsonNode.fields?` : the values of the named fields of a record.
-/

namespace ModuleBundler

/-- A value as it was read. -/
inductive JsonNode where
  | null
  | bool (b : Bool)
  | number (raw : List Char)
  /-- What stands between the quotes. -/
  | string (raw : List Char)
  | array (elements : List JsonNode)
  | object (members : List (List Char × JsonNode))

/-! ## Texts -/

def isJsonBlank (c : Char) : Bool := c = ' ' || c = '\n' || c = '\t' || c = '\r'

def skipJsonBlanks (cs : List Char) : List Char := cs.dropWhile isJsonBlank

/-- The value of four hexadecimal digits. -/
def jsonHex? (a b c d : Char) : Option Nat :=
  [a, b, c, d].foldlM (fun value digit =>
    if '0' ≤ digit ∧ digit ≤ '9' then some (value * 16 + (digit.toNat - '0'.toNat))
    else if 'a' ≤ digit ∧ digit ≤ 'f' then some (value * 16 + (digit.toNat - 'a'.toNat + 10))
    else if 'A' ≤ digit ∧ digit ≤ 'F' then some (value * 16 + (digit.toNat - 'A'.toNat + 10))
    else none) 0

/-- The character that a backslash and a letter stand for. -/
def jsonEscape? : Char → Option Char
  | '"' => some '"'
  | '\\' => some '\\'
  | '/' => some '/'
  | 'b' => some '\x08'
  | 'f' => some '\x0c'
  | 'n' => some '\n'
  | 'r' => some '\r'
  | 't' => some '\t'
  | _ => none

/-- What stands up to the closing quote, and what follows it. -/
def readJsonString : List Char → Option (List Char × List Char)
  | '"' :: rest => some ([], rest)
  | '\\' :: 'u' :: a :: b :: c :: d :: rest => do
    let _ ← jsonHex? a b c d
    let (raw, after) ← readJsonString rest
    pure ('\\' :: 'u' :: a :: b :: c :: d :: raw, after)
  | '\\' :: c :: rest => do
    let _ ← jsonEscape? c
    let (raw, after) ← readJsonString rest
    pure ('\\' :: c :: raw, after)
  | c :: rest =>
    if c.toNat < 0x20 || c = '\\' then none
    else do
      let (raw, after) ← readJsonString rest
      pure (c :: raw, after)
  | [] => none

/-- The text that stands between quotes. The two halves of a surrogate pair have to come
together. -/
def decodeJsonString : List Char → Option (List Char)
  | '\\' :: 'u' :: a :: b :: c :: d :: '\\' :: 'u' :: e :: f :: g :: h :: rest => do
    let first ← jsonHex? a b c d
    let second ← jsonHex? e f g h
    if 0xd800 ≤ first ∧ first ≤ 0xdbff then
      if 0xdc00 ≤ second ∧ second ≤ 0xdfff then
        let decoded ← decodeJsonString rest
        pure (Char.ofNat (0x10000 + (first - 0xd800) * 0x400 + (second - 0xdc00)) :: decoded)
      else none
    else if 0xdc00 ≤ first ∧ first ≤ 0xdfff then none
    else
      let decoded ← decodeJsonString ('\\' :: 'u' :: e :: f :: g :: h :: rest)
      pure (Char.ofNat first :: decoded)
  | '\\' :: 'u' :: a :: b :: c :: d :: rest => do
    let code ← jsonHex? a b c d
    if 0xd800 ≤ code ∧ code ≤ 0xdfff then none
    else
      let decoded ← decodeJsonString rest
      pure (Char.ofNat code :: decoded)
  | '\\' :: c :: rest => do
    let char ← jsonEscape? c
    let decoded ← decodeJsonString rest
    pure (char :: decoded)
  | c :: rest => (decodeJsonString rest).map (c :: ·)
  | [] => some []

/-- Digits, at least one. -/
def readJsonDigits (cs : List Char) : Option (List Char × List Char) :=
  let digits := cs.takeWhile Char.isDigit
  if digits.isEmpty then none else some (digits, cs.drop digits.length)

/-- The digits before the point. A zero stands alone. -/
def readJsonInteger : List Char → Option (List Char × List Char)
  | '0' :: rest => if rest.head?.any Char.isDigit then none else some (['0'], rest)
  | cs => readJsonDigits cs

def readJsonFraction : List Char → Option (List Char × List Char)
  | '.' :: rest => do
    let (digits, after) ← readJsonDigits rest
    pure ('.' :: digits, after)
  | cs => some ([], cs)

def isJsonExponentMark (c : Char) : Bool := c = 'e' || c = 'E'

def isJsonSign (c : Char) : Bool := c = '+' || c = '-'

def readJsonExponent (cs : List Char) : Option (List Char × List Char) :=
  match cs with
  | mark :: rest =>
    if isJsonExponentMark mark then do
      let sign := rest.takeWhile isJsonSign
      if 1 < sign.length then none
      else
        let (digits, after) ← readJsonDigits (rest.drop sign.length)
        pure (mark :: sign ++ digits, after)
    else some ([], cs)
  | [] => some ([], [])

def readJsonNumber (cs : List Char) : Option (List Char × List Char) := do
  let sign := if cs.head? = some '-' then ['-'] else []
  let (whole, rest) ← readJsonInteger (cs.drop sign.length)
  let (fraction, rest) ← readJsonFraction rest
  let (exponent, rest) ← readJsonExponent rest
  pure (sign ++ whole ++ fraction ++ exponent, rest)

/-- Items with commas between them up to a closing bracket, of which there are no more than
`count`. -/
def readJsonItems {α : Type} (item : List Char → Option (α × List Char)) (close : Char) :
    Nat → List Char → Option (List α × List Char)
  | 0, _ => none
  | count + 1, cs => do
    let (first, rest) ← item cs
    match skipJsonBlanks rest with
    | c :: rest =>
      if c = ',' then do
        let (others, after) ← readJsonItems item close count rest
        pure (first :: others, after)
      else if c = close then some ([first], rest)
      else none
    | [] => none

/-- What stands after an opening bracket up to the closing one. -/
def readJsonList {α : Type} (item : List Char → Option (α × List Char)) (close : Char)
    (cs : List Char) : Option (List α × List Char) :=
  match skipJsonBlanks cs with
  | c :: rest =>
    if c = close then some ([], rest) else readJsonItems item close cs.length (c :: rest)
  | [] => none

/-- A name, a colon and a value. -/
def readJsonMember (value : List Char → Option (JsonNode × List Char)) (cs : List Char) :
    Option ((List Char × JsonNode) × List Char) :=
  match skipJsonBlanks cs with
  | '"' :: rest => do
    let (name, rest) ← readJsonString rest
    match skipJsonBlanks rest with
    | ':' :: rest => do
      let (v, after) ← value rest
      pure ((name, v), after)
    | _ => none
  | _ => none

/-- A value that nests to a depth, and what follows it. -/
def readJsonValue : Nat → List Char → Option (JsonNode × List Char)
  | 0, _ => none
  | depth + 1, cs =>
    match skipJsonBlanks cs with
    | 'n' :: 'u' :: 'l' :: 'l' :: rest => some (.null, rest)
    | 't' :: 'r' :: 'u' :: 'e' :: rest => some (.bool true, rest)
    | 'f' :: 'a' :: 'l' :: 's' :: 'e' :: rest => some (.bool false, rest)
    | '"' :: rest => (readJsonString rest).map fun (raw, after) => (.string raw, after)
    | '[' :: rest => do
      let (elements, after) ← readJsonList (readJsonValue depth) ']' rest
      pure (.array elements, after)
    | '{' :: rest => do
      let (members, after) ← readJsonList (readJsonMember (readJsonValue depth)) '}' rest
      pure (.object members, after)
    | cs => (readJsonNumber cs).map fun (raw, after) => (.number raw, after)

namespace JsonNode

/-- The value that makes up a whole text. A text nests no deeper than it is long. -/
def ofString (text : String) : Option JsonNode := do
  let cs := text.toList
  let (v, rest) ← readJsonValue (cs.length + 1) cs
  if (skipJsonBlanks rest).isEmpty then some v else none

/-! ## What a value is -/

def string? : JsonNode → Option String
  | .string raw => (decodeJsonString raw).map String.ofList
  | _ => none

def bool? : JsonNode → Option Bool
  | .bool b => some b
  | _ => none

/-- A whole number without a sign, below a limit. -/
def natBelow? (limit : Nat) : JsonNode → Option Nat
  | .number raw => do
    let n ← if raw.all Char.isDigit then (String.ofList raw).toNat? else none
    if n < limit then some n else none
  | _ => none

/-- The elements of an array, each of which has to be as described. -/
def list? {α : Type} (element : JsonNode → Option α) : JsonNode → Option (List α)
  | .array elements => elements.mapM element
  | _ => none

/-- Something or `null`. -/
def orNull? {α : Type} (value : JsonNode → Option α) : JsonNode → Option (Option α)
  | .null => some none
  | v => (value v).map some

/-! ## Records -/

/-- The values of fields among members. None may be there twice, and members beside the fields only
if that is allowed. -/
def fieldsOfMembers? (names : List String) (othersAllowed : Bool) :
    List (List Char × JsonNode) → Option (List (String × JsonNode))
  | [] => some []
  | (raw, v) :: rest => do
    let name ← decodeJsonString raw
    let fields ← fieldsOfMembers? names othersAllowed rest
    let name := String.ofList name
    if names.contains name then
      if (fields.lookup name).isSome then none else some ((name, v) :: fields)
    else if othersAllowed then some fields
    else none

/-- The values of the fields of a record, which is an object or a list of values in the order of the
fields. -/
def fields? (names : List String) (othersAllowed : Bool) :
    JsonNode → Option (List (String × JsonNode))
  | .object members => fieldsOfMembers? names othersAllowed members
  | .array elements =>
    if names.length < elements.length then none else some (names.zip elements)
  | _ => none

/-- The value of a field, which may be missing. -/
def field? {α : Type} (fields : List (String × JsonNode)) (name : String)
    (value : JsonNode → Option α) (missing : Option α) : Option α :=
  match fields.lookup name with
  | some v => value v
  | none => missing

end JsonNode
end ModuleBundler
