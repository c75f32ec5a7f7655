/-!
# JSON values

* `JsonValue` : a value to write. The members of an object keep their order;
* `quoteJson` : a text as a string literal, with no more escapes than needed;
* `JsonValue.compact` : a value on one line; `JsonValue.pretty` : a value with a line for each
  element and member.
-/

namespace ModuleBundler

inductive JsonValue where
  | null
  | bool (b : Bool)
  | number (n : Int)
  | string (s : String)
  | array (elements : List JsonValue)
  | object (members : List (String × JsonValue))

/-! ## Strings -/

def lowerHexDigit (n : Nat) : Char :=
  if n < 10 then Char.ofNat ('0'.toNat + n) else Char.ofNat ('a'.toNat + (n - 10))

/-- A character inside a string literal. Quotes, backslashes and control characters are escaped. -/
def quoteJsonChar (c : Char) : List Char :=
  match c with
  | '"' => ['\\', '"']
  | '\\' => ['\\', '\\']
  | '\x08' => ['\\', 'b']
  | '\x09' => ['\\', 't']
  | '\x0a' => ['\\', 'n']
  | '\x0c' => ['\\', 'f']
  | '\x0d' => ['\\', 'r']
  | c =>
    if c.toNat < 0x20 then
      ['\\', 'u', '0', '0', lowerHexDigit (c.toNat / 16), lowerHexDigit (c.toNat % 16)]
    else [c]

/-- A text as a string literal. -/
def quoteJson (s : String) : String :=
  String.ofList ('"' :: s.toList.flatMap quoteJsonChar ++ ['"'])

/-! ## Values -/

namespace JsonValue

/-- An absent value as `null`. -/
def orNull {α : Type} (write : α → JsonValue) : Option α → JsonValue
  | some a => write a
  | none => .null

def ofStrings (texts : List String) : JsonValue := .array (texts.map .string)

mutual

/-- A value on one line and without blanks. -/
def compact : JsonValue → String
  | .null => "null"
  | .bool true => "true"
  | .bool false => "false"
  | .number n => toString n
  | .string s => quoteJson s
  | .array elements => "[" ++ ",".intercalate (compactElements elements) ++ "]"
  | .object members => "\x7b" ++ ",".intercalate (compactMembers members) ++ "\x7d"

def compactElements : List JsonValue → List String
  | [] => []
  | v :: rest => compact v :: compactElements rest

def compactMembers : List (String × JsonValue) → List String
  | [] => []
  | (name, v) :: rest => (quoteJson name ++ ":" ++ compact v) :: compactMembers rest

end

/-- The start of a line that is nested so deep. -/
def indentation (depth : Nat) : String := String.ofList (List.replicate (2 * depth) ' ')

/-- Lines inside brackets at a depth. Nothing inside leaves the brackets on one line. -/
def bracketLines (opening closing : String) (depth : Nat) (lines : List String) : String :=
  if lines.isEmpty then opening ++ closing
  else
    opening ++ "\n" ++
      ",\n".intercalate (lines.map (indentation (depth + 1) ++ ·)) ++
      "\n" ++ indentation depth ++ closing

mutual

/-- A value at a depth, with a line of its own for each element and member. -/
def prettyAt (depth : Nat) : JsonValue → String
  | .null => "null"
  | .bool true => "true"
  | .bool false => "false"
  | .number n => toString n
  | .string s => quoteJson s
  | .array elements => bracketLines "[" "]" depth (prettyElements (depth + 1) elements)
  | .object members => bracketLines "\x7b" "\x7d" depth (prettyMembers (depth + 1) members)

def prettyElements (depth : Nat) : List JsonValue → List String
  | [] => []
  | v :: rest => prettyAt depth v :: prettyElements depth rest

def prettyMembers (depth : Nat) : List (String × JsonValue) → List String
  | [] => []
  | (name, v) :: rest =>
    (quoteJson name ++ ": " ++ prettyAt depth v) :: prettyMembers depth rest

end

def pretty (v : JsonValue) : String := prettyAt 0 v

end JsonValue
end ModuleBundler
