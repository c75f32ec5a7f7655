/-!
# Punycode

Names beyond ASCII in ASCII letters, digits and hyphens: the ASCII characters first, then where the
others go, in order of their code points, as numbers of variable length.

* `Punycode.encode` : the ASCII form of a list of characters;
* `Punycode.decode` : the characters that an ASCII form stands for.
-/

namespace ModuleBundler.Punycode

def digitChar (d : Nat) : Char :=
  if d < 26 then Char.ofNat ('a'.toNat + d) else Char.ofNat ('0'.toNat + (d - 26))

def digitValue? (c : Char) : Option Nat :=
  if 'a' ≤ c ∧ c ≤ 'z' then some (c.toNat - 'a'.toNat)
  else if 'A' ≤ c ∧ c ≤ 'Z' then some (c.toNat - 'A'.toNat)
  else if '0' ≤ c ∧ c ≤ '9' then some (c.toNat - '0'.toNat + 26)
  else none

/-- The last digit of a number is below the threshold of its place, the others are not. -/
def threshold (place bias : Nat) : Nat := min 26 (max 1 (place - bias))

theorem one_le_threshold (place bias : Nat) : 1 ≤ threshold place bias := by
  unfold threshold; omega

/-- Divides a difference down and adds up what that means for the bias. -/
def scaleDown (delta bias : Nat) : Nat :=
  if h : 455 < delta then scaleDown (delta / 35) (bias + 36)
  else bias + 36 * delta / (delta + 38)
termination_by delta
decreasing_by omega

/-- The bias after a difference, with the count of characters written so far. -/
def adapt (delta count : Nat) (isFirst : Bool) : Nat :=
  let halved := if isFirst then delta / 700 else delta / 2
  scaleDown (halved + halved / count) 0

/-- The digits of a number, the lowest first. -/
def numberDigits (bias place n : Nat) : List Char :=
  let t := threshold place bias
  if n < t then [digitChar n]
  else digitChar (t + (n - t) % (36 - t)) :: numberDigits bias (place + 36) ((n - t) / (36 - t))
termination_by n
decreasing_by
  have := one_le_threshold place bias
  have := Nat.div_le_self (n - threshold place bias) (36 - threshold place bias)
  omega

/-- What has been written, how far the next character is from the last one, and the bias. -/
structure Encoder where
  written : List Char
  delta : Nat
  bias : Nat
  count : Nat

/-- Passes a character on the way to the next one with the code `code`, or writes it. -/
def Encoder.pass (basicCount code : Nat) (e : Encoder) (c : Char) : Encoder :=
  if c.toNat < code then { e with delta := e.delta + 1 }
  else if c.toNat = code then
    { written := e.written ++ numberDigits e.bias 36 e.delta
      delta := 0
      bias := adapt e.delta (e.count + 1) (e.count = basicCount)
      count := e.count + 1 }
  else e

/-- Writes the characters with each of the codes in turn. All codes below `next` are done. -/
def encodeCodes (input : List Char) (basicCount : Nat) : List Nat → Nat → Encoder → Encoder
  | [], _, e => e
  | code :: codes, next, e =>
    let reached := { e with delta := e.delta + (code - next) * (e.count + 1) }
    let passed := input.foldl (Encoder.pass basicCount code) reached
    encodeCodes input basicCount codes (code + 1) { passed with delta := passed.delta + 1 }

def encode (input : List Char) : List Char :=
  let basic := input.filter fun c => c.toNat < 0x80
  let codes := ((input.filter fun c => 0x80 ≤ c.toNat).map Char.toNat).eraseDups.mergeSort
  let encoded := encodeCodes input basic.length codes 0x80 ⟨[], 0, 72, basic.length⟩
  basic ++ (if basic.isEmpty then [] else ['-']) ++ encoded.written

/-- Numbers and the weights of their digits have to fit 32 bits. -/
def numberLimit : Nat := UInt32.size

/-- Reads a number that is added to `sum`, and answers what follows it. -/
def readNumber (bias : Nat) : List Char → Nat → Nat → Nat → Option (Nat × List Char)
  | [], _, _, _ => none
  | c :: rest, place, weight, sum =>
    match digitValue? c with
    | none => none
    | some d =>
      let t := threshold place bias
      if numberLimit ≤ sum + d * weight then none
      else if d < t then some (sum + d * weight, rest)
      else if numberLimit ≤ weight * (36 - t) then none
      else readNumber bias rest (place + 36) (weight * (36 - t)) (sum + d * weight)

theorem length_of_readNumber {bias : Nat} {cs : List Char} {place weight sum : Nat}
    {r : Nat × List Char} (h : readNumber bias cs place weight sum = some r) :
    r.2.length < cs.length := by
  induction cs generalizing place weight sum with
  | nil => simp [readNumber] at h
  | cons c rest ih =>
    rw [readNumber] at h
    split at h
    · simp at h
    · dsimp only at h
      split at h
      · simp at h
      · split at h
        · rw [← Option.some.inj h]; simp
        · split at h
          · simp at h
          · have := ih h
            simp; omega

/-- Puts the characters that the numbers stand for among those decoded so far. -/
def decodeNumbers (bias code place : Nat) (decoded : List Char) : List Char → Option (List Char)
  | [] => some decoded
  | c :: rest =>
    match _h : readNumber bias (c :: rest) 36 1 place with
    | none => none
    | some (sum, after) =>
      let count := decoded.length + 1
      let next := code + sum / count
      if next.isValidChar then
        decodeNumbers (adapt (sum - place) count (place = 0)) next (sum % count + 1)
          (decoded.insertIdx (sum % count) (Char.ofNat next)) after
      else none
termination_by cs => cs.length
decreasing_by
  have := length_of_readNumber _h
  simpa using this

/-- What stands before and after the last hyphen. If nothing stands before it, it does not count,
and as without a hyphen all stands after it. -/
def splitLast (cs : List Char) : List Char × List Char :=
  let after := (cs.reverse.takeWhile (· ≠ '-')).reverse
  let before := cs.take (cs.length - after.length - 1)
  if before.isEmpty then ([], cs) else (before, after)

def decode (cs : List Char) : Option (List Char) :=
  let (basic, numbers) := splitLast cs
  if basic.all fun c => c.toNat < 0x80 then decodeNumbers 72 0x80 0 basic numbers else none

end ModuleBundler.Punycode
