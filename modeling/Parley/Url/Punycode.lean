import Parley.Text.Ascii

/-!
# Punycode

The ASCII form of a label with other characters: its ASCII characters, a hyphen, and the places of
the others as generalised variable-length integers in base 36.
-/

namespace Parley.Url.Punycode

/-- The thresholds of the digits of an integer stay between these bounds. -/
def leastThreshold : Nat := 1

def greatestThreshold : Nat := 26

/-- The threshold of the digit with the given weight index, a multiple of 36. -/
def threshold (index bias : Nat) : Nat :=
  min (max (index - bias) leastThreshold) greatestThreshold

/-- Divides a delta until it is small, counting the steps in 36s. -/
def settle (steps : Nat) : Nat → Nat → Nat × Nat
  | 0, delta => (steps, delta)
  | fuel + 1, delta =>
      if delta > 455 then settle (steps + 36) fuel (delta / 35) else (steps, delta)

/-- The bias for the integer after a delta, given how many characters are placed by then. -/
def adapt (delta count : Nat) (isFirst : Bool) : Nat :=
  let start := if isFirst then delta / 700 else delta / 2
  let (steps, rest) := settle 0 delta (start + start / count)
  steps + 36 * rest / (rest + 38)

/-- The digit with a value below 36: letters, then decimal digits. -/
def digit (value : Nat) : Char :=
  if value < 26 then Char.ofNat (97 + value) else Char.ofNat (22 + value)

def digitValue? (character : Char) : Option Nat :=
  if 'a' ≤ character ∧ character ≤ 'z' then some (character.toNat - 97)
  else if 'A' ≤ character ∧ character ≤ 'Z' then some (character.toNat - 65)
  else if '0' ≤ character ∧ character ≤ '9' then some (character.toNat - 22)
  else none

/-- The digits of a delta, least significant first. -/
def encodeDelta (bias : Nat) : Nat → Nat → Nat → List Char
  | 0, _, _ => []
  | fuel + 1, index, delta =>
      let limit := threshold index bias
      if delta < limit then [digit delta]
      else
        digit (limit + (delta - limit) % (36 - limit)) ::
          encodeDelta bias fuel (index + 36) ((delta - limit) / (36 - limit))

/-- Where an encoder stands between two code points. -/
structure Progress where
  delta : Nat
  bias : Nat
  placed : Nat
  isFirst : Bool
  written : List Char

/-- Writes the places of one code point, in the order of the label. -/
def encodePlaces (point : Nat) (progress : Progress) : List Char → Progress
  | [] => progress
  | character :: rest =>
      if character.toNat < point then
        encodePlaces point { progress with delta := progress.delta + 1 } rest
      else if character.toNat = point then
        encodePlaces point
          { delta := 0
            bias := adapt progress.delta (progress.placed + 1) progress.isFirst
            placed := progress.placed + 1
            isFirst := false
            written := progress.written ++
              encodeDelta progress.bias (progress.delta + 1) 36 progress.delta } rest
      else encodePlaces point progress rest

/-- The least code point of the label from `point` on. -/
def nextPoint? (point : Nat) (label : List Char) : Option Nat :=
  (label.map Char.toNat).foldl (fun least? candidate =>
    if candidate < point then least?
    else
      match least? with
      | none => some candidate
      | some least => some (min least candidate)) none

/-- Writes code points in ascending order. `fuel` bounds how many different ones there are. -/
def encodeFrom (label : List Char) : Nat → Nat → Progress → List Char
  | 0, _, progress => progress.written
  | fuel + 1, point, progress =>
      match nextPoint? point label with
      | none => progress.written
      | some next =>
          let delta := progress.delta + (next - point) * (progress.placed + 1)
          let after := encodePlaces next { progress with delta } label
          encodeFrom label fuel (next + 1) { after with delta := after.delta + 1 }

def encode (label : List Char) : List Char :=
  let plain := label.filter (·.toNat < 128)
  encodeFrom label (label.length + 1) 128
    { delta := 0
      bias := 72
      placed := plain.length
      isFirst := true
      written := if plain.isEmpty then [] else plain ++ ['-'] }

/-- The integer at the front of the digits, and the digits after it. -/
def decodeDelta (bias : Nat) (value weight index : Nat) : List Char → Option (Nat × List Char)
  | [] => none
  | character :: rest =>
      match digitValue? character with
      | none => none
      | some unit =>
          let value := value + unit * weight
          let limit := threshold index bias
          if unit < limit then some (value, rest)
          else decodeDelta bias value (weight * (36 - limit)) (index + 36) rest

/-- Inserts the characters that the digits place. `fuel` bounds how many there are. -/
def decodeFrom (label : List Char) (point place bias : Nat) (isFirst : Bool) :
    Nat → List Char → Option (List Char)
  | _, [] => some label
  | 0, _ :: _ => none
  | fuel + 1, digits =>
      match decodeDelta bias 0 1 36 digits with
      | none => none
      | some (delta, rest) =>
          let count := label.length + 1
          let point := point + (place + delta) / count
          let place := (place + delta) % count
          if Nat.isValidChar point then
            decodeFrom (label.take place ++ Char.ofNat point :: label.drop place) point
              (place + 1) (adapt delta count isFirst) false fuel rest
          else none

/-- The label that an encoded form stands for. The hyphen before the digits stands only behind
plain characters. -/
def decode? (text : List Char) : Option (List Char) :=
  let tail := (text.reverse.takeWhile (· ≠ '-')).reverse
  let plain := text.take (text.length - tail.length - 1)
  if ! Text.isAscii text || (plain.isEmpty && tail.length < text.length) then none
  else decodeFrom plain 128 0 72 true tail.length tail

end Parley.Url.Punycode
