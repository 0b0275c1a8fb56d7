/-!
# ASCII digits and case

The value of a digit in a base up to sixteen, and a search for a piece of text that compares
ASCII letters without case and every other character exactly.
-/

namespace Parley.Text

/-- The value of a hexadecimal digit of either case. -/
def hexValue? (character : Char) : Option Nat :=
  if '0' ≤ character ∧ character ≤ '9' then some (character.toNat - 48)
  else if 'a' ≤ character ∧ character ≤ 'f' then some (character.toNat - 87)
  else if 'A' ≤ character ∧ character ≤ 'F' then some (character.toNat - 55)
  else none

/-- The value of a digit in `base`, which is at most sixteen. -/
def digitValue? (base : Nat) (character : Char) : Option Nat :=
  (hexValue? character).filter (· < base)

/-- The number that a run of digits of `base` writes, most significant digit first.
A character that is no digit counts as zero. -/
def numeral (base : Nat) (digits : List Char) : Nat :=
  digits.foldl (fun value digit => value * base + (digitValue? base digit).getD 0) 0

/-- The digit with the given value below sixteen, letters in upper case. -/
def upperHexDigit (value : Nat) : Char :=
  if value < 10 then Char.ofNat (48 + value) else Char.ofNat (55 + value)

/-- The digit with the given value below sixteen, letters in lower case. -/
def lowerHexDigit (value : Nat) : Char :=
  if value < 10 then Char.ofNat (48 + value) else Char.ofNat (87 + value)

/-- A contiguous piece of the text equals `piece` up to the case of ASCII letters.
`Char.toLower` moves the twenty-six ASCII capitals and nothing else, so no character outside
ASCII can stand for a letter. -/
def containsFolded (piece : List Char) : List Char → Bool
  | [] => piece.isEmpty
  | character :: rest =>
      (piece.map Char.toLower).isPrefixOf ((character :: rest).map Char.toLower) ||
        containsFolded piece rest

def isAscii (text : List Char) : Bool :=
  text.all fun character => character.toNat < 128

end Parley.Text
