/-!
# Base64

The standard alphabet with padding: three bytes are written as four characters. `decode?` reads
back what `encode` writes.
-/

namespace Parley.Text.Base64

/-- The character for a value below sixty-four. -/
def symbol (value : Nat) : Char :=
  if value < 26 then Char.ofNat (65 + value)
  else if value < 52 then Char.ofNat (71 + value)
  else if value < 62 then Char.ofNat (value - 4)
  else if value = 62 then '+'
  else '/'

def value? (character : Char) : Option Nat :=
  if 'A' ≤ character ∧ character ≤ 'Z' then some (character.toNat - 65)
  else if 'a' ≤ character ∧ character ≤ 'z' then some (character.toNat - 71)
  else if '0' ≤ character ∧ character ≤ '9' then some (character.toNat + 4)
  else if character = '+' then some 62
  else if character = '/' then some 63
  else none

/-- The four characters of three bytes. -/
def encodeThree (one two three : UInt8) : List Char :=
  let bits := one.toNat * 65536 + two.toNat * 256 + three.toNat
  [symbol (bits / 262144), symbol (bits / 4096 % 64), symbol (bits / 64 % 64),
    symbol (bits % 64)]

/-- The characters of the bytes appended to those `written` already, which stand in reverse. -/
def encodeOnto (written : List Char) : List UInt8 → List Char
  | one :: two :: three :: rest =>
      encodeOnto ((encodeThree one two three).reverse ++ written) rest
  | [one, two] =>
      ('=' :: ((encodeThree one two 0).take 3).reverse ++ written).reverse
  | [one] =>
      ('=' :: '=' :: ((encodeThree one 0 0).take 2).reverse ++ written).reverse
  | [] => written.reverse

/-- The padded base64 form of the bytes. -/
def encode (bytes : List UInt8) : List Char :=
  encodeOnto [] bytes

/-- The bytes whose padded form the text is. -/
def decode? : List Char → Option (List UInt8)
  | [] => some []
  | [one, two, '=', '='] => do
      let bits := (← value? one) * 64 + (← value? two)
      if bits % 16 = 0 then some [UInt8.ofNat (bits / 16)] else none
  | [one, two, three, '='] => do
      let bits := (← value? one) * 4096 + (← value? two) * 64 + (← value? three)
      if bits % 4 = 0 then
        some [UInt8.ofNat (bits / 1024), UInt8.ofNat (bits / 4 % 256)]
      else none
  | one :: two :: three :: four :: rest => do
      let bits := (← value? one) * 262144 + (← value? two) * 4096 +
        (← value? three) * 64 + (← value? four)
      let bytes ← decode? rest
      some (UInt8.ofNat (bits / 65536) :: UInt8.ofNat (bits / 256 % 256) ::
        UInt8.ofNat (bits % 256) :: bytes)
  | _ => none

end Parley.Text.Base64
