import Parley.Text.Ascii

/-!
# Random identifiers

The text of a universally unique identifier that is random up to the bits which say so.
-/

namespace Parley.Terminal

/-- A byte as two hexadecimal digits. -/
def hexByte (byte : UInt8) : List Char :=
  [Text.lowerHexDigit (byte.toNat / 16), Text.lowerHexDigit (byte.toNat % 16)]

/-- The identifier that sixteen random bytes make: version four of the first variant. -/
def identifierOf (random : List UInt8) : String :=
  let bytes := (List.range 16).map fun index =>
    let byte := random.getD index 0
    if index = 6 then byte % 16 + 0x40
    else if index = 8 then byte % 64 + 0x80
    else byte
  let part := fun (start count : Nat) =>
    String.ofList (((bytes.drop start).take count).flatMap hexByte)
  "-".intercalate [part 0 4, part 4 2, part 6 2, part 8 2, part 10 6]

end Parley.Terminal
