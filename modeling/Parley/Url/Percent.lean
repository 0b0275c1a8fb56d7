import Parley.Text.Ascii
import Parley.Text.Utf8

/-!
# Percent-encoding

A byte outside ASCII and a character of a reserved set is written as `%` and two hexadecimal
digits. Each part of a URL has a reserved set of its own.
-/

namespace Parley.Url

/-- A set of characters that have to be encoded; those outside ASCII always are. -/
abbrev ReservedSet := Char → Bool

/-- Control characters and everything outside ASCII. -/
def isControl : ReservedSet := fun character =>
  character.toNat < 0x20 || 0x7F ≤ character.toNat

def fragmentSet : ReservedSet := fun character =>
  isControl character || [' ', '"', '<', '>', '\x60'].contains character

/-- What is encoded in the query of a web address. -/
def querySet : ReservedSet := fun character =>
  isControl character || [' ', '"', '#', '<', '>', '\x27'].contains character

def pathSet : ReservedSet := fun character =>
  fragmentSet character || ['#', '?', '\x7b', '\x7d'].contains character

/-- What is encoded in a user name or password. -/
def userSet : ReservedSet := fun character =>
  pathSet character || ['/', ':', ';', '=', '@', '[', '\\', ']', '^', '|'].contains character

/-- A byte as `%` and two digits. -/
def encodeByte (byte : UInt8) : List Char :=
  ['%', Text.upperHexDigit (byte.toNat / 16), Text.upperHexDigit (byte.toNat % 16)]

/-- The text with the characters of a set encoded byte by byte. -/
def percentEncode (reserved : ReservedSet) (text : List Char) : List Char :=
  text.flatMap fun character =>
    if reserved character then (Text.Utf8.encode [character]).flatMap encodeByte
    else [character]

/-- The bytes of a text whose encoded bytes are put back. A `%` without two digits after it stands
for itself. -/
def percentDecode : List Char → List UInt8
  | [] => []
  | '%' :: high :: low :: rest =>
      match Text.hexValue? high, Text.hexValue? low with
      | some highValue, some lowValue =>
          UInt8.ofNat (highValue * 16 + lowValue) :: percentDecode rest
      | _, _ => 0x25 :: percentDecode (high :: low :: rest)
  | character :: rest => Text.Utf8.encode [character] ++ percentDecode rest

end Parley.Url
