import Parley.Url.Percent

/-!
# Form encoding

Names and values of a query, as `name=value` joined by `&`. Letters, digits and `*-._` stand for
themselves, a space is written as `+`, and every other byte is percent-encoded, so that neither
separator can occur inside a name or a value.
-/

namespace Parley.Url.Form

/-- The character is written as it is. -/
def isPlain (character : Char) : Bool :=
  character.isAlphanum || ['*', '-', '.', '_'].contains character

def encode (text : List Char) : List Char :=
  text.flatMap fun character =>
    if character = ' ' then ['+']
    else if isPlain character then [character]
    else (Text.Utf8.encode [character]).flatMap encodeByte

/-- The query with a further pair at its end. -/
def append (query : List Char) (name value : List Char) : List Char :=
  query ++ (if query.isEmpty then [] else ['&']) ++ encode name ++ '=' :: encode value

def decode (text : List Char) : List UInt8 :=
  percentDecode (text.map fun character => if character = '+' then ' ' else character)

/-- The pieces of a query between `&`, among which empty ones do not count. -/
def pieces (query : List Char) : List (List Char) :=
  (query.splitOn '&').filter (! ·.isEmpty)

/-- The name and the value of a piece; without `=` the value is empty. -/
def pair (piece : List Char) : List UInt8 × List UInt8 :=
  (decode (piece.takeWhile (· ≠ '=')), decode ((piece.dropWhile (· ≠ '=')).drop 1))

/-- The pairs of a query, as bytes. -/
def pairs (query : List Char) : List (List UInt8 × List UInt8) :=
  (pieces query).map pair

end Parley.Url.Form
