import Parley.Json.Value
import Parley.Number.Shortest
import Parley.Text.Ascii

/-!
# Writing JSON

Compact text without blanks, and an indented form for one flat object. Members are written in the
order they are held.
-/

namespace Parley.Json

/-! ## Strings -/

/-- The escaped form of one character inside a string. Quotes, backslashes and control characters
below U+0020 are escaped; every other character stands for itself. -/
def escape (character : Char) : List Char :=
  match character with
  | '"' => ['\\', '"']
  | '\\' => ['\\', '\\']
  | '\n' => ['\\', 'n']
  | '\r' => ['\\', 'r']
  | '\t' => ['\\', 't']
  | '\x08' => ['\\', 'b']
  | '\x0c' => ['\\', 'f']
  | _ =>
      if character.toNat < 0x20 then
        ['\\', 'u', '0', '0', Text.lowerHexDigit (character.toNat / 16),
          Text.lowerHexDigit (character.toNat % 16)]
      else [character]

def renderText (text : String) : List Char :=
  '"' :: (text.toList.flatMap escape ++ ['"'])

/-! ## Numbers -/

/-- How decimals are laid out: scientific exponents from `least` to `greatest` are written
positionally with a fraction, all others with one digit before the point and a signed exponent. -/
structure Number.Layout where
  least : Int
  greatest : Int

/-- Doubles from `1e-5` up to but not including `1e16` are written positionally. -/
def Number.layout : Number.Layout := ⟨-5, 15⟩

/-- The digits with their trailing zeros removed, and the power of ten of the last one kept. -/
def trimZeros (digits : List Char) (power : Int) : List Char × Int :=
  let kept := (digits.reverse.dropWhile (· == '0')).reverse
  (kept, power + (digits.length - kept.length : Nat))

def renderDecimal (layout : Number.Layout) (decimal : Decimal) : List Char :=
  let (digits, power) := trimZeros (Nat.toDigits 10 decimal.digits) decimal.power
  let exponent := power + digits.length - 1
  if layout.least ≤ exponent ∧ exponent ≤ layout.greatest then
    if exponent < 0 then
      '0' :: '.' :: (List.replicate (-exponent - 1).toNat '0' ++ digits)
    else
      let before := exponent.toNat + 1
      let whole := digits.take before
      let fraction := digits.drop before
      whole ++ List.replicate (before - whole.length) '0' ++
        '.' :: (if fraction.isEmpty then ['0'] else fraction)
  else
    let tail := digits.drop 1
    digits.take 1 ++ (if tail.isEmpty then [] else '.' :: tail) ++
      'e' :: (if exponent < 0 then '-' else '+') ::
      Nat.toDigits 10 exponent.natAbs

/-- The shortest text that reads back as the double. -/
def renderBinary (value : Binary64) : List Char :=
  (if value.negative then ['-'] else []) ++
    if value.magnitude.mantissa = 0 then ['0', '.', '0']
    else renderDecimal Number.layout value.magnitude.shortest

def renderNumber : Number → List Char
  | .natural value => Nat.toDigits 10 value
  | .negative magnitude => '-' :: Nat.toDigits 10 magnitude
  | .binary value => renderBinary value

/-! ## Values -/

mutual

def renderValue : Json → List Char
  | .null => ['n', 'u', 'l', 'l']
  | .bool true => ['t', 'r', 'u', 'e']
  | .bool false => ['f', 'a', 'l', 's', 'e']
  | .number value => renderNumber value
  | .string text => renderText text
  | .array [] => ['[', ']']
  | .array (item :: rest) => '[' :: (renderValue item ++ renderMoreItems rest)
  | .object [] => ['\x7b', '\x7d']
  | .object ((key, value) :: rest) =>
      '\x7b' :: (renderText key ++ ':' :: (renderValue value ++ renderMoreMembers rest))

/-- The items after the first, and the closing bracket. -/
def renderMoreItems : List Json → List Char
  | [] => [']']
  | item :: rest => ',' :: (renderValue item ++ renderMoreItems rest)

/-- The members after the first, and the closing brace. -/
def renderMoreMembers : List (String × Json) → List Char
  | [] => ['\x7d']
  | (key, value) :: rest =>
      ',' :: (renderText key ++ ':' :: (renderValue value ++ renderMoreMembers rest))

end

def render (value : Json) : String :=
  String.ofList (renderValue value)

/-- One indented line per member. -/
def renderMemberLines : List (String × Json) → List Char
  | [] => []
  | [(key, value)] =>
      ' ' :: ' ' :: (renderText key ++ ':' :: ' ' :: (renderValue value ++ ['\n']))
  | (key, value) :: rest =>
      ' ' :: ' ' :: (renderText key ++ ':' :: ' ' ::
        (renderValue value ++ ',' :: '\n' :: renderMemberLines rest))

/-- The text of a non-empty object with one member to a line, indented by two spaces. -/
def renderIndented (members : List (String × Json)) : String :=
  String.ofList ('\x7b' :: '\n' :: (renderMemberLines members ++ ['\x7d']))

end Parley.Json
