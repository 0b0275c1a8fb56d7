import Parley.Json.Reader

/-!
# Skipping a value

The text of a value that nobody asked for is checked against the grammar and left behind. Since
nothing is built, neither nesting nor the range of numbers is limited here, halves of surrogate
pairs may stand alone, and a number that ends too early is malformed even at the end of the text.
-/

namespace Parley.Json

/-- An array or an object that is still open. -/
inductive Bracket where
  | array
  | object
deriving DecidableEq, Repr

def Bracket.close : Bracket → Char
  | .array => ']'
  | .object => '\x7d'

/-- At least one digit, then any number of them. -/
def skipDigits (text : List Char) : Except Fault (List Char) :=
  match spanDigits text with
  | ([], _) => .error .malformed
  | (_, rest) => .ok rest

/-- The rest of a number after the letter of its exponent. -/
def skipExponent : List Char → Except Fault (List Char)
  | '+' :: rest => skipDigits rest
  | '-' :: rest => skipDigits rest
  | text => skipDigits text

/-- An exponent, or nothing. -/
def skipScale : List Char → Except Fault (List Char)
  | 'e' :: rest => skipExponent rest
  | 'E' :: rest => skipExponent rest
  | text => .ok text

/-- A fraction with an optional exponent, an exponent alone, or nothing. -/
def skipAfterInteger : List Char → Except Fault (List Char)
  | '.' :: rest => do skipScale (← skipDigits rest)
  | text => skipScale text

/-- A number after its sign. -/
def skipNumber (text : List Char) : Except Fault (List Char) :=
  match spanDigits text with
  | ([], _) => .error .malformed
  | ('0' :: _ :: _, _) => .error .malformed
  | (_, rest) => skipAfterInteger rest

/-- The rest of a string after a backslash. -/
def skipEscape : List Char → Except Fault (List Char)
  | [] => .error .truncated
  | 'u' :: rest => do
      let (_, rest) ← readHex rest
      .ok rest
  | character :: rest =>
      if character ∈ ['"', '\\', '/', 'b', 'f', 'n', 'r', 't'] then .ok rest
      else .error .malformed

/-- A string after its opening quote. `fuel` bounds the number of characters. -/
def skipCharacters : Nat → List Char → Except Fault (List Char)
  | 0, _ => .error .truncated
  | _ + 1, [] => .error .truncated
  | fuel + 1, character :: rest =>
      if character = '"' then .ok rest
      else if character = '\\' then
        match skipEscape rest with
        | .ok rest => skipCharacters fuel rest
        | .error fault => .error fault
      else if character.toNat < 0x20 then .error .malformed
      else skipCharacters fuel rest

/-- A string after its opening quote. -/
def skipText (text : List Char) : Except Fault (List Char) :=
  skipCharacters (text.length + 1) text

/-- A whole simple value, or the opening bracket of an array or object. -/
def skipStart (text : List Char) : Except Fault (Option Bracket × List Char) :=
  match skipBlanks text with
  | [] => .error .truncated
  | 'n' :: rest => do .ok (none, ← expectWord ['u', 'l', 'l'] rest)
  | 't' :: rest => do .ok (none, ← expectWord ['r', 'u', 'e'] rest)
  | 'f' :: rest => do .ok (none, ← expectWord ['a', 'l', 's', 'e'] rest)
  | '"' :: rest => do .ok (none, ← skipText rest)
  | '-' :: rest => do .ok (none, ← skipNumber rest)
  | '[' :: rest => .ok (some .array, rest)
  | '\x7b' :: rest => .ok (some .object, rest)
  | character :: rest =>
      if character.isDigit then do .ok (none, ← skipNumber (character :: rest))
      else .error .malformed

/-- What stands before the next value inside an open bracket: the key and the colon of an object,
nothing in an array. -/
def skipKey : Bracket → List Char → Except Fault (List Char)
  | .array, text => .ok text
  | .object, text =>
      match skipBlanks text with
      | [] => .error .truncated
      | '"' :: rest => do expectColon (← skipText rest)
      | _ => .error .malformed

mutual

/-- A value and whatever is needed to close the brackets around it, innermost first. `fuel` bounds
the number of values. -/
def skipInside : Nat → List Bracket → List Char → Except Fault (List Char)
  | 0, _, _ => .error .truncated
  | fuel + 1, enclosing, text =>
      match skipStart text with
      | .error fault => .error fault
      | .ok (none, rest) => skipOutward fuel enclosing rest
      | .ok (some bracket, rest) =>
          match skipBlanks rest with
          | [] => .error .truncated
          | character :: after =>
              if character = bracket.close then skipOutward fuel enclosing after
              else
                match skipKey bracket rest with
                | .ok rest => skipInside fuel (bracket :: enclosing) rest
                | .error fault => .error fault

/-- Closes brackets after a value; a comma leads to the next value of the innermost one. -/
def skipOutward : Nat → List Bracket → List Char → Except Fault (List Char)
  | _, [], text => .ok text
  | 0, _ :: _, _ => .error .truncated
  | fuel + 1, bracket :: enclosing, text =>
      match skipBlanks text with
      | [] => .error .truncated
      | character :: rest =>
          if character = bracket.close then skipOutward fuel enclosing rest
          else if character = ',' then
            match skipKey bracket rest with
            | .ok rest => skipInside fuel (bracket :: enclosing) rest
            | .error fault => .error fault
          else .error .malformed

end

/-- The text after one value. Every step takes a character, so the length of the text is fuel
enough. -/
def skipValue (text : List Char) : Except Fault (List Char) :=
  skipInside (text.length + 1) [] text

end Parley.Json
