import Parley.Json.Value
import Parley.Text.Ascii
import Parley.Text.Utf8

/-!
# Reading JSON

RFC 8259 without extensions, in one pass from left to right: the first problem met decides the
outcome. Numbers follow one rule throughout: an integer stays an integer while it fits a word, and
any other number is the double that its first digits, as many as fit an unsigned word, are scaled
to by a power of ten.
-/

namespace Parley.Json

inductive Fault where
  /-- The text ends inside a value. -/
  | truncated
  /-- The text breaks the grammar, nests too deeply or holds a number past the greatest double. -/
  | malformed
  /-- A well-formed piece has the wrong type or range, or a field is missing or repeated. -/
  | misfit
deriving DecidableEq, Repr

/-- How many arrays and objects may be nested. -/
def nestingLimit : Nat := 127

/-! ## Blanks and words -/

/-- Space, tab, line feed and carriage return are the blanks of the format. -/
def isBlank (character : Char) : Bool :=
  character == ' ' || character == '\t' || character == '\n' || character == '\r'

def skipBlanks (text : List Char) : List Char :=
  text.dropWhile isBlank

/-- The text after the given word, which it has to start with. -/
def expectWord : List Char → List Char → Except Fault (List Char)
  | [], text => .ok text
  | _ :: _, [] => .error .truncated
  | wanted :: word, character :: rest =>
      if character = wanted then expectWord word rest else .error .malformed

/-! ## Numbers -/

/-- Digits taken into a significand while it fits a word. -/
structure Significand where
  value : Nat
  /-- Digits from the first that does not fit; they are not taken. -/
  dropped : Nat
deriving DecidableEq, Repr

/-- Takes digits into a significand. From the first digit that would pass a word on, digits are
counted and not taken. -/
def gather (value : Nat) : List Char → Significand
  | [] => ⟨value, 0⟩
  | digit :: rest =>
      let next := value * 10 + (digit.toNat - 48)
      if next ≤ greatestWord then gather next rest else ⟨value, rest.length + 1⟩

def greatestExponent : Nat := Nat.pow 2 31 - 1

/-- The double of a sign, a significand and a power of ten. -/
def binaryNumber (negative : Bool) (significand : Nat) (power : Int) :
    Except Fault Number :=
  match Magnitude.ofDecimal? significand power with
  | some magnitude => .ok (.binary ⟨negative, magnitude⟩)
  | none => .error .malformed

def spanDigits (text : List Char) : List Char × List Char :=
  (text.takeWhile Char.isDigit, text.dropWhile Char.isDigit)

/-- The rest of a number after the letter of its exponent. An exponent too large to hold makes
the number zero when it is negative or the significand is zero, and out of range otherwise. -/
def readExponent (negative : Bool) (significand : Nat) (power : Int)
    (text : List Char) : Except Fault (Number × List Char) :=
  let (down, unsigned) :=
    match text with
    | '+' :: rest => (false, rest)
    | '-' :: rest => (true, rest)
    | _ => (false, text)
  match spanDigits unsigned with
  | ([], []) => .error .truncated
  | ([], _ :: _) => .error .malformed
  | (digits, rest) => do
      let exponent := Text.numeral 10 digits
      if exponent > greatestExponent then
        if significand = 0 ∨ down then .ok (.binary ⟨negative, Magnitude.zero⟩, rest)
        else .error .malformed
      else
        let written ← binaryNumber negative significand
          (if down then power - exponent else power + exponent)
        .ok (written, rest)

/-- The end of a number that is no integer: an exponent, or nothing more. -/
def readScale (negative : Bool) (significand : Nat) (power : Int) :
    List Char → Except Fault (Number × List Char)
  | 'e' :: rest => readExponent negative significand power rest
  | 'E' :: rest => readExponent negative significand power rest
  | text => do .ok (← binaryNumber negative significand power, text)

def readAfterInteger (negative : Bool) (integer : Significand) :
    List Char → Except Fault (Number × List Char)
  | '.' :: rest =>
      match spanDigits rest with
      | ([], []) => .error .truncated
      | ([], _ :: _) => .error .malformed
      | (digits, after) =>
          let fraction := gather integer.value digits
          readScale negative fraction.value
            ((integer.dropped : Int) - (digits.length - fraction.dropped : Nat)) after
  | 'e' :: rest => readExponent negative integer.value integer.dropped rest
  | 'E' :: rest => readExponent negative integer.value integer.dropped rest
  | text =>
      if integer.dropped ≠ 0 then do
        .ok (← binaryNumber negative integer.value integer.dropped, text)
      else if ! negative then .ok (.natural integer.value, text)
      else if integer.value = 0 ∨ greatestNegative < integer.value then do
        .ok (← binaryNumber true integer.value 0, text)
      else .ok (.negative integer.value, text)

/-- A number after its sign. -/
def readUnsigned (negative : Bool) (text : List Char) : Except Fault (Number × List Char) :=
  match spanDigits text with
  | ([], []) => .error .truncated
  | ([], _ :: _) => .error .malformed
  | ('0' :: _ :: _, _) => .error .malformed
  | (digits, rest) => readAfterInteger negative (gather 0 digits) rest

/-! ## Strings -/

/-- Four hexadecimal digits. With fewer than four bytes left the text is cut off. -/
def readHex : List Char → Except Fault (Nat × List Char)
  | one :: two :: three :: four :: rest =>
      match Text.hexValue? one, Text.hexValue? two, Text.hexValue? three,
        Text.hexValue? four with
      | some one, some two, some three, some four =>
          .ok (one * 4096 + two * 256 + three * 16 + four, rest)
      | _, _, _, _ => .error .malformed
  | text =>
      if Text.Utf8.size text < 4 then .error .truncated else .error .malformed

/-- The code unit is the second half of a surrogate pair. -/
def isLowSurrogate (unit : Nat) : Bool :=
  0xDC00 ≤ unit && unit ≤ 0xDFFF

/-- The code unit is the first half of a surrogate pair. -/
def isHighSurrogate (unit : Nat) : Bool :=
  0xD800 ≤ unit && unit ≤ 0xDBFF

/-- The second half of a surrogate pair, which has to follow the first at once. -/
def readPair (high : Nat) : List Char → Except Fault (Char × List Char)
  | [] => .error .truncated
  | '\\' :: [] => .error .truncated
  | '\\' :: 'u' :: rest => do
      let (low, rest) ← readHex rest
      if isLowSurrogate low then
        .ok (Char.ofNat (0x10000 + (high - 0xD800) * 0x400 + (low - 0xDC00)), rest)
      else .error .malformed
  | _ => .error .malformed

/-- The character of an escape, after its backslash. -/
def readEscape : List Char → Except Fault (Char × List Char)
  | [] => .error .truncated
  | '"' :: rest => .ok ('"', rest)
  | '\\' :: rest => .ok ('\\', rest)
  | '/' :: rest => .ok ('/', rest)
  | 'b' :: rest => .ok ('\x08', rest)
  | 'f' :: rest => .ok ('\x0c', rest)
  | 'n' :: rest => .ok ('\n', rest)
  | 'r' :: rest => .ok ('\r', rest)
  | 't' :: rest => .ok ('\t', rest)
  | 'u' :: rest => do
      let (unit, rest) ← readHex rest
      if isLowSurrogate unit then .error .malformed
      else if isHighSurrogate unit then readPair unit rest
      else .ok (Char.ofNat unit, rest)
  | _ => .error .malformed

/-- The characters up to the closing quote, after those `read` already, which stand in reverse.
`fuel` bounds the number of characters. -/
def readCharacters : Nat → List Char → List Char → Except Fault (List Char × List Char)
  | 0, _, _ => .error .truncated
  | _ + 1, _, [] => .error .truncated
  | fuel + 1, read, character :: rest =>
      if character = '"' then .ok (read.reverse, rest)
      else if character = '\\' then
        match readEscape rest with
        | .ok (escaped, rest) => readCharacters fuel (escaped :: read) rest
        | .error fault => .error fault
      else if character.toNat < 0x20 then .error .malformed
      else readCharacters fuel (character :: read) rest

/-- A string after its opening quote. -/
def readText (text : List Char) : Except Fault (String × List Char) := do
  let (characters, rest) ← readCharacters (text.length + 1) [] text
  .ok (String.ofList characters, rest)

/-! ## Arrays and objects -/

/-- Folds over the items after the first. `fuel` bounds their number. -/
def foldMoreItems {σ : Type} (item : σ → List Char → Except Fault (σ × List Char)) :
    Nat → σ → List Char → Except Fault (σ × List Char)
  | 0, _, _ => .error .truncated
  | fuel + 1, state, text =>
      match skipBlanks text with
      | [] => .error .truncated
      | ']' :: rest => .ok (state, rest)
      | ',' :: rest =>
          match skipBlanks rest with
          | [] => .error .truncated
          | ']' :: _ => .error .malformed
          | following =>
              match item state following with
              | .ok (state, rest) => foldMoreItems item fuel state rest
              | .error fault => .error fault
      | _ => .error .malformed

/-- Folds over the items of an array, after its opening bracket. -/
def foldItems {σ : Type} (item : σ → List Char → Except Fault (σ × List Char)) (state : σ)
    (text : List Char) : Except Fault (σ × List Char) :=
  match skipBlanks text with
  | [] => .error .truncated
  | ']' :: rest => .ok (state, rest)
  | following =>
      match item state following with
      | .ok (state, rest) => foldMoreItems item (rest.length + 1) state rest
      | .error fault => .error fault

def expectColon (text : List Char) : Except Fault (List Char) :=
  match skipBlanks text with
  | [] => .error .truncated
  | ':' :: rest => .ok rest
  | _ => .error .malformed

/-- Folds over the members after the first. A member is handed its key and the text after it, up
to and with the colon. `fuel` bounds their number. -/
def foldMoreMembers {σ : Type}
    (member : σ → String → List Char → Except Fault (σ × List Char)) :
    Nat → σ → List Char → Except Fault (σ × List Char)
  | 0, _, _ => .error .truncated
  | fuel + 1, state, text =>
      match skipBlanks text with
      | [] => .error .truncated
      | '\x7d' :: rest => .ok (state, rest)
      | ',' :: rest =>
          match skipBlanks rest with
          | [] => .error .truncated
          | '"' :: rest =>
              match readText rest with
              | .error fault => .error fault
              | .ok (key, rest) =>
                  match member state key rest with
                  | .ok (state, rest) => foldMoreMembers member fuel state rest
                  | .error fault => .error fault
          | _ => .error .malformed
      | _ => .error .malformed

/-- Folds over the members of an object, after its opening brace. -/
def foldMembers {σ : Type}
    (member : σ → String → List Char → Except Fault (σ × List Char)) (state : σ)
    (text : List Char) : Except Fault (σ × List Char) :=
  match skipBlanks text with
  | [] => .error .truncated
  | '\x7d' :: rest => .ok (state, rest)
  | '"' :: rest =>
      match readText rest with
      | .error fault => .error fault
      | .ok (key, rest) =>
          match member state key rest with
          | .ok (state, rest) => foldMoreMembers member (rest.length + 1) state rest
          | .error fault => .error fault
  | _ => .error .malformed

/-! ## Values -/

/-- One tree, where `nested` reads the trees inside an array or object; without it no array or
object may open. Members are kept in the order in which they stand, repeated keys and all. -/
def readWith (nested : Option (List Char → Except Fault (Json × List Char))) (text : List Char) :
    Except Fault (Json × List Char) :=
  match skipBlanks text with
  | [] => .error .truncated
  | 'n' :: rest => do .ok (.null, ← expectWord ['u', 'l', 'l'] rest)
  | 't' :: rest => do .ok (.bool true, ← expectWord ['r', 'u', 'e'] rest)
  | 'f' :: rest => do .ok (.bool false, ← expectWord ['a', 'l', 's', 'e'] rest)
  | '-' :: rest => do
      let (written, rest) ← readUnsigned true rest
      .ok (.number written, rest)
  | '"' :: rest => do
      let (content, rest) ← readText rest
      .ok (.string content, rest)
  | '[' :: rest =>
      match nested with
      | none => .error .malformed
      | some nested => do
          let (items, rest) ← foldItems (fun items text => do
            let (item, rest) ← nested text
            .ok (item :: items, rest)) [] rest
          .ok (.array items.reverse, rest)
  | '\x7b' :: rest =>
      match nested with
      | none => .error .malformed
      | some nested => do
          let (members, rest) ← foldMembers (fun members key text => do
            let (value, rest) ← nested (← expectColon text)
            .ok ((key, value) :: members, rest)) [] rest
          .ok (.object members.reverse, rest)
  | character :: rest =>
      if character.isDigit then do
        let (written, rest) ← readUnsigned false (character :: rest)
        .ok (.number written, rest)
      else .error .malformed

/-- One tree in which at most `depth` arrays and objects are nested. -/
def readValue : Nat → List Char → Except Fault (Json × List Char)
  | 0 => readWith none
  | depth + 1 => readWith (some (readValue depth))

/-- The outcome for a text that holds one reading and nothing else but blanks. -/
def complete {α : Type} (reading : Except Fault (α × List Char)) : Except Fault α := do
  let (value, rest) ← reading
  if (skipBlanks rest).isEmpty then .ok value else .error .malformed

/-- The tree that a whole text writes, with at most `depth` nested arrays and objects. -/
def parseTree (depth : Nat) (text : String) : Except Fault Json :=
  complete (readValue depth text.toList)

end Parley.Json
