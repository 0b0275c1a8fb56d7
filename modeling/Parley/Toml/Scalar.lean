import Parley.Text.Ascii
import Parley.Toml.Value

/-!
# Scalars of TOML

Strings, numbers, dates and truth values as TOML 1.0 writes them, and the blanks around them. Every
reader takes its value from the front of a text and fails on anything else.
-/

namespace Parley.Toml

/-! ## Blanks, ends of lines and comments -/

/-- Space and tab are the blanks inside a line. -/
def isBlank (character : Char) : Bool :=
  character == ' ' || character == '\t'

def skipBlanks (text : List Char) : List Char :=
  text.dropWhile isBlank

/-- The character may stand unescaped: a tab, or no control code. -/
def isPlain (character : Char) : Bool :=
  character == '\t' || (0x20 ≤ character.toNat && character.toNat ≠ 0x7f)

/-- The text after the end of a line at its front. -/
def endOfLine? : List Char → Option (List Char)
  | '\n' :: rest => some rest
  | '\r' :: '\n' :: rest => some rest
  | _ => none

/-- The text after blanks, ends of lines and comments. -/
def skipLines (inComment : Bool) : List Char → List Char
  | '\n' :: rest => skipLines false rest
  | '\r' :: '\n' :: rest => skipLines false rest
  | character :: rest =>
      if inComment && isPlain character then skipLines true rest
      else if isBlank character then skipLines false rest
      else if character = '#' then skipLines true rest
      else character :: rest
  | [] => []

/-- The text after what may stand between a value and the end of its line. -/
def skipComment (text : List Char) : List Char :=
  match skipBlanks text with
  | '#' :: rest => rest.dropWhile isPlain
  | following => following

/-- The text after the rest of a line without a value. -/
def finishLine? (text : List Char) : Option (List Char) :=
  match skipComment text with
  | [] => some []
  | following => endOfLine? following

/-- The text after a word at its front. -/
def expect? : List Char → List Char → Option (List Char)
  | [], text => some text
  | _ :: _, [] => none
  | wanted :: word, character :: rest =>
      if character = wanted then expect? word rest else none

/-! ## Strings -/

/-- The character of so many hexadecimal digits. -/
def readCode? (count : Nat) (text : List Char) : Option (Char × List Char) :=
  let digits := text.take count
  let code := Text.numeral 16 digits
  if digits.length = count ∧ digits.all (fun digit => (Text.hexValue? digit).isSome) ∧
      code.isValidChar then
    some (Char.ofNat code, text.drop count)
  else none

/-- The character of an escape, after its backslash. -/
def readEscape? : List Char → Option (Char × List Char)
  | 'b' :: rest => some ('\x08', rest)
  | 't' :: rest => some ('\t', rest)
  | 'n' :: rest => some ('\n', rest)
  | 'f' :: rest => some ('\x0c', rest)
  | 'r' :: rest => some ('\r', rest)
  | '"' :: rest => some ('"', rest)
  | '\\' :: rest => some ('\\', rest)
  | 'u' :: rest => readCode? 4 rest
  | 'U' :: rest => readCode? 8 rest
  | _ => none

/-- The rest of a basic string. The characters so far stand in reverse; `fuel` bounds the number
of those to come. -/
def readBasic? : Nat → List Char → List Char → Option (List Char × List Char)
  | 0, _, _ => none
  | _ + 1, _, [] => none
  | fuel + 1, read, character :: rest =>
      if character = '"' then some (read.reverse, rest)
      else if character = '\\' then
        match readEscape? rest with
        | some (escaped, rest) => readBasic? fuel (escaped :: read) rest
        | none => none
      else if isPlain character then readBasic? fuel (character :: read) rest
      else none

/-- The rest of a literal string. -/
def readLiteral? (text : List Char) : Option (List Char × List Char) :=
  let inside := fun character => isPlain character && character != '\x27'
  match text.dropWhile inside with
  | '\x27' :: rest => some (text.takeWhile inside, rest)
  | _ => none

/-- The text after blanks and ends of lines, without comments. -/
def skipSpace : List Char → List Char
  | '\r' :: '\n' :: rest => skipSpace rest
  | character :: rest =>
      if isBlank character || character = '\n' then skipSpace rest else character :: rest
  | [] => []

/-- The text after a backslash at the end of a line, which swallows the blanks and ends of lines
that follow. -/
def continueLine? (text : List Char) : Option (List Char) :=
  (endOfLine? (skipBlanks text)).map skipSpace

/-- How many quotation marks of a kind start a text. -/
def countQuotes (quote : Char) (text : List Char) : Nat :=
  (text.takeWhile (· == quote)).length

/-- The rest of a string of several lines between threefold quotation marks. One or two marks
inside belong to the string, as do up to two of those that end it. The characters so far stand in
reverse; `fuel` bounds the number of pieces to come. -/
def readLines? (quote : Char) (hasEscapes : Bool) :
    Nat → List Char → List Char → Option (List Char × List Char)
  | 0, _, _ => none
  | _ + 1, _, [] => none
  | fuel + 1, read, character :: rest =>
      if character = quote then
        let count := countQuotes quote rest + 1
        let kept := if count < 3 then count else min (count - 3) 2
        let read := List.replicate kept quote ++ read
        if count < 3 then readLines? quote hasEscapes fuel read (rest.drop (count - 1))
        else some (read.reverse, rest.drop (kept + 2))
      else
        match endOfLine? (character :: rest) with
        | some rest => readLines? quote hasEscapes fuel ('\n' :: read) rest
        | none =>
            if character = '\\' && hasEscapes then
              match continueLine? rest with
              | some rest => readLines? quote hasEscapes fuel read rest
              | none =>
                  match readEscape? rest with
                  | some (escaped, rest) =>
                      readLines? quote hasEscapes fuel (escaped :: read) rest
                  | none => none
            else if isPlain character then
              readLines? quote hasEscapes fuel (character :: read) rest
            else none

/-- A string of any kind. The end of a line right after threefold quotation marks is dropped. -/
def readString? (text : List Char) : Option (List Char × List Char) :=
  let lines := fun (quote : Char) (hasEscapes : Bool) (rest : List Char) =>
    let inside := (endOfLine? rest).getD rest
    readLines? quote hasEscapes (inside.length + 1) [] inside
  match text with
  | '"' :: '"' :: '"' :: rest => lines '"' true rest
  | '"' :: rest => readBasic? (rest.length + 1) [] rest
  | '\x27' :: '\x27' :: '\x27' :: rest => lines '\x27' false rest
  | '\x27' :: rest => readLiteral? rest
  | _ => none

/-! ## Numbers -/

/-- Digits of a base, with a single underscore between any two of them. The digits so far stand in
reverse, and the text goes on with another digit. -/
def readDigits? (base : Nat) (read : List Char) : List Char → Option (List Char × List Char)
  | [] => none
  | digit :: rest =>
      if (Text.digitValue? base digit).isSome then
        match rest with
        | '_' :: rest => readDigits? base (digit :: read) rest
        | next :: rest =>
            if (Text.digitValue? base next).isSome then
              readDigits? base (digit :: read) (next :: rest)
            else some ((digit :: read).reverse, next :: rest)
        | [] => some ((digit :: read).reverse, [])
      else none

def readSign : List Char → Bool × List Char
  | '-' :: rest => (true, rest)
  | '+' :: rest => (false, rest)
  | text => (false, text)

/-- Digits of a decimal integer, which has no leading zero. -/
def readWhole? : List Char → Option (List Char × List Char)
  | '0' :: rest => some (['0'], rest)
  | text => readDigits? 10 [] text

/-- The greatest magnitude of an integer, by its sign. -/
def greatestInteger (negative : Bool) : Nat :=
  if negative then Nat.pow 2 63 else Nat.pow 2 63 - 1

/-- An integer in the base that its prefix names. -/
def readBased? : List Char → Option (Toml × List Char)
  | '0' :: 'x' :: rest => based 16 rest
  | '0' :: 'o' :: rest => based 8 rest
  | '0' :: 'b' :: rest => based 2 rest
  | _ => none
where
  /-- An integer after its prefix. -/
  based (base : Nat) (text : List Char) : Option (Toml × List Char) := do
    let (digits, rest) ← readDigits? base [] text
    let value := Text.numeral base digits
    if value ≤ greatestInteger false then some (.integer value, rest) else none

def readInteger? (text : List Char) : Option (Toml × List Char) := do
  let (negative, unsigned) := readSign text
  let (digits, rest) ← readWhole? unsigned
  let value := Text.numeral 10 digits
  if value ≤ greatestInteger negative then
    some (.integer (if negative then - (value : Int) else value), rest)
  else none

/-- The fraction of a float with its point: its digits. -/
def readFraction? : List Char → Option (List Char × List Char)
  | '.' :: rest => readDigits? 10 [] rest
  | _ => none

/-- The exponent of a float with its letter. -/
def readExponent? : List Char → Option (Int × List Char)
  | letter :: rest => do
      if letter ≠ 'e' ∧ letter ≠ 'E' then none
      else
        let (negative, unsigned) := readSign rest
        let (digits, rest) ← readDigits? 10 [] unsigned
        let value := Text.numeral 10 digits
        some (if negative then - (value : Int) else value, rest)
  | [] => none

/-- The double nearest to digits times a power of ten, or nothing past the greatest double. The
powers in question are small enough to compute with: far below or above the doubles the digits do
not matter. -/
def nearestDouble? (digits : List Char) (power : Int) : Option Magnitude :=
  let significand := Text.numeral 10 digits
  if significand = 0 ∨ power + digits.length < -400 then some Magnitude.zero
  else if 400 < power then none
  else if 0 ≤ power then Magnitude.nearest? (significand * Nat.pow 10 power.toNat) 1
  else Magnitude.nearest? significand (Nat.pow 10 (-power).toNat)

/-- A float that is written with digits. One past the greatest double is infinite if it is
negative, and refused otherwise. -/
def readDecimal? (text : List Char) : Option (Toml × List Char) := do
  let (negative, unsigned) := readSign text
  let (whole, rest) ← readWhole? unsigned
  let (fraction, power, rest) ←
    match readFraction? rest with
    | some (fraction, rest) =>
        match readExponent? rest with
        | some (power, rest) => some (fraction, power, rest)
        | none => some (fraction, (0 : Int), rest)
    | none => (readExponent? rest).map fun (power, rest) => ([], power, rest)
  match nearestDouble? (whole ++ fraction) (power - fraction.length) with
  | some magnitude => some (.float (some ⟨negative, magnitude⟩), rest)
  | none => if negative then some (.float none, rest) else none

/-- Infinity, or what is not a number. -/
def readSpecial? (text : List Char) : Option (Toml × List Char) :=
  let unsigned := (readSign text).2
  match expect? ['i', 'n', 'f'] unsigned with
  | some rest => some (.float none, rest)
  | none => (expect? ['n', 'a', 'n'] unsigned).map fun rest => (.float none, rest)

/-! ## Dates and times -/

/-- So many digits that write a number of a range. -/
def readField? (count least greatest : Nat) (text : List Char) : Option (Nat × List Char) :=
  let digits := text.take count
  let value := Text.numeral 10 digits
  if digits.length = count ∧ digits.all Char.isDigit ∧ least ≤ value ∧ value ≤ greatest then
    some (value, text.drop count)
  else none

def daysOfMonth (year month : Nat) : Nat :=
  if month = 2 then
    (if year % 4 = 0 ∧ (year % 100 ≠ 0 ∨ year % 400 = 0) then 29 else 28)
  else if month = 4 ∨ month = 6 ∨ month = 9 ∨ month = 11 then 30
  else 31

/-- The text after a date. -/
def afterDate? (text : List Char) : Option (List Char) := do
  let (year, rest) ← readField? 4 0 9999 text
  let (month, rest) ← readField? 2 1 12 (← expect? ['-'] rest)
  let (_, rest) ← readField? 2 1 (daysOfMonth year month) (← expect? ['-'] rest)
  some rest

/-- The text after a time of day with its seconds and their fraction. -/
def afterTime? (text : List Char) : Option (List Char) := do
  let (_, rest) ← readField? 2 0 23 text
  let (_, rest) ← readField? 2 0 59 (← expect? [':'] rest)
  let (_, rest) ← readField? 2 0 60 (← expect? [':'] rest)
  match rest with
  | '.' :: digit :: rest =>
      if digit.isDigit then some (rest.dropWhile Char.isDigit) else some ('.' :: digit :: rest)
  | _ => some rest

/-- The text after an offset from universal time. -/
def afterOffset? : List Char → Option (List Char)
  | sign :: rest => do
      if sign = 'Z' ∨ sign = 'z' then some rest
      else if sign = '+' ∨ sign = '-' then
        let (_, rest) ← readField? 2 0 23 rest
        let (_, rest) ← readField? 2 0 59 (← expect? [':'] rest)
        some rest
      else none
  | [] => none

/-- The text after a time of day that belongs to a date, with its offset if it has one. -/
def afterTimeOfDate? : List Char → Option (List Char)
  | mark :: rest =>
      if mark = 'T' ∨ mark = 't' ∨ mark = ' ' then
        (afterTime? rest).map fun rest => (afterOffset? rest).getD rest
      else none
  | [] => none

/-- A date, a date with a time, or a time. -/
def readDateTime? (text : List Char) : Option (Toml × List Char) := do
  let rest ←
    match afterDate? text with
    | some rest => some ((afterTimeOfDate? rest).getD rest)
    | none => afterTime? text
  some (.dateTime (String.ofList (text.take (text.length - rest.length))), rest)

/-! ## Scalars -/

def readBoolean? (text : List Char) : Option (Toml × List Char) :=
  match expect? ['t', 'r', 'u', 'e'] text with
  | some rest => some (.boolean true, rest)
  | none => (expect? ['f', 'a', 'l', 's', 'e'] text).map fun rest => (.boolean false, rest)

/-- Any value that is no array or table. A date starts like an integer, a float goes on after one,
and a prefix after its zero, so they are tried in this order. -/
def readScalar? (text : List Char) : Option (Toml × List Char) :=
  ((readString? text).map fun (content, rest) => (.string (String.ofList content), rest))
    <|> readDateTime? text <|> readDecimal? text <|> readSpecial? text <|> readBased? text
    <|> readInteger? text <|> readBoolean? text

end Parley.Toml
