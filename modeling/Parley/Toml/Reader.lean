import Parley.Toml.Scalar

/-!
# Reading TOML

Version 1.0 of the language. The lines of a document are taken one after the other: a header
chooses the table that the entries after it go to.
-/

namespace Parley.Toml

/-- The parts of a key and the arrays and tables around a value are fewer than this. -/
def nestingLimit : Nat := 80

/-! ## Keys -/

/-- The character may stand in a key without quotation marks. -/
def isBare (character : Char) : Bool :=
  character.isAlphanum || character == '-' || character == '_'

def readPart? (text : List Char) : Option (String × List Char) :=
  match text with
  | '"' :: rest => (readBasic? (rest.length + 1) [] rest).map asPart
  | '\x27' :: rest => (readLiteral? rest).map asPart
  | _ =>
      let part := text.takeWhile isBare
      if part.isEmpty then none else some (asPart (part, text.dropWhile isBare))
where
  /-- The characters as a part. -/
  asPart (read : List Char × List Char) : String × List Char :=
    (String.ofList read.1, read.2)

/-- The parts of a key with dots between them and blanks around them. `fuel` bounds their
number. -/
def readParts? : Nat → List Char → Option (List String × List Char)
  | 0, _ => none
  | fuel + 1, text => do
      let (part, rest) ← readPart? (skipBlanks text)
      match skipBlanks rest with
      | '.' :: rest => do
          let (parts, rest) ← readParts? fuel rest
          some (part :: parts, rest)
      | following => some ([part], following)

/-- A key: the parts before the last one, and the last one. -/
def readKey? (text : List Char) : Option ((List String × String) × List Char) := do
  let (parts, rest) ← readParts? (nestingLimit - 1) text
  some ((parts.dropLast, ← parts.getLast?), rest)

/-! ## Values -/

/-- The items of an array after its opening bracket. The items so far stand in reverse; `fuel`
bounds the number of those to come. -/
def readItems? (item : List Char → Option (Toml × List Char)) :
    Nat → List Toml → List Char → Option (List Toml × List Char)
  | 0, _, _ => none
  | fuel + 1, items, text =>
      match skipLines false text with
      | ']' :: rest => some (items.reverse, rest)
      | following => do
          let (value, rest) ← item following
          match skipLines false rest with
          | ',' :: rest => readItems? item fuel (value :: items) rest
          | ']' :: rest => some ((value :: items).reverse, rest)
          | _ => none

/-- A key, an equals sign and a value, put into a table. -/
def readEntry? (value : List Char → Option (Toml × List Char)) (before : Toml)
    (text : List Char) : Option (Toml × List Char) := do
  let ((path, key), rest) ← readKey? text
  let (given, rest) ← value (skipBlanks (← expect? ['='] rest))
  some (← insert path key given before, rest)

/-- The entries of an inline table after the first, and its closing brace. `fuel` bounds their
number. -/
def readMoreEntries? (value : List Char → Option (Toml × List Char)) :
    Nat → Toml → List Char → Option (Toml × List Char)
  | 0, _, _ => none
  | fuel + 1, before, text =>
      match skipBlanks text with
      | '\x7d' :: rest => some (before, rest)
      | ',' :: rest => do
          let (after, rest) ← readEntry? value before rest
          readMoreEntries? value fuel after rest
      | _ => none

/-- An inline table after its opening brace. -/
def readInline? (value : List Char → Option (Toml × List Char)) (text : List Char) :
    Option (Toml × List Char) :=
  match skipBlanks text with
  | '\x7d' :: rest => some (.table .inline [], rest)
  | following => do
      let (first, rest) ← readEntry? value (.table .inline []) following
      readMoreEntries? value (rest.length + 1) first rest

/-- A value inside fewer than `depth` arrays and inline tables. -/
def readValue? : Nat → List Char → Option (Toml × List Char)
  | 0, _ => none
  | depth + 1, text =>
      match text, depth with
      | '[' :: _, 0 => none
      | '\x7b' :: _, 0 => none
      | '[' :: rest, _ =>
          (readItems? (readValue? depth) (rest.length + 1) [] rest).map fun (items, rest) =>
            (.array items, rest)
      | '\x7b' :: rest, _ => readInline? (readValue? depth) rest
      | _, _ => readScalar? text

/-! ## Documents -/

/-- A document in the making, and the header of the table that entries go to. -/
structure Draft where
  document : Toml
  header : List String

namespace Draft

/-- A header after its opening bracket. -/
def readHeader? (draft : Draft) (text : List Char) : Option (Draft × List Char) :=
  let enter := fun (isFurther : Bool) (path : List String) (key : String) => do
    let document ← changeAt .header
      (if isFurther then openFurther key else openTable key) path draft.document
    some ⟨document, path ++ [key]⟩
  match text with
  | '[' :: text => do
      let ((path, key), rest) ← readKey? text
      some (← enter true path key, ← expect? [']', ']'] rest)
  | _ => do
      let ((path, key), rest) ← readKey? text
      some (← enter false path key, ← expect? [']'] rest)

/-- An entry of the table under the header. -/
def readEntry? (draft : Draft) (text : List Char) : Option (Draft × List Char) := do
  let ((path, key), rest) ← readKey? text
  let (given, rest) ← readValue? nestingLimit (skipBlanks (← expect? ['='] rest))
  let document ← changeAt .header (insert path key given) draft.header draft.document
  some ({ draft with document }, rest)

/-- What is left of a document, line by line. `fuel` bounds the number of lines. -/
def readLines? : Nat → Draft → List Char → Option Toml
  | 0, _, _ => none
  | fuel + 1, draft, text =>
      match skipBlanks text with
      | [] => some draft.document
      | '#' :: rest => do readLines? fuel draft (← finishLine? ('#' :: rest))
      | '\n' :: rest => readLines? fuel draft rest
      | '\r' :: rest => do readLines? fuel draft (← endOfLine? ('\r' :: rest))
      | '[' :: rest => do
          let (draft, rest) ← draft.readHeader? rest
          readLines? fuel draft (← finishLine? rest)
      | following => do
          let (draft, rest) ← draft.readEntry? following
          readLines? fuel draft (← finishLine? rest)

end Draft

/-- The table that a text writes. A byte order mark at its front is skipped. -/
def parse? (text : String) : Option Toml :=
  let characters :=
    match text.toList with
    | '\ufeff' :: rest => rest
    | characters => characters
  Draft.readLines? (characters.length + 1) ⟨empty, []⟩ characters

end Parley.Toml
