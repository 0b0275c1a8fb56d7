import Parley.Toml.Scalar

/-!
# Writing TOML

A document is written section by section, every entry on a line of its own. A string is written in
the first way that needs no escapes, and with escapes if there is none.
-/

namespace Parley.Toml

/-! ## Strings -/

inductive Quoting where
  | basic
  | literal
  /-- Threefold quotation marks, between which there may be escapes. -/
  | basicLines
  /-- Threefold quotation marks, between which everything stands for itself. -/
  | literalLines
deriving DecidableEq, Repr

/-- The longest run of a character in a text after so many of them. -/
def longestRun (wanted : Char) (current : Nat) : List Char → Nat
  | [] => current
  | character :: rest =>
      if character = wanted then longestRun wanted (current + 1) rest
      else max current (longestRun wanted 0 rest)

/-- The kind of quotation marks that a text is written between. -/
def quotingOf (text : List Char) : Quoting :=
  let isOpen := text.all fun character => isPlain character || character == '\n'
  let hasLines := text.contains '\n'
  let needsEscape := text.contains '\\'
  if isOpen ∧ ! hasLines ∧ ! needsEscape ∧ longestRun '"' 0 text = 0 then .basic
  else if isOpen ∧ ! hasLines ∧ longestRun '\x27' 0 text = 0 then .literal
  else if isOpen ∧ ! needsEscape ∧ longestRun '"' 0 text ≤ 2 then .basicLines
  else if isOpen ∧ longestRun '\x27' 0 text ≤ 2 then .literalLines
  else if hasLines then .basicLines
  else .basic

/-- A character other than a quotation mark, with an escape if it needs one. -/
def renderCharacter (inLines : Bool) (character : Char) : List Char :=
  if character = '\n' then (if inLines then ['\n'] else ['\\', 'n'])
  else if character = '\t' then ['\\', 't']
  else if character = '\r' then ['\\', 'r']
  else if character = '\x08' then ['\\', 'b']
  else if character = '\x0c' then ['\\', 'f']
  else if character = '\\' then ['\\', '\\']
  else if isPlain character then [character]
  else
    ['\\', 'u', '0', '0', Text.upperHexDigit (character.toNat / 16),
      Text.upperHexDigit (character.toNat % 16)]

/-- Text with escapes, after so many quotation marks. Between threefold quotation marks two of
them may stand in a row. -/
def renderEscaped (inLines : Bool) (quotes : Nat) : List Char → List Char
  | [] => []
  | character :: rest =>
      if character = '"' then
        if inLines ∧ quotes < 2 then '"' :: renderEscaped inLines (quotes + 1) rest
        else '\\' :: '"' :: renderEscaped inLines 0 rest
      else renderCharacter inLines character ++ renderEscaped inLines 0 rest

/-- A text between quotation marks. Threefold ones are followed by the end of a line if the text
has several lines. -/
def renderText (text : List Char) : List Char :=
  let opening := if text.contains '\n' then ['\n'] else []
  match quotingOf text with
  | .basic => '"' :: (renderEscaped false 0 text ++ ['"'])
  | .literal => '\x27' :: (text ++ ['\x27'])
  | .basicLines =>
      List.replicate 3 '"' ++ opening ++ renderEscaped true 0 text ++ List.replicate 3 '"'
  | .literalLines =>
      List.replicate 3 '\x27' ++ opening ++ text ++ List.replicate 3 '\x27'

/-! ## Documents -/

/-- A header, which the first section may do without, and the entries under it. -/
structure Section where
  header : List String
  entries : List (String × Toml)

/-- A value on the line of its entry. Only strings, integers in range and truth values are written
this way. -/
def renderValue? : Toml → Option String
  | .string text => some (String.ofList (renderText text.toList))
  | .integer value =>
      if value.natAbs ≤ greatestInteger (value < 0) then some (toString value) else none
  | .boolean value => some (if value then "true" else "false")
  | _ => none

def renderEntries? : List (String × Toml) → Option String
  | [] => some ""
  | (key, value) :: rest => do
      some (key ++ " = " ++ (← renderValue? value) ++ "\n" ++ (← renderEntries? rest))

def Section.render? (part : Section) : Option String := do
  let header :=
    if part.header.isEmpty then "" else "[" ++ ".".intercalate part.header ++ "]\n"
  some (header ++ (← renderEntries? part.entries))

/-- The text of a document, with an empty line between sections. -/
def render? (sections : List Section) : Option String := do
  some ("\n".intercalate (← sections.mapM Section.render?))

end Parley.Toml
