import Parley.Url.Domain.Composition
import Parley.Url.Domain.Direction
import Parley.Url.Domain.Folding
import Parley.Url.Domain.Joiner
import Parley.Url.Punycode

/-!
# Domain names

The ASCII form of a domain name. Characters are folded and composed; a label with characters
outside ASCII is written in Punycode behind `xn--`, and a label that already has this form has to
decode to one that would be written so.
-/

namespace Parley.Url.Domain

/-- The ASCII characters that no domain name may hold. -/
def isForbidden (character : Char) : Bool :=
  character.toNat ≤ 0x20 || character.toNat == 0x7F ||
    ['#', '%', '/', ':', '<', '>', '?', '@', '[', '\\', ']', '^', '|'].contains character

/-- A label outside ASCII that may be written in Punycode. -/
def isValidLabel (label : List Char) : Bool :=
  ! label.head?.any isMark && joinersFit label

/-- The label after the sign of the Punycode form, if it has that sign. -/
def encoded? (label : List Char) : Option (List Char) :=
  if ['x', 'n', '-', '-'].isPrefixOf label then some (label.drop 4) else none

/-- The characters of a text after folding and composition; none if one is refused. -/
def prepare? (text : List Char) : Option (List Char) :=
  (text.mapM foldCharacter?).map fun folded => Composition.compose folded.flatten

/-- The label in characters of all scripts. A label in Punycode form has to decode to a label
that is prepared already and goes beyond ASCII. -/
def readLabel? (label : List Char) : Option (List Char) :=
  match encoded? label with
  | none => if Text.isAscii label || isValidLabel label then some label else none
  | some tail => do
      let decoded ← Punycode.decode? tail
      if Text.isAscii decoded || ! isValidLabel decoded || decoded.any isForbidden then none
      else
        let prepared ← prepare? decoded
        if prepared = decoded then some decoded else none

def writeLabel (label : List Char) : List Char :=
  if Text.isAscii label then label
  else ['x', 'n', '-', '-'] ++ Punycode.encode label

def joinLabels : List (List Char) → List Char
  | [] => []
  | [label] => label
  | label :: rest => label ++ '.' :: joinLabels rest

def toAscii? (name : List Char) : Option (List Char) := do
  let prepared ← prepare? name
  if prepared.any isForbidden then none
  else
    let labels ← (prepared.splitOn '.').mapM readLabel?
    let directions := labels.map (·.map Direction.ofCharacter)
    if directions.any (·.any Direction.turnsName) && ! directions.all Direction.agree then none
    else some (joinLabels (labels.map writeLabel))

end Parley.Url.Domain
