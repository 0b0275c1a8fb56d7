import Parley.Json.Skip

/-!
# Typed reading

A decoder reads a value of one type, both from a text in one pass and from a JSON value. A record
is decoded over a starting value: each field that is given replaces its part, and every other part
stays as it is.
-/

namespace Parley.Json

/-- What becomes of the items of an array past the last field of a record. -/
inductive Surplus where
  | refused
  | ignored
deriving DecidableEq, Repr

/-- How values of a type are read. -/
structure Decoder (α : Type) where
  /-- Reads from the front of a text in which at most so many arrays and objects may be nested. -/
  read : Nat → List Char → Except Fault (α × List Char)
  /-- What a JSON value stands for; any value of the wrong type or range is a misfit. -/
  ofValue? : Surplus → Json → Option α

/-- The fault of a piece that is a misfit if it is well formed. -/
def misfitAfter {α : Type} : Except Fault α → Fault
  | .error fault => fault
  | .ok _ => .misfit

/-- The fault of a value of the wrong type. A simple value is read to its end, since it may be
malformed; an array or object is refused at its opening bracket. -/
def wrongType (text : List Char) : Fault :=
  match skipBlanks text with
  | [] => .truncated
  | 'n' :: rest => misfitAfter (expectWord ['u', 'l', 'l'] rest)
  | 't' :: rest => misfitAfter (expectWord ['r', 'u', 'e'] rest)
  | 'f' :: rest => misfitAfter (expectWord ['a', 'l', 's', 'e'] rest)
  | '"' :: rest => misfitAfter (readText rest)
  | '-' :: rest => misfitAfter (readUnsigned true rest)
  | '[' :: _ => .misfit
  | '\x7b' :: _ => .misfit
  | character :: rest =>
      if character.isDigit then misfitAfter (readUnsigned false (character :: rest))
      else .malformed

namespace Decoder

/-! ## Simple values -/

def text : Decoder String where
  read _ text :=
    match skipBlanks text with
    | '"' :: rest => readText rest
    | following => .error (wrongType following)
  ofValue? _ := Json.text?

def bool : Decoder Bool where
  read _ text :=
    match skipBlanks text with
    | 't' :: rest => do .ok (true, ← expectWord ['r', 'u', 'e'] rest)
    | 'f' :: rest => do .ok (false, ← expectWord ['a', 'l', 's', 'e'] rest)
    | following => .error (wrongType following)
  ofValue? _ := Json.bool?

/-- A natural number of at most `greatest`, written as an integer. -/
def natural (greatest : Nat) : Decoder Nat where
  read _ text :=
    match skipBlanks text with
    | character :: rest =>
        if character.isDigit then
          match readUnsigned false (character :: rest) with
          | .ok (.natural value, rest) =>
              if value ≤ greatest then .ok (value, rest) else .error .misfit
          | .ok _ => .error .misfit
          | .error fault => .error fault
        else .error (wrongType (character :: rest))
    | [] => .error .truncated
  ofValue? _ value := value.natural?.filter (· ≤ greatest)

/-- The values of a decoder that a further check accepts, as what the check makes of them. -/
def refine {α β : Type} (decoder : Decoder α) (check : α → Option β) : Decoder β where
  read depth text :=
    match decoder.read depth text with
    | .ok (value, rest) =>
        match check value with
        | some refined => .ok (refined, rest)
        | none => .error .misfit
    | .error fault => .error fault
  ofValue? surplus value := (decoder.ofValue? surplus value).bind check

def optional {α : Type} (decoder : Decoder α) : Decoder (Option α) where
  read depth text :=
    match skipBlanks text with
    | 'n' :: rest => do .ok (none, ← expectWord ['u', 'l', 'l'] rest)
    | following => do
        let (value, rest) ← decoder.read depth following
        .ok (some value, rest)
  ofValue? surplus value :=
    match value with
    | .null => some none
    | _ => (decoder.ofValue? surplus value).map some

def list {α : Type} (decoder : Decoder α) : Decoder (List α) where
  read depth text :=
    match skipBlanks text, depth with
    | '[' :: _, 0 => .error .malformed
    | '[' :: rest, depth + 1 => do
        let (items, rest) ← foldItems (fun items text => do
          let (item, rest) ← decoder.read depth text
          .ok (item :: items, rest)) [] rest
        .ok (items.reverse, rest)
    | following, _ => .error (wrongType following)
  ofValue? surplus value :=
    match value with
    | .array items => items.mapM (decoder.ofValue? surplus)
    | _ => none

end Decoder

/-! ## Records -/

/-- A field of a record: its key, whether it has to be given, and how a given value changes the
record. -/
structure Field (α : Type) where
  key : String
  required : Bool
  read : Nat → List Char → Except Fault ((α → α) × List Char)
  ofValue? : Surplus → Json → Option (α → α)

/-- The field that a decoder reads and `put` stores. -/
def Field.of {α β : Type} (key : String) (required : Bool) (decoder : Decoder β)
    (put : β → α → α) : Field α where
  key
  required
  read depth text := do
    let (value, rest) ← decoder.read depth text
    .ok (put value, rest)
  ofValue? surplus value := (decoder.ofValue? surplus value).map put

/-- The value with nothing given, and the fields in the order in which an array lists them. -/
structure Record (α : Type) where
  start : α
  fields : List (Field α)

/-- A record in the making, and the keys of its fields given so far. -/
structure Draft (α : Type) where
  value : α
  given : List String

namespace Record

variable {α : Type}

/-- No field that has to be given is missing. -/
def isComplete (record : Record α) (draft : Draft α) : Bool :=
  record.fields.all fun field => ! field.required || draft.given.contains field.key

/-- One member, from the colon on. A field given before is refused without looking further, and a
key that names no field goes to `other`. -/
def readMember (record : Record α)
    (other : String → α → List Char → Except Fault (α × List Char)) (depth : Nat)
    (draft : Draft α) (key : String) (text : List Char) :
    Except Fault (Draft α × List Char) :=
  match record.fields.find? (·.key == key) with
  | some field =>
      if draft.given.contains key then .error .misfit
      else do
        let (change, rest) ← field.read depth (← expectColon text)
        .ok (⟨change draft.value, key :: draft.given⟩, rest)
  | none => do
      let (value, rest) ← other key draft.value (← expectColon text)
      .ok (⟨value, draft.given⟩, rest)

/-- An object after its opening brace. -/
def readMembers (record : Record α)
    (other : String → α → List Char → Except Fault (α × List Char)) (depth : Nat)
    (text : List Char) : Except Fault (α × List Char) := do
  let (draft, rest) ← foldMembers (record.readMember other depth) ⟨record.start, []⟩ text
  if record.isComplete draft then .ok (draft.value, rest) else .error .misfit

/-- The end of an array all of whose fields are read. -/
def readEnd (value : α) (text : List Char) : Except Fault (α × List Char) :=
  match skipBlanks text with
  | [] => .error .truncated
  | ']' :: rest => .ok (value, rest)
  | _ => .error .malformed

/-- The fields of an array after the first, and its closing bracket. -/
def readMoreItems (depth : Nat) :
    List (Field α) → α → List Char → Except Fault (α × List Char)
  | [], value, text => readEnd value text
  | field :: fields, value, text =>
      match skipBlanks text with
      | [] => .error .truncated
      | ']' :: rest =>
          if (field :: fields).any (·.required) then .error .misfit else .ok (value, rest)
      | ',' :: rest =>
          match skipBlanks rest with
          | [] => .error .truncated
          | ']' :: _ => .error .malformed
          | following =>
              match field.read depth following with
              | .ok (change, rest) => readMoreItems depth fields (change value) rest
              | .error fault => .error fault
      | _ => .error .malformed

/-- An array after its opening bracket. -/
def readItems (record : Record α) (depth : Nat) (text : List Char) :
    Except Fault (α × List Char) :=
  match record.fields, skipBlanks text with
  | _, [] => .error .truncated
  | [], following => readEnd record.start following
  | field :: fields, ']' :: rest =>
      if (field :: fields).any (·.required) then .error .misfit else .ok (record.start, rest)
  | field :: fields, following =>
      match field.read depth following with
      | .ok (change, rest) => readMoreItems depth fields (change record.start) rest
      | .error fault => .error fault

def ofMembers? (surplus : Surplus) (members : List (String × Json)) :
    List (Field α) → α → Option α
  | [], value => some value
  | field :: fields, value =>
      match lookup? field.key members with
      | some given =>
          match field.ofValue? surplus given with
          | some change => ofMembers? surplus members fields (change value)
          | none => none
      | none => if field.required then none else ofMembers? surplus members fields value

def ofItems? (surplus : Surplus) : List (Field α) → List Json → α → Option α
  | [], [], value => some value
  | [], _ :: _, value => if surplus = .ignored then some value else none
  | fields, [], value => if fields.any (·.required) then none else some value
  | field :: fields, item :: items, value =>
      match field.ofValue? surplus item with
      | some change => ofItems? surplus fields items (change value)
      | none => none

/-- The decoder of a record: an object with the fields as members, whose other members are skipped,
or an array with the fields in order, of which the last may be left out. -/
def decoder (record : Record α) : Decoder α where
  read depth text :=
    match skipBlanks text, depth with
    | '\x7b' :: _, 0 => .error .malformed
    | '[' :: _, 0 => .error .malformed
    | '\x7b' :: rest, depth + 1 =>
        record.readMembers (fun _ value text => do .ok (value, ← skipValue text)) depth rest
    | '[' :: rest, depth + 1 => record.readItems depth rest
    | following, _ => .error (wrongType following)
  ofValue? surplus value :=
    match value with
    | .object members => ofMembers? surplus members record.fields record.start
    | .array items => ofItems? surplus record.fields items record.start
    | _ => none

end Record

def Decoder.parse {α : Type} (decoder : Decoder α) (text : String) : Except Fault α :=
  complete (decoder.read nestingLimit text.toList)

end Parley.Json
