import Parley.Json.Value

/-!
# TOML values

What a document in TOML says. A table remembers how it came to be, since that decides what may be
added to it later in the document.
-/

namespace Parley

/-- How a table came to be. -/
inductive Toml.Origin where
  /-- By a header of its own, or as the whole document. -/
  | header
  /-- On the way to the table of a header. -/
  | implied
  /-- On the way to the value of a dotted key. -/
  | dotted
  /-- Between braces, which leave nothing to be added. -/
  | inline
deriving DecidableEq, Repr

inductive Toml where
  | string (text : String)
  | integer (value : Int)
  /-- A number with a fraction or an exponent; no value stands for infinity and for what is not a
  number. -/
  | float (value : Option Binary64)
  | boolean (value : Bool)
  /-- A date, a time or both, as it is written. -/
  | dateTime (written : String)
  | array (items : List Toml)
  | table (origin : Toml.Origin) (entries : List (String × Toml))
  /-- The tables under one header in double brackets. -/
  | tables (items : List Toml)
deriving Repr

namespace Toml

def empty : Toml :=
  .table .header []

def lookup? (key : String) (entries : List (String × Toml)) : Option Toml :=
  (entries.find? fun entry => entry.1 == key).map Prod.snd

/-- The entries with another value for a key, which goes to the end if it is new. -/
def assign (key : String) (value : Toml) : List (String × Toml) → List (String × Toml)
  | [] => [(key, value)]
  | (other, held) :: rest =>
      if other = key then (key, value) :: rest else (other, held) :: assign key value rest

/-! ## Ways through a document -/

/-- What leads from table to table. -/
inductive Way where
  /-- The header of a table. -/
  | header
  /-- A dotted key. -/
  | key
deriving DecidableEq, Repr

/-- How a table comes to be that is missing on a way. -/
def Way.origin : Way → Origin
  | .header => .implied
  | .key => .dotted

/-- The way may lead through a table that came to be like this. A dotted key stays out of tables
that have a header of their own. -/
def Way.leadsThrough (way : Way) : Origin → Bool
  | .header => way = .header
  | .implied => true
  | .dotted => true
  | .inline => false

/-- Changes the table at the end of a way. Tables that are missing are added, and the last of
several tables with the same header stands for all of them. -/
def changeAt (way : Way) (change : Toml → Option Toml) : List String → Toml → Option Toml
  | [], reached => change reached
  | key :: path, .table origin entries => do
      let changed ←
        match lookup? key entries with
        | none => changeAt way change path (.table way.origin [])
        | some (.table found inner) =>
            if way.leadsThrough found then changeAt way change path (.table found inner)
            else none
        | some (.tables items) => do
            some (.tables (items.dropLast ++ [← changeAt way change path (← items.getLast?)]))
        | some _ => none
      some (.table origin (assign key changed entries))
  | _ :: _, _ => none

/-- A table with a further entry under a key of its own. A key without dots goes to a table that
no dotted key has made, and the end of a dotted key to one that a dotted key has made. -/
def define (isDotted : Bool) (key : String) (value : Toml) : Toml → Option Toml
  | .table origin entries =>
      if decide (origin = .dotted) = isDotted ∧ (lookup? key entries).isNone then
        some (.table origin (assign key value entries))
      else none
  | _ => none

/-- A table with a further entry under a key that may be dotted. -/
def insert (path : List String) (key : String) (value : Toml) (table : Toml) : Option Toml :=
  changeAt .key (define (! path.isEmpty) key value) path table

/-- A table in which a table is opened by a header of its own. It must not have been opened
before. -/
def openTable (key : String) : Toml → Option Toml
  | .table origin entries =>
      match lookup? key entries with
      | none => some (.table origin (assign key empty entries))
      | some (.table .implied inner) =>
          some (.table origin (assign key (.table .header inner) entries))
      | some _ => none
  | _ => none

/-- A table in which a further table is opened under a header in double brackets. -/
def openFurther (key : String) : Toml → Option Toml
  | .table origin entries =>
      match lookup? key entries with
      | none => some (.table origin (assign key (.tables [empty]) entries))
      | some (.tables items) =>
          some (.table origin (assign key (.tables (items ++ [empty])) entries))
      | some _ => none
  | _ => none

/-! ## As JSON -/

def integerToJson (value : Int) : Json :=
  if value < 0 then .number (.negative value.natAbs) else .number (.natural value.natAbs)

/-- The name that a date goes by among the members of its object. -/
def dateTimeKey : String := "dateTime"

mutual

/-- The JSON value of the same shape. A date becomes an object of its own, and a float a double,
which is zero if it has no value. -/
def toJson : Toml → Json
  | .string text => .string text
  | .integer value => integerToJson value
  | .float value => .number (.binary (value.getD ⟨false, Magnitude.zero⟩))
  | .boolean value => .bool value
  | .dateTime written => .object [(dateTimeKey, .string written)]
  | .array items => .array (itemsToJson items)
  | .table _ entries => .object (entriesToJson entries)
  | .tables items => .array (itemsToJson items)

def itemsToJson : List Toml → List Json
  | [] => []
  | item :: rest => item.toJson :: itemsToJson rest

def entriesToJson : List (String × Toml) → List (String × Json)
  | [] => []
  | (key, value) :: rest => (key, value.toJson) :: entriesToJson rest

end

end Toml

end Parley
