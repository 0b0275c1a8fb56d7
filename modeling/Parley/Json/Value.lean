import Parley.Number.Binary64
import Parley.Number.Word

/-!
# JSON values

A value keeps the members of an object as a list of pairs, in any order. In the value that a text
holds their keys ascend, which `Json.Ordered` says; the tree that a text writes and a value that is
about to be written may hold members in any other order and repeat a key.
-/

namespace Parley

/-- A number: an integer that fits an unsigned or a signed word, or a double. -/
inductive Json.Number where
  | natural (value : Nat)
  /-- The negative integer `- magnitude`. -/
  | negative (magnitude : Nat)
  | binary (value : Binary64)
deriving DecidableEq, Repr

inductive Json where
  | null
  | bool (value : Bool)
  | number (value : Json.Number)
  | string (text : String)
  | array (items : List Json)
  | object (members : List (String × Json))
deriving Repr

namespace Json

/-- The greatest magnitude of a negative signed word. -/
def greatestNegative : Nat := Nat.pow 2 63

/-- Inserts a member at its place among ascending keys; a value under the same key is replaced. -/
def insertMember (key : String) (value : Json) :
    List (String × Json) → List (String × Json)
  | [] => [(key, value)]
  | (other, held) :: rest =>
      if key < other then (key, value) :: (other, held) :: rest
      else if key = other then (key, value) :: rest
      else (other, held) :: insertMember key value rest

def lookup? (key : String) (members : List (String × Json)) : Option Json :=
  (members.find? fun member => member.1 == key).map Prod.snd

def text? : Json → Option String
  | .string text => some text
  | _ => none

def bool? : Json → Option Bool
  | .bool value => some value
  | _ => none

/-- The non-negative integer of a number. -/
def natural? : Json → Option Nat
  | .number (.natural value) => some value
  | _ => none

def ofNat (value : Nat) : Json :=
  .number (.natural value)

/-- An optional value, `null` when absent. -/
def ofOption {α : Type} (encode : α → Json) : Option α → Json
  | some value => encode value
  | none => .null

def KeysAscend : List (String × Json) → Prop
  | [] => True
  | (key, _) :: rest => (∀ member ∈ rest, key < member.1) ∧ KeysAscend rest

/-- The number is one that reading produces. -/
def Number.Readable : Number → Prop
  | .natural value => value ≤ greatestWord
  | .negative magnitude => 0 < magnitude ∧ magnitude ≤ greatestNegative
  | .binary value => value.magnitude.IsDouble

mutual

/-- Every object inside has strictly ascending keys, and every number is one that reading
produces. -/
def Ordered : Json → Prop
  | .null => True
  | .bool _ => True
  | .number value => value.Readable
  | .string _ => True
  | .array items => OrderedItems items
  | .object members => KeysAscend members ∧ OrderedMembers members

def OrderedItems : List Json → Prop
  | [] => True
  | item :: rest => item.Ordered ∧ OrderedItems rest

def OrderedMembers : List (String × Json) → Prop
  | [] => True
  | (_, value) :: rest => value.Ordered ∧ OrderedMembers rest

end

mutual

/-- How many arrays and objects are nested at the deepest place. -/
def depth : Json → Nat
  | .null => 0
  | .bool _ => 0
  | .number _ => 0
  | .string _ => 0
  | .array items => depthOfItems items + 1
  | .object members => depthOfMembers members + 1

def depthOfItems : List Json → Nat
  | [] => 0
  | item :: rest => max item.depth (depthOfItems rest)

def depthOfMembers : List (String × Json) → Nat
  | [] => 0
  | (_, value) :: rest => max value.depth (depthOfMembers rest)

end

end Json

end Parley
