import Parley.Json.Reader

/-!
# The value of a tree

A text writes a tree, whose members stand in any order and may repeat a key. In the value that the
tree stands for keys ascend, and of members with one key the last one counts. An object that
begins with the reserved key is no object: the text under that key is read in turn, and the value
that it holds takes the place of the object.
-/

namespace Parley.Json

/-- The reserved key, under which a text stands for the value that it holds. -/
def embeddingKey : String :=
  "$serde_json::private::RawValue"

/-- The members begin with the reserved key. -/
def opensEmbedding : List (String × Json) → Bool
  | [] => false
  | (key, _) :: _ => key == embeddingKey

/-- The embedded text, if it is all that the members hold. -/
def embeddedText? : List (String × Json) → Option String
  | [(_, .string text)] => some text
  | _ => none

/-- The members under ascending keys, the last one of a key. -/
def sortMembers (members : List (String × Json)) : List (String × Json) :=
  members.foldl (fun sorted member => insertMember member.1 member.2 sorted) []

mutual

/-- The value that a tree stands for, where `expand` gives the values of embedded texts. -/
def settle (expand : String → Option Json) : Json → Option Json
  | .null => some .null
  | .bool value => some (.bool value)
  | .number value => some (.number value)
  | .string text => some (.string text)
  | .array items => (settleItems expand items).map .array
  | .object members =>
      if opensEmbedding members then (embeddedText? members).bind expand
      else (settleMembers expand members).map fun settled => .object (sortMembers settled)

def settleItems (expand : String → Option Json) : List Json → Option (List Json)
  | [] => some []
  | item :: rest => do some ((← settle expand item) :: (← settleItems expand rest))

/-- The members with the values that theirs stand for, in the order in which they stand. -/
def settleMembers (expand : String → Option Json) :
    List (String × Json) → Option (List (String × Json))
  | [] => some []
  | (key, value) :: rest => do
      some ((key, ← settle expand value) :: (← settleMembers expand rest))

end

/-- The value that a text holds. `fuel` bounds how many texts are embedded in one another. -/
def valueWithin : Nat → String → Option Json
  | 0, _ => none
  | fuel + 1, text => (parseTree nestingLimit text).toOption.bind (settle (valueWithin fuel))

/-- The value that a text holds. A text is longer than any text that is embedded in it, so its
length is fuel enough. -/
def value? (text : String) : Option Json :=
  valueWithin (text.length + 1) text

/-- The value that a whole text holds, with at most `depth` nested arrays and objects outside of
embedded texts. -/
def parseWithin (depth : Nat) (text : String) : Except Fault Json := do
  let tree ← parseTree depth text
  (settle value? tree).elim (.error .misfit) .ok

def parse (text : String) : Except Fault Json :=
  parseWithin nestingLimit text

end Parley.Json
