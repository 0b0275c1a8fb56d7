import Parley.Json.Decoder
import Parley.Json.Embedding
import Parley.Json.Printer

/-!
# Packets

Every frame of the server is one JSON object, the packet: a kind, perhaps a session, and any
other fields, whose values are kept under ascending keys.
-/

namespace Parley.Wire

/-- A frame of the server. -/
structure Packet where
  /-- What the frame is about, the member `type`. -/
  kind : String
  /-- The session it belongs to, the member `sessionId`. -/
  session : Option String
  /-- All other members. -/
  fields : List (String × Json)
deriving Repr

/-- Why a text is no packet. -/
inductive Packet.Defect where
  | json (fault : Json.Fault)
  | emptyKind
deriving DecidableEq, Repr

def Packet.emptyKindMessage : String :=
  "message type is empty"

namespace Packet

/-- A packet with nothing but a kind. -/
def ofKind (kind : String) : Packet :=
  ⟨kind, none, []⟩

/-- The packet with a further field, which replaces one of the same key. -/
def insert (packet : Packet) (key : String) (value : Json) : Packet :=
  { packet with fields := Json.insertMember key value packet.fields }

def record : Json.Record Packet where
  start := ofKind ""
  fields := [
    .of "type" true .text fun kind packet => { packet with kind },
    .of "sessionId" false (.optional .text) fun session packet => { packet with session }]

/-- The packet with the values that the trees of its fields stand for, under ascending keys. -/
def settle? (packet : Packet) : Option Packet :=
  (Json.settleMembers Json.value? packet.fields).map fun settled =>
    { packet with fields := Json.sortMembers settled }

/-- Reads a member that is not typed and keeps its tree, whose value is not looked for yet. -/
def readField (depth : Nat) (key : String) (packet : Packet) (text : List Char) :
    Except Json.Fault (Packet × List Char) := do
  let (tree, rest) ← Json.readValue depth text
  .ok ({ packet with fields := packet.fields ++ [(key, tree)] }, rest)

/-- Reads an object and nothing else. Values of members that are not typed are only looked for once
the whole object is read. -/
def decoder : Json.Decoder Packet where
  read depth text :=
    match Json.skipBlanks text, depth with
    | '\x7b' :: _, 0 => .error .malformed
    | '\x7b' :: rest, depth + 1 => do
        let (packet, rest) ← record.readMembers (readField depth) depth rest
        packet.settle?.elim (.error .misfit) fun settled => .ok (settled, rest)
    | following, _ => .error (Json.wrongType following)
  ofValue? surplus value :=
    match value with
    | .object members =>
        (Json.Record.ofMembers? surplus members record.fields record.start).bind fun typed =>
          settle? { typed with fields := members.filter fun member =>
              ! record.fields.any (·.key == member.1) }
    | _ => none

/-- The packet that a text holds. Its kind is not empty. -/
def parse (text : String) : Except Defect Packet :=
  match decoder.parse text with
  | .error fault => .error (.json fault)
  | .ok packet => if packet.kind.isEmpty then .error .emptyKind else .ok packet

/-- The members in the order in which they are written: the kind, the session, the fields. -/
def members (packet : Packet) : List (String × Json) :=
  ("type", .string packet.kind) ::
    ((packet.session.map fun session => ("sessionId", Json.string session)).toList ++
      packet.fields)

def render (packet : Packet) : String :=
  (Json.object packet.members).render

/-- The packet as a value with ascending keys. -/
def toValue (packet : Packet) : Json :=
  .object (Json.sortMembers packet.members)

def text? (packet : Packet) (key : String) : Option String :=
  (Json.lookup? key packet.fields).bind Json.text?

/-- The session that the frame announces: that of a frame about a new or another session, unless
it is empty. -/
def announced? (packet : Packet) : Option String :=
  if packet.kind = "session_created" ∨ packet.kind = "session_switched" then
    packet.session.filter (! ·.isEmpty)
  else none

/-- The packet seen as another type. -/
def view? {α : Type} (decoder : Json.Decoder α) (packet : Packet) : Option α :=
  decoder.ofValue? .refused packet.toValue

end Packet

end Parley.Wire
