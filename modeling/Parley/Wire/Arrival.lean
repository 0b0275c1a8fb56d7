import Parley.Text.Ascii
import Parley.Wire.Packet
import Parley.Wire.Request

/-!
# Arrivals

What a text from the server means to the client: a heartbeat to answer, a refusal of the token, a
packet for whoever listens, or no packet at all.
-/

namespace Parley.Wire

/-- What a text from the server means. -/
inductive Arrival where
  | malformed (cause : Packet.Defect)
  | heartbeat
  | refusal (message : String)
  | message (packet : Packet)
deriving Repr

/-- The pieces of text by which the server says that it refuses the token. -/
def refusalPatterns : List String :=
  ["invalid or expired token", "authentication required", "token expired", "invalid token",
    "unauthorized"]

/-- The text holds a refusal pattern, in ASCII letters of either case. -/
def isRefusal (message : String) : Bool :=
  refusalPatterns.any fun pattern => Text.containsFolded pattern.toList message.toList

/-- The refusal that a packet of the kind `Error` carries in its message. -/
def Packet.refusal? (packet : Packet) : Option String :=
  if packet.kind = "Error" then (packet.text? "message").filter isRefusal else none

def Arrival.ofText (text : String) : Arrival :=
  match Packet.parse text with
  | .error cause => .malformed cause
  | .ok packet =>
      if packet.kind = "ping" then .heartbeat
      else
        match packet.refusal? with
        | some reason => .refusal reason
        | none => .message packet

/-- The frame that answers a heartbeat. -/
def heartbeatAnswer : String :=
  Pong.answer.render

end Parley.Wire
