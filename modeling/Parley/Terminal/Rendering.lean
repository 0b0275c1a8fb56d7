import Parley.Connection.State
import Parley.Wire.Packet

/-!
# Rendering

What the frames of the server and the state of the connection look like on the terminal.
-/

namespace Parley.Terminal

inductive Contribution where
  /-- A piece of the answer, which is shown as it comes. -/
  | text (content : String)
  /-- The assistant is thinking, which is shown once in a turn. -/
  | thinking
  /-- The turn is over. -/
  | turnEnd
  /-- A line of its own, with the time. -/
  | note (text : String)
deriving DecidableEq, Repr

namespace Contribution

/-- The note that a tool has ended. A tool succeeds unless the frame says otherwise. -/
def ofToolEnd (packet : Wire.Packet) : Contribution :=
  let tool := (packet.text? "tool").getD "?"
  let success := ((Json.lookup? "success" packet.fields).bind Json.bool?).getD true
  .note ("tool " ++ tool ++ (if success then " finished" else " failed"))

/-- What a frame of the server contributes, if it contributes anything. -/
def ofPacket? (packet : Wire.Packet) : Option Contribution :=
  let message := packet.text? "message"
  let content := packet.text? "content"
  match packet.kind with
  | "Content" => content.map .text
  | "Thinking" => some .thinking
  | "end" => some .turnEnd
  | "response" => (content <|> message).map .note
  | "system" => (message <|> content).map .note
  | "session_created" => packet.session.map fun session => .note ("new session " ++ session)
  | "session_switched" =>
      packet.session.map fun session => .note ("switched to session " ++ session)
  | "ToolCallStart" =>
      some (.note ("tool " ++ (packet.text? "tool").getD "?" ++ " started"))
  | "ToolCallEnd" => some (ofToolEnd packet)
  | "Intent" =>
      let intent := packet.text? "displayName" <|> packet.text? "category"
      some (.note ("intent: " ++ intent.getD "unknown"))
  | "Plan" => (packet.text? "step").map fun step => .note ("plan: " ++ step)
  | "Progress" => message.map .note
  | "Warning" => message.map fun message => .note ("warning: " ++ message)
  | "Error" => some (.note ("error: " ++ message.getD "unknown"))
  | _ => none

end Contribution

def stateText (state : Connection.State) (attemptLimit : Nat) : String :=
  match state with
  | .connected => "connected"
  | .disconnected => "disconnected"
  | .reconnecting attempt seconds =>
      "reconnecting in " ++ toString seconds ++ "s (attempt " ++ toString attempt ++ "/" ++
        toString attemptLimit ++ ")"
  | .failed message => "error: " ++ message

end Parley.Terminal
