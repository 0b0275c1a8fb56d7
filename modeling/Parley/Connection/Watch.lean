import Parley.Settings.Client
import Parley.Text.Utf8
import Parley.Wire.CloseCode

/-!
# Read side of a connection

Texts are reported as they come, unless they are too long. A close frame, a read error, the end of
the stream or too long a silence ends the connection; every frame of any kind ends a silence.
-/

namespace Parley.Connection

inductive Incoming where
  | text (content : String)
  /-- A close frame, with its code and reason if it has them. -/
  | close (cause : Option (Nat × String))
  | ping
  | pong
  | binary
  | error (cause : String)
  | ended
deriving DecidableEq, Repr

structure Ending where
  code : Nat
  reason : String
deriving DecidableEq, Repr

/-- An end without a close frame. -/
def Ending.abnormal (reason : String) : Ending :=
  ⟨Wire.CloseCode.abnormal, reason⟩

/-- The greatest number of seconds that an instant holds. -/
def greatestSecond : Nat := Nat.pow 2 63 - 1

/-- Thirty years, the wait for a deadline that no instant can hold. -/
def farFuture : Nat := 86400 * 365 * 30 * 1000

/-- The instant after so many seconds of silence, if an instant can hold it. Instants are counted
from before the clock starts, which leaves no deadline the greatest second. -/
def deadline? (now idleSeconds : Nat) : Option Nat :=
  if now / 1000 + idleSeconds < greatestSecond then some (now + idleSeconds * 1000) else none

/-- How the read side stands. -/
inductive Watch where
  /-- Frames are awaited until the deadline. -/
  | listening (deadline : Nat)
  /-- The deadline could not be computed; nothing is read or reported any more. -/
  | stalled
  | ended (ending : Ending)
deriving DecidableEq, Repr

namespace Watch

def start (now idleSeconds : Nat) : Watch :=
  .listening ((deadline? now idleSeconds).getD (now + farFuture))

def deadline : Watch → Option Nat
  | .listening deadline => some deadline
  | _ => none

/-- What a frame does besides ending a silence: what is reported, and how it ends the connection. -/
def react (limit : Nat) : Incoming → Option String × Option Ending
  | .text content =>
      (if Text.Utf8.size content.toList ≤ limit then some content else none, none)
  | .close (some (code, reason)) => (none, some ⟨code, reason⟩)
  | .close none => (none, some ⟨Wire.CloseCode.absent, ""⟩)
  | .ping => (none, none)
  | .pong => (none, none)
  | .binary => (none, none)
  | .error cause => (none, some (.abnormal cause))
  | .ended => (none, some (.abnormal "stream ended"))

/-- The item is a frame and not the end of the stream. -/
def isFrame : Incoming → Bool
  | .error _ => false
  | .ended => false
  | _ => true

/-- The watch after something has come, and the text that it reports. -/
def receive (settings : Settings.Client) (now : Nat) (incoming : Incoming) (watch : Watch) :
    Watch × Option String :=
  match watch with
  | .listening deadline =>
      let (text, ending) := react settings.messageLimit incoming
      let next? := if isFrame incoming then deadline? now settings.idleSeconds else some deadline
      match next? with
      | none => (.stalled, none)
      | some next =>
          match ending with
          | some ending => (.ended ending, text)
          | none => (.listening next, text)
  | watch => (watch, none)

def expire (now : Nat) : Watch → Watch
  | .listening deadline =>
      if deadline ≤ now then .ended (.abnormal "idle timeout") else .listening deadline
  | watch => watch

end Watch

end Parley.Connection
