import Parley.Connection.Controller
import Parley.Connection.Watch
import Parley.Connection.Writer

/-!
# Channels

One connection from its dial to its end: a handshake, then a read side and a write side next to
each other. A channel reports that it has opened, the texts it receives and how it ended; once it
is cancelled it reports nothing, but still writes what is queued.
-/

namespace Parley.Connection

/-- What is seen of a connection from outside. -/
inductive NetEvent where
  | dialed (url : String) (limit : Nat)
  /-- The dial was given up before it was answered. -/
  | abandoned
  | written (frame : Written)
deriving DecidableEq, Repr

def limitFloor : Nat := 1048576

/-- The hard limit of the socket for messages and frames, above which it fails the connection. It
leaves room above the longest text that is delivered. -/
def socketLimit (messageLimit : Nat) : Nat :=
  max (saturate (messageLimit * 4)) limitFloor

/-- What is reported when something comes from the socket, of which a text is let through. -/
def Incoming.reports (text : Option String) : Incoming → List Report
  | .error cause => [.failed cause]
  | _ => (text.map Report.text).toList

inductive Stage where
  | dialing
  | streaming (watch : Watch)
  | ended
deriving DecidableEq, Repr

structure Channel where
  stage : Stage
  writer : Writer
  /-- The owner has given the connection up. -/
  cancelled : Bool
  /-- Every write on the socket fails. -/
  failing : Bool
deriving DecidableEq, Repr

/-- A channel after a step, what it wrote and what it reports. -/
structure Channel.Turn where
  channel : Channel
  net : List NetEvent
  reports : List Report
deriving DecidableEq, Repr

namespace Channel

def dialed : Channel :=
  ⟨.dialing, .idle, false, false⟩

def isPending (channel : Channel) : Bool :=
  channel.stage = .dialing && ! channel.cancelled

def accepts (channel : Channel) : Bool :=
  channel.stage ≠ .ended && channel.writer.accepts

def deadline? (channel : Channel) : Option Nat :=
  match channel.stage with
  | .streaming watch => watch.deadline
  | _ => none

def queue (frame : Frame) (channel : Channel) : Channel :=
  { channel with writer := channel.writer.queue frame }

def cancel (channel : Channel) : Channel :=
  { channel with cancelled := true }

def rest (channel : Channel) : Turn :=
  ⟨channel, [], []⟩

def write (channel : Channel) : Channel × List NetEvent :=
  let (writer, written) := channel.writer.run channel.failing channel.cancelled
  ({ channel with writer }, written.map .written)

/-- The read side has ended: the write side is cancelled and finishes, and then the end is
reported. -/
def finish (ending : Ending) (channel : Channel) : Turn :=
  let (channel, net) := channel.cancel.write
  ⟨{ channel with stage := .ended }, net, [.closed ending.code ending.reason]⟩

/-- Everything that can happen without the socket: waiting frames are written, and a cancelled
dial or connection or a failed write comes to its end. -/
def settle (channel : Channel) : Turn :=
  match channel.stage with
  | .ended => channel.rest
  | .dialing =>
      if channel.cancelled then ⟨{ channel with stage := .ended }, [.abandoned], []⟩
      else channel.rest
  | .streaming watch =>
      let (after, net) := channel.write
      match watch with
      | .stalled =>
          ⟨if after.writer.accepts then after else { after with stage := .ended }, net, []⟩
      | _ =>
          if channel.cancelled then ⟨{ after with stage := .ended }, net, []⟩
          else if after.writer.writing = .failed then
            let ending := Ending.abnormal "write failed"
            ⟨{ after with stage := .ended, cancelled := true }, net,
              [.closed ending.code ending.reason]⟩
          else ⟨after, net, []⟩

def accept (settings : Settings.Client) (now : Nat) (channel : Channel) : Turn :=
  if channel.isPending then
    ⟨{ channel with stage := .streaming (.start now settings.idleSeconds) }, [], [.opened]⟩
  else channel.rest

def refuse (cause : String) (channel : Channel) : Turn :=
  if channel.isPending then
    ⟨{ channel with stage := .ended }, [],
      [.failed cause, .closed Wire.CloseCode.abnormal cause]⟩
  else channel.rest

def proceed (watch : Watch) (reports : List Report) (channel : Channel) : Turn :=
  match watch with
  | .ended ending =>
      let turn := channel.finish ending
      { turn with reports := reports ++ turn.reports }
  | _ => ⟨{ channel with stage := .streaming watch }, [], reports⟩

def receive (settings : Settings.Client) (now : Nat) (incoming : Incoming)
    (channel : Channel) : Turn :=
  match channel.stage with
  | .streaming watch =>
      if channel.cancelled then channel.rest
      else
        let (next, text) := watch.receive settings now incoming
        if watch = .stalled then channel.rest
        else channel.proceed next (incoming.reports text)
  | _ => channel.rest

def expire (now : Nat) (channel : Channel) : Turn :=
  match channel.stage with
  | .streaming (.listening deadline) =>
      if channel.cancelled then channel.rest
      else channel.proceed (Watch.expire now (.listening deadline)) []
  | _ => channel.rest

/-- From now on every write on the socket fails. -/
def breakWrites (channel : Channel) : Channel :=
  { channel with failing := true }

end Channel

end Parley.Connection
