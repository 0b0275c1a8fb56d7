import Parley.Connection.Channel

/-!
# Strands of a connection

A connection is held by two strands that run next to each other and next to their owner: one
dials, reads and reports, the other one writes. A move is one step of a strand, or something that
the owner, the socket or the clock does, and moves come in any order that the strands allow. A
channel is the same connection with all moves that are possible made at once.
-/

namespace Parley.Connection

inductive Reading where
  | dialing
  /-- Frames are awaited until the deadline. -/
  | listening (deadline : Nat)
  /-- Nothing more is read. Without an ending the owner has given the connection up. -/
  | leaving (outcome : Option Ending)
  /-- The writing strand is cancelled and waited for. -/
  | joining (outcome : Option Ending)
  /-- A deadline could not be computed; the strand has died without a word. -/
  | stalled
  | gone
deriving DecidableEq, Repr

def Reading.ofWatch : Watch → Reading
  | .listening deadline => .listening deadline
  | .stalled => .stalled
  | .ended ending => .leaving (some ending)

inductive Pen where
  /-- The handshake has not succeeded. -/
  | absent
  | choosing
  | writing (frame : Frame)
  /-- A close frame that nobody has queued is written. -/
  | parting
  /-- A close frame has gone out. -/
  | closed
  /-- A write has failed. -/
  | broken
deriving DecidableEq, Repr

/-- The writing strand will not write any more. -/
def Pen.isDown : Pen → Bool
  | .absent => true
  | .closed => true
  | .broken => true
  | _ => false

structure Strands where
  serial : Nat
  /-- Milliseconds on the clock. -/
  now : Nat
  reading : Reading
  pen : Pen
  /-- Frames that wait to be written. -/
  waiting : List Frame
  /-- All frames that were taken for writing. -/
  accepted : List Frame
  /-- The owner or the reading strand has cancelled the connection. -/
  cancelled : Bool
  /-- The writing strand has signalled that a write failed. -/
  signalled : Bool
  /-- The owner still listens to reports. -/
  isHeeded : Bool
  /-- What has come from the socket and is not read yet. -/
  inbox : List Incoming
  written : List Written
  reports : List (Nat × Report)
deriving DecidableEq, Repr

/-- What can happen next to or on a strand. -/
inductive Move where
  /-- The owner hands over a frame. -/
  | queue (frame : Frame)
  /-- The owner gives the connection up. -/
  | cancel
  /-- The owner does not listen to reports any more. -/
  | ignore
  | wait (milliseconds : Nat)
  /-- The handshake succeeds. -/
  | accept
  /-- The handshake fails. -/
  | refuse (cause : String)
  | arrive (incoming : Incoming)
  /-- The frame that is being written has gone out. -/
  | written
  /-- The frame that is being written has failed. -/
  | broken
  | noticeCancel
  | noticeFailure
  | noticeSilence
  | read
  /-- The reading strand cancels the connection after its end. -/
  | wind
  /-- The reading strand reports the end, if there is one to report. -/
  | conclude
  | take
  | part
deriving DecidableEq, Repr

namespace Strands

def dialed (serial now : Nat) : Strands where
  serial
  now
  reading := .dialing
  pen := .absent
  waiting := []
  accepted := []
  cancelled := false
  signalled := false
  isHeeded := true
  inbox := []
  written := []
  reports := []

def accepts (strands : Strands) : Bool :=
  match strands.pen with
  | .absent => strands.reading ≠ .gone
  | pen => ! pen.isDown

/-- The owner hands over a frame, which is lost once nothing is written any more. -/
def queue (frame : Frame) (strands : Strands) : Strands :=
  if strands.accepts then
    { strands with
      waiting := strands.waiting ++ [frame]
      accepted := strands.accepted ++ [frame] }
  else strands

/-- The strands after a report, which only an owner who listens gets. -/
def say (reports : List Report) (strands : Strands) : Strands :=
  { strands with
    reports := strands.reports ++
      if strands.isHeeded then reports.map (strands.serial, ·) else [] }

def endReports (outcome : Option Ending) : List Report :=
  (outcome.map fun ending => .closed ending.code ending.reason).toList

/-- The reading strand takes the first thing that has come. -/
def read (settings : Settings.Client) (deadline : Nat) (incoming : Incoming)
    (strands : Strands) : Strands :=
  let (watch, text) := Watch.receive settings strands.now incoming (.listening deadline)
  say (incoming.reports text) { strands with reading := .ofWatch watch }

/-- The strands after a move, if it is one that they allow. -/
def step (settings : Settings.Client) (strands : Strands) : Move → Option Strands
  | .queue frame => some (strands.queue frame)
  | .cancel => some { strands with cancelled := true }
  | .ignore => some { strands with isHeeded := false }
  | .wait milliseconds => some { strands with now := strands.now + milliseconds }
  | .accept =>
      match strands.reading with
      | .dialing =>
          if strands.isHeeded then
            some (say [.opened] { strands with
              reading := .ofWatch (.start strands.now settings.idleSeconds)
              pen := .choosing })
          else some { strands with reading := .gone }
      | _ => none
  | .refuse cause =>
      match strands.reading with
      | .dialing =>
          some (say [.failed cause]
            { strands with reading := .joining (some (.abnormal cause)) })
      | _ => none
  | .arrive incoming => some { strands with inbox := strands.inbox ++ [incoming] }
  | .written =>
      match strands.pen with
      | .writing (.text content) =>
          some { strands with
            pen := .choosing
            written := strands.written ++ [.text content] }
      | .writing (.close code reason) =>
          some { strands with
            pen := .closed
            written := strands.written ++ [.close (some (code, reason))] }
      | .parting =>
          some { strands with pen := .closed, written := strands.written ++ [.close none] }
      | _ => none
  | .broken =>
      match strands.pen with
      | .writing _ => some { strands with pen := .broken, signalled := true }
      | .parting => some { strands with pen := .broken }
      | _ => none
  | .noticeCancel =>
      if strands.cancelled then
        match strands.reading with
        | .dialing => some { strands with reading := .gone }
        | .listening _ => some { strands with reading := .leaving none }
        | _ => none
      else none
  | .noticeFailure =>
      match strands.reading with
      | .listening _ =>
          if strands.signalled then
            some { strands with reading := .leaving (some (.abnormal "write failed")) }
          else none
      | _ => none
  | .noticeSilence =>
      match strands.reading with
      | .listening deadline =>
          match Watch.expire strands.now (.listening deadline) with
          | .ended ending => some { strands with reading := .leaving (some ending) }
          | _ => none
      | _ => none
  | .read =>
      match strands.reading, strands.inbox with
      | .listening deadline, incoming :: rest =>
          some (read settings deadline incoming { strands with inbox := rest })
      | _, _ => none
  | .wind =>
      match strands.reading with
      | .leaving outcome =>
          some { strands with reading := .joining outcome, cancelled := true }
      | _ => none
  | .conclude =>
      match strands.reading with
      | .joining outcome =>
          if strands.pen.isDown then
            some (say (endReports outcome) { strands with reading := .gone })
          else none
      | _ => none
  | .take =>
      match strands.pen, strands.waiting with
      | .choosing, frame :: rest => some { strands with pen := .writing frame, waiting := rest }
      | _, _ => none
  | .part =>
      match strands.pen, strands.waiting with
      | .choosing, [] => if strands.cancelled then some { strands with pen := .parting } else none
      | _, _ => none

def run (settings : Settings.Client) : Strands → List Move → Option Strands
  | strands, [] => some strands
  | strands, move :: rest => (strands.step settings move).bind (run settings · rest)

end Strands

end Parley.Connection
