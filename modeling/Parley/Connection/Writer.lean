/-!
# Write side of a connection

Frames are written in the order in which they were queued. Once the connection is cancelled and
nothing is queued any more, a close frame without a code ends it; a close frame from the queue or
a write that fails ends it before that.
-/

namespace Parley.Connection

inductive Frame where
  | text (content : String)
  | close (code : Nat) (reason : String)
deriving DecidableEq, Repr

inductive Written where
  | text (content : String)
  /-- A close frame, with its code and reason if it has them. -/
  | close (cause : Option (Nat × String))
deriving DecidableEq, Repr

def Frame.written : Frame → Written
  | .text content => .text content
  | .close code reason => .close (some (code, reason))

inductive Writing where
  | running
  | finished
  | failed
deriving DecidableEq, Repr

structure Writer where
  waiting : List Frame
  writing : Writing
deriving DecidableEq, Repr

namespace Writer

def idle : Writer :=
  ⟨[], .running⟩

def accepts (writer : Writer) : Bool :=
  writer.writing = .running

/-- Queues a frame; after the end it is lost. -/
def queue (frame : Frame) (writer : Writer) : Writer :=
  if writer.accepts then { writer with waiting := writer.waiting ++ [frame] } else writer

/-- Writes the frames that wait, up to a close frame, on a socket whose writes may fail. -/
def writeWaiting (fails : Bool) : List Frame → Writer × List Written
  | [] => (idle, [])
  | frame :: rest =>
      if fails then (⟨[], .failed⟩, [])
      else
        match frame with
        | .close _ _ => (⟨[], .finished⟩, [frame.written])
        | .text _ =>
            let (writer, written) := writeWaiting fails rest
            (writer, frame.written :: written)

/-- Writes what can be written, and the last close frame once the connection is cancelled. -/
def run (fails cancelled : Bool) (writer : Writer) : Writer × List Written :=
  if ! writer.accepts then (writer, [])
  else
    let (writer, written) := writeWaiting fails writer.waiting
    if writer.accepts && cancelled then
      (⟨[], .finished⟩, if fails then written else written ++ [.close none])
    else (writer, written)

end Writer

end Parley.Connection
