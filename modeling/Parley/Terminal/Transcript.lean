import Parley.Terminal.Rendering

/-!
# Transcript

The text on the terminal. Pieces of an answer are written as they come; a note, with its time, and
the end of a turn start on a new line.
-/

namespace Parley.Terminal

/-- How the transcript stands within a turn of the assistant. -/
structure Cursor where
  /-- A piece of text was written last, so the line is open. -/
  isMidLine : Bool
  /-- That the assistant is thinking was shown in this turn. -/
  hasShownThinking : Bool
deriving DecidableEq, Repr

inductive Piece where
  | text (content : String)
  /-- The end of a line. -/
  | lineBreak
  /-- A line of its own, which is written with the time. -/
  | note (text : String)
deriving DecidableEq, Repr

namespace Piece

/-- The text of a piece that is written at a time of day. -/
def render (time : String) : Piece → String
  | .text content => content
  | .lineBreak => "\n"
  | .note line => "[" ++ time ++ "] " ++ line ++ "\n"

end Piece

namespace Cursor

/-- A turn in which nothing was written. -/
def fresh : Cursor :=
  ⟨false, false⟩

def closeLine (cursor : Cursor) : List Piece :=
  if cursor.isMidLine then [.lineBreak] else []

def note (text : String) (cursor : Cursor) : Cursor × List Piece :=
  ({ cursor with isMidLine := false }, cursor.closeLine ++ [.note text])

def print (contribution : Contribution) (cursor : Cursor) : Cursor × List Piece :=
  match contribution with
  | .text content => ({ cursor with isMidLine := true }, [.text content])
  | .turnEnd => (fresh, cursor.closeLine)
  | .thinking =>
      if cursor.hasShownThinking then (cursor, [])
      else { cursor with hasShownThinking := true }.note "thinking..."
  | .note text => cursor.note text

end Cursor

end Parley.Terminal
