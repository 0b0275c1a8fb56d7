import Parley.Proofs.Connection.Run
import Parley.Terminal.Session

/-!
# Vigils

The program waits for lines and for refusals of the token, while the client and the files go their
own ways. What is posted waits until the client takes it, and a refusal may be dealt with long
after the client has told of it, so any order of these moves is a vigil. A session at the terminal
is the one in which nothing waits.
-/

namespace Parley.Terminal

open Connection (Command Controller Effect Setup Turn)

/-- What an entry asks of the client, given what the client shows as its session. -/
def Entry.commands (backend session : Option String) (files : Files.Tree) : Entry → List Command
  | .say text =>
      [.send (((Wire.Request.ofMessage text).forSession session).usingBackend backend).render]
  | .image path text =>
      match readImage files path with
      | .ok picture =>
          [.send ((((Wire.Request.ofMessage text).forSession session).usingBackend
            backend).addImage picture).render]
      | .error _ => []
  | .disconnect => [.disconnect]
  | .reconnect => [.startOver]
  | _ => []

/-- Why a command was posted. -/
inductive Origin where
  | start
  | line
  | newToken
deriving DecidableEq, Repr

structure Posting where
  origin : Origin
  command : Command
deriving DecidableEq, Repr

structure Vigil where
  backend : Option String
  files : Files.Tree
  tokenSource : TokenSource
  /-- What the client has not taken yet, in order. -/
  posted : List Posting
  controller : Controller String
  /-- Neither lines nor refusals are waited for any more. -/
  isOver : Bool

inductive Move where
  /-- Somebody leaves the files as they are then. -/
  | change (files : Files.Tree)
  /-- A line is read while the client shows a session. -/
  | line (text : String) (session : Option String)
  /-- There are no further lines, or the program is interrupted. -/
  | leave
  /-- A refusal of the token is dealt with. -/
  | notice
  /-- The client takes what was posted first. -/
  | take (around : Connection.Surroundings)
  /-- The client is told anything else. -/
  | hear (turn : Turn String)

/-- The files that a move leaves, if it changes them. -/
def Move.files? : Move → Option Files.Tree
  | .change files => some files
  | _ => none

def Move.line? : Move → Option String
  | .line text _ => some text
  | _ => none

namespace Vigil

/-- The client has been made and is to connect. -/
def ofSource (setup : Setup) (backend : Option String) (files : Files.Tree)
    (tokenSource : TokenSource) (session : Option String) : Vigil where
  backend
  files
  tokenSource
  posted := [⟨.start, .connect session⟩]
  controller := .initial setup
  isOver := false

def postings (vigil : Vigil) : Move → List Posting
  | .line text session =>
      ((Entry.ofLine text).commands vigil.backend session vigil.files).map (⟨.line, ·⟩)
  | .notice =>
      if (vigil.tokenSource.reread vigil.files).2 then [⟨.newToken, .startOver⟩] else []
  | _ => []

def post (postings : List Posting) (vigil : Vigil) : Vigil :=
  { vigil with posted := vigil.posted ++ postings }

/-- The vigil after a move, if the move is possible. -/
def step (setup : Setup) (vigil : Vigil) (move : Move) : Option Vigil :=
  match move with
  | .change files => some { vigil with files }
  | .line text _ =>
      if vigil.isOver then none
      else if Entry.ofLine text = .quit then some { vigil with isOver := true }
      else some (vigil.post (vigil.postings move))
  | .leave => some { vigil with isOver := true }
  | .notice =>
      if vigil.isOver then none
      else
        some ({ vigil with tokenSource := (vigil.tokenSource.reread vigil.files).1 }.post
          (vigil.postings move))
  | .take around =>
      match vigil.posted with
      | [] => none
      | posting :: rest =>
          some { vigil with
            posted := rest
            controller := vigil.controller.take setup ⟨around, .command posting.command⟩ }
  | .hear turn =>
      if turn.stimulus.isCommand = false ∧ vigil.controller.canTake turn.stimulus = true then
        some { vigil with controller := vigil.controller.take setup turn }
      else none

def run (setup : Setup) : Vigil → List Move → Option Vigil
  | vigil, [] => some vigil
  | vigil, move :: rest => (vigil.step setup move).bind (run setup · rest)

def turn? (vigil : Vigil) : Move → Option (Turn String)
  | .take around =>
      vigil.posted.head?.map fun posting => ⟨around, .command posting.command⟩
  | .hear turn => some turn
  | _ => none

/-- What is read off every move of a run at the vigil before it, in order. -/
def readOff {Item : Type} (setup : Setup) (look : Vigil → Move → List Item) :
    Vigil → List Move → List Item
  | _, [] => []
  | vigil, move :: rest =>
      look vigil move ++
        match vigil.step setup move with
        | some next => readOff setup look next rest
        | none => []

def turns (setup : Setup) (vigil : Vigil) (moves : List Move) : List (Turn String) :=
  vigil.readOff setup (fun vigil move => (vigil.turn? move).toList) moves

def deeds (setup : Setup) (vigil : Vigil) (moves : List Move) : List (Effect String) :=
  Controller.effects setup (vigil.turns setup moves) vigil.controller

def taken (vigil : Vigil) : Move → List Posting
  | .take _ => vigil.posted.take 1
  | _ => []

end Vigil

/-- One if there is a token and it is not the other one. -/
def news (token other : Option String) : Nat :=
  if token.isSome ∧ token ≠ other then 1 else 0

/-- How often a file comes to hold a token other than the one that was read from it last, as the
files change. What cannot be read is passed over. -/
def arrivals (path : String) : Option String → List Files.Tree → Nat
  | _, [] => 0
  | known, files :: rest =>
      match Token.load files path with
      | .error _ => arrivals path known rest
      | .ok held =>
          news (Token.present (held.map (·.token))) known +
            arrivals path (Token.present (held.map (·.token))) rest

end Parley.Terminal
