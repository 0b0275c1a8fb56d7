import Parley.Connection.Client
import Parley.Terminal.Arguments
import Parley.Terminal.Entry
import Parley.Terminal.Image
import Parley.Terminal.TokenSource
import Parley.Terminal.Transcript

/-!
# Sessions at the terminal

A client whose frames and states go to the transcript and whose commands come from lines that are
typed. When the server refuses the token, the token file is looked at again.
-/

namespace Parley.Terminal

open Connection (Command Happening NetEvent State)

/-- What a session finds around it when it starts. -/
structure Surroundings where
  home : Option String
  /-- The token in the environment. -/
  token : Option String
  /-- An identifier for a session that does not exist yet. -/
  freshSession : String
  files : Files.Tree

structure Session where
  client : Connection.Client
  tokenSource : TokenSource
  backend : Option String
  files : Files.Tree
  cursor : Cursor
  /-- What has been written since it was last asked, in order. -/
  pieces : List Piece
  /-- What has happened on the network since it was last asked, by the number of the dial. -/
  traffic : List (Nat × NetEvent)
  /-- Refusals of the token that were not dealt with yet. -/
  refusals : List String

/-- How a program ends: as it should, or with an error. -/
inductive Ending where
  | finished
  | failed (message : String)
deriving DecidableEq, Repr

namespace Session

def print (contribution : Contribution) (session : Session) : Session :=
  let (cursor, pieces) := session.cursor.print contribution
  { session with cursor, pieces := session.pieces ++ pieces }

/-- Writes a line of its own. -/
def note (text : String) (session : Session) : Session :=
  session.print (.note text)

def attemptLimit (session : Session) : Nat :=
  session.client.setup.settings.backoff.attemptLimit

def describe (state : State) (session : Session) : String :=
  stateText state session.attemptLimit

/-- Takes note of something that the client has done. -/
def absorbOne (session : Session) (happening : Happening) : Session :=
  match happening with
  | .message _ packet =>
      match Contribution.ofPacket? packet with
      | some contribution => session.print contribution
      | none => session
  | .state _ state => session.note (session.describe state)
  | .status _ _ => session
  | .refusal _ message => { session with refusals := session.refusals ++ [message] }
  | .net dial event => { session with traffic := session.traffic ++ [(dial, event)] }

/-- Takes note of everything that the client has done. -/
def absorb (session : Session) : Session :=
  let (client, happenings) := session.client.takeLog
  happenings.foldl absorbOne { session with client }

/-- Deals with a refusal of the token: connects again if the token file has a new one. -/
def answerRefusal (session : Session) (message : String) : Session :=
  let session := session.note ("authentication failed: " ++ message)
  let (tokenSource, isNew) := session.tokenSource.reread session.files
  let client := session.client.setToken tokenSource.current
  if isNew then
    let session := session.note "token file changed, reconnecting"
    { session with tokenSource, client := client.post [.startOver] }.absorb
  else
    { session with tokenSource, client }.note "update the token, then /reconnect"

/-- Takes note of what the client has done, and deals with refusals of the token. -/
def settle (session : Session) : Session :=
  let session := session.absorb
  session.refusals.foldl answerRefusal { session with refusals := [] }

def onClient (change : Connection.Client → Connection.Client) (session : Session) : Session :=
  { session with client := change session.client }.settle

/-! ## Start and end -/

/-- The settings, and the files with them. Those that cannot be read or written are standard. -/
def loadSettings (surroundings : Surroundings) (arguments : Arguments) :
    Settings.Chat × Files.Tree :=
  let path := arguments.config.getD (Settings.standardPath surroundings.home)
  let (settings, files) :=
    match Settings.Chat.load surroundings.files surroundings.home path with
    | .ok loaded => loaded
    | .error _ => (Settings.Chat.standard surroundings.home, surroundings.files)
  (arguments.apply settings, files)

/-- A session with observers that has not connected yet, or why there is none. -/
def ofSettings (settings : Settings.Chat) (files : Files.Tree) (given : List String) :
    Except String Session := do
  let tokenSource ← TokenSource.choose files given settings.tokenPath
  match Connection.Client.ofSettings settings.client tokenSource.current with
  | .error defect => .error defect.message
  | .ok client =>
      let (client, _) := client.subscribe .message "terminal"
      let (client, _) := client.subscribe .state "terminal"
      let (client, _) := client.subscribe .refusal "terminal"
      let session : Session :=
        ⟨client, tokenSource, settings.backend, files, .fresh, [], [], []⟩
      .ok session.absorb

/-- Starts a session: the files afterwards, and the session or why there is none. -/
def start (surroundings : Surroundings) (arguments : Arguments) :
    Files.Tree × Except String Session :=
  let (settings, files) := loadSettings surroundings arguments
  (files, do
    let session ← ofSettings settings files
      (arguments.token.toList ++ surroundings.token.toList)
    let session :=
      match session.tokenSource.missing? with
      | some path =>
          session.note ("no token yet: set " ++ tokenVariable ++ ", pass --token, or write " ++
            path)
      | none => session
    .ok (session.onClient
      (·.post [.connect (arguments.firstSession surroundings.freshSession)])))

def shutdown (session : Session) : Session :=
  session.onClient (·.shutdown)

/-! ## Lines -/

/-- The request that says a text. -/
def requestOf (text : String) (session : Session) : Wire.Request :=
  ((Wire.Request.ofMessage text).forSession session.client.session).usingBackend
    session.backend

/-- Sends a request, with a note if it has to wait for a connection. -/
def send (request : Wire.Request) (session : Session) : Session × List Command :=
  (if session.client.state.isConnected then session
    else session.note "offline, message queued",
    [.send request.render])

/-- What a line does, unless it ends the program: the session after it and the commands for the
client. -/
def perform (input : Entry) (session : Session) : Session × List Command :=
  match input with
  | .say text => session.send (session.requestOf text)
  | .image path text =>
      match readImage session.files path with
      | .ok image => session.send ((session.requestOf text).addImage image)
      | .error refusal => (session.note (readFailure path ++ ": " ++ refusal.message), [])
  | .disconnect => (session, [.disconnect])
  | .reconnect => (session, [.startOver])
  | .state =>
      let line := session.describe session.client.state
      (session.note (line ++ " (session " ++ session.client.session.getD "none" ++ ")"), [])
  | .help => (session.note helpText, [])
  | .quit => (session, [])
  | .empty => (session, [])
  | .invalid reason => (session.note reason, [])

/-- A line without the carriage return before its end. -/
def dropReturn (line : List UInt8) : List UInt8 :=
  if line.getLast? = some 13 then line.dropLast else line

/-- Handles lines that were typed at once, without their ends: the session after them, the commands
for the client, and how the program ends if it does. Nothing after a line that ends the program is
looked at. -/
def handleLines : List (List UInt8) → Session → Session × List Command × Option Ending
  | [], session => (session, [], none)
  | line :: rest, session =>
      match Text.Utf8.decode (dropReturn line) with
      | .error misread => (session, [], some (.failed misread.message))
      | .ok text =>
          match Entry.ofLine (String.ofList text) with
          | .quit => (session, [], some .finished)
          | input =>
              let (session, commands) := session.perform input
              let (session, more, ending) := handleLines rest session
              (session, commands ++ more, ending)

/-- Lines are typed at once. The client sees their commands when all of them are handled. -/
def enter (lines : List (List UInt8)) (session : Session) : Session × Option Ending :=
  let (session, commands, ending) := handleLines lines session
  let session := session.onClient (·.post commands)
  (if ending.isSome then session.shutdown else session, ending)

/-! ## The clock -/

/-- The clock runs from `now` to `target`, stopping wherever the client has something to do. -/
def advanceFrom (target now : Nat) (session : Session) : Session :=
  match session.client.nextDue? with
  | some due =>
      if now < due ∧ due ≤ target then
        advanceFrom target due (session.onClient (·.advance (due - now)))
      else session.onClient (·.advance (target - now))
  | none => session.onClient (·.advance (target - now))
termination_by target - now

def advance (milliseconds : Nat) (session : Session) : Session :=
  advanceFrom (session.client.now + milliseconds) session.client.now session

end Session

end Parley.Terminal
