import Parley.Connection.Backlog
import Parley.Connection.Phase
import Parley.Connection.State
import Parley.Settings.Client
import Parley.Wire.Arrival

/-!
# Controller

The part of the client that decides. It takes one command, event or timer at a time, changes its
state and puts what has to be done into its outbox: dials, frames, notices to observers. Nothing
else ever touches the state, so a connection that was given up cannot come back.
-/

namespace Parley.Connection

/-- What the user of the client asks for. What is to be sent is a payload that the controller
never looks into. -/
inductive Order (Payload : Type) where
  | connect (session : Option String)
  | send (payload : Payload)
  | disconnect
  | startOver
deriving DecidableEq, Repr

/-- An order whose payload is a text. -/
abbrev Command : Type :=
  Order String

inductive Report where
  | opened
  | text (content : String)
  | failed (cause : String)
  | closed (code : Nat) (reason : String)
deriving DecidableEq, Repr

/-- The timers, of each of which there is at most one. -/
inductive Timer where
  | reconnect
  | countdown
  | tokenLook
  | refusalNotice
deriving DecidableEq, Repr

/-- What a controller is told, one at a time. -/
inductive Stimulus (Payload : Type) where
  | command (order : Order Payload)
  /-- A report of the connection with the given serial number. -/
  | report (serial : Nat) (report : Report)
  | timer (timer : Timer)
deriving DecidableEq, Repr

inductive Effect (Payload : Type) where
  | dial (serial : Nat) (token : String) (url : Url.Parts)
  /-- A payload is handed to a connection for writing. -/
  | handOver (serial : Nat) (payload : Payload)
  /-- The answer to a heartbeat is handed to a connection. -/
  | answerHeartbeat (serial : Nat)
  /-- An open connection is given up, with a close frame behind all texts. -/
  | close (serial : Nat) (code : Nat) (reason : String)
  /-- A dial is given up before it was answered. -/
  | abandon (serial : Nat)
  /-- A waiting payload was evicted by a newer one. -/
  | evicted (payload : Payload)
  /-- Waiting payloads were discarded as the connection halted. -/
  | discarded (payloads : List Payload)
  /-- There was no further attempt, as the controller had halted before. -/
  | suppressed
  | session (session : String)
  | state (state : State)
  | status (status : Status)
  | message (packet : Wire.Packet)
  | refusal (message : String)
deriving Repr

/-- The connection that a controller holds, dialled or open. -/
structure Link where
  serial : Nat
  token : String
  isOpen : Bool
deriving DecidableEq, Repr

/-- When each armed timer fires next, in milliseconds. -/
structure Schedule where
  reconnect : Option Nat
  countdown : Option Nat
  tokenLook : Option Nat
  refusalNotice : Option Nat
deriving DecidableEq, Repr

namespace Schedule

def none : Schedule :=
  ⟨.none, .none, .none, .none⟩

def forgetRetry (timers : Schedule) : Schedule :=
  { timers with reconnect := .none, countdown := .none }

def forgetLook (timers : Schedule) : Schedule :=
  { timers with tokenLook := .none }

def due? (timers : Schedule) : Timer → Option Nat
  | .reconnect => timers.reconnect
  | .countdown => timers.countdown
  | .tokenLook => timers.tokenLook
  | .refusalNotice => timers.refusalNotice

end Schedule

/-- The settings a controller works with, and the URL they make. -/
structure Setup where
  settings : Settings.Client
  base : Url.Parts
deriving Repr

/-- What a controller sees of the world during one stimulus: the time in milliseconds, the answers
of the token provider in the order in which it is asked, and whether the channel of the open
connection takes a payload, for each payload in turn. -/
structure Surroundings where
  now : Nat
  answers : Nat → Option String
  accepts : Nat → Bool

structure Controller (Payload : Type) where
  link : Option Link
  serial : Nat
  session : Option String
  phase : Phase
  backlog : Backlog Payload
  hasOpened : Bool
  timers : Schedule
  untoldRefusal : Option String
  /-- The state published last. -/
  state : State
  /-- The status published last. -/
  status : Status
  /-- What was done during the stimulus, in order. -/
  outbox : List (Effect Payload)
deriving Repr

namespace Controller

variable {Payload : Type}

def initial (setup : Setup) : Controller Payload where
  link := none
  serial := 0
  session := none
  phase := .idle
  backlog := .ofCapacity setup.settings.backlogLimit
  hasOpened := false
  timers := .none
  untoldRefusal := none
  state := .disconnected
  status := .down
  outbox := []

/-! ## Publishing -/

def emit (effect : Effect Payload) (controller : Controller Payload) : Controller Payload :=
  { controller with outbox := controller.outbox ++ [effect] }

/-- Publishes a state unless it is the one published last. -/
def publishState (state : State) (controller : Controller Payload) : Controller Payload :=
  if controller.state = state then controller else emit (.state state) { controller with state }

def publishStatus (status : Status) (controller : Controller Payload) : Controller Payload :=
  emit (.status status) { controller with status }

def adoptSession (session : String) (controller : Controller Payload) : Controller Payload :=
  emit (.session session) { controller with session := some session }

def discardBacklog (controller : Controller Payload) : Controller Payload :=
  if controller.backlog.items.isEmpty then controller
  else
    emit (.discarded controller.backlog.items)
      { controller with backlog := controller.backlog.clear }

/-! ## Giving up a connection -/

/-- Gives up the connection, if there is one. -/
def retireWith (code : Nat) (reason : String) (controller : Controller Payload) :
    Controller Payload :=
  match controller.link with
  | none => controller
  | some link =>
      emit (if link.isOpen then .close link.serial code reason
        else .abandon link.serial) { controller with link := none }

/-- Gives up the connection on purpose. -/
def retire (reason : String) (controller : Controller Payload) : Controller Payload :=
  retireWith Wire.CloseCode.normal reason controller

def isOpen (controller : Controller Payload) : Bool :=
  controller.link.any (·.isOpen)

/-- Says that there is no connection any more, if there was one. -/
def notifyDown (wasOpen : Bool) (controller : Controller Payload) : Controller Payload :=
  if wasOpen then publishStatus .down controller else controller

/-- Stops everything until the user asks for a connection again. -/
def halt (why : Halt) (reason : String) (controller : Controller Payload) : Controller Payload :=
  let wasOpen := controller.isOpen
  { controller with timers := .none }
    |> retire reason
    |> discardBacklog
    |> ({ · with phase := .halted why })
    |> publishState .disconnected
    |> notifyDown wasOpen

/-! ## Backoff -/

/-- Waits for the next attempt, or halts if too many have failed. An immediate attempt counts, but
does not wait. -/
def waitForAttempt (setup : Setup) (now : Nat) (immediate : Bool)
    (controller : Controller Payload) : Controller Payload :=
  match controller.phase.nextAttempt setup.settings.backoff with
  | .suppressed => emit .suppressed controller |> publishState .disconnected
  | .exhausted =>
      discardBacklog controller
        |> (fun controller =>
          { controller with timers := controller.timers.forgetRetry, phase := .halted .exhausted })
        |> publishState (.failed (exhaustedMessage setup.settings.backoff.attemptLimit))
  | .after attempt delay =>
      let delay := if immediate then 0 else delay
      let seconds := Settings.wholeSeconds delay
      let waiting := publishState (.reconnecting attempt seconds)
        { controller with phase := .backoff attempt seconds }
      { waiting with
        timers := { waiting.timers with
          countdown := if 0 < seconds then some (now + 1000) else none
          reconnect := some (now + delay) } }

def onClosed (setup : Setup) (now code : Nat) (wasOpen : Bool) (controller : Controller Payload) :
    Controller Payload :=
  let controller := notifyDown wasOpen controller
  match Aftermath.ofCode code with
  | .halt why =>
      discardBacklog controller
        |> (fun controller =>
          { controller with timers := controller.timers.forgetRetry, phase := .halted why })
        |> publishState .disconnected
  | .retry immediate => waitForAttempt setup now immediate controller

/-! ## Connecting -/

/-- Waits for a token. Waiting already is left as it is, and so is its rhythm. -/
def waitForToken (setup : Setup) (now : Nat) (controller : Controller Payload) :
    Controller Payload :=
  if controller.phase = .waitingForToken then controller
  else
    let wasOpen := controller.isOpen
    let waiting := retire "no token" controller
      |> (fun controller =>
        { controller with timers := controller.timers.forgetRetry, phase := .waitingForToken })
      |> publishState .disconnected
      |> notifyDown wasOpen
    { waiting with
      timers := { waiting.timers with tokenLook := some (now + setup.settings.tokenLook) } }

/-- Dials with a token, in place of any dial under way. -/
def dial (setup : Setup) (token : String) (controller : Controller Payload) : Controller Payload :=
  let controller := retire "replaced" controller
  let serial := controller.serial + 1
  emit (.dial serial token
      (Settings.authorizedUrl setup.base token controller.session))
    { controller with
      serial
      phase := .connecting controller.phase.attempts
      link := some ⟨serial, token, false⟩ }

/-- Connects with the token that the provider answers. A connection with that token is kept; an
open one with another token is closed and dialled again through the backoff. -/
def connect (setup : Setup) (now : Nat) (answer : Option String) (controller : Controller Payload) :
    Controller Payload :=
  match answer with
  | none => waitForToken setup now controller
  | some token =>
      let controller := { controller with timers := controller.timers.forgetLook }
      match controller.link with
      | none => dial setup token controller
      | some link =>
          if link.token = token then controller
          else if link.isOpen then
            retireWith Wire.CloseCode.tokenChanged "token changed" controller
              |> onClosed setup now Wire.CloseCode.tokenChanged true
          else dial setup token controller

/-! ## Payloads out -/

def enqueue (payload : Payload) (controller : Controller Payload) : Controller Payload :=
  let (backlog, evicted) := controller.backlog.push payload
  let controller := { controller with backlog }
  match evicted with
  | some oldest => emit (.evicted oldest) controller
  | none => controller

/-- Hands payloads to the connection as long as its channel takes them; from the first it does not
take on they go into the backlog. `place` counts the payloads handed over before. -/
def handOver (accepts : Nat → Bool) (serial : Nat) :
    Nat → List Payload → Controller Payload → Controller Payload
  | _, [], controller => controller
  | place, payload :: rest, controller =>
      if accepts place then
        handOver accepts serial (place + 1) rest
          (emit (.handOver serial payload) controller)
      else (payload :: rest).foldl (fun controller payload => enqueue payload controller) controller

/-- Sends a payload, or keeps it while there is no open connection. -/
def send (accepts : Nat → Bool) (payload : Payload) (controller : Controller Payload) :
    Controller Payload :=
  match controller.link.filter (·.isOpen) with
  | some link => handOver accepts link.serial 0 [payload] controller
  | none => enqueue payload controller

def flush (accepts : Nat → Bool) (controller : Controller Payload) : Controller Payload :=
  match controller.link.filter (·.isOpen) with
  | some link =>
      let (backlog, payloads) := controller.backlog.drain
      handOver accepts link.serial 0 payloads { controller with backlog }
  | none => controller

/-! ## Reports -/

def onOpened (accepts : Nat → Bool) (controller : Controller Payload) : Controller Payload :=
  { controller with
    link := controller.link.map ({ · with isOpen := true })
    hasOpened := true
    phase := .opened
    timers := controller.timers.forgetRetry }
    |> publishState .connected
    |> publishStatus ⟨true, controller.hasOpened⟩
    |> flush accepts

/-- The server refuses the token: everything stops, and observers hear of it after a while. -/
def onRefusal (setup : Setup) (now : Nat) (message : String) (controller : Controller Payload) :
    Controller Payload :=
  let halted := halt .refused "auth failure" controller
  { halted with
    untoldRefusal := some message
    timers := { halted.timers with
      refusalNotice := some (now + setup.settings.noticeDelay) } }

/-- The server answers heartbeats at once and refusals with a halt; everything else goes to the
observers, after the session that it announces is taken over. -/
def onText (setup : Setup) (around : Surroundings) (content : String)
    (controller : Controller Payload) : Controller Payload :=
  match Wire.Arrival.ofText content with
  | .malformed _ => controller
  | .heartbeat =>
      match controller.link.filter (·.isOpen) with
      | some link =>
          if around.accepts 0 then emit (.answerHeartbeat link.serial) controller else controller
      | none => controller
  | .refusal message => onRefusal setup around.now message controller
  | .message packet =>
      let controller :=
        match packet.announced? with
        | some session => adoptSession session controller
        | none => controller
      emit (.message packet) controller

/-- A report counts only if it comes from the connection that the controller holds. -/
def onReport (setup : Setup) (around : Surroundings) (serial : Nat) (report : Report)
    (controller : Controller Payload) : Controller Payload :=
  match controller.link with
  | none => controller
  | some link =>
      if link.serial ≠ serial then controller
      else
        match report with
        | .opened => onOpened around.accepts controller
        | .text content => onText setup around content controller
        | .failed _ => publishState (.failed connectionErrorMessage) controller
        | .closed code _ =>
            onClosed setup around.now code link.isOpen { controller with link := none }

/-! ## Commands -/

/-- Drops the connection and starts over with no failed attempts. -/
def startOver (setup : Setup) (around : Surroundings) (controller : Controller Payload) :
    Controller Payload :=
  let wasOpen := controller.isOpen
  { controller with timers := .none, untoldRefusal := none }
    |> retire "manual reconnect"
    |> notifyDown wasOpen
    |> ({ · with phase := .idle })
    |> connect setup around.now (around.answers 0)

def onCommand (setup : Setup) (around : Surroundings) (order : Order Payload)
    (controller : Controller Payload) : Controller Payload :=
  match order with
  | .connect session =>
      let controller :=
        match session with
        | some session => adoptSession session controller
        | none => controller
      connect setup around.now (around.answers 0) controller
  | .send payload => send around.accepts payload controller
  | .disconnect => halt .manual "client disconnect" controller
  | .startOver => startOver setup around controller

/-- The client is gone: the connection is closed and nothing follows. -/
def windDown (controller : Controller Payload) : Controller Payload :=
  let wasOpen := controller.isOpen
  let controller := retire "shutdown" { controller with timers := .none, untoldRefusal := none }
  if wasOpen then publishStatus .down controller |> publishState .disconnected else controller

/-! ## Timers -/

def onReconnectDue (setup : Setup) (around : Surroundings) (controller : Controller Payload) :
    Controller Payload :=
  connect setup around.now (around.answers 0)
    { controller with
      timers := controller.timers.forgetRetry
      phase := controller.phase.launch }

def onCountdown (controller : Controller Payload) : Controller Payload :=
  let timers := { controller.timers with countdown := controller.timers.countdown.map (· + 1000) }
  let phase := controller.phase.tick
  match phase.remaining? with
  | some (attempt, seconds) =>
      publishState (.reconnecting attempt seconds) { controller with timers, phase }
  | none => { controller with timers := { timers with countdown := none } }

def onTokenLook (setup : Setup) (around : Surroundings) (controller : Controller Payload) :
    Controller Payload :=
  match around.answers 0 with
  | some _ =>
      connect setup around.now (around.answers 1)
        { controller with timers := controller.timers.forgetLook, phase := .idle }
  | none =>
      { controller with
        timers := { controller.timers with
          tokenLook := controller.timers.tokenLook.map (· + setup.settings.tokenLook) } }

def onRefusalNotice (controller : Controller Payload) : Controller Payload :=
  let told := { controller with
    timers := { controller.timers with refusalNotice := none }
    untoldRefusal := none }
  match controller.untoldRefusal with
  | some message => emit (.refusal message) told
  | none => told

def onTimer (setup : Setup) (around : Surroundings) (timer : Timer)
    (controller : Controller Payload) : Controller Payload :=
  match timer with
  | .reconnect => onReconnectDue setup around controller
  | .countdown => onCountdown controller
  | .tokenLook => onTokenLook setup around controller
  | .refusalNotice => onRefusalNotice controller

/-- The controller after one stimulus, with what it did in its outbox. -/
def step (setup : Setup) (around : Surroundings) (stimulus : Stimulus Payload)
    (controller : Controller Payload) : Controller Payload :=
  let controller := { controller with outbox := [] }
  match stimulus with
  | .command order => onCommand setup around order controller
  | .report serial report => onReport setup around serial report controller
  | .timer timer => onTimer setup around timer controller

end Controller

end Parley.Connection
