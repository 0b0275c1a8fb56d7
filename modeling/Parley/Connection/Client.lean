import Parley.Connection.Channel
import Parley.Observer.Roster
import Parley.Token.Basic

/-!
# Client

A controller together with the connections it has dialled, a clock, a token and observers. Between
two stimuli from outside everything runs until nothing more can happen at that instant: reports
reach the controller one by one, what the controller has done reaches connections and observers in
order, and timers that are due fire.
-/

namespace Parley.Connection

inductive Topic where
  | state
  | status
  | message
  | refusal
deriving DecidableEq, Repr

/-- What can be seen of a client, in the order in which it happens: calls of observers by name, and
what happens on the network by the number of the dial. -/
inductive Happening where
  | state (observer : String) (state : State)
  | status (observer : String) (status : Status)
  | message (observer : String) (packet : Wire.Packet)
  | refusal (observer : String) (message : String)
  | net (dial : Nat) (event : NetEvent)
deriving Repr

structure Client where
  setup : Setup
  /-- Milliseconds since the start. -/
  now : Nat
  controller : Controller String
  /-- The controller still takes commands and reports. -/
  isRunning : Bool
  /-- The session as it is shown to the user of the client. -/
  session : Option String
  /-- The token that the provider holds. -/
  token : Option String
  /-- The connections, each with the number of its dial. -/
  channels : List (Nat × Channel)
  states : Observer.Roster String State
  statuses : Observer.Roster String Status
  messages : Observer.Roster String Wire.Packet
  refusals : Observer.Roster String String
  /-- What has happened since it was last asked, in order. -/
  log : List Happening
deriving Repr

namespace Client

def start (setup : Setup) (token : Option String) : Client where
  setup
  now := 0
  controller := .initial setup
  isRunning := true
  session := none
  token
  channels := []
  states := .ofCurrent (some .disconnected)
  statuses := .ofCurrent (some .down)
  messages := .ofCurrent none
  refusals := .ofCurrent none
  log := []

/-- A client for settings that are valid. -/
def ofSettings (settings : Settings.Client) (token : Option String) :
    Except Settings.Defect Client := do
  .ok (start ⟨settings, ← settings.check⟩ token)

def record (happenings : List Happening) (client : Client) : Client :=
  { client with log := client.log ++ happenings }

/-- The client with an empty log, and what was in the log. -/
def takeLog (client : Client) : Client × List Happening :=
  ({ client with log := [] }, client.log)

/-! ## Connections -/

def onChannel (dial : Nat) (change : Channel → Channel) (client : Client) : Client :=
  { client with
    channels := client.channels.map fun (number, channel) =>
      (number, if number = dial then change channel else channel) }

def channel? (dial : Nat) (client : Client) : Option Channel :=
  (client.channels.find? (·.1 = dial)).map (·.2)

def accepts (client : Client) : Bool :=
  match client.controller.link with
  | some link => (client.channel? link.serial).any (·.accepts)
  | none => false

def carryOut (client : Client) (effect : Effect String) : Client :=
  match effect with
  | .dial dial _ url =>
      record [.net dial
          (.dialed url.render (socketLimit client.setup.settings.messageLimit))]
        { client with channels := client.channels ++ [(dial, .dialed)] }
  | .handOver dial text => client.onChannel dial (·.queue (.text text))
  | .answerHeartbeat dial => client.onChannel dial (·.queue (.text Wire.heartbeatAnswer))
  | .close dial code reason =>
      client.onChannel dial fun channel =>
        (channel.queue (.close code reason)).cancel
  | .abandon dial => client.onChannel dial (·.cancel)
  | .evicted _ => client
  | .discarded _ => client
  | .suppressed => client
  | .session session => { client with session := some session }
  | .state state =>
      record (client.states.observers.map (.state · state))
        { client with states := client.states.retain state }
  | .status status =>
      record (client.statuses.observers.map (.status · status))
        { client with statuses := client.statuses.retain status }
  | .message packet => record (client.messages.observers.map (.message · packet)) client
  | .refusal message =>
      record (client.refusals.observers.map (.refusal · message)) client

/-- The controller takes a stimulus, and what it does is carried out. -/
def tell (stimulus : Stimulus String) (client : Client) : Client :=
  if client.isRunning then
    let around : Surroundings :=
      { now := client.now
        answers := fun _ => Token.present client.token
        accepts := fun _ => client.accepts }
    let controller := client.controller.step client.setup around stimulus
    controller.outbox.foldl carryOut { client with controller }
  else client

/-- A connection has taken a step: the step is logged, and its reports are tagged. -/
def adopt (dial : Nat) (turn : Channel.Turn) (client : Client) :
    Client × List (Nat × Report) :=
  (record (turn.net.map (.net dial)) (client.onChannel dial fun _ => turn.channel),
    turn.reports.map (dial, ·))

def settleChannels (client : Client) : Client × List (Nat × Report) :=
  client.channels.foldl (fun (client, reports) (dial, channel) =>
    let (client, more) := client.adopt dial channel.settle
    (client, reports ++ more)) (client, [])

/-- Hands reports to the controller until there are none left. `fuel` bounds their number. -/
def deliver : Nat → List (Nat × Report) → Client → Client
  | 0, _, client => client
  | _, [], client => client
  | fuel + 1, (dial, report) :: rest, client =>
      let (client, more) := (client.tell (.report dial report)).settleChannels
      deliver fuel (rest ++ more) client

/-- Delivers reports, and whatever they lead to. Every connection reports its end at most once
more, so the fuel covers all reports to come. -/
def settleReports (reports : List (Nat × Report)) (client : Client) : Client :=
  let (client, more) := client.settleChannels
  let reports := reports ++ more
  deliver (reports.length + 2 * client.channels.length + 2) reports client

def fire (timer : Timer) (client : Client) : Client :=
  match client.controller.timers.due? timer with
  | some due =>
      if client.isRunning && due ≤ client.now then
        (client.tell (.timer timer)).settleReports []
      else client
  | none => client

def expire (client : Client) (dial : Nat) : Client :=
  match client.channel? dial with
  | some channel =>
      let (client, reports) := client.adopt dial (channel.expire client.now)
      client.settleReports reports
  | none => client

def fireDue (client : Client) : Client :=
  let client := [Timer.reconnect, .countdown, .tokenLook, .refusalNotice].foldl
    (fun client timer => client.fire timer) client
  (client.channels.map (·.1)).foldl expire client

/-- Everything runs until nothing more can happen at this instant. -/
def settle (reports : List (Nat × Report)) (client : Client) : Client :=
  (client.settleReports reports).fireDue

/-! ## The clock -/

/-- When the next timer or deadline after this instant is due. -/
def nextDue? (client : Client) : Option Nat :=
  let timers :=
    if client.isRunning then
      [Timer.reconnect, .countdown, .tokenLook, .refusalNotice].filterMap
        client.controller.timers.due?
    else []
  let deadlines := client.channels.filterMap fun (_, channel) =>
    if channel.cancelled then none else channel.deadline?
  ((timers ++ deadlines).filter (client.now < ·)).min?

/-- The clock runs from `now` to `target`, stopping wherever something is due. -/
def advanceFrom (target now : Nat) (client : Client) : Client :=
  match client.nextDue? with
  | some due =>
      if now < due ∧ due ≤ target then
        advanceFrom target due (settle [] { client with now := due })
      else settle [] { client with now := target }
  | none => settle [] { client with now := target }
termination_by target - now

def advance (milliseconds : Nat) (client : Client) : Client :=
  advanceFrom (client.now + milliseconds) client.now client

/-! ## Stimuli from outside -/

/-- The controller takes commands, one right after the other. -/
def post (commands : List Command) (client : Client) : Client :=
  (commands.foldl (fun client command => client.tell (.command command)) client).settle []

def shutdown (client : Client) : Client :=
  if client.isRunning then
    let controller := { client.controller with outbox := [] }.windDown
    (controller.outbox.foldl carryOut { client with controller, isRunning := false }).settle []
  else client

def onNetwork (dial : Nat) (step : Channel → Channel.Turn) (client : Client) : Client :=
  match client.channel? dial with
  | some channel =>
      let (client, reports) := client.adopt dial (step channel)
      client.settle reports
  | none => client

def accept (dial : Nat) (client : Client) : Client :=
  client.onNetwork dial (·.accept client.setup.settings client.now)

def refuse (dial : Nat) (cause : String) (client : Client) : Client :=
  client.onNetwork dial (·.refuse cause)

def receive (dial : Nat) (incoming : Incoming) (client : Client) : Client :=
  client.onNetwork dial (·.receive client.setup.settings client.now incoming)

def breakWrites (dial : Nat) (client : Client) : Client :=
  client.onChannel dial (·.breakWrites)

def setToken (token : Option String) (client : Client) : Client :=
  { client with token }

/-! ## Observers -/

/-- Registers an observer. An observer of states or statuses is called with the current one at
once. -/
def subscribe (topic : Topic) (name : String) (client : Client) : Client × Nat :=
  match topic with
  | .state =>
      let (states, number) := client.states.subscribe name
      (record (states.current.toList.map (.state name)) { client with states }, number)
  | .status =>
      let (statuses, number) := client.statuses.subscribe name
      (record (statuses.current.toList.map (.status name)) { client with statuses }, number)
  | .message =>
      let (messages, number) := client.messages.subscribe name
      ({ client with messages }, number)
  | .refusal =>
      let (refusals, number) := client.refusals.subscribe name
      ({ client with refusals }, number)

def unsubscribe (topic : Topic) (number : Nat) (client : Client) : Client :=
  match topic with
  | .state => { client with states := client.states.unsubscribe number }
  | .status => { client with statuses := client.statuses.unsubscribe number }
  | .message => { client with messages := client.messages.unsubscribe number }
  | .refusal => { client with refusals := client.refusals.unsubscribe number }

def state (client : Client) : State :=
  client.states.current.getD .disconnected

end Client

end Parley.Connection
