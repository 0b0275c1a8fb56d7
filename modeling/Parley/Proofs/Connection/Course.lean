import Parley.Proofs.Connection.Publication
import Parley.Proofs.Connection.Resources
import Parley.Proofs.Connection.Succession

/-!
# The course of a controller

What one turn can make of a controller that holds the resources of its phase. Whichever handler
answers, the connection, the phase, the timers of a backoff and all that is shown change together in
one of eleven ways, and each of them has its causes. What holds along a run is read off these ways.
-/

namespace Parley.Connection

variable {Payload : Type}

/-! ## Causes -/

def Report.isText : Report → Bool
  | .text _ => true
  | _ => false

/-- What a controller hears in a turn from the connection that it holds. -/
def Turn.heard? (turn : Turn Payload) (controller : Controller Payload) : Option Report :=
  match turn.stimulus with
  | .report serial report =>
      if controller.link.any (·.serial = serial) then some report else none
  | _ => none

/-- What a controller hears of the fate of its connection, which is all but the texts. -/
def Turn.sign? (turn : Turn Payload) (controller : Controller Payload) : Option Report :=
  (turn.heard? controller).filter (! ·.isText)

inductive Turn.Stops (turn : Turn Payload) (before : Controller Payload) : Halt → Prop where
  | manual (told : turn.stimulus = .command .disconnect) : Stops turn before .manual
  | refused (content message : String)
      (heard : turn.heard? before = some (.text content))
      (refuses : Wire.Arrival.ofText content = .refusal message) : Stops turn before .refused
  | closed (code : Nat) (reason : String) (why : Halt)
      (heard : turn.heard? before = some (.closed code reason))
      (ends : Aftermath.ofCode code = .halt why) : Stops turn before why

/-- How a connection is lost that is to be dialled again, and whether that is to be at once. -/
inductive Turn.Loses (turn : Turn Payload) (before : Controller Payload) : Bool → Prop where
  | closed (code : Nat) (reason : String) (immediate : Bool)
      (heard : turn.heard? before = some (.closed code reason))
      (ends : Aftermath.ofCode code = .retry immediate) : Loses turn before immediate
  | tokenChanged (session : Option String) (link : Link) (token : String)
      (told : turn.stimulus = .command (.connect session))
      (held : before.link = some link) (linkOpen : link.isOpen = true)
      (answered : turn.around.answers 0 = some token)
      (changed : link.token ≠ token) : Loses turn before true

/-- The token provider is asked, for a connection that the user wants, at the end of a backoff or
while a token is waited for. In the last case the second answer counts. -/
inductive Turn.AsksForToken (turn : Turn Payload) : Nat → Prop where
  | connect (session : Option String) (told : turn.stimulus = .command (.connect session)) :
      AsksForToken turn 0
  | startOver (told : turn.stimulus = .command .startOver) : AsksForToken turn 0
  | reconnect (told : turn.stimulus = .timer .reconnect) : AsksForToken turn 0
  | tokenLook (told : turn.stimulus = .timer .tokenLook) : AsksForToken turn 1

/-! ## Stances -/

/-- Where a controller stands with its connection, and what it has shown and dialled in a turn. -/
structure Stance where
  link : Option Link
  phase : Phase
  reconnect : Option Nat
  countdown : Option Nat
  hasOpened : Bool
  state : State
  status : Status
  states : List State
  statuses : List Status
  dials : List Nat

def Controller.stance (controller : Controller Payload) : Stance where
  link := controller.link
  phase := controller.phase
  reconnect := controller.timers.reconnect
  countdown := controller.timers.countdown
  hasOpened := controller.hasOpened
  state := controller.state
  status := controller.status
  states := statesOf controller.outbox
  statuses := statusesOf controller.outbox
  dials := dialled (livesOf controller.outbox)

/-- Where a controller stands as it begins a turn. -/
def Controller.atRest (controller : Controller Payload) : Stance :=
  { controller.stance with states := [], statuses := [], dials := [] }

namespace Stance

def isOpen (stance : Stance) : Bool :=
  stance.link.any (·.isOpen)

def shows (state : State) (stance : Stance) : Stance :=
  { stance with state, states := stance.states ++ stance.state.notice state }

/-- It is shown that there is no connection any more, if there was an open one. -/
def notes (wasOpen : Bool) (stance : Stance) : Stance :=
  { stance with
    status := if wasOpen then .down else stance.status
    statuses := stance.statuses ++ if wasOpen then [.down] else [] }

/-- The connection is given up, and that is shown if it was open. -/
def vacated (stance : Stance) : Stance :=
  { stance.notes stance.isOpen with link := none }

def parked (phase : Phase) (stance : Stance) : Stance :=
  { stance with phase, reconnect := none, countdown := none }

def backsOff (attempt wait now : Nat) (stance : Stance) : Stance :=
  shows (.reconnecting attempt (Settings.wholeSeconds wait))
    { stance with
      phase := .backoff attempt (Settings.wholeSeconds wait)
      reconnect := some (now + wait)
      countdown := if 0 < Settings.wholeSeconds wait then some (now + 1000) else none }

def dialling (serial : Nat) (token : String) (attempts : Nat) (stance : Stance) : Stance :=
  { stance with
    link := some ⟨serial, token, false⟩
    phase := .connecting attempts
    dials := stance.dials ++ [serial] }

end Stance

/-- The timers of a backoff go on as they are, or run out. -/
structure Controller.RunsOut (before : Controller Payload) (reconnect countdown : Option Nat) :
    Prop where
  reconnect_eq : reconnect = before.timers.reconnect ∨ reconnect = none
  countdown_eq : countdown = before.timers.countdown ∨ countdown = none

theorem Controller.RunsOut.of_unarmed
    {before : Controller Payload} {reconnect countdown : Option Nat}
    (less : before.RunsOut reconnect countdown) (noReconnect : before.timers.reconnect = none)
    (noCountdown : before.timers.countdown = none) : reconnect = none ∧ countdown = none := by
  obtain ⟨reconnect_eq, countdown_eq⟩ := less
  rw [noReconnect, or_self] at reconnect_eq
  rw [noCountdown, or_self] at countdown_eq
  exact ⟨reconnect_eq, countdown_eq⟩

/-- The ways in which a turn can go. -/
inductive Course (setup : Setup) (turn : Turn Payload) (before after : Controller Payload) :
    Prop where
  /-- The turn does not concern the connection. -/
  | keeps (noSign : turn.sign? before = none)
      (notDue : turn.stimulus ≠ .timer .reconnect)
      (is : after.stance = before.atRest)
  /-- A timer of a backoff that was cut short runs out in the dial. -/
  | fades (attempts : Nat) (reconnect countdown : Option Nat)
      (noSign : turn.sign? before = none)
      (dialling : before.phase = .connecting attempts)
      (less : before.RunsOut reconnect countdown)
      (told : turn.stimulus = .timer .reconnect ∨ turn.stimulus = .timer .countdown)
      (is : after.stance = { before.atRest with reconnect, countdown })
  /-- A second of a backoff has passed. -/
  | counts (attempt seconds : Nat)
      (backingOff : before.phase = .backoff attempt seconds)
      (told : turn.stimulus = .timer .countdown)
      (is : after.stance =
        Stance.shows (.reconnecting attempt (seconds - 1))
          { before.atRest with
            phase := .backoff attempt (seconds - 1)
            countdown := before.timers.countdown.map (· + 1000) })
  /-- The connection opens. -/
  | opens (link : Link) (held : before.link = some link)
      (sign : turn.sign? before = some .opened)
      (is : after.stance =
        { (before.atRest.parked .opened).shows .connected with
          link := some { link with isOpen := true }
          hasOpened := true
          status := ⟨true, before.hasOpened⟩
          statuses := [⟨true, before.hasOpened⟩] })
  /-- The connection reports a fault. -/
  | faults (link : Link) (cause : String) (held : before.link = some link)
      (sign : turn.sign? before = some (.failed cause))
      (is : after.stance = before.atRest.shows (.failed connectionErrorMessage))
  /-- Everything halts. -/
  | stops (why : Halt) (cause : turn.Stops before why)
      (is : after.stance =
        (before.atRest.vacated.parked (.halted why)).shows .disconnected)
      (emptied : after.backlog.items = [])
  /-- The connection is lost after too many failed attempts. -/
  | exhausts (immediate : Bool) (cause : turn.Loses before immediate)
      (spent : setup.settings.backoff.attemptLimit ≤ before.phase.attempts)
      (is : after.stance =
        (before.atRest.vacated.parked (.halted .exhausted)).shows
          (.failed (exhaustedMessage setup.settings.backoff.attemptLimit)))
      (emptied : after.backlog.items = [])
  /-- The connection is lost, and a further attempt is waited for. -/
  | backsOff (immediate : Bool) (cause : turn.Loses before immediate)
      (unspent : before.phase.attempts < setup.settings.backoff.attemptLimit)
      (is : after.stance =
        before.atRest.vacated.backsOff (before.phase.attempts + 1)
          (if immediate then 0 else setup.settings.backoff.delay before.phase.attempts)
          turn.around.now)
  /-- There is no token to connect with. -/
  | awaits (place : Nat) (asks : turn.AsksForToken place)
      (lacks : turn.around.answers place = none)
      (is : after.stance =
        (before.atRest.vacated.parked .waitingForToken).shows .disconnected)
  /-- A connection is dialled, in place of a dial or of none. -/
  | dials (token : String) (place : Nat) (asks : turn.AsksForToken place)
      (answered : turn.around.answers place = some token)
      (notOpen : before.isOpen = false)
      (reconnect countdown : Option Nat)
      (less : before.RunsOut reconnect countdown)
      (due : turn.stimulus = .timer .reconnect → reconnect = none ∧ countdown = none)
      (is : after.stance =
        Stance.dialling (before.serial + 1) token before.phase.attempts
          { before.atRest with reconnect, countdown })
  /-- The user starts over, and a connection is dialled in place of any. -/
  | restarts (token : String) (told : turn.stimulus = .command .startOver)
      (answered : turn.around.answers 0 = some token)
      (is : after.stance =
        (before.atRest.vacated.parked .idle).dialling (before.serial + 1) token 0)

/-! ## What moves make of a stance -/

@[simp]
theorem statesOf_nil : statesOf ([] : List (Effect Payload)) = [] :=
  rfl

@[simp]
theorem statusesOf_nil : statusesOf ([] : List (Effect Payload)) = [] :=
  rfl

@[simp]
theorem livesOf_nil : livesOf ([] : List (Effect Payload)) = [] :=
  rfl

@[simp]
theorem dialled_nil : dialled [] = [] :=
  rfl

@[simp]
theorem dialled_append (first second : List Life) :
    dialled (first ++ second) = dialled first ++ dialled second :=
  List.filterMap_append

@[simp]
theorem dialled_ended (serials : List Nat) : dialled (serials.map .ended) = [] := by
  simp [dialled, List.filterMap_map]

theorem Phase.nextAttempt_of_spent
    {phase : Phase} {backoff : Settings.Backoff} (running : phase.hasHalted = false)
    (spent : backoff.attemptLimit ≤ phase.attempts) :
    phase.nextAttempt backoff = .exhausted := by
  simp [nextAttempt, running, spent]

theorem Phase.nextAttempt_of_unspent
    {phase : Phase} {backoff : Settings.Backoff} (running : phase.hasHalted = false)
    (unspent : phase.attempts < backoff.attemptLimit) :
    phase.nextAttempt backoff = .after (phase.attempts + 1) (backoff.delay phase.attempts) := by
  simp [nextAttempt, running, Nat.not_le.mpr unspent]

namespace Controller

@[simp]
theorem isOpen_stance (controller : Controller Payload) :
    controller.stance.isOpen = controller.isOpen :=
  rfl

@[simp]
theorem isOpen_atRest (controller : Controller Payload) :
    controller.atRest.isOpen = controller.isOpen :=
  rfl

/-- To move payloads or to converse leaves a controller where it stands. -/
theorem stance_of_silent
    (before after : Controller Payload) {moved : List (Effect Payload)}
    (silent : ∀ effect ∈ moved, effect.movesPayload = true ∨ effect.converses = true)
    (link : after.link = before.link) (phase : after.phase = before.phase)
    (reconnect : after.timers.reconnect = before.timers.reconnect)
    (countdown : after.timers.countdown = before.timers.countdown)
    (hasOpened : after.hasOpened = before.hasOpened) (state : after.state = before.state)
    (status : after.status = before.status) (outbox : after.outbox = before.outbox ++ moved) :
    after.stance = before.stance := by
  have noStates : statesOf moved = [] :=
    statesOf_eq_nil silent
  have noStatuses : statusesOf moved = [] :=
    statusesOf_eq_nil silent
  have noLives : livesOf moved = [] := by
    apply livesOf_eq_nil
    intro effect member
    rcases silent effect member with moves | converses
    · exact Effect.life?_of_movesPayload moves
    · exact Effect.life?_of_converses converses
  simp [stance, link, phase, reconnect, countdown, hasOpened, state, status, outbox, noStates,
    noStatuses, noLives]

theorem stance_publishState (state : State) (controller : Controller Payload) :
    (publishState state controller).stance = controller.stance.shows state := by
  rw [publishState_eq]
  simp [stance, Stance.shows]

theorem stance_halt (why : Halt) (reason : String) (controller : Controller Payload) :
    (halt why reason controller).stance =
      (controller.stance.vacated.parked (.halted why)).shows .disconnected := by
  rw [halt_eq]
  simp only [Stance.vacated, isOpen_stance]
  simp [stance, Stance.shows, Stance.parked, Stance.notes, Schedule.none]

theorem stance_waitForToken
    (setup : Setup) (now : Nat) {controller : Controller Payload}
    (notWaiting : controller.phase ≠ .waitingForToken) :
    (waitForToken setup now controller).stance =
      (controller.stance.vacated.parked .waitingForToken).shows .disconnected := by
  rcases waitForToken_cases setup now controller with ⟨waiting, _⟩ | ⟨_, begins⟩
  · exact absurd waiting notWaiting
  · rw [begins]
    simp only [Stance.vacated, isOpen_stance]
    simp [stance, Stance.shows, Stance.parked, Stance.notes, Schedule.forgetRetry]

theorem stance_dial
    (setup : Setup) (token : String) (controller : Controller Payload) :
    (dial setup token controller).stance =
      controller.stance.dialling (controller.serial + 1) token controller.phase.attempts := by
  have dials :
      ∀ url, dialled (livesOf [(.dial (controller.serial + 1) token url : Effect Payload)]) =
        [controller.serial + 1] :=
    fun _ => rfl
  have noStates :
      ∀ url, statesOf [(.dial (controller.serial + 1) token url : Effect Payload)] = [] :=
    fun _ => rfl
  have noStatuses :
      ∀ url, statusesOf [(.dial (controller.serial + 1) token url : Effect Payload)] = [] :=
    fun _ => rfl
  rw [dial_eq]
  simp [stance, Stance.dialling, dials, noStates, noStatuses]

/-- What the end of the client makes of its connection and shows of it. -/
theorem stance_windDown (controller : Controller Payload) :
    (windDown { controller with outbox := [] }).stance =
      { controller.atRest.vacated with
        reconnect := none
        countdown := none
        state := if controller.isOpen then .disconnected else controller.state
        states := if controller.isOpen then controller.state.notice .disconnected else [] } := by
  have wasOpen :
      isOpen ({ controller with outbox := [] } : Controller Payload) = controller.isOpen :=
    rfl
  rw [windDown_eq]
  simp only [Stance.vacated, isOpen_atRest, wasOpen]
  cases controller.isOpen <;> simp [stance, atRest, Stance.notes, Schedule.none]

theorem statesOf_windDown (controller : Controller Payload) :
    statesOf (windDown { controller with outbox := [] }).outbox =
      if controller.isOpen then controller.state.notice .disconnected else [] :=
  congrArg Stance.states (stance_windDown controller)

theorem statusesOf_windDown (controller : Controller Payload) :
    statusesOf (windDown { controller with outbox := [] }).outbox =
      if controller.isOpen then [.down] else [] :=
  congrArg Stance.statuses (stance_windDown controller)

theorem stance_onOpened
    (accepts : Nat → Bool) {controller : Controller Payload} {link : Link}
    (held : controller.link = some link) :
    (onOpened accepts { controller with outbox := [] }).stance =
      { (controller.atRest.parked .opened).shows .connected with
        link := some { link with isOpen := true }
        hasOpened := true
        status := ⟨true, controller.hasOpened⟩
        statuses := [⟨true, controller.hasOpened⟩] } := by
  obtain ⟨backlog, moved, opens, moves⟩ := onOpened_frame accepts { controller with outbox := [] }
  have silent : ∀ effect ∈ moved, effect.movesPayload = true ∨ effect.converses = true :=
    fun effect member => Or.inl (moves effect member)
  have noStates : statesOf (.status ⟨true, controller.hasOpened⟩ :: moved) = [] := by
    change statesOf moved = []
    exact statesOf_eq_nil silent
  have statuses :
      statusesOf (.status ⟨true, controller.hasOpened⟩ :: moved) =
        [⟨true, controller.hasOpened⟩] :=
    congrArg _ (statusesOf_eq_nil silent)
  have noLives : livesOf (.status ⟨true, controller.hasOpened⟩ :: moved) = [] := by
    change livesOf moved = []
    exact livesOf_eq_nil fun effect member => Effect.life?_of_movesPayload (moves effect member)
  rw [opens]
  simp [stance, atRest, Stance.shows, Stance.parked, Schedule.forgetRetry, held, noStates,
    statuses, noLives]

/-- To tell of a refusal leaves a controller where it stands. -/
theorem stance_onRefusalNotice (controller : Controller Payload) :
    (onRefusalNotice { controller with outbox := [] }).stance = controller.atRest := by
  rw [onRefusalNotice_eq]
  cases untold : controller.untoldRefusal with
  | none =>
      simp [stance, atRest]
  | some message =>
      rfl

theorem stance_onClosed_of_halt
    {code : Nat} {why : Halt} (setup : Setup) (now : Nat) (wasOpen : Bool)
    (controller : Controller Payload) (ended : Aftermath.ofCode code = .halt why) :
    (onClosed setup now code wasOpen controller).stance =
      ((controller.stance.notes wasOpen).parked (.halted why)).shows .disconnected := by
  rw [onClosed_of_halt setup now wasOpen controller ended]
  simp [stance, Stance.shows, Stance.parked, Stance.notes, Schedule.forgetRetry]

/-- The connection of a controller is lost, so that it waits for an attempt or gives up. -/
theorem course_of_loss
    {setup : Setup} {turn : Turn Payload} {before lost : Controller Payload} {immediate : Bool}
    (cause : turn.Loses before immediate) (running : before.phase.hasHalted = false)
    (vacated : lost.stance = before.atRest.vacated) :
    Course setup turn before (waitForAttempt setup turn.around.now immediate lost) := by
  have phase : lost.phase = before.phase :=
    congrArg Stance.phase vacated
  have lostRunning : lost.phase.hasHalted = false := by
    rw [phase]
    exact running
  by_cases spent : setup.settings.backoff.attemptLimit ≤ before.phase.attempts
  · have asked : lost.phase.nextAttempt setup.settings.backoff = .exhausted := by
      apply Phase.nextAttempt_of_spent lostRunning
      rw [phase]
      exact spent
    have gives := waitForAttempt_of_exhausted turn.around.now immediate asked
    refine .exhausts immediate cause spent ?_ ?_
    · rw [gives, ← vacated]
      simp [stance, Stance.shows, Stance.parked, Schedule.forgetRetry]
    · rw [gives]
      rfl
  · have unspent : before.phase.attempts < setup.settings.backoff.attemptLimit :=
      Nat.lt_of_not_le spent
    have asked :
        lost.phase.nextAttempt setup.settings.backoff =
          .after (before.phase.attempts + 1)
            (setup.settings.backoff.delay before.phase.attempts) := by
      rw [← phase]
      apply Phase.nextAttempt_of_unspent lostRunning
      rw [phase]
      exact unspent
    have waits := waitForAttempt_of_after turn.around.now immediate asked rfl rfl
    refine .backsOff immediate cause unspent ?_
    rw [waits, ← vacated]
    simp [stance, Stance.backsOff, Stance.shows]

/-! ## Reports -/

section Heard

variable {turn : Turn Payload} {controller : Controller Payload} {link : Link} {serial : Nat}
  {report : Report}

theorem heard?_of_other
    (told : turn.stimulus = .report serial report)
    (other : ∀ link, controller.link = some link → link.serial ≠ serial) :
    turn.heard? controller = none := by
  cases held : controller.link with
  | none =>
      simp [Turn.heard?, told, held]
  | some link =>
      simp [Turn.heard?, told, held, other link held]

theorem heard?_eq_some_iff :
    turn.heard? controller = some report ↔
      ∃ serial link, turn.stimulus = .report serial report ∧
        controller.link = some link ∧ link.serial = serial := by
  constructor
  · intro heard
    unfold Turn.heard? at heard
    split at heard
    next serial heardReport told =>
      cases held : controller.link with
      | none =>
          simp [held] at heard
      | some link =>
          by_cases same : link.serial = serial
          · simp [held, same] at heard
            subst heard
            exact ⟨serial, link, told, rfl, same⟩
          · simp [held, same] at heard
    next =>
      cases heard
  · rintro ⟨serial, link, told, held, same⟩
    simp [Turn.heard?, told, held, same]

theorem heard?_of_command {order : Order Payload} (told : turn.stimulus = .command order) :
    turn.heard? controller = none := by
  simp [Turn.heard?, told]

theorem heard?_of_timer {timer : Timer} (told : turn.stimulus = .timer timer) :
    turn.heard? controller = none := by
  simp [Turn.heard?, told]

theorem sign?_eq_some_iff :
    turn.sign? controller = some report ↔
      turn.heard? controller = some report ∧ report.isText = false := by
  simp [Turn.sign?, Option.filter_eq_some_iff]

theorem sign?_of_unheard (unheard : turn.heard? controller = none) :
    turn.sign? controller = none := by
  simp [Turn.sign?, unheard]

theorem sign?_of_text {content : String} (heard : turn.heard? controller = some (.text content)) :
    turn.sign? controller = none := by
  simp [Turn.sign?, heard, Report.isText]

end Heard

section Turns

variable {setup : Setup} {turn : Turn Payload} {before : Controller Payload}

/-- A text that is heard takes one of the courses of a turn. -/
theorem course_onText
    {content : String} (heard : turn.heard? before = some (.text content))
    (notDue : turn.stimulus ≠ .timer .reconnect) :
    Course setup turn before
      (onText setup turn.around content { before with outbox := [] }) := by
  rcases onText_cases setup turn.around content { before with outbox := [] } with
    ⟨message, refusal, refuses⟩ | ⟨session, spoken, speaks, converses⟩
  · rw [refuses, onRefusal]
    refine .stops .refused (.refused content message heard refusal) ?_ ?_
    · exact stance_halt .refused "auth failure" { before with outbox := [] }
    · rw [halt_eq]
      rfl
  · have silent : ∀ effect ∈ spoken, effect.movesPayload = true ∨ effect.converses = true :=
      fun effect member => Or.inr (converses effect member)
    refine .keeps (sign?_of_text heard) notDue ?_
    rw [speaks]
    exact stance_of_silent { before with outbox := [] } _ silent rfl rfl rfl rfl rfl rfl rfl rfl

theorem course_onClosed
    {code : Nat} {reason : String} {link : Link}
    (heard : turn.heard? before = some (.closed code reason)) (held : before.link = some link)
    (running : before.phase.hasHalted = false) :
    Course setup turn before
      (onClosed setup turn.around.now code link.isOpen
        { before with link := none, outbox := [] }) := by
  have vacated :
      Stance.notes link.isOpen (stance { before with link := none, outbox := [] }) =
        before.atRest.vacated := by
    simp [stance, atRest, Stance.vacated, Stance.notes, Stance.isOpen, held]
  cases ended : Aftermath.ofCode code with
  | halt why =>
      refine .stops why (.closed code reason why heard ended) ?_ ?_
      · rw [stance_onClosed_of_halt setup _ _ _ ended, vacated]
      · rw [onClosed_of_halt setup _ _ _ ended]
        rfl
  | retry immediate =>
      rw [onClosed_of_retry setup _ _ _ ended]
      apply course_of_loss (.closed code reason immediate heard ended) running
      rw [← vacated]
      simp [stance, Stance.notes]

theorem course_onReport
    {serial : Nat} {report : Report} (told : turn.stimulus = .report serial report)
    (provisioned : before.Provisioned) :
    Course setup turn before
      (onReport setup turn.around serial report { before with outbox := [] }) := by
  have notDue : turn.stimulus ≠ .timer .reconnect := by
    simp [told]
  unfold onReport
  split
  next noLink =>
    have unheard : turn.heard? before = none := by
      apply heard?_of_other told
      intro link held
      rw [show before.link = none from noLink] at held
      cases held
    exact .keeps (sign?_of_unheard unheard) notDue rfl
  next link isHeld =>
    have held : before.link = some link := isHeld
    split
    next other =>
      have unheard : turn.heard? before = none := by
        apply heard?_of_other told
        intro heldLink isHeldLink
        rw [held] at isHeldLink
        cases isHeldLink
        exact other
      exact .keeps (sign?_of_unheard unheard) notDue rfl
    next same =>
      have heard : turn.heard? before = some report :=
        heard?_eq_some_iff.mpr ⟨serial, link, told, held, Decidable.not_not.mp same⟩
      cases report with
      | opened =>
          exact .opens link held (sign?_eq_some_iff.mpr ⟨heard, rfl⟩)
            (stance_onOpened turn.around.accepts held)
      | text content =>
          exact course_onText heard notDue
      | failed cause =>
          exact .faults link cause held (sign?_eq_some_iff.mpr ⟨heard, rfl⟩)
            (stance_publishState _ { before with outbox := [] })
      | closed code reason =>
          exact course_onClosed heard held (provisioned.of_link held).2

/-! ## Commands and timers -/

/-- The user wants a connection: what comes of it depends on the one that is held. -/
theorem course_connect
    {session : Option String} (told : turn.stimulus = .command (.connect session))
    (provisioned : before.Provisioned) {ready : Controller Payload}
    (link : ready.link = before.link) (phase : ready.phase = before.phase)
    (serial : ready.serial = before.serial) (rests : ready.stance = before.atRest) :
    Course setup turn before
      (connect setup turn.around.now (turn.around.answers 0) ready) := by
  have asks : turn.AsksForToken 0 :=
    .connect session told
  have noSign : turn.sign? before = none :=
    sign?_of_unheard (heard?_of_command told)
  have notReconnect : turn.stimulus ≠ .timer .reconnect := by
    simp [told]
  have notDue : turn.stimulus = .timer .reconnect →
      before.timers.reconnect = none ∧ before.timers.countdown = none :=
    fun due => absurd due notReconnect
  have dials (token : String) (answered : turn.around.answers 0 = some token)
      (notOpen : before.isOpen = false) :
      Course setup turn before
        (dial setup token { ready with timers := ready.timers.forgetLook }) := by
    refine .dials token 0 asks answered notOpen _ _ ⟨Or.inl rfl, Or.inl rfl⟩ notDue ?_
    rw [stance_dial, ← phase, ← serial]
    exact congrArg (Stance.dialling (ready.serial + 1) token ready.phase.attempts) rests
  cases answered : turn.around.answers 0 with
  | none =>
      by_cases waiting : ready.phase = .waitingForToken
      · refine .keeps noSign notReconnect ?_
        rw [connect, waitForToken, if_pos waiting]
        exact rests
      · refine .awaits 0 asks answered ?_
        rw [connect, stance_waitForToken setup _ waiting, rests]
  | some token =>
      rcases Option.eq_none_or_eq_some ready.link with vacant | ⟨heldLink, held⟩
      · rw [connect_of_vacant setup _ _ vacant]
        apply dials token answered
        apply isOpen_eq_false
        rw [← link]
        exact vacant
      · by_cases same : heldLink.token = token
        · rw [connect_of_same setup _ held same]
          exact .keeps noSign notReconnect rests
        · have heldBefore : before.link = some heldLink := by
            rw [← link]
            exact held
          cases linkOpen : heldLink.isOpen with
          | false =>
              rw [connect_of_dialling setup _ held same linkOpen]
              apply dials token answered
              simp [isOpen, heldBefore, linkOpen]
          | true =>
              have ended : Aftermath.ofCode Wire.CloseCode.tokenChanged = .retry true := by
                decide
              rw [connect_of_changed setup _ held same linkOpen,
                onClosed_of_retry setup _ _ _ ended]
              apply course_of_loss
                (.tokenChanged session heldLink token told heldBefore linkOpen answered same)
                (provisioned.of_link heldBefore).2
              have vacated : before.atRest.vacated = ready.stance.vacated := by
                rw [rests]
              rw [vacated, retireWith_eq]
              simp [stance, Stance.vacated, Stance.notes, Stance.isOpen, held, linkOpen,
                Schedule.forgetLook, dialled]

theorem course_onCommand
    {order : Order Payload} (told : turn.stimulus = .command order)
    (provisioned : before.Provisioned) :
    Course setup turn before
      (onCommand setup turn.around order { before with outbox := [] }) := by
  have noSign : turn.sign? before = none :=
    sign?_of_unheard (heard?_of_command told)
  cases order with
  | connect session =>
      cases session with
      | none =>
          exact course_connect told provisioned rfl rfl rfl rfl
      | some session =>
          exact course_connect told provisioned rfl rfl rfl rfl
  | send payload =>
      obtain ⟨backlog, moved, sends, moves⟩ :=
        send_frame turn.around.accepts payload { before with outbox := [] }
      have silent : ∀ effect ∈ moved, effect.movesPayload = true ∨ effect.converses = true :=
        fun effect member => Or.inl (moves effect member)
      have notDue : turn.stimulus ≠ .timer .reconnect := by
        simp [told]
      refine .keeps noSign notDue ?_
      rw [onCommand, sends]
      exact stance_of_silent { before with outbox := [] } _ silent rfl rfl rfl rfl rfl rfl rfl rfl
  | disconnect =>
      refine .stops .manual (.manual told) ?_ ?_
      · exact stance_halt .manual "client disconnect" { before with outbox := [] }
      · rw [onCommand, halt_eq]
        rfl
  | startOver =>
      have asks : turn.AsksForToken 0 :=
        .startOver told
      have restarts :
          (restarted { before with outbox := [] }).stance =
            before.atRest.vacated.parked .idle := by
        have wasOpen :
            isOpen ({ before with outbox := [] } : Controller Payload) = before.isOpen :=
          rfl
        simp only [Stance.vacated, isOpen_atRest]
        simp [restarted, stance, atRest, Stance.notes, Stance.parked, Schedule.none, wasOpen]
      rw [onCommand, startOver_eq]
      cases answered : turn.around.answers 0 with
      | none =>
          refine .awaits 0 asks answered ?_
          rw [connect, stance_waitForToken setup _ (by simp [restarted]), restarts]
          simp [Stance.vacated, Stance.notes, Stance.parked, Stance.isOpen, Stance.shows]
      | some token =>
          refine .restarts token told answered ?_
          rw [connect_of_vacant setup _ _ rfl, stance_dial]
          exact congrArg (Stance.dialling (before.serial + 1) token 0) restarts

theorem course_onReconnectDue
    (told : turn.stimulus = .timer .reconnect) (provisioned : before.Provisioned)
    (armed : before.timers.reconnect.isSome = true) :
    Course setup turn before
      (onReconnectDue setup turn.around { before with outbox := [] }) := by
  have asks : turn.AsksForToken 0 :=
    .reconnect told
  have noSign : turn.sign? before = none :=
    sign?_of_unheard (heard?_of_timer told)
  -- The timer runs only in a backoff and in a dial that cut one short, which both leave a dial.
  have launched :
      before.phase.launch = .connecting before.phase.attempts ∧
        (before.link = none ∨
          before.phase.launch = before.phase ∧
            ∃ link, before.link = some link ∧ link.isOpen = false) := by
    unfold Provisioned at provisioned
    cases phase : before.phase <;> simp_all [Phase.launch, Phase.attempts]
  obtain ⟨launches, holds⟩ := launched
  have notOpen : before.isOpen = false := by
    rcases holds with vacant | ⟨_, link, held, dialling⟩
    · exact isOpen_eq_false vacant
    · simp [isOpen, held, dialling]
  obtain ⟨ready, is⟩ :
      ∃ ready : Controller Payload, ready =
        { before with
          timers := before.timers.forgetRetry
          phase := before.phase.launch
          outbox := [] } :=
    ⟨_, rfl⟩
  have stands :
      ready.stance =
        { before.atRest with
          phase := .connecting before.phase.attempts, reconnect := none, countdown := none } := by
    rw [is]
    simp [stance, atRest, Schedule.forgetRetry, launches]
  have dials (token : String) (answered : turn.around.answers 0 = some token) :
      Course setup turn before
        (dial setup token { ready with timers := ready.timers.forgetLook }) := by
    refine .dials token 0 asks answered notOpen none none
      ⟨Or.inr rfl, Or.inr rfl⟩ (fun _ => ⟨rfl, rfl⟩) ?_
    rw [stance_dial]
    have attempts : ready.phase.attempts = before.phase.attempts := by
      rw [is, launches, Phase.attempts]
    have serial : ready.serial = before.serial := by
      rw [is]
    rw [attempts, serial]
    refine Eq.trans (congrArg (Stance.dialling (before.serial + 1) token _) stands) ?_
    rfl
  have connects :
      onReconnectDue setup turn.around { before with outbox := [] } =
        connect setup turn.around.now (turn.around.answers 0) ready := by
    rw [is]
    rfl
  rw [connects]
  cases answered : turn.around.answers 0 with
  | none =>
      have notWaiting : ready.phase ≠ .waitingForToken := by
        rw [is, launches]
        exact Phase.noConfusion
      refine .awaits 0 asks answered ?_
      rw [connect, stance_waitForToken setup _ notWaiting, stands]
      rfl
  | some token =>
      rcases holds with vacant | ⟨stays, link, held, dialling⟩
      · have readyVacant : ready.link = none := by
          rw [is]
          exact vacant
        rw [connect_of_vacant setup _ _ readyVacant]
        exact dials token answered
      · have readyHeld : ready.link = some link := by
          rw [is]
          exact held
        by_cases same : link.token = token
        · rw [connect_of_same setup _ readyHeld same]
          refine .fades before.phase.attempts none none noSign ?_
            ⟨Or.inr rfl, Or.inr rfl⟩ (Or.inl told) ?_
          · rw [← launches]
            exact stays.symm
          · refine Eq.trans stands ?_
            rw [← launches, stays]
            rfl
        · rw [connect_of_dialling setup _ readyHeld same dialling]
          exact dials token answered

theorem course_onCountdown
    (told : turn.stimulus = .timer .countdown) (provisioned : before.Provisioned)
    (armed : before.timers.countdown.isSome = true) :
    Course setup turn before (onCountdown { before with outbox := [] }) := by
  have noSign : turn.sign? before = none :=
    sign?_of_unheard (heard?_of_timer told)
  rcases onCountdown_cases { before with outbox := [] } with
    ⟨attempt, seconds, backingOff, beats⟩ | ⟨notBackingOff, stops⟩
  · refine .counts attempt seconds backingOff told ?_
    rw [beats]
    exact stance_publishState _ _
  · have dialling : ∃ attempts, before.phase = .connecting attempts := by
      unfold Provisioned at provisioned
      cases phase : before.phase <;> simp_all
    obtain ⟨attempts, phase⟩ := dialling
    refine .fades attempts before.timers.reconnect none noSign phase
      ⟨Or.inl rfl, Or.inr rfl⟩ (Or.inr told) ?_
    rw [stops]
    rfl

theorem course_onTokenLook
    (told : turn.stimulus = .timer .tokenLook) (provisioned : before.Provisioned)
    (armed : before.timers.tokenLook.isSome = true) :
    Course setup turn before
      (onTokenLook setup turn.around { before with outbox := [] }) := by
  have asks : turn.AsksForToken 1 :=
    .tokenLook told
  have noSign : turn.sign? before = none :=
    sign?_of_unheard (heard?_of_timer told)
  have waiting : before.phase = .waitingForToken ∧ before.link = none := by
    unfold Provisioned at provisioned
    cases phase : before.phase <;> simp_all
  obtain ⟨phase, vacant⟩ := waiting
  obtain ⟨ready, is⟩ :
      ∃ ready : Controller Payload, ready =
        { before with timers := before.timers.forgetLook, phase := .idle, outbox := [] } :=
    ⟨_, rfl⟩
  have stands : ready.stance = { before.atRest with phase := .idle } := by
    rw [is]
    rfl
  cases found : turn.around.answers 0 with
  | none =>
      have notReconnect : turn.stimulus ≠ .timer .reconnect := by
        simp [told]
      refine .keeps noSign notReconnect ?_
      rw [onTokenLook, found]
      rfl
  | some _ =>
      have connects :
          onTokenLook setup turn.around { before with outbox := [] } =
            connect setup turn.around.now (turn.around.answers 1) ready := by
        rw [is, onTokenLook, found]
      rw [connects]
      cases answered : turn.around.answers 1 with
      | none =>
          have notWaiting : ready.phase ≠ .waitingForToken := by
            rw [is]
            exact Phase.noConfusion
          refine .awaits 1 asks answered ?_
          rw [connect, stance_waitForToken setup _ notWaiting, stands]
          rfl
      | some token =>
          have readyVacant : ready.link = none := by
            rw [is]
            exact vacant
          have notDue : turn.stimulus = .timer .reconnect →
              before.timers.reconnect = none ∧ before.timers.countdown = none := by
            simp [told]
          refine .dials token 1 asks answered (isOpen_eq_false vacant) _ _
            ⟨Or.inl rfl, Or.inl rfl⟩ notDue ?_
          rw [connect_of_vacant setup _ _ readyVacant, stance_dial, phase, is]
          rfl

/-! ## What a turn does for its cause -/

theorem take_of_opened (setup : Setup) (heard : turn.heard? before = some .opened) :
    before.take setup turn = onOpened turn.around.accepts { before with outbox := [] } := by
  obtain ⟨serial, link, told, held, same⟩ := heard?_eq_some_iff.mp heard
  simp [take, step, told, onReport, held, same]

theorem take_of_closed
    {code : Nat} {reason : String} (setup : Setup)
    (heard : turn.heard? before = some (.closed code reason)) :
    ∃ link, before.link = some link ∧
      before.take setup turn =
        onClosed setup turn.around.now code link.isOpen
          { before with link := none, outbox := [] } := by
  obtain ⟨serial, link, told, held, same⟩ := heard?_eq_some_iff.mp heard
  refine ⟨link, held, ?_⟩
  simp [take, step, told, onReport, held, same]

theorem take_of_refused
    {content message : String} (setup : Setup)
    (heard : turn.heard? before = some (.text content))
    (refuses : Wire.Arrival.ofText content = .refusal message) :
    before.take setup turn =
      onRefusal setup turn.around.now message { before with outbox := [] } := by
  obtain ⟨serial, link, told, held, same⟩ := heard?_eq_some_iff.mp heard
  simp [take, step, told, onReport, held, same, onText, refuses]

theorem take_of_disconnect (setup : Setup) (told : turn.stimulus = .command .disconnect) :
    before.take setup turn =
      halt .manual "client disconnect" { before with outbox := [] } := by
  simp only [take, step, told, onCommand]

/-- A connection is lost to be dialled again only while the controller has not halted. -/
theorem running_of_loses
    {immediate : Bool} (cause : turn.Loses before immediate) (provisioned : before.Provisioned) :
    before.phase.hasHalted = false := by
  cases cause with
  | closed code reason immediate heard ends =>
      obtain ⟨serial, link, told, held, same⟩ := heard?_eq_some_iff.mp heard
      exact (provisioned.of_link held).2
  | tokenChanged session link token told held linkOpen answered changed =>
      exact (provisioned.of_link held).2

/-- However a connection is lost, its controller waits for an attempt without it. -/
theorem take_of_loses
    {immediate : Bool} (setup : Setup) (cause : turn.Loses before immediate) :
    ∃ lost : Controller Payload, lost.phase = before.phase ∧ lost.link = none ∧
      before.take setup turn = waitForAttempt setup turn.around.now immediate lost := by
  cases cause with
  | closed code reason immediate heard ends =>
      obtain ⟨link, _, closes⟩ := take_of_closed setup heard
      rw [closes, onClosed_of_retry setup _ _ _ ends]
      refine ⟨_, ?_, ?_, rfl⟩
      · rfl
      · rfl
  | tokenChanged session link token told held linkOpen answered changed =>
      have ends : Aftermath.ofCode Wire.CloseCode.tokenChanged = .retry true := by
        decide
      have connects (ready : Controller Payload)
          (readyHeld : ready.link = some link) (phase : ready.phase = before.phase) :
          ∃ lost : Controller Payload, lost.phase = before.phase ∧ lost.link = none ∧
            connect setup turn.around.now (some token) ready =
              waitForAttempt setup turn.around.now true lost := by
        rw [connect_of_changed setup _ readyHeld changed linkOpen,
          onClosed_of_retry setup _ _ _ ends, retireWith_eq]
        refine ⟨_, ?_, ?_, rfl⟩
        · exact phase
        · rfl
      simp only [take, step, told, onCommand, answered]
      cases session with
      | none =>
          exact connects { before with outbox := [] } held rfl
      | some session =>
          exact connects (adoptSession session { before with outbox := [] }) held rfl

/-! ## Turns -/

/-- Every turn that can happen goes one of these ways. -/
theorem course_take
    (setup : Setup) (turn : Turn Payload) {before : Controller Payload}
    (provisioned : before.Provisioned) (can : before.canTake turn.stimulus = true) :
    Course setup turn before (before.take setup turn) := by
  unfold take step
  cases told : turn.stimulus with
  | command order =>
      exact course_onCommand told provisioned
  | report serial report =>
      exact course_onReport told provisioned
  | timer timer =>
      have armed : (before.timers.due? timer).isSome = true := by
        rw [told] at can
        exact can
      cases timer with
      | reconnect =>
          exact course_onReconnectDue told provisioned armed
      | countdown =>
          exact course_onCountdown told provisioned armed
      | tokenLook =>
          exact course_onTokenLook told provisioned armed
      | refusalNotice =>
          have notDue : turn.stimulus ≠ .timer .reconnect := by
            simp [told]
          refine .keeps (sign?_of_unheard (heard?_of_timer told)) notDue ?_
          exact stance_onRefusalNotice before

end Turns

end Controller

end Parley.Connection
