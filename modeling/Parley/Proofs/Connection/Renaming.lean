import Parley.Proofs.Connection.Moves
import Parley.Proofs.Connection.Run

/-!
# Renaming payloads

A controller never looks into what it sends. To rename all payloads and then run it comes to the
same as to run it and then rename the payloads wherever they are, so that payloads can be told apart
by names that are not there in the run itself.
-/

namespace Parley.Connection

variable {Payload Name : Type}

/-! ## Renamed parts -/

def Order.map (rename : Payload → Name) : Order Payload → Order Name
  | .connect session => .connect session
  | .send payload => .send (rename payload)
  | .disconnect => .disconnect
  | .startOver => .startOver

def Stimulus.map (rename : Payload → Name) : Stimulus Payload → Stimulus Name
  | .command order => .command (order.map rename)
  | .report serial said => .report serial said
  | .timer due => .timer due

def Effect.map (rename : Payload → Name) : Effect Payload → Effect Name
  | .dial serial token url => .dial serial token url
  | .handOver serial payload => .handOver serial (rename payload)
  | .answerHeartbeat serial => .answerHeartbeat serial
  | .close serial code reason => .close serial code reason
  | .abandon serial => .abandon serial
  | .evicted payload => .evicted (rename payload)
  | .discarded payloads => .discarded (payloads.map rename)
  | .suppressed => .suppressed
  | .session adopted => .session adopted
  | .state shown => .state shown
  | .status shown => .status shown
  | .message packet => .message packet
  | .refusal told => .refusal told

def Backlog.map (rename : Payload → Name) (backlog : Backlog Payload) : Backlog Name :=
  ⟨backlog.items.map rename, backlog.capacity⟩

def Turn.map (rename : Payload → Name) (turn : Turn Payload) : Turn Name :=
  ⟨turn.around, turn.stimulus.map rename⟩

/-- The controller with all payloads renamed, those that wait and those in its outbox. -/
def Controller.map (rename : Payload → Name) (controller : Controller Payload) :
    Controller Name :=
  { controller with
    backlog := controller.backlog.map rename
    outbox := controller.outbox.map (Effect.map rename) }

namespace Controller

variable (rename : Payload → Name) (controller : Controller Payload)

@[simp]
theorem map_isOpen : (controller.map rename).isOpen = controller.isOpen :=
  rfl

/-! ## What moves do -/

@[simp]
theorem map_farewells (code : Nat) (reason : String) (link : Option Link) :
    (farewells code reason link).map (Effect.map rename) = farewells code reason link := by
  cases link with
  | none =>
      rfl
  | some link =>
      cases wasOpen : link.isOpen <;> simp [farewells, Link.farewell, Effect.map, wasOpen]

@[simp]
theorem map_stateNotice (shown state : State) :
    (stateNotice shown state).map (Effect.map rename) = stateNotice shown state := by
  unfold stateNotice
  split <;> rfl

@[simp]
theorem map_downNotice (wasOpen : Bool) :
    (downNotice wasOpen).map (Effect.map rename) = downNotice wasOpen := by
  cases wasOpen <;> rfl

@[simp]
theorem map_discardNotice (backlog : Backlog Payload) :
    (discardNotice backlog).map (Effect.map rename) = discardNotice (backlog.map rename) := by
  obtain ⟨items, capacity⟩ := backlog
  cases items <;> simp [discardNotice, Backlog.map, Effect.map]

/-! ## Handlers -/

theorem map_halt (why : Halt) (reason : String) :
    (halt why reason controller).map rename = halt why reason (controller.map rename) := by
  rw [halt_eq, halt_eq, map_isOpen]
  simp [map, Backlog.map, Backlog.clear]

theorem map_waitForAttempt (setup : Setup) (now : Nat) (immediate : Bool) :
    (waitForAttempt setup now immediate controller).map rename =
      waitForAttempt setup now immediate (controller.map rename) := by
  cases asked : controller.phase.nextAttempt setup.settings.backoff with
  | suppressed =>
      have askedToo :
          (controller.map rename).phase.nextAttempt setup.settings.backoff = .suppressed :=
        asked
      rw [waitForAttempt_of_suppressed now immediate asked,
        waitForAttempt_of_suppressed now immediate askedToo]
      simp [map, Effect.map]
  | exhausted =>
      have askedToo :
          (controller.map rename).phase.nextAttempt setup.settings.backoff = .exhausted :=
        asked
      rw [waitForAttempt_of_exhausted now immediate asked,
        waitForAttempt_of_exhausted now immediate askedToo]
      simp [map, Backlog.map, Backlog.clear]
  | after attempt delay =>
      have askedToo :
          (controller.map rename).phase.nextAttempt setup.settings.backoff =
            .after attempt delay :=
        asked
      rw [waitForAttempt_of_after now immediate asked rfl rfl,
        waitForAttempt_of_after now immediate askedToo rfl rfl]
      simp [map]

theorem map_onClosed (setup : Setup) (now code : Nat) (wasOpen : Bool) :
    (onClosed setup now code wasOpen controller).map rename =
      onClosed setup now code wasOpen (controller.map rename) := by
  cases ended : Aftermath.ofCode code with
  | halt why =>
      rw [onClosed_of_halt setup now wasOpen _ ended, onClosed_of_halt setup now wasOpen _ ended]
      simp [map, Backlog.map, Backlog.clear]
  | retry immediate =>
      rw [onClosed_of_retry setup now wasOpen _ ended, onClosed_of_retry setup now wasOpen _ ended,
        map_waitForAttempt]
      simp [map]

theorem map_waitForToken (setup : Setup) (now : Nat) :
    (waitForToken setup now controller).map rename =
      waitForToken setup now (controller.map rename) := by
  rcases waitForToken_cases setup now controller with ⟨waiting, stays⟩ | ⟨notWaiting, begins⟩
  · rw [stays]
    exact (if_pos waiting).symm
  · rcases waitForToken_cases setup now (controller.map rename) with
      ⟨waiting, _⟩ | ⟨_, beginsToo⟩
    · exact absurd waiting notWaiting
    · rw [begins, beginsToo, map_isOpen]
      simp [map]

theorem map_dial (setup : Setup) (token : String) :
    (dial setup token controller).map rename = dial setup token (controller.map rename) := by
  rw [dial_eq, dial_eq]
  simp [map, Effect.map]

theorem map_connect (setup : Setup) (now : Nat) (answer : Option String) :
    (connect setup now answer controller).map rename =
      connect setup now answer (controller.map rename) := by
  cases answer with
  | none =>
      exact map_waitForToken rename controller setup now
  | some token =>
      have sameLink : (controller.map rename).link = controller.link := rfl
      cases held : controller.link with
      | none =>
          simp only [connect, sameLink, held]
          exact map_dial rename
            { controller with link := none, timers := controller.timers.forgetLook } setup token
      | some link =>
          by_cases sameToken : link.token = token
          · simp only [connect, sameLink, held, if_pos sameToken]
            rfl
          · cases wasOpen : link.isOpen with
            | true =>
                simp only [connect, sameLink, held, if_neg sameToken, wasOpen, if_true,
                  retireWith_eq, map_onClosed]
                simp [map, held]
            | false =>
                simp only [connect, sameLink, held, if_neg sameToken, wasOpen, Bool.false_eq_true,
                  if_false]
                exact map_dial rename
                  { controller with link := some link, timers := controller.timers.forgetLook }
                  setup token

theorem map_enqueue (payload : Payload) :
    (enqueue payload controller).map rename =
      enqueue (rename payload) (controller.map rename) := by
  rw [enqueue_eq, enqueue_eq]
  by_cases hasRoom : controller.backlog.items.length < controller.backlog.capacity
  · simp [map, Backlog.map, Backlog.push, hasRoom]
  · cases oldest : controller.backlog.items.head? <;>
      simp [map, Backlog.map, Backlog.push, hasRoom, oldest, Effect.map]

theorem map_enqueueAll (payloads : List Payload) :
    (payloads.foldl (fun controller payload => enqueue payload controller) controller).map
        rename =
      (payloads.map rename).foldl (fun controller payload => enqueue payload controller)
        (controller.map rename) := by
  induction payloads generalizing controller with
  | nil =>
      rfl
  | cons payload rest inductionHypothesis =>
      rw [List.foldl_cons, inductionHypothesis, map_enqueue]
      rfl

theorem map_handOver
    (accepts : Nat → Bool) (serial place : Nat) (payloads : List Payload) :
    (handOver accepts serial place payloads controller).map rename =
      handOver accepts serial place (payloads.map rename) (controller.map rename) := by
  induction payloads generalizing place controller with
  | nil =>
      rfl
  | cons payload rest inductionHypothesis =>
      rw [List.map_cons, handOver, handOver]
      by_cases accepted : accepts place = true
      · rw [if_pos accepted, if_pos accepted, inductionHypothesis]
        simp [map, emit, Effect.map]
      · rw [if_neg accepted, if_neg accepted]
        exact map_enqueueAll rename controller (payload :: rest)

theorem map_send (accepts : Nat → Bool) (payload : Payload) :
    (send accepts payload controller).map rename =
      send accepts (rename payload) (controller.map rename) := by
  unfold send
  have sameLink : (controller.map rename).link = controller.link := rfl
  rw [sameLink]
  split
  · exact map_handOver rename controller accepts _ 0 [payload]
  · exact map_enqueue rename controller payload

theorem map_flush (accepts : Nat → Bool) :
    (flush accepts controller).map rename = flush accepts (controller.map rename) := by
  unfold flush
  have sameLink : (controller.map rename).link = controller.link := rfl
  rw [sameLink]
  split
  next link _ =>
    have handsOver := map_handOver rename { controller with backlog := controller.backlog.clear }
      accepts link.serial 0 controller.backlog.items
    simpa [map, Backlog.drain, Backlog.map, Backlog.clear] using handsOver
  next =>
    rfl

theorem map_onOpened (accepts : Nat → Bool) :
    (onOpened accepts controller).map rename = onOpened accepts (controller.map rename) := by
  unfold onOpened
  simp only [publishState_eq, publishStatus, emit, map_flush]
  simp [map, Effect.map]

theorem map_onText (setup : Setup) (around : Surroundings) (content : String) :
    (onText setup around content controller).map rename =
      onText setup around content (controller.map rename) := by
  unfold onText
  split
  · rfl
  · have sameLink : (controller.map rename).link = controller.link := rfl
    rw [sameLink]
    split
    · split
      · simp [map, emit, Effect.map]
      · rfl
    · rfl
  next message _ =>
    have halts := map_halt rename controller .refused "auth failure"
    unfold onRefusal
    rw [← halts]
    rfl
  next packet _ =>
    cases packet.announced? <;> simp [map, emit, adoptSession, Effect.map]

theorem map_onReport
    (setup : Setup) (around : Surroundings) (serial : Nat) (report : Report) :
    (onReport setup around serial report controller).map rename =
      onReport setup around serial report (controller.map rename) := by
  unfold onReport
  have sameLink : (controller.map rename).link = controller.link := rfl
  rw [sameLink]
  split
  next =>
    rfl
  next link held =>
    split
    · rfl
    · cases report with
      | opened =>
          exact map_onOpened rename controller around.accepts
      | text content =>
          exact map_onText rename controller setup around content
      | failed cause =>
          simp only [publishState_eq]
          simp [map]
      | closed code reason =>
          exact map_onClosed rename { controller with link := none } setup around.now code
            link.isOpen

theorem map_startOver (setup : Setup) (around : Surroundings) :
    (startOver setup around controller).map rename =
      startOver setup around (controller.map rename) := by
  have restarts : controller.restarted.map rename = (controller.map rename).restarted := by
    rw [restarted, restarted, map_isOpen]
    simp [map]
  rw [startOver_eq, startOver_eq, map_connect, restarts]

theorem map_onCommand (setup : Setup) (around : Surroundings) (order : Order Payload) :
    (onCommand setup around order controller).map rename =
      onCommand setup around (order.map rename) (controller.map rename) := by
  cases order with
  | connect session =>
      cases session with
      | none =>
          exact map_connect rename controller setup around.now (around.answers 0)
      | some session =>
          have connects := map_connect rename (adoptSession session controller) setup around.now
            (around.answers 0)
          simpa [onCommand, Order.map, adoptSession, emit, map, Effect.map] using connects
  | send payload =>
      exact map_send rename controller around.accepts payload
  | disconnect =>
      exact map_halt rename controller .manual "client disconnect"
  | startOver =>
      exact map_startOver rename controller setup around

theorem map_onTimer (setup : Setup) (around : Surroundings) (timer : Timer) :
    (onTimer setup around timer controller).map rename =
      onTimer setup around timer (controller.map rename) := by
  cases timer with
  | reconnect =>
      exact map_connect rename
        { controller with
          timers := controller.timers.forgetRetry
          phase := controller.phase.launch }
        setup around.now (around.answers 0)
  | countdown =>
      rcases onCountdown_cases controller with ⟨attempt, seconds, waits, beats⟩ | ⟨waitsNot, stops⟩
      · rcases onCountdown_cases (controller.map rename) with
          ⟨attemptToo, secondsToo, waitsToo, beatsToo⟩ | ⟨waitsNot, _⟩
        · obtain ⟨rfl, rfl⟩ := Phase.backoff.inj (waits.symm.trans waitsToo)
          rw [onTimer, onTimer, beats, beatsToo, publishState_eq, publishState_eq]
          simp [map]
        · exact absurd waits (waitsNot attempt seconds)
      · rcases onCountdown_cases (controller.map rename) with
          ⟨attempt, seconds, waits, _⟩ | ⟨_, stopsToo⟩
        · exact absurd waits (waitsNot attempt seconds)
        · rw [onTimer, onTimer, stops, stopsToo]
          rfl
  | tokenLook =>
      rw [onTimer, onTimer, onTokenLook, onTokenLook]
      split
      · exact map_connect rename
          { controller with timers := controller.timers.forgetLook, phase := .idle }
          setup around.now (around.answers 1)
      · rfl
  | refusalNotice =>
      rw [onTimer, onTimer, onRefusalNotice_eq, onRefusalNotice_eq]
      cases untold : controller.untoldRefusal <;> simp [map, untold, Effect.map]

/-! ## Runs -/

theorem map_take (setup : Setup) (turn : Turn Payload) :
    (controller.take setup turn).map rename =
      (controller.map rename).take setup (turn.map rename) := by
  unfold take step Turn.map
  cases turn.stimulus with
  | command order =>
      exact map_onCommand rename { controller with outbox := [] } setup turn.around order
  | report serial report =>
      exact map_onReport rename { controller with outbox := [] } setup turn.around serial report
  | timer timer =>
      exact map_onTimer rename { controller with outbox := [] } setup turn.around timer

/-- Renamed before the run or after it, the controller is the same. -/
theorem map_after (setup : Setup) (turns : List (Turn Payload)) :
    (after setup turns controller).map rename =
      after setup (turns.map (Turn.map rename)) (controller.map rename) := by
  induction turns generalizing controller with
  | nil =>
      rfl
  | cons turn rest inductionHypothesis =>
      rw [List.map_cons, after, after, inductionHypothesis, map_take]

/-- Renamed before the run or after it, what is done is the same. -/
theorem map_effects (setup : Setup) (turns : List (Turn Payload)) :
    (effects setup turns controller).map (Effect.map rename) =
      effects setup (turns.map (Turn.map rename)) (controller.map rename) := by
  induction turns generalizing controller with
  | nil =>
      rfl
  | cons turn rest inductionHypothesis =>
      rw [List.map_cons, effects, effects, List.map_append, inductionHypothesis, ← map_take]
      rfl

end Controller

end Parley.Connection
