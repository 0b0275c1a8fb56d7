import Parley.Connection.Controller

/-!
# Moves of a controller

Every handler of a controller is put together from a few moves. Each of them is written here as one
change of fields, with the list of what it does, so that proofs about handlers read off what a move
touches and need not open it again.
-/

namespace Parley.Connection

variable {Payload : Type}

/-! ## What moves do -/

/-- The effect moves a single payload, to a connection or out of the backlog. -/
def Effect.movesPayload : Effect Payload → Bool
  | .handOver _ _ => true
  | .evicted _ => true
  | _ => false

/-- The effect belongs to the conversation on an open connection. -/
def Effect.converses : Effect Payload → Bool
  | .answerHeartbeat _ => true
  | .session _ => true
  | .message _ => true
  | _ => false

/-- How a connection is given up: an open one is closed with a code, a dial is abandoned. -/
def Link.farewell (code : Nat) (reason : String) (link : Link) : Effect Payload :=
  if link.isOpen then .close link.serial code reason else .abandon link.serial

namespace Controller

/-- What is done to give up the connection, if there is one. -/
def farewells (code : Nat) (reason : String) (link : Option Link) : List (Effect Payload) :=
  (link.map (Link.farewell code reason)).toList

/-- What is done to show a state where another was shown last. -/
def stateNotice (shown state : State) : List (Effect Payload) :=
  if shown = state then [] else [.state state]

/-- What is done to show that there is no connection any more. -/
def downNotice (wasOpen : Bool) : List (Effect Payload) :=
  if wasOpen then [.status .down] else []

/-- What is done to empty the backlog for good. -/
def discardNotice (backlog : Backlog Payload) : List (Effect Payload) :=
  if backlog.items = [] then [] else [.discarded backlog.items]

end Controller

theorem Link.farewell_cases (Sent : Type) (code : Nat) (reason : String) (link : Link) :
    (link.isOpen = true ∧
        (link.farewell code reason : Effect Sent) = .close link.serial code reason) ∨
      (link.isOpen = false ∧
        (link.farewell code reason : Effect Sent) = .abandon link.serial) := by
  unfold farewell
  cases isOpen : link.isOpen
  · exact Or.inr ⟨rfl, rfl⟩
  · exact Or.inl ⟨rfl, rfl⟩

/-- Only a halt suppresses attempts. -/
theorem Phase.nextAttempt_eq_suppressed_iff (phase : Phase) (backoff : Settings.Backoff) :
    phase.nextAttempt backoff = .suppressed ↔ phase.hasHalted = true := by
  unfold nextAttempt
  by_cases halted : phase.hasHalted = true
  · simp [halted]
  · by_cases spent : backoff.attemptLimit ≤ phase.attempts
    · simp [halted, spent]
    · simp [halted, spent]

/-- An observation that sees no end of a connection sees nothing of how it is given up. -/
theorem Controller.filterMap_farewells
    {Seen : Type} (observe : Effect Payload → Option Seen) (code : Nat) (reason : String)
    (link : Option Link)
    (closes : ∀ serial, observe (.close serial code reason) = none)
    (abandons : ∀ serial, observe (.abandon serial) = none) :
    (farewells code reason link).filterMap observe = [] := by
  cases link with
  | none =>
      rfl
  | some link =>
      rcases link.farewell_cases Payload code reason with ⟨_, is⟩ | ⟨_, is⟩
      · simp [farewells, is, closes]
      · simp [farewells, is, abandons]

theorem Controller.filterMap_stateNotice
    {Seen : Type} (observe : Effect Payload → Option Seen) (shown state : State)
    (blind : observe (.state state) = none) :
    (stateNotice shown state).filterMap observe = [] := by
  unfold stateNotice
  split
  · rfl
  · simp [blind]

theorem Controller.filterMap_downNotice
    {Seen : Type} (observe : Effect Payload → Option Seen) (wasOpen : Bool)
    (blind : observe (.status .down) = none) :
    (downNotice wasOpen).filterMap observe = [] := by
  unfold downNotice
  split
  · simp [blind]
  · rfl

theorem Controller.filterMap_discardNotice
    {Seen : Type} (observe : Effect Payload → Option Seen) (backlog : Backlog Payload)
    (blind : ∀ payloads, observe (.discarded payloads) = none) :
    (discardNotice backlog).filterMap observe = [] := by
  unfold discardNotice
  split
  · rfl
  · simp [blind]

namespace Controller

/-! ## Publishing and giving up -/

theorem publishState_eq (state : State) (controller : Controller Payload) :
    publishState state controller =
      { controller with
        state
        outbox := controller.outbox ++ stateNotice controller.state state } := by
  unfold publishState stateNotice
  by_cases same : controller.state = state
  · subst same
    simp
  · simp [same, emit]

theorem notifyDown_eq (wasOpen : Bool) (controller : Controller Payload) :
    notifyDown wasOpen controller =
      { controller with
        status := if wasOpen then .down else controller.status
        outbox := controller.outbox ++ downNotice wasOpen } := by
  cases wasOpen
  · simp [notifyDown, downNotice]
  · rfl

theorem discardBacklog_eq (controller : Controller Payload) :
    discardBacklog controller =
      { controller with
        backlog := controller.backlog.clear
        outbox := controller.outbox ++ discardNotice controller.backlog } := by
  obtain ⟨link, serial, session, phase, ⟨items, capacity⟩, hasOpened, timers, untold, state,
    status, outbox⟩ := controller
  cases items with
  | nil =>
      simp [discardBacklog, discardNotice, Backlog.clear]
  | cons first rest =>
      rfl

theorem retireWith_eq (code : Nat) (reason : String) (controller : Controller Payload) :
    retireWith code reason controller =
      { controller with
        link := none
        outbox := controller.outbox ++ farewells code reason controller.link } := by
  obtain ⟨_ | link, serial, session, phase, backlog, hasOpened, timers, untold, state,
    status, outbox⟩ := controller
  · simp [retireWith, farewells]
  · rfl

theorem halt_eq (why : Halt) (reason : String) (controller : Controller Payload) :
    halt why reason controller =
      { controller with
        link := none
        phase := .halted why
        backlog := controller.backlog.clear
        timers := .none
        state := .disconnected
        status := if controller.isOpen then .down else controller.status
        outbox := controller.outbox ++ farewells Wire.CloseCode.normal reason controller.link ++
          discardNotice controller.backlog ++ stateNotice controller.state .disconnected ++
          downNotice controller.isOpen } := by
  simp only [halt, retire, retireWith_eq, discardBacklog_eq, publishState_eq, notifyDown_eq]

/-! ## The end of a connection -/

theorem waitForAttempt_of_suppressed
    {setup : Setup} {controller : Controller Payload} (now : Nat) (immediate : Bool)
    (asked : controller.phase.nextAttempt setup.settings.backoff = .suppressed) :
    waitForAttempt setup now immediate controller =
      { controller with
        state := .disconnected
        outbox := controller.outbox ++ [.suppressed] ++
          stateNotice controller.state .disconnected } := by
  rw [waitForAttempt, asked]
  simp only [emit, publishState_eq]

theorem waitForAttempt_of_exhausted
    {setup : Setup} {controller : Controller Payload} (now : Nat) (immediate : Bool)
    (asked : controller.phase.nextAttempt setup.settings.backoff = .exhausted) :
    waitForAttempt setup now immediate controller =
      { controller with
        phase := .halted .exhausted
        backlog := controller.backlog.clear
        timers := controller.timers.forgetRetry
        state := .failed (exhaustedMessage setup.settings.backoff.attemptLimit)
        outbox := controller.outbox ++ discardNotice controller.backlog ++
          stateNotice controller.state
            (.failed (exhaustedMessage setup.settings.backoff.attemptLimit)) } := by
  rw [waitForAttempt, asked]
  simp only [discardBacklog_eq, publishState_eq]

theorem waitForAttempt_of_after
    {setup : Setup} {controller : Controller Payload} {attempt delay wait seconds : Nat}
    (now : Nat) (immediate : Bool)
    (asked : controller.phase.nextAttempt setup.settings.backoff = .after attempt delay)
    (waits : wait = if immediate then 0 else delay)
    (counts : seconds = Settings.wholeSeconds wait) :
    waitForAttempt setup now immediate controller =
      { controller with
        phase := .backoff attempt seconds
        timers := { controller.timers with
          countdown := if 0 < seconds then some (now + 1000) else none
          reconnect := some (now + wait) }
        state := .reconnecting attempt seconds
        outbox := controller.outbox ++
          stateNotice controller.state (.reconnecting attempt seconds) } := by
  subst waits counts
  rw [waitForAttempt, asked]
  simp only [publishState_eq]

theorem onClosed_of_halt
    {code : Nat} {why : Halt} (setup : Setup) (now : Nat) (wasOpen : Bool)
    (controller : Controller Payload) (ended : Aftermath.ofCode code = .halt why) :
    onClosed setup now code wasOpen controller =
      { controller with
        phase := .halted why
        backlog := controller.backlog.clear
        timers := controller.timers.forgetRetry
        state := .disconnected
        status := if wasOpen then .down else controller.status
        outbox := controller.outbox ++ downNotice wasOpen ++ discardNotice controller.backlog ++
          stateNotice controller.state .disconnected } := by
  simp only [onClosed, ended, notifyDown_eq, discardBacklog_eq, publishState_eq]

theorem onClosed_of_retry
    {code : Nat} {immediate : Bool} (setup : Setup) (now : Nat) (wasOpen : Bool)
    (controller : Controller Payload) (ended : Aftermath.ofCode code = .retry immediate) :
    onClosed setup now code wasOpen controller =
      waitForAttempt setup now immediate
        { controller with
          status := if wasOpen then .down else controller.status
          outbox := controller.outbox ++ downNotice wasOpen } := by
  simp only [onClosed, ended, notifyDown_eq]

/-- What is done at the end of a connection apart from showing it: nothing, unless a further attempt
is suppressed or the backlog is discarded. -/
def IsAside (controller : Controller Payload) (noted : List (Effect Payload)) : Prop :=
  noted = [] ∨ noted = [.suppressed] ∨ noted = discardNotice controller.backlog

theorem IsAside.filterMap_eq_nil
    {Seen : Type} {controller : Controller Payload} {noted : List (Effect Payload)}
    (aside : controller.IsAside noted) (observe : Effect Payload → Option Seen)
    (suppressed : observe .suppressed = none)
    (discarded : ∀ payloads, observe (.discarded payloads) = none) :
    noted.filterMap observe = [] := by
  rcases aside with rfl | rfl | rfl
  · rfl
  · simp [suppressed]
  · unfold discardNotice
    split
    · rfl
    · simp [discarded]

/-- Waiting for an attempt shows a state other than that of an open connection. -/
theorem waitForAttempt_frame
    (setup : Setup) (now : Nat) (immediate : Bool) (controller : Controller Payload) :
    ∃ state phase timers backlog noted,
      waitForAttempt setup now immediate controller =
          { controller with
            state
            phase
            timers
            backlog
            outbox := controller.outbox ++ noted ++ stateNotice controller.state state } ∧
        state ≠ .connected ∧ controller.IsAside noted := by
  cases asked : controller.phase.nextAttempt setup.settings.backoff with
  | suppressed =>
      exact ⟨_, _, _, _, _, waitForAttempt_of_suppressed now immediate asked, State.noConfusion,
        Or.inr (Or.inl rfl)⟩
  | exhausted =>
      exact ⟨_, _, _, _, _, waitForAttempt_of_exhausted now immediate asked, State.noConfusion,
        Or.inr (Or.inr rfl)⟩
  | after attempt delay =>
      obtain ⟨seconds, counts⟩ :
          ∃ seconds, seconds = Settings.wholeSeconds (if immediate then 0 else delay) :=
        ⟨_, rfl⟩
      refine ⟨.reconnecting attempt seconds, .backoff attempt seconds,
        { controller.timers with
          countdown := if 0 < seconds then some (now + 1000) else none
          reconnect := some (now + if immediate then 0 else delay) },
        controller.backlog, [], ?_, State.noConfusion, Or.inl rfl⟩
      rw [waitForAttempt_of_after now immediate asked rfl counts, List.append_nil]

theorem onClosed_frame
    (setup : Setup) (now code : Nat) (wasOpen : Bool) (controller : Controller Payload) :
    ∃ state phase timers backlog noted,
      onClosed setup now code wasOpen controller =
          { controller with
            state
            phase
            timers
            backlog
            status := if wasOpen then .down else controller.status
            outbox := controller.outbox ++ downNotice wasOpen ++ noted ++
              stateNotice controller.state state } ∧
        state ≠ .connected ∧ controller.IsAside noted := by
  cases ended : Aftermath.ofCode code with
  | halt why =>
      exact ⟨_, _, _, _, _, onClosed_of_halt setup now wasOpen controller ended, State.noConfusion,
        Or.inr (Or.inr rfl)⟩
  | retry immediate =>
      rw [onClosed_of_retry setup now wasOpen controller ended]
      exact waitForAttempt_frame setup now immediate _

/-! ## Connecting -/

/-- Waiting for a token either goes on undisturbed, or begins without a connection. -/
theorem waitForToken_cases (setup : Setup) (now : Nat) (controller : Controller Payload) :
    (controller.phase = .waitingForToken ∧ waitForToken setup now controller = controller) ∨
      (controller.phase ≠ .waitingForToken ∧
        waitForToken setup now controller =
          { controller with
            link := none
            phase := .waitingForToken
            timers := { controller.timers.forgetRetry with
              tokenLook := some (now + setup.settings.tokenLook) }
            state := .disconnected
            status := if controller.isOpen then .down else controller.status
            outbox := controller.outbox ++
              farewells Wire.CloseCode.normal "no token" controller.link ++
              stateNotice controller.state .disconnected ++ downNotice controller.isOpen }) := by
  by_cases waiting : controller.phase = .waitingForToken
  · exact Or.inl ⟨waiting, if_pos waiting⟩
  · refine Or.inr ⟨waiting, ?_⟩
    rw [waitForToken, if_neg waiting]
    simp only [retire, retireWith_eq, publishState_eq, notifyDown_eq]

theorem dial_eq (setup : Setup) (token : String) (controller : Controller Payload) :
    dial setup token controller =
      { controller with
        link := some ⟨controller.serial + 1, token, false⟩
        serial := controller.serial + 1
        phase := .connecting controller.phase.attempts
        outbox := controller.outbox ++
          farewells Wire.CloseCode.normal "replaced" controller.link ++
          [.dial (controller.serial + 1) token
            (Settings.authorizedUrl setup.base token controller.session)] } := by
  simp only [dial, retire, retireWith_eq, emit]

section Connect

variable {controller : Controller Payload} {link : Link} {token : String}

theorem connect_of_vacant
    (setup : Setup) (now : Nat) (token : String) (vacant : controller.link = none) :
    connect setup now (some token) controller =
      dial setup token { controller with timers := controller.timers.forgetLook } := by
  simp [connect, vacant]

theorem connect_of_same
    (setup : Setup) (now : Nat) (held : controller.link = some link) (same : link.token = token) :
    connect setup now (some token) controller =
      { controller with timers := controller.timers.forgetLook } := by
  simp [connect, held, same]

theorem connect_of_dialling
    (setup : Setup) (now : Nat) (held : controller.link = some link) (changed : link.token ≠ token)
    (dialling : link.isOpen = false) :
    connect setup now (some token) controller =
      dial setup token { controller with timers := controller.timers.forgetLook } := by
  simp [connect, held, changed, dialling]

theorem connect_of_changed
    (setup : Setup) (now : Nat) (held : controller.link = some link) (changed : link.token ≠ token)
    (linkOpen : link.isOpen = true) :
    connect setup now (some token) controller =
      onClosed setup now Wire.CloseCode.tokenChanged true
        (retireWith Wire.CloseCode.tokenChanged "token changed"
          { controller with timers := controller.timers.forgetLook }) := by
  simp [connect, held, changed, linkOpen]

end Connect

/-- What connecting comes to: to wait for a token, to dial in place of anything but an open
connection, to keep a connection that has the token, or to cycle an open one that has another. -/
theorem connect_cases
    (setup : Setup) (now : Nat) (answer : Option String) (controller : Controller Payload) :
    (answer = none ∧ connect setup now answer controller = waitForToken setup now controller) ∨
      ∃ token, answer = some token ∧
        ((controller.isOpen = false ∧ (∀ link, controller.link = some link → link.token ≠ token) ∧
            connect setup now answer controller =
              dial setup token { controller with timers := controller.timers.forgetLook }) ∨
          (∃ link, controller.link = some link ∧ link.token = token ∧
            connect setup now answer controller =
              { controller with timers := controller.timers.forgetLook }) ∨
          (∃ link, controller.link = some link ∧ link.isOpen = true ∧ link.token ≠ token ∧
            connect setup now answer controller =
              onClosed setup now Wire.CloseCode.tokenChanged true
                (retireWith Wire.CloseCode.tokenChanged "token changed"
                  { controller with timers := controller.timers.forgetLook }))) := by
  cases answer with
  | none =>
      exact Or.inl ⟨rfl, rfl⟩
  | some token =>
      refine Or.inr ⟨token, rfl, ?_⟩
      rcases Option.eq_none_or_eq_some controller.link with vacant | ⟨link, held⟩
      · exact Or.inl ⟨by simp [isOpen, vacant], by simp [vacant],
          connect_of_vacant setup now token vacant⟩
      · by_cases same : link.token = token
        · exact Or.inr (Or.inl ⟨link, held, same, connect_of_same setup now held same⟩)
        · cases linkOpen : link.isOpen with
          | false =>
              exact Or.inl ⟨by simp [isOpen, held, linkOpen], by simp [held, same],
                connect_of_dialling setup now held same linkOpen⟩
          | true =>
              exact Or.inr (Or.inr
                ⟨link, held, linkOpen, same, connect_of_changed setup now held same linkOpen⟩)

/-- The controller as it starts over: without a connection, a timer or a refusal to tell of. -/
def restarted (controller : Controller Payload) : Controller Payload :=
  { controller with
    link := none
    phase := .idle
    timers := .none
    untoldRefusal := none
    status := if controller.isOpen then .down else controller.status
    outbox := controller.outbox ++
      farewells Wire.CloseCode.normal "manual reconnect" controller.link ++
      downNotice controller.isOpen }

theorem startOver_eq (setup : Setup) (around : Surroundings) (controller : Controller Payload) :
    startOver setup around controller =
      connect setup around.now (around.answers 0) controller.restarted := by
  simp only [startOver, retire, retireWith_eq, notifyDown_eq, restarted]

theorem windDown_eq (controller : Controller Payload) :
    windDown controller =
      { controller with
        link := none
        timers := .none
        untoldRefusal := none
        status := if controller.isOpen then .down else controller.status
        state := if controller.isOpen then .disconnected else controller.state
        outbox := controller.outbox ++
          farewells Wire.CloseCode.normal "shutdown" controller.link ++
          downNotice controller.isOpen ++
          if controller.isOpen then stateNotice controller.state .disconnected else [] } := by
  simp only [windDown, retire, retireWith_eq, publishStatus, publishState_eq, emit]
  cases wasOpen : controller.isOpen <;> simp [downNotice]

/-! ## Timers -/

/-- A countdown goes on in a backoff, and is stopped by its next beat anywhere else. -/
theorem onCountdown_cases (controller : Controller Payload) :
    (∃ attempt seconds, controller.phase = .backoff attempt seconds ∧
        onCountdown controller =
          publishState (.reconnecting attempt (seconds - 1))
            { controller with
              phase := .backoff attempt (seconds - 1)
              timers := { controller.timers with
                countdown := controller.timers.countdown.map (· + 1000) } }) ∨
      ((∀ attempt seconds, controller.phase ≠ .backoff attempt seconds) ∧
        onCountdown controller =
          { controller with timers := { controller.timers with countdown := none } }) := by
  cases phase : controller.phase with
  | backoff attempt seconds =>
      refine Or.inl ⟨attempt, seconds, rfl, ?_⟩
      simp [onCountdown, phase, Phase.tick, Phase.remaining?]
  | _ =>
      refine Or.inr ⟨fun _ _ => Phase.noConfusion, ?_⟩
      simp [onCountdown, phase, Phase.tick, Phase.remaining?]

theorem onRefusalNotice_eq (controller : Controller Payload) :
    onRefusalNotice controller =
      { controller with
        timers := { controller.timers with refusalNotice := none }
        untoldRefusal := none
        outbox := controller.outbox ++ (controller.untoldRefusal.map .refusal).toList } := by
  cases untold : controller.untoldRefusal with
  | none =>
      simp [onRefusalNotice, untold]
  | some message =>
      simp [onRefusalNotice, untold, emit]

/-! ## Moving payloads

To move payloads touches nothing but the backlog and the outbox. -/

theorem enqueue_eq (payload : Payload) (controller : Controller Payload) :
    enqueue payload controller =
      { controller with
        backlog := (controller.backlog.push payload).1
        outbox := controller.outbox ++
          ((controller.backlog.push payload).2.map .evicted).toList } := by
  unfold enqueue
  rcases controller.backlog.push payload with ⟨backlog, _ | oldest⟩
  · simp
  · rfl

theorem enqueue_frame (payload : Payload) (controller : Controller Payload) :
    ∃ backlog moved,
      enqueue payload controller =
          { controller with backlog, outbox := controller.outbox ++ moved } ∧
        ∀ effect ∈ moved, effect.movesPayload = true := by
  refine ⟨_, _, enqueue_eq payload controller, ?_⟩
  cases (controller.backlog.push payload).2 <;> simp [Effect.movesPayload]

theorem enqueueAll_frame (payloads : List Payload) (controller : Controller Payload) :
    ∃ backlog moved,
      payloads.foldl (fun controller payload => enqueue payload controller) controller =
          { controller with backlog, outbox := controller.outbox ++ moved } ∧
        ∀ effect ∈ moved, effect.movesPayload = true := by
  induction payloads generalizing controller with
  | nil =>
      exact ⟨controller.backlog, [], by simp, by simp⟩
  | cons payload rest inductionHypothesis =>
      obtain ⟨backlog, moved, first, firstMoves⟩ := enqueue_frame payload controller
      obtain ⟨last, movedLater, later, laterMoves⟩ :=
        inductionHypothesis (enqueue payload controller)
      refine ⟨last, moved ++ movedLater, ?_, List.forall_mem_append.mpr ⟨firstMoves, laterMoves⟩⟩
      rw [List.foldl_cons, later, first]
      simp only [List.append_assoc]

theorem handOver_frame
    (accepts : Nat → Bool) (serial place : Nat) (payloads : List Payload)
    (controller : Controller Payload) :
    ∃ backlog moved,
      handOver accepts serial place payloads controller =
          { controller with backlog, outbox := controller.outbox ++ moved } ∧
        ∀ effect ∈ moved, effect.movesPayload = true := by
  induction payloads generalizing place controller with
  | nil =>
      exact ⟨controller.backlog, [], by simp [handOver], by simp⟩
  | cons payload rest inductionHypothesis =>
      unfold handOver
      by_cases accepted : accepts place = true
      · obtain ⟨backlog, moved, later, laterMoves⟩ :=
          inductionHypothesis (place + 1) (emit (.handOver serial payload) controller)
        refine ⟨backlog, .handOver serial payload :: moved, ?_,
          List.forall_mem_cons.mpr ⟨rfl, laterMoves⟩⟩
        rw [if_pos accepted, later]
        simp [emit]
      · rw [if_neg accepted]
        exact enqueueAll_frame (payload :: rest) controller

/-- A payload goes to the open connection, or into the backlog where there is none. -/
theorem send_cases (accepts : Nat → Bool) (payload : Payload) (controller : Controller Payload) :
    (∃ link, controller.link = some link ∧ link.isOpen = true ∧
        send accepts payload controller = handOver accepts link.serial 0 [payload] controller) ∨
      (controller.isOpen = false ∧
        send accepts payload controller = enqueue payload controller) := by
  cases held : controller.link with
  | none =>
      exact Or.inr ⟨by simp [isOpen, held], by simp [send, held]⟩
  | some link =>
      cases linkOpen : link.isOpen with
      | false =>
          exact Or.inr
            ⟨by simp [isOpen, held, linkOpen], by simp [send, held, Option.filter, linkOpen]⟩
      | true =>
          exact Or.inl ⟨link, rfl, linkOpen, by simp [send, held, Option.filter, linkOpen]⟩

theorem send_frame (accepts : Nat → Bool) (payload : Payload) (controller : Controller Payload) :
    ∃ backlog moved,
      send accepts payload controller =
          { controller with backlog, outbox := controller.outbox ++ moved } ∧
        ∀ effect ∈ moved, effect.movesPayload = true := by
  rcases send_cases accepts payload controller with ⟨link, _, _, sends⟩ | ⟨_, waits⟩
  · rw [sends]
    exact handOver_frame accepts link.serial 0 [payload] controller
  · rw [waits]
    exact enqueue_frame payload controller

theorem flush_frame (accepts : Nat → Bool) (controller : Controller Payload) :
    ∃ backlog moved,
      flush accepts controller =
          { controller with backlog, outbox := controller.outbox ++ moved } ∧
        ∀ effect ∈ moved, effect.movesPayload = true := by
  unfold flush
  split
  next link held =>
    exact handOver_frame accepts link.serial 0 controller.backlog.drain.2
      { controller with backlog := controller.backlog.drain.1 }
  next =>
    exact ⟨controller.backlog, [], by simp, by simp⟩

/-! ## Reports -/

/-- The opening of a connection is shown before what waits is sent. -/
theorem onOpened_eq (accepts : Nat → Bool) (controller : Controller Payload) :
    onOpened accepts controller =
      flush accepts
        { controller with
          link := controller.link.map ({ · with isOpen := true })
          hasOpened := true
          phase := .opened
          timers := controller.timers.forgetRetry
          state := .connected
          status := ⟨true, controller.hasOpened⟩
          outbox := controller.outbox ++ stateNotice controller.state .connected ++
            [.status ⟨true, controller.hasOpened⟩] } := by
  simp only [onOpened, publishStatus, publishState_eq, emit]

theorem onOpened_frame (accepts : Nat → Bool) (controller : Controller Payload) :
    ∃ backlog moved,
      onOpened accepts controller =
          { controller with
            link := controller.link.map ({ · with isOpen := true })
            hasOpened := true
            phase := .opened
            timers := controller.timers.forgetRetry
            state := .connected
            status := ⟨true, controller.hasOpened⟩
            backlog
            outbox := controller.outbox ++ stateNotice controller.state .connected ++
              [.status ⟨true, controller.hasOpened⟩] ++ moved } ∧
        ∀ effect ∈ moved, effect.movesPayload = true := by
  rw [onOpened_eq]
  exact flush_frame accepts _

/-- A text either belongs to the conversation, or is a refusal. -/
theorem onText_cases
    (setup : Setup) (around : Surroundings) (content : String) (controller : Controller Payload) :
    (∃ message, Wire.Arrival.ofText content = .refusal message ∧
        onText setup around content controller =
          onRefusal setup around.now message controller) ∨
      ∃ session spoken,
        onText setup around content controller =
            { controller with session, outbox := controller.outbox ++ spoken } ∧
          ∀ effect ∈ spoken, effect.converses = true := by
  unfold onText
  split
  · exact Or.inr ⟨controller.session, [], by simp, by simp⟩
  · split
    next link _ =>
      split
      · exact Or.inr ⟨controller.session, [.answerHeartbeat link.serial], rfl,
          by simp [Effect.converses]⟩
      · exact Or.inr ⟨controller.session, [], by simp, by simp⟩
    · exact Or.inr ⟨controller.session, [], by simp, by simp⟩
  next message refuses =>
    exact Or.inl ⟨message, refuses, rfl⟩
  next packet _ =>
    cases packet.announced? with
    | none =>
        exact Or.inr ⟨controller.session, [.message packet], rfl, by simp [Effect.converses]⟩
    | some session =>
        refine Or.inr ⟨some session, [.session session, .message packet], ?_,
          by simp [Effect.converses]⟩
        simp [adoptSession, emit]

end Controller

end Parley.Connection
