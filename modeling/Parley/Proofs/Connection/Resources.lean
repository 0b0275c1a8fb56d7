import Parley.Proofs.Connection.Moves
import Parley.Proofs.Connection.Run

/-!
# Resources of a controller

The connection and the timers that a controller holds are set by hand in many handlers, and so is
its phase. The main statement is that the phase always tells which of them are held, and that no
handler asks for a further attempt once everything has halted.
-/

namespace Parley.Connection

variable {Payload : Type}

namespace Controller

/-! ## The table of resources -/

/-- The resources of each phase. While a dial is under way the timers of the last backoff may still
run, for a connection asked for in the middle of a backoff does not stop them. -/
def Provisioned (controller : Controller Payload) : Prop :=
  match controller.phase with
  | .idle =>
      controller.link = none ∧ controller.timers.tokenLook = none ∧
        controller.timers.reconnect = none ∧ controller.timers.countdown = none
  | .waitingForToken =>
      controller.link = none ∧ controller.timers.tokenLook.isSome = true ∧
        controller.timers.reconnect = none ∧ controller.timers.countdown = none
  | .connecting _ =>
      (∃ link, controller.link = some link ∧ link.isOpen = false) ∧
        controller.timers.tokenLook = none
  | .opened =>
      (∃ link, controller.link = some link ∧ link.isOpen = true) ∧
        controller.timers.tokenLook = none ∧
        controller.timers.reconnect = none ∧ controller.timers.countdown = none
  | .backoff _ seconds =>
      controller.link = none ∧ controller.timers.tokenLook = none ∧
        controller.timers.reconnect.isSome = true ∧
        (0 < seconds → controller.timers.countdown.isSome = true)
  | .halted _ =>
      controller.link = none ∧ controller.timers.tokenLook = none ∧
        controller.timers.reconnect = none ∧ controller.timers.countdown = none

/-- The resources are those of the phase, and nothing done in this turn was suppressed. -/
structure Sound (controller : Controller Payload) : Prop where
  provisioned : controller.Provisioned
  unsuppressed : Effect.suppressed ∉ controller.outbox

/-- The connection, the phase and three of the timers decide what is provisioned. -/
theorem Provisioned.congr
    {first second : Controller Payload} (provisioned : first.Provisioned)
    (sameLink : second.link = first.link) (samePhase : second.phase = first.phase)
    (sameLook : second.timers.tokenLook = first.timers.tokenLook)
    (sameReconnect : second.timers.reconnect = first.timers.reconnect)
    (sameCountdown : second.timers.countdown = first.timers.countdown) :
    second.Provisioned := by
  unfold Provisioned
  rw [sameLink, samePhase, sameLook, sameReconnect, sameCountdown]
  exact provisioned

/-! ## Nothing suppressed -/

@[simp]
theorem suppressed_notMem_farewells (code : Nat) (reason : String) (link : Option Link) :
    (Effect.suppressed : Effect Payload) ∉ farewells code reason link := by
  cases link with
  | none =>
      simp [farewells]
  | some link =>
      rcases link.farewell_cases Payload code reason with ⟨_, is⟩ | ⟨_, is⟩
      · simp [farewells, is]
      · simp [farewells, is]

@[simp]
theorem suppressed_notMem_stateNotice (shown state : State) :
    (Effect.suppressed : Effect Payload) ∉ stateNotice shown state := by
  simp [stateNotice]

@[simp]
theorem suppressed_notMem_downNotice (wasOpen : Bool) :
    (Effect.suppressed : Effect Payload) ∉ downNotice wasOpen := by
  simp [downNotice]

@[simp]
theorem suppressed_notMem_discardNotice (backlog : Backlog Payload) :
    Effect.suppressed ∉ discardNotice backlog := by
  simp [discardNotice]

/-! ## Halting and waiting -/

theorem sound_halt
    (why : Halt) (reason : String) {controller : Controller Payload}
    (unsuppressed : Effect.suppressed ∉ controller.outbox) :
    (halt why reason controller).Sound := by
  rw [halt_eq]
  exact ⟨⟨rfl, rfl, rfl, rfl⟩, by simp [unsuppressed]⟩

/-- Without a connection, a look for a token or a halt, waiting for an attempt is sound: the
suppressed branch is for halts only. -/
theorem sound_waitForAttempt
    (setup : Setup) (now : Nat) (immediate : Bool) {controller : Controller Payload}
    (noLink : controller.link = none) (noLook : controller.timers.tokenLook = none)
    (running : controller.phase.hasHalted = false)
    (unsuppressed : Effect.suppressed ∉ controller.outbox) :
    (waitForAttempt setup now immediate controller).Sound := by
  cases asked : controller.phase.nextAttempt setup.settings.backoff with
  | suppressed =>
      -- Only a halt suppresses, and nothing has halted.
      rw [Phase.nextAttempt_eq_suppressed_iff, running] at asked
      cases asked
  | exhausted =>
      rw [waitForAttempt_of_exhausted now immediate asked]
      exact ⟨⟨noLink, noLook, rfl, rfl⟩, by simp [unsuppressed]⟩
  | after attempt delay =>
      rw [waitForAttempt_of_after now immediate asked rfl rfl]
      exact ⟨⟨noLink, noLook, rfl, fun left => by rw [if_pos left, Option.isSome_some]⟩,
        by simp [unsuppressed]⟩

theorem sound_onClosed
    (setup : Setup) (now code : Nat) (wasOpen : Bool) {controller : Controller Payload}
    (noLink : controller.link = none) (noLook : controller.timers.tokenLook = none)
    (running : controller.phase.hasHalted = false)
    (unsuppressed : Effect.suppressed ∉ controller.outbox) :
    (onClosed setup now code wasOpen controller).Sound := by
  cases ended : Aftermath.ofCode code with
  | halt why =>
      rw [onClosed_of_halt setup now wasOpen controller ended]
      exact ⟨⟨noLink, noLook, rfl, rfl⟩, by simp [unsuppressed]⟩
  | retry immediate =>
      rw [onClosed_of_retry setup now wasOpen controller ended]
      exact sound_waitForAttempt setup now immediate noLink noLook running (by simp [unsuppressed])

/-! ## Connecting -/

theorem sound_waitForToken
    (setup : Setup) (now : Nat) {controller : Controller Payload}
    (waiting : controller.phase = .waitingForToken → controller.Provisioned)
    (unsuppressed : Effect.suppressed ∉ controller.outbox) :
    (waitForToken setup now controller).Sound := by
  rcases waitForToken_cases setup now controller with ⟨already, stays⟩ | ⟨_, begins⟩
  · rw [stays]
    exact ⟨waiting already, unsuppressed⟩
  · rw [begins]
    exact ⟨⟨rfl, rfl, rfl, rfl⟩, by simp [unsuppressed]⟩

theorem sound_dial
    (setup : Setup) (token : String) {controller : Controller Payload}
    (noLook : controller.timers.tokenLook = none)
    (unsuppressed : Effect.suppressed ∉ controller.outbox) :
    (dial setup token controller).Sound := by
  rw [dial_eq]
  exact ⟨⟨⟨_, rfl, rfl⟩, noLook⟩, by simp [unsuppressed]⟩

/-- A provisioned controller that holds a connection looks for no token and has not halted. -/
theorem Provisioned.of_link
    {controller : Controller Payload} (provisioned : controller.Provisioned) {link : Link}
    (held : controller.link = some link) :
    controller.timers.tokenLook = none ∧ controller.phase.hasHalted = false := by
  unfold Provisioned at provisioned
  cases phase : controller.phase <;> simp_all [Phase.hasHalted]

/-- Connecting needs the resources of the phase only where it relies on them: when a connection is
held, or a token waited for. A due attempt and a token that was found come without both. -/
theorem sound_connect
    (setup : Setup) (now : Nat) (answer : Option String) {controller : Controller Payload}
    (waiting : controller.phase = .waitingForToken → controller.Provisioned)
    (holding : ∀ link, controller.link = some link → controller.Provisioned)
    (unsuppressed : Effect.suppressed ∉ controller.outbox) :
    (connect setup now answer controller).Sound := by
  rcases connect_cases setup now answer controller with
    ⟨_, waits⟩ | ⟨token, _, ⟨_, _, dials⟩ | ⟨link, held, _, keeps⟩ | ⟨link, held, _, _, cycles⟩⟩
  · rw [waits]
    exact sound_waitForToken setup now waiting unsuppressed
  · rw [dials]
    exact sound_dial setup token rfl unsuppressed
  · rw [keeps]
    have provisioned : controller.Provisioned := holding link held
    have noLook : controller.timers.tokenLook = none := (provisioned.of_link held).1
    exact ⟨provisioned.congr rfl rfl noLook.symm rfl rfl, unsuppressed⟩
  · rw [cycles, retireWith_eq]
    have running : controller.phase.hasHalted = false := ((holding link held).of_link held).2
    exact sound_onClosed setup now _ true rfl rfl running (by simp [unsuppressed])

/-! ## Handlers -/

theorem sound_send
    (accepts : Nat → Bool) (payload : Payload) {controller : Controller Payload}
    (sound : controller.Sound) :
    (send accepts payload controller).Sound := by
  obtain ⟨backlog, moved, sends, moves⟩ := send_frame accepts payload controller
  have unmoved : Effect.suppressed ∉ moved :=
    fun member => absurd (moves _ member) (by simp [Effect.movesPayload])
  rw [sends]
  exact ⟨sound.provisioned.congr rfl rfl rfl rfl rfl, by simp [sound.unsuppressed, unmoved]⟩

theorem sound_onOpened
    (accepts : Nat → Bool) {controller : Controller Payload} {link : Link}
    (held : controller.link = some link) (sound : controller.Sound) :
    (onOpened accepts controller).Sound := by
  obtain ⟨noLook, _⟩ := sound.provisioned.of_link held
  obtain ⟨backlog, moved, opens, moves⟩ := onOpened_frame accepts controller
  have unmoved : Effect.suppressed ∉ moved :=
    fun member => absurd (moves _ member) (by simp [Effect.movesPayload])
  rw [opens, held]
  exact ⟨⟨⟨{ link with isOpen := true }, rfl, rfl⟩, noLook, rfl, rfl⟩,
    by simp [sound.unsuppressed, unmoved]⟩

theorem sound_onText
    (setup : Setup) (around : Surroundings) (content : String) {controller : Controller Payload}
    (sound : controller.Sound) :
    (onText setup around content controller).Sound := by
  rcases onText_cases setup around content controller with
    ⟨message, _, refuses⟩ | ⟨session, spoken, speaks, converses⟩
  · have halted := sound_halt .refused "auth failure" sound.unsuppressed
    rw [refuses]
    exact ⟨halted.provisioned.congr rfl rfl rfl rfl rfl, halted.unsuppressed⟩
  · have unspoken : Effect.suppressed ∉ spoken :=
      fun member => absurd (converses _ member) (by simp [Effect.converses])
    rw [speaks]
    exact ⟨sound.provisioned.congr rfl rfl rfl rfl rfl, by simp [sound.unsuppressed, unspoken]⟩

theorem sound_onReport
    (setup : Setup) (around : Surroundings) (serial : Nat) (report : Report)
    {controller : Controller Payload} (sound : controller.Sound) :
    (onReport setup around serial report controller).Sound := by
  unfold onReport
  split
  next =>
    exact sound
  next link held =>
    split
    · exact sound
    · cases report with
      | opened =>
          exact sound_onOpened around.accepts held sound
      | text content =>
          exact sound_onText setup around content sound
      | failed cause =>
          rw [publishState_eq]
          exact ⟨sound.provisioned.congr rfl rfl rfl rfl rfl, by simp [sound.unsuppressed]⟩
      | closed code reason =>
          obtain ⟨noLook, running⟩ := sound.provisioned.of_link held
          exact sound_onClosed setup around.now code link.isOpen rfl noLook running
            sound.unsuppressed

theorem sound_onCommand
    (setup : Setup) (around : Surroundings) (order : Order Payload)
    {controller : Controller Payload} (sound : controller.Sound) :
    (onCommand setup around order controller).Sound := by
  cases order with
  | connect session =>
      cases session with
      | none =>
          exact sound_connect setup around.now (around.answers 0)
            (fun _ => sound.provisioned) (fun _ _ => sound.provisioned) sound.unsuppressed
      | some session =>
          have adopted : (adoptSession session controller).Sound :=
            ⟨sound.provisioned.congr rfl rfl rfl rfl rfl,
              by simp [adoptSession, emit, sound.unsuppressed]⟩
          exact sound_connect setup around.now (around.answers 0)
            (fun _ => adopted.provisioned) (fun _ _ => adopted.provisioned) adopted.unsuppressed
  | send payload =>
      exact sound_send around.accepts payload sound
  | disconnect =>
      exact sound_halt .manual "client disconnect" sound.unsuppressed
  | startOver =>
      rw [onCommand, startOver_eq]
      apply sound_connect
      · rintro ⟨⟩
      · rintro link ⟨⟩
      · simp [restarted, sound.unsuppressed]

/-- A due attempt ends a backoff, which holds nothing to rely on, or leaves the phase as it is. -/
theorem Provisioned.launched
    {controller : Controller Payload} (provisioned : controller.Provisioned) :
    (controller.link = none ∧ controller.phase.launch ≠ .waitingForToken) ∨
      Provisioned
        { controller with
          timers := controller.timers.forgetRetry
          phase := controller.phase.launch } := by
  unfold Provisioned at provisioned ⊢
  cases phase : controller.phase <;> simp_all [Phase.launch, Schedule.forgetRetry]

theorem sound_onReconnectDue
    (setup : Setup) (around : Surroundings) {controller : Controller Payload}
    (sound : controller.Sound) :
    (onReconnectDue setup around controller).Sound := by
  rcases sound.provisioned.launched with ⟨noLink, notWaiting⟩ | launched
  · apply sound_connect
    · intro waiting
      exact absurd waiting notWaiting
    · intro link held
      rw [noLink] at held
      cases held
    · exact sound.unsuppressed
  · exact sound_connect setup around.now (around.answers 0) (fun _ => launched)
      (fun _ _ => launched) sound.unsuppressed

theorem sound_onCountdown
    {controller : Controller Payload} (sound : controller.Sound)
    (armed : controller.timers.countdown.isSome = true) :
    (onCountdown controller).Sound := by
  have provisioned := sound.provisioned
  rcases onCountdown_cases controller with
    ⟨attempt, seconds, backingOff, beats⟩ | ⟨notBackingOff, stops⟩
  · rw [beats, publishState_eq]
    refine ⟨?_, by simp [sound.unsuppressed]⟩
    unfold Provisioned at provisioned ⊢
    rw [backingOff] at provisioned
    simpa [armed] using provisioned
  · rw [stops]
    refine ⟨?_, sound.unsuppressed⟩
    unfold Provisioned at provisioned ⊢
    cases phase : controller.phase <;> simp_all

/-- The provider is only asked again while there is no connection. -/
theorem sound_onTokenLook
    (setup : Setup) (around : Surroundings) {controller : Controller Payload}
    (sound : controller.Sound) (armed : controller.timers.tokenLook.isSome = true) :
    (onTokenLook setup around controller).Sound := by
  have provisioned := sound.provisioned
  have waiting : controller.phase = .waitingForToken := by
    unfold Provisioned at provisioned
    cases phase : controller.phase <;> simp_all
  unfold Provisioned at provisioned
  rw [waiting] at provisioned
  obtain ⟨noLink, _, noReconnect, noCountdown⟩ := provisioned
  unfold onTokenLook
  split
  · apply sound_connect
    · simp
    · simp [noLink]
    · exact sound.unsuppressed
  · refine ⟨?_, sound.unsuppressed⟩
    simp [Provisioned, waiting, noLink, noReconnect, noCountdown, armed]

theorem sound_onTimer
    (setup : Setup) (around : Surroundings) (timer : Timer) {controller : Controller Payload}
    (sound : controller.Sound) (armed : (controller.timers.due? timer).isSome = true) :
    (onTimer setup around timer controller).Sound := by
  cases timer with
  | reconnect =>
      exact sound_onReconnectDue setup around sound
  | countdown =>
      exact sound_onCountdown sound armed
  | tokenLook =>
      exact sound_onTokenLook setup around sound armed
  | refusalNotice =>
      rw [onTimer, onRefusalNotice_eq]
      exact ⟨sound.provisioned.congr rfl rfl rfl rfl rfl, by simp [sound.unsuppressed]⟩

/-- Every turn that can happen leaves the resources of the phase, and suppresses nothing. -/
theorem sound_take
    (setup : Setup) (turn : Turn Payload) {controller : Controller Payload}
    (provisioned : controller.Provisioned) (can : controller.canTake turn.stimulus = true) :
    (controller.take setup turn).Sound := by
  have sound : ({ controller with outbox := [] } : Controller Payload).Sound :=
    ⟨provisioned.congr rfl rfl rfl rfl rfl, List.not_mem_nil⟩
  unfold take step
  cases told : turn.stimulus with
  | command order =>
      exact sound_onCommand setup turn.around order sound
  | report serial report =>
      exact sound_onReport setup turn.around serial report sound
  | timer timer =>
      rw [told] at can
      exact sound_onTimer setup turn.around timer sound can

/-! ## Whole runs -/

/-- The phase says which connection is held and which timers are armed. -/
structure Coherent (controller : Controller Payload) : Prop where
  /-- A connection is held and open in the phase of that name alone. -/
  open_iff :
    (∃ link, controller.link = some link ∧ link.isOpen = true) ↔ controller.phase = .opened
  /-- A connection is held and not yet open while a dial is under way, and then alone. -/
  dialling_iff :
    (∃ link, controller.link = some link ∧ link.isOpen = false) ↔
      ∃ attempts, controller.phase = .connecting attempts
  /-- No other phase holds a connection. -/
  no_link :
    controller.phase ≠ .opened → (∀ attempts, controller.phase ≠ .connecting attempts) →
      controller.link = none
  /-- The provider is asked again and again while a token is waited for, and then alone. -/
  tokenLook_iff :
    controller.timers.tokenLook.isSome = true ↔ controller.phase = .waitingForToken
  /-- A backoff always ends, and is counted down to its last second. -/
  backoff :
    ∀ attempt seconds, controller.phase = .backoff attempt seconds →
      controller.timers.reconnect.isSome = true ∧
        (0 < seconds → controller.timers.countdown.isSome = true)
  /-- The timers of a backoff run in no other phase, save in a dial that cut the backoff short. -/
  retry :
    controller.timers.reconnect.isSome = true ∨ controller.timers.countdown.isSome = true →
      (∃ attempt seconds, controller.phase = .backoff attempt seconds) ∨
        ∃ attempts, controller.phase = .connecting attempts
  /-- After a halt nothing is left that could dial. -/
  halted :
    ∀ why, controller.phase = .halted why →
      controller.timers.tokenLook = none ∧ controller.timers.countdown = none ∧
        controller.timers.reconnect = none

theorem Provisioned.coherent
    {controller : Controller Payload} (provisioned : controller.Provisioned) :
    controller.Coherent := by
  unfold Provisioned at provisioned
  cases phase : controller.phase with
  | connecting attempts =>
      rw [phase] at provisioned
      obtain ⟨⟨link, held, dialling⟩, noLook⟩ := provisioned
      constructor <;> simp [phase, held, dialling, noLook]
  | opened =>
      rw [phase] at provisioned
      obtain ⟨⟨link, held, opened⟩, noLook, noReconnect, noCountdown⟩ := provisioned
      constructor <;> simp [phase, held, opened, noLook, noReconnect, noCountdown]
  | _ =>
      constructor <;> simp_all

theorem initial_provisioned (setup : Setup) :
    (initial setup : Controller Payload).Provisioned :=
  ⟨rfl, rfl, rfl, rfl⟩

/-- The resources are those of the phase after every timely run. -/
theorem provisioned_after
    {setup : Setup} {turns : List (Turn Payload)} {controller : Controller Payload}
    (provisioned : controller.Provisioned) (timely : isTimely setup turns controller = true) :
    (after setup turns controller).Provisioned := by
  induction turns generalizing controller with
  | nil =>
      exact provisioned
  | cons turn rest inductionHypothesis =>
      obtain ⟨can, restTimely⟩ := Bool.and_eq_true_iff.mp timely
      exact inductionHypothesis (sound_take setup turn provisioned can).provisioned restTimely

/-- After every timely run the phase says which connection is held and which timers are armed, and
no handler ever asks for an attempt that a halt suppresses. The connections may report anything in
any order, and the provider may answer anything. -/
theorem resources_follow_phase
    (setup : Setup) (turns : List (Turn Payload))
    (timely : isTimely setup turns (.initial setup) = true) :
    (after setup turns (.initial setup)).Coherent ∧
      Effect.suppressed ∉ effects setup turns (.initial setup) := by
  obtain ⟨provisioned, allowed⟩ :=
    timely_run_keeps Provisioned (· ≠ .suppressed)
      (fun turn controller kept can =>
        have sound : (controller.take setup turn).Sound := sound_take setup turn kept can
        ⟨sound.provisioned, fun _ member same => sound.unsuppressed (same ▸ member)⟩)
      turns (initial_provisioned setup) timely
  exact ⟨provisioned.coherent, fun member => allowed _ member rfl⟩

/-- A connection ends, the user asks for another one in the middle of the backoff, and the timers of
the backoff fire while that one is dialled. -/
def cutBackoff : List (Turn String) :=
  [⟨.steady (some "key"), .command (.connect none)⟩,
    ⟨.steady (some "key"), .report 1 .opened⟩,
    ⟨.steady (some "key"), .report 1 (.closed 1006 "stream ended")⟩,
    ⟨.steady (some "key"), .command (.connect none)⟩,
    ⟨.steady (some "key"), .timer .countdown⟩]

theorem resources_follow_phase_of_cutBackoff :
    isTimely .standard cutBackoff (.initial .standard) = true ∧
      (after .standard cutBackoff (.initial .standard)).Coherent ∧
      Effect.suppressed ∉ effects .standard cutBackoff (.initial .standard) :=
  ⟨by decide, resources_follow_phase .standard cutBackoff (by decide)⟩

/-- In that dial the timer for the attempt is still armed. -/
example :
    (after .standard cutBackoff (.initial .standard)).phase = .connecting 1 ∧
      (after .standard cutBackoff (.initial .standard)).timers.reconnect = some 1000 := by
  decide

end Controller

end Parley.Connection
