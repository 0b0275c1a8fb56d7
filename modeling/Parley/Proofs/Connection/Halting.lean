import Parley.Proofs.Connection.Course

/-!
# Halts

A controller halts when the user disconnects, when the server ends the connection for good or
refuses the token, and when too many attempts have failed. The main statement is that nothing but
the user brings it back: whatever else it is told, it dials nothing and waits for nothing, and what
is sent meanwhile is only kept.
-/

namespace Parley.Connection

variable {Payload : Type}

/-! ## Ways into a halt -/

inductive Turn.Enters (setup : Setup) (turn : Turn Payload) (before : Controller Payload) :
    Halt → Prop where
  | manual (told : turn.stimulus = .command .disconnect) : Enters setup turn before .manual
  | closed (reason : String)
      (heard : turn.heard? before = some (.closed Wire.CloseCode.normal reason)) :
      Enters setup turn before .closed
  | rejected (reason : String)
      (heard : turn.heard? before = some (.closed Wire.CloseCode.rejected reason)) :
      Enters setup turn before .rejected
  | refused (content message : String)
      (heard : turn.heard? before = some (.text content))
      (refuses : Wire.Arrival.ofText content = .refusal message) :
      Enters setup turn before .refused
  | exhausted (immediate : Bool) (cause : turn.Loses before immediate)
      (spent : setup.settings.backoff.attemptLimit ≤ before.phase.attempts) :
      Enters setup turn before .exhausted

theorem Aftermath.ofCode_eq_halt_iff {code : Nat} {why : Halt} :
    ofCode code = .halt why ↔
      (code = Wire.CloseCode.normal ∧ why = .closed) ∨
        (code = Wire.CloseCode.rejected ∧ why = .rejected) := by
  constructor
  · intro ends
    unfold ofCode Wire.CloseCode.isTerminal at ends
    by_cases rejected : code = Wire.CloseCode.rejected
    · subst rejected
      exact Or.inr ⟨rfl, (Aftermath.halt.inj ends).symm⟩
    · by_cases normal : code = Wire.CloseCode.normal
      · subst normal
        exact Or.inl ⟨rfl, (Aftermath.halt.inj ends).symm⟩
      · simp [normal, rejected] at ends
  · rintro (⟨rfl, rfl⟩ | ⟨rfl, rfl⟩)
    · rfl
    · rfl

theorem Turn.Stops.enters
    {setup : Setup} {turn : Turn Payload} {before : Controller Payload} {why : Halt}
    (stops : turn.Stops before why) : turn.Enters setup before why := by
  cases stops with
  | manual told =>
      exact .manual told
  | refused content message heard refuses =>
      exact .refused content message heard refuses
  | closed code reason why heard ends =>
      rcases Aftermath.ofCode_eq_halt_iff.mp ends with ⟨rfl, rfl⟩ | ⟨rfl, rfl⟩
      · exact .closed reason heard
      · exact .rejected reason heard

namespace Controller

section Entering

variable {setup : Setup} {turn : Turn Payload} {before : Controller Payload} {why : Halt}

/-- The connection that ends for good leaves the controller halted, with nothing that waits. -/
theorem halted_of_closed
    {code : Nat} {reason : String} (heard : turn.heard? before = some (.closed code reason))
    (ends : Aftermath.ofCode code = .halt why) :
    (before.take setup turn).phase = .halted why ∧
      (before.take setup turn).backlog.items = [] := by
  obtain ⟨link, _, closes⟩ := take_of_closed setup heard
  rw [closes, onClosed_of_halt setup _ _ _ ends]
  exact ⟨rfl, rfl⟩

theorem halted_of_loses
    {immediate : Bool} (provisioned : before.Provisioned) (cause : turn.Loses before immediate)
    (spent : setup.settings.backoff.attemptLimit ≤ before.phase.attempts) :
    (before.take setup turn).phase = .halted .exhausted ∧
      (before.take setup turn).backlog.items = [] := by
  obtain ⟨lost, phase, _, loses⟩ := take_of_loses setup cause
  have asked : lost.phase.nextAttempt setup.settings.backoff = .exhausted := by
    rw [phase]
    exact Phase.nextAttempt_of_spent (running_of_loses cause provisioned) spent
  rw [loses, waitForAttempt_of_exhausted turn.around.now immediate asked]
  exact ⟨rfl, rfl⟩

/-- Whatever brings a controller to a halt leaves nothing that waits. -/
theorem halted_of_enters
    (provisioned : before.Provisioned) (enters : turn.Enters setup before why) :
    (before.take setup turn).phase = .halted why ∧
      (before.take setup turn).backlog.items = [] := by
  cases enters with
  | manual told =>
      rw [take_of_disconnect setup told, halt_eq]
      exact ⟨rfl, rfl⟩
  | closed reason heard =>
      exact halted_of_closed heard rfl
  | rejected reason heard =>
      exact halted_of_closed heard rfl
  | refused content message heard refuses =>
      rw [take_of_refused setup heard refuses, onRefusal, halt_eq]
      exact ⟨rfl, rfl⟩
  | exhausted immediate cause spent =>
      exact halted_of_loses provisioned cause spent

/-- A controller that had not halted for a reason comes to do so in these ways only. -/
theorem enters_of_phase
    (course : Course setup turn before (before.take setup turn))
    (other : before.phase ≠ .halted why)
    (halted : (before.take setup turn).phase = .halted why) :
    turn.Enters setup before why := by
  have stays (same : (before.take setup turn).phase = before.phase) :
      turn.Enters setup before why :=
    absurd (same.symm.trans halted) other
  cases course with
  | stops entered cause is emptied =>
      have phase : (before.take setup turn).phase = .halted entered := congrArg Stance.phase is
      rw [phase] at halted
      cases halted
      exact cause.enters
  | exhausts immediate cause spent is emptied =>
      have phase : (before.take setup turn).phase = .halted .exhausted :=
        congrArg Stance.phase is
      rw [phase] at halted
      cases halted
      exact .exhausted immediate cause spent
  | keeps noSign notDue is =>
      exact stays (congrArg Stance.phase is)
  | fades attempts reconnect countdown noSign dialling less told is =>
      exact stays (congrArg Stance.phase is)
  | faults link cause held sign is =>
      exact stays (congrArg Stance.phase is)
  | counts attempt seconds backingOff told is =>
      have phase : (before.take setup turn).phase = .backoff attempt (seconds - 1) :=
        congrArg Stance.phase is
      rw [phase] at halted
      cases halted
  | opens link held sign is =>
      have phase : (before.take setup turn).phase = .opened := congrArg Stance.phase is
      rw [phase] at halted
      cases halted
  | backsOff immediate cause unspent is =>
      obtain ⟨seconds, phase⟩ :
          ∃ seconds, (before.take setup turn).phase =
            .backoff (before.phase.attempts + 1) seconds :=
        ⟨_, congrArg Stance.phase is⟩
      rw [phase] at halted
      cases halted
  | awaits place asks lacks is =>
      have phase : (before.take setup turn).phase = .waitingForToken := congrArg Stance.phase is
      rw [phase] at halted
      cases halted
  | dials token place asks answered notOpen reconnect countdown less due is =>
      have phase : (before.take setup turn).phase = .connecting before.phase.attempts :=
        congrArg Stance.phase is
      rw [phase] at halted
      cases halted
  | restarts token told answered is =>
      have phase : (before.take setup turn).phase = .connecting 0 := congrArg Stance.phase is
      rw [phase] at halted
      cases halted

theorem enters_of_halted
    (course : Course setup turn before (before.take setup turn))
    (running : before.phase.hasHalted = false)
    (halted : (before.take setup turn).phase = .halted why) :
    turn.Enters setup before why := by
  apply enters_of_phase course _ halted
  intro already
  rw [already] at running
  cases running

end Entering

end Controller

/-! ## Rest -/

def Turn.asksAnew (turn : Turn Payload) : Bool :=
  match turn.stimulus with
  | .command (.connect _) => true
  | .command .startOver => true
  | _ => false

def Turn.disconnects (turn : Turn Payload) : Bool :=
  match turn.stimulus with
  | .command .disconnect => true
  | _ => false

/-- What waits after a turn that only keeps what is sent. -/
def Turn.fill (backlog : Backlog Payload) (turn : Turn Payload) : Backlog Payload :=
  match turn.stimulus with
  | .command (.send payload) => (backlog.push payload).1
  | .command .disconnect => backlog.clear
  | _ => backlog

/-- The effect does not reach any connection, nor those who watch its status. -/
def Effect.isOffline : Effect Payload → Bool
  | .evicted _ => true
  | .discarded _ => true
  | .refusal _ => true
  | .state shown => shown = .disconnected
  | _ => false

namespace Controller

/-- The controller has halted, holds no connection and does not wait for one. -/
structure Resting (why : Halt) (controller : Controller Payload) : Prop where
  phase_eq : controller.phase = .halted why
  link_eq : controller.link = none
  tokenLook_eq : controller.timers.tokenLook = none
  reconnect_eq : controller.timers.reconnect = none
  countdown_eq : controller.timers.countdown = none

/-- What comes of turns that a halted controller takes. -/
structure Rests (why : Halt) (before after : Controller Payload) (turns : List (Turn Payload))
    (done : List (Effect Payload)) : Prop where
  resting : after.Resting (if turns.any Turn.disconnects then .manual else why)
  state_eq : after.state = if turns.any Turn.disconnects then .disconnected else before.state
  states_eq : statesOf done = before.state.notice after.state
  status_eq : after.status = before.status
  backlog_eq : after.backlog = turns.foldl Turn.fill before.backlog
  offline : ∀ effect ∈ done, effect.isOffline = true

theorem Resting.congr
    {why : Halt} {first second : Controller Payload} (resting : first.Resting why)
    (phase : second.phase = first.phase) (link : second.link = first.link)
    (tokenLook : second.timers.tokenLook = first.timers.tokenLook)
    (reconnect : second.timers.reconnect = first.timers.reconnect)
    (countdown : second.timers.countdown = first.timers.countdown) : second.Resting why where
  phase_eq := phase.trans resting.phase_eq
  link_eq := link.trans resting.link_eq
  tokenLook_eq := tokenLook.trans resting.tokenLook_eq
  reconnect_eq := reconnect.trans resting.reconnect_eq
  countdown_eq := countdown.trans resting.countdown_eq

theorem Provisioned.resting
    {controller : Controller Payload} {why : Halt} (provisioned : controller.Provisioned)
    (halted : controller.phase = .halted why) : controller.Resting why := by
  unfold Provisioned at provisioned
  rw [halted] at provisioned
  obtain ⟨noLink, noLook, noReconnect, noCountdown⟩ := provisioned
  exact ⟨halted, noLink, noLook, noReconnect, noCountdown⟩

namespace Rests

variable {setup : Setup} {why : Halt} {before middle after : Controller Payload}
  {first second : List (Turn Payload)} {done more : List (Effect Payload)}

theorem nil (resting : before.Resting why) : Rests why before before [] [] where
  resting := resting
  state_eq := rfl
  states_eq := (State.notice_self _).symm
  status_eq := rfl
  backlog_eq := rfl
  offline := fun _ member => absurd member List.not_mem_nil

theorem append
    (now : Rests why before middle first done)
    (later : Rests (if first.any Turn.disconnects then .manual else why) middle after second more) :
    Rests why before after (first ++ second) (done ++ more) where
  resting := by
    have resting := later.resting
    cases firstEnds : first.any Turn.disconnects <;>
      cases secondEnds : second.any Turn.disconnects <;>
      simpa [firstEnds, secondEnds] using resting
  state_eq := by
    rw [later.state_eq, now.state_eq]
    cases firstEnds : first.any Turn.disconnects <;>
      cases secondEnds : second.any Turn.disconnects <;>
      simp [firstEnds, secondEnds]
  states_eq := by
    rw [statesOf_append, now.states_eq, later.states_eq, later.state_eq]
    by_cases secondEnds : second.any Turn.disconnects = true
    · rw [if_pos secondEnds, now.state_eq]
      by_cases firstEnds : first.any Turn.disconnects = true
      · rw [if_pos firstEnds, State.notice_self, List.append_nil]
      · rw [if_neg firstEnds, State.notice_self, List.nil_append]
    · rw [if_neg secondEnds, State.notice_self, List.append_nil]
  status_eq := later.status_eq.trans now.status_eq
  backlog_eq := by
    rw [List.foldl_append, ← now.backlog_eq]
    exact later.backlog_eq
  offline := List.forall_mem_append.mpr ⟨now.offline, later.offline⟩

/-- A halted controller neither dials nor gives up a connection. -/
theorem lives_eq (rests : Rests why before after first done) : livesOf done = [] := by
  apply livesOf_eq_nil
  intro effect member
  have offline := rests.offline effect member
  cases effect with
  | dial serial token url =>
      cases offline
  | close serial code reason =>
      cases offline
  | abandon serial =>
      cases offline
  | _ =>
      rfl

end Rests

section Resting

variable {setup : Setup} {turn : Turn Payload} {before : Controller Payload} {why : Halt}

/-- The turn is not one that shows a halted controller anew. -/
theorem rests_of_quiet
    {after : Controller Payload} (quiet : after.Resting why)
    (goesOn : turn.disconnects = false) (state : after.state = before.state)
    (status : after.status = before.status)
    (backlog : after.backlog = Turn.fill before.backlog turn)
    (offline : ∀ effect ∈ after.outbox, effect.isOffline = true ∧ effect.state? = none) :
    Rests why before after [turn] after.outbox where
  resting := by
    simpa [goesOn] using quiet
  state_eq := by
    simpa [goesOn] using state
  states_eq := by
    rw [state, State.notice_self]
    exact List.filterMap_eq_nil_iff.mpr fun effect member => (offline effect member).2
  status_eq := status
  backlog_eq := backlog
  offline := fun effect member => (offline effect member).1

theorem rests_of_disconnect
    (resting : before.Resting why) (told : turn.stimulus = .command .disconnect)
    (reason : String) :
    Rests why before (halt .manual reason { before with outbox := [] }) [turn]
      (halt .manual reason { before with outbox := [] }).outbox := by
  have ends : turn.disconnects = true := by
    simp [Turn.disconnects, told]
  have fills : Turn.fill before.backlog turn = before.backlog.clear := by
    simp [Turn.fill, told]
  have notOpen : isOpen ({ before with outbox := [] } : Controller Payload) = false :=
    isOpen_eq_false resting.link_eq
  have discards : ∀ effect ∈ discardNotice before.backlog, effect.isOffline = true := by
    unfold discardNotice
    split <;> simp [Effect.isOffline]
  have shows :
      ∀ effect ∈ (stateNotice before.state .disconnected : List (Effect Payload)),
        effect.isOffline = true := by
    unfold stateNotice
    split <;> simp [Effect.isOffline]
  rw [halt_eq, notOpen, resting.link_eq]
  exact {
    resting := by
      simp only [List.any_cons, ends, Bool.true_or, if_true]
      exact ⟨rfl, rfl, rfl, rfl, rfl⟩
    state_eq := by
      simp [ends]
    states_eq := by
      simp [farewells]
    status_eq := rfl
    backlog_eq := fills.symm
    offline := by
      simpa [farewells, downNotice, or_imp, forall_and] using And.intro discards shows }

/-- A halted controller rests in every turn in which the user does not ask for a connection. -/
theorem rests_take
    (setup : Setup) (resting : before.Resting why) (unasked : turn.asksAnew = false)
    (can : before.canTake turn.stimulus = true) :
    Rests why before (before.take setup turn) [turn] (before.take setup turn).outbox := by
  unfold take step
  unfold Turn.asksAnew at unasked
  cases told : turn.stimulus with
  | command order =>
      cases order with
      | connect session =>
          simp [told] at unasked
      | startOver =>
          simp [told] at unasked
      | send payload =>
          rcases send_cases turn.around.accepts payload { before with outbox := [] } with
            ⟨link, held, _⟩ | ⟨_, waits⟩
          · rw [resting.link_eq] at held
            cases held
          · simp only [onCommand, waits]
            have goesOn : turn.disconnects = false := by
              simp [Turn.disconnects, told]
            have fills : Turn.fill before.backlog turn = (before.backlog.push payload).1 := by
              simp [Turn.fill, told]
            rw [enqueue_eq]
            refine rests_of_quiet (resting.congr rfl rfl rfl rfl rfl) goesOn rfl rfl fills.symm ?_
            cases (before.backlog.push payload).2 <;> simp [Effect.isOffline, Effect.state?]
      | disconnect =>
          exact rests_of_disconnect resting told "client disconnect"
  | report serial report =>
      have ignores :
          onReport setup turn.around serial report { before with outbox := [] } =
            { before with outbox := [] } := by
        simp [onReport, resting.link_eq]
      have goesOn : turn.disconnects = false := by
        simp [Turn.disconnects, told]
      have fills : Turn.fill before.backlog turn = before.backlog := by
        simp [Turn.fill, told]
      simp only [ignores]
      refine rests_of_quiet (resting.congr rfl rfl rfl rfl rfl) goesOn rfl rfl fills.symm ?_
      intro effect member
      cases member
  | timer timer =>
      have goesOn : turn.disconnects = false := by
        simp [Turn.disconnects, told]
      have fills : Turn.fill before.backlog turn = before.backlog := by
        simp [Turn.fill, told]
      rw [told] at can
      cases timer with
      | refusalNotice =>
          simp only [onTimer, onRefusalNotice_eq]
          refine rests_of_quiet (resting.congr rfl rfl rfl rfl rfl) goesOn rfl rfl fills.symm ?_
          cases before.untoldRefusal <;> simp [Effect.isOffline, Effect.state?]
      | reconnect =>
          simp [canTake, Schedule.due?, resting.reconnect_eq] at can
      | countdown =>
          simp [canTake, Schedule.due?, resting.countdown_eq] at can
      | tokenLook =>
          simp [canTake, Schedule.due?, resting.tokenLook_eq] at can

/-- A halted controller rests through every run in which the user does not ask anew. -/
theorem rests_run
    {turns : List (Turn Payload)} (resting : before.Resting why)
    (unasked : ∀ turn ∈ turns, turn.asksAnew = false)
    (timely : isTimely setup turns before = true) :
    Rests why before (after setup turns before) turns (effects setup turns before) := by
  induction turns generalizing before why with
  | nil =>
      exact .nil resting
  | cons turn rest inductionHypothesis =>
      obtain ⟨can, restTimely⟩ := Bool.and_eq_true_iff.mp timely
      obtain ⟨turnUnasked, restUnasked⟩ := List.forall_mem_cons.mp unasked
      have now := rests_take setup resting turnUnasked can
      have later := inductionHypothesis now.resting restUnasked restTimely
      exact now.append later

/-- A controller that was never asked for a connection stays idle until it is. -/
theorem idle_take
    (setup : Setup) (provisioned : before.Provisioned) (idle : before.phase = .idle)
    (unasked : turn.stimulus.isCommand = false) (can : before.canTake turn.stimulus = true) :
    (before.take setup turn).phase = .idle := by
  unfold Provisioned at provisioned
  rw [idle] at provisioned
  obtain ⟨noLink, noLook, noReconnect, noCountdown⟩ := provisioned
  unfold take step
  cases told : turn.stimulus with
  | command order =>
      rw [told] at unasked
      cases unasked
  | report serial report =>
      simp [onReport, noLink, idle]
  | timer timer =>
      rw [told] at can
      cases timer with
      | refusalNotice =>
          simp only [onTimer, onRefusalNotice_eq]
          exact idle
      | reconnect =>
          simp [canTake, Schedule.due?, noReconnect] at can
      | countdown =>
          simp [canTake, Schedule.due?, noCountdown] at can
      | tokenLook =>
          simp [canTake, Schedule.due?, noLook] at can

/-- Without a command an idle controller stays idle. -/
theorem idle_after
    {turns : List (Turn Payload)} (provisioned : before.Provisioned) (idle : before.phase = .idle)
    (unasked : ∀ turn ∈ turns, turn.stimulus.isCommand = false)
    (timely : isTimely setup turns before = true) :
    (after setup turns before).phase = .idle := by
  induction turns generalizing before with
  | nil =>
      exact idle
  | cons turn rest inductionHypothesis =>
      obtain ⟨can, restTimely⟩ := Bool.and_eq_true_iff.mp timely
      obtain ⟨turnUnasked, restUnasked⟩ := List.forall_mem_cons.mp unasked
      have next := (sound_take setup turn provisioned can).provisioned
      have stays := idle_take setup provisioned idle turnUnasked can
      exact inductionHypothesis next stays restUnasked restTimely

end Resting

/-! ## Whole runs -/

/-- A halt has its causes, leaves nothing that waits, and lasts until the user asks anew. -/
structure HaltLasts (setup : Setup) (turns : List (Turn Payload)) : Prop where
  halts_iff :
    ∀ before turn rest why, turns = before ++ turn :: rest →
      (after setup before (.initial setup)).phase.hasHalted = false →
        ((after setup (before ++ [turn]) (.initial setup)).phase = .halted why ↔
          turn.Enters setup (after setup before (.initial setup)) why)
  empties :
    ∀ before turn rest why, turns = before ++ turn :: rest →
      turn.Enters setup (after setup before (.initial setup)) why →
        (after setup (before ++ [turn]) (.initial setup)).phase = .halted why ∧
          (after setup (before ++ [turn]) (.initial setup)).backlog.items = []
  rests :
    ∀ before rest why, turns = before ++ rest →
      (after setup before (.initial setup)).phase = .halted why →
      (∀ turn ∈ rest, turn.asksAnew = false) →
        Rests why (after setup before (.initial setup)) (after setup turns (.initial setup)) rest
          (effects setup rest (after setup before (.initial setup)))

/-- In every timely run halts last until the user asks for a connection. -/
theorem halt_lasts
    (setup : Setup) (turns : List (Turn Payload))
    (timely : isTimely setup turns (.initial setup) = true) :
    HaltLasts setup turns := by
  have provisioned (before rest : List (Turn Payload)) (splits : turns = before ++ rest) :
      (after setup before (.initial setup)).Provisioned := by
    subst splits
    have beforeTimely := (isTimely_append.mp timely).1
    exact provisioned_after (initial_provisioned setup) beforeTimely
  constructor
  · rintro before turn rest why rfl running
    have holds := provisioned before (turn :: rest) rfl
    have restTimely := (isTimely_append.mp timely).2
    have can := (Bool.and_eq_true_iff.mp restTimely).1
    rw [after_append]
    constructor
    · exact enters_of_halted (course_take setup turn holds can) running
    · intro enters
      exact (halted_of_enters holds enters).1
  · rintro before turn rest why rfl enters
    rw [after_append]
    exact halted_of_enters (provisioned before (turn :: rest) rfl) enters
  · rintro before rest why rfl halted unasked
    have resting := (provisioned before rest rfl).resting halted
    rw [after_append]
    exact rests_run resting unasked (isTimely_append.mp timely).2

/-- A text waits as the channel takes no more, the server wants no further connection, and the
halted controller is told of a late end, of two texts and to disconnect between them. -/
def rejectedForGood : List (Turn String) :=
  [⟨.steady (some "key"), .command (.connect none)⟩,
    ⟨.steady (some "key"), .report 1 .opened⟩,
    ⟨⟨0, fun _ => some "key", fun _ => false⟩, .command (.send "early")⟩,
    ⟨.steady (some "key"), .report 1 (.closed 4001 "rejected")⟩,
    ⟨.steady (some "key"), .report 1 (.closed 1006 "late")⟩,
    ⟨.steady (some "key"), .command (.send "kept")⟩,
    ⟨.steady (some "key"), .command .disconnect⟩,
    ⟨.steady (some "key"), .command (.send "later")⟩]

theorem halt_lasts_of_rejectedForGood :
    isTimely .standard rejectedForGood (.initial .standard) = true ∧
      HaltLasts .standard rejectedForGood :=
  ⟨by decide, halt_lasts .standard rejectedForGood (by decide)⟩

example :
    (after .standard (rejectedForGood.take 4) (.initial .standard)).phase = .halted .rejected ∧
      (after .standard (rejectedForGood.take 4) (.initial .standard)).backlog.items = [] ∧
      (after .standard rejectedForGood (.initial .standard)).phase = .halted .manual ∧
      (after .standard rejectedForGood (.initial .standard)).backlog.items = ["later"] := by
  decide

end Controller

end Parley.Connection
