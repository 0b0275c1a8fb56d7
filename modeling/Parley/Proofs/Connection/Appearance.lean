import Mathlib.Data.List.Chain
import Parley.Proofs.Connection.Course

/-!
# The appearance of phases

The phase of a controller and the state that it shows are kept apart, and are set by separate steps
of the handlers. The main statement is that the phase nevertheless tells which state is shown, save
while a dial is under way. It rests on one invariant of regular controllers, which also bounds the
attempts that are counted.
-/

namespace Parley.Connection

variable {Payload : Type}

/-! ## Regular controllers -/

/-- The state that a phase shows by itself. An open connection may have reported a fault, and a dial
goes on under whatever was shown before it. -/
def Phase.state? (attemptLimit : Nat) : Phase → Option State
  | .idle => some .disconnected
  | .waitingForToken => some .disconnected
  | .connecting _ => none
  | .opened => none
  | .backoff attempt seconds => some (.reconnecting attempt seconds)
  | .halted .exhausted => some (.failed (exhaustedMessage attemptLimit))
  | .halted _ => some .disconnected

/-- What holds of a controller between any two turns. -/
structure Regular (setup : Setup) (controller : Controller Payload) : Prop where
  provisioned : controller.Provisioned
  state_eq :
    ∀ state, controller.phase.state? setup.settings.backoff.attemptLimit = some state →
      controller.state = state
  attempts_le : controller.phase.attempts ≤ setup.settings.backoff.attemptLimit
  attempt_pos : ∀ attempt seconds, controller.phase = .backoff attempt seconds → 0 < attempt
  /-- Only a dial that cut a backoff short has its timers, and that one is not the first. -/
  first_dial :
    controller.phase = .connecting 0 →
      controller.timers.reconnect = none ∧ controller.timers.countdown = none

theorem Controller.Provisioned.state?_of_link
    {controller : Controller Payload} (provisioned : controller.Provisioned) {link : Link}
    (held : controller.link = some link) (attemptLimit : Nat) :
    controller.phase.state? attemptLimit = none := by
  unfold Provisioned at provisioned
  cases phase : controller.phase <;> simp_all [Phase.state?]

theorem Turn.Stops.ne_exhausted
    {turn : Turn Payload} {before : Controller Payload} {why : Halt}
    (stops : turn.Stops before why) : why ≠ .exhausted := by
  cases stops with
  | manual told =>
      exact Halt.noConfusion
  | refused content message heard refuses =>
      exact Halt.noConfusion
  | closed code reason why heard ends =>
      rintro rfl
      unfold Aftermath.ofCode at ends
      split at ends
      · cases ends
      · split at ends <;> cases ends

namespace Regular

variable {setup : Setup} {controller : Controller Payload}

theorem initial (setup : Setup) :
    Regular setup (Controller.initial setup : Controller Payload) where
  provisioned := Controller.initial_provisioned setup
  state_eq := by
    intro state shows
    exact Option.some.inj shows
  attempts_le := Nat.zero_le _
  attempt_pos := by
    rintro attempt seconds ⟨⟩
  first_dial := by
    rintro ⟨⟩

/-- Whatever does not dial has a phase that tells all that there is to keep. -/
theorem of_phase
    {phase : Phase} (provisioned : controller.Provisioned)
    (is : controller.phase = phase) (settled : ∀ attempts, phase ≠ .connecting attempts)
    (state_eq :
      ∀ state, phase.state? setup.settings.backoff.attemptLimit = some state →
        controller.state = state)
    (attempts_le : phase.attempts ≤ setup.settings.backoff.attemptLimit)
    (attempt_pos : ∀ attempt seconds, phase = .backoff attempt seconds → 0 < attempt) :
    Regular setup controller where
  provisioned := provisioned
  state_eq := by
    rw [is]
    exact state_eq
  attempts_le := by
    rw [is]
    exact attempts_le
  attempt_pos := by
    rw [is]
    exact attempt_pos
  first_dial := by
    rw [is]
    intro dialling
    exact absurd dialling (settled 0)

/-- A dial shows nothing of its own, so that only its attempts and its timers count. -/
theorem of_dial
    {attempts : Nat} (provisioned : controller.Provisioned)
    (is : controller.phase = .connecting attempts)
    (attempts_le : attempts ≤ setup.settings.backoff.attemptLimit)
    (first_dial :
      attempts = 0 → controller.timers.reconnect = none ∧ controller.timers.countdown = none) :
    Regular setup controller where
  provisioned := provisioned
  state_eq := by
    rw [is]
    rintro state ⟨⟩
  attempts_le := by
    rw [is]
    exact attempts_le
  attempt_pos := by
    rw [is]
    rintro attempt seconds ⟨⟩
  first_dial := by
    rw [is]
    intro dialling
    exact first_dial (Phase.connecting.inj dialling)

/-- Without failed attempts no timer of a backoff can be running. -/
theorem unarmed
    (regular : Regular setup controller) (none_failed : controller.phase.attempts = 0) :
    controller.timers.reconnect = none ∧ controller.timers.countdown = none := by
  have provisioned := regular.provisioned
  unfold Controller.Provisioned at provisioned
  cases phase : controller.phase with
  | connecting attempts =>
      rw [phase] at none_failed
      have first : controller.phase = .connecting 0 := by
        rw [phase]
        exact congrArg Phase.connecting none_failed
      exact regular.first_dial first
  | backoff attempt seconds =>
      have positive := regular.attempt_pos attempt seconds phase
      rw [phase] at none_failed
      exact absurd none_failed (Nat.ne_of_gt positive)
  | _ =>
      rw [phase] at provisioned
      exact ⟨provisioned.2.2.1, provisioned.2.2.2⟩

/-- Where the phase and the timers stay, at most the state is a new one, and only while the phase
does not tell it. -/
theorem of_same
    {after : Controller Payload} (regular : Regular setup controller)
    (provisioned : after.Provisioned) (phase : after.phase = controller.phase)
    (reconnect : after.timers.reconnect = controller.timers.reconnect)
    (countdown : after.timers.countdown = controller.timers.countdown)
    (state : after.state = controller.state ∨
      controller.phase.state? setup.settings.backoff.attemptLimit = none) :
    Regular setup after where
  provisioned := provisioned
  state_eq := by
    rw [phase]
    rcases state with same | untold
    · rw [same]
      exact regular.state_eq
    · rw [untold]
      rintro _ ⟨⟩
  attempts_le := by
    rw [phase]
    exact regular.attempts_le
  attempt_pos := by
    rw [phase]
    exact regular.attempt_pos
  first_dial := by
    rw [phase, reconnect, countdown]
    exact regular.first_dial

end Regular

/-- Every way that a turn can go leads from regular controllers to regular ones. -/
theorem Regular.course
    {setup : Setup} {turn : Turn Payload} {before after : Controller Payload}
    (regular : Regular setup before) (course : Course setup turn before after)
    (provisioned : after.Provisioned) :
    Regular setup after := by
  cases course with
  | keeps noSign notDue is =>
      exact regular.of_same provisioned (congrArg Stance.phase is) (congrArg Stance.reconnect is)
        (congrArg Stance.countdown is) (Or.inl (congrArg Stance.state is))
  | fades attempts reconnect countdown noSign dialling less told is =>
      have phase : after.phase = before.phase := congrArg Stance.phase is
      have attempts_le := regular.attempts_le
      rw [dialling] at attempts_le
      refine .of_dial provisioned (phase.trans dialling) attempts_le ?_
      rintro rfl
      obtain ⟨noReconnect, noCountdown⟩ := regular.first_dial dialling
      obtain ⟨rfl, rfl⟩ := less.of_unarmed noReconnect noCountdown
      exact ⟨congrArg Stance.reconnect is, congrArg Stance.countdown is⟩
  | counts attempt seconds backingOff told is =>
      have phase : after.phase = .backoff attempt (seconds - 1) := congrArg Stance.phase is
      have state : after.state = .reconnecting attempt (seconds - 1) := congrArg Stance.state is
      have attempts_le := regular.attempts_le
      rw [backingOff] at attempts_le
      refine .of_phase provisioned phase (fun _ => Phase.noConfusion) ?_ attempts_le ?_
      · rintro _ ⟨⟩
        exact state
      · rintro _ _ ⟨⟩
        exact regular.attempt_pos attempt seconds backingOff
  | opens link held sign is =>
      have phase : after.phase = .opened := congrArg Stance.phase is
      refine .of_phase provisioned phase (fun _ => Phase.noConfusion) ?_ (Nat.zero_le _) ?_
      · rintro _ ⟨⟩
      · rintro _ _ ⟨⟩
  | faults link cause held sign is =>
      have untold := regular.provisioned.state?_of_link held setup.settings.backoff.attemptLimit
      exact regular.of_same provisioned (congrArg Stance.phase is) (congrArg Stance.reconnect is)
        (congrArg Stance.countdown is) (Or.inr untold)
  | stops why cause is emptied =>
      have phase : after.phase = .halted why := congrArg Stance.phase is
      have state : after.state = .disconnected := congrArg Stance.state is
      refine .of_phase provisioned phase (fun _ => Phase.noConfusion) ?_ (Nat.zero_le _) ?_
      · intro shown shows
        have notExhausted : why ≠ .exhausted := cause.ne_exhausted
        rw [state]
        cases why with
        | exhausted =>
            exact absurd rfl notExhausted
        | _ =>
            exact Option.some.inj shows
      · rintro _ _ ⟨⟩
  | exhausts immediate cause spent is emptied =>
      have phase : after.phase = .halted .exhausted := congrArg Stance.phase is
      have state :
          after.state = .failed (exhaustedMessage setup.settings.backoff.attemptLimit) :=
        congrArg Stance.state is
      refine .of_phase provisioned phase (fun _ => Phase.noConfusion) ?_ (Nat.zero_le _) ?_
      · rintro _ ⟨⟩
        exact state
      · rintro _ _ ⟨⟩
  | backsOff immediate cause unspent is =>
      obtain ⟨seconds, phase, state⟩ :
          ∃ seconds, after.phase = .backoff (before.phase.attempts + 1) seconds ∧
            after.state = .reconnecting (before.phase.attempts + 1) seconds :=
        ⟨_, congrArg Stance.phase is, congrArg Stance.state is⟩
      refine .of_phase provisioned phase (fun _ => Phase.noConfusion) ?_ unspent ?_
      · rintro _ ⟨⟩
        exact state
      · rintro _ _ ⟨⟩
        exact Nat.succ_pos _
  | awaits place asks lacks is =>
      have phase : after.phase = .waitingForToken := congrArg Stance.phase is
      have state : after.state = .disconnected := congrArg Stance.state is
      refine .of_phase provisioned phase (fun _ => Phase.noConfusion) ?_ (Nat.zero_le _) ?_
      · rintro _ ⟨⟩
        exact state
      · rintro _ _ ⟨⟩
  | dials token place asks answered notOpen reconnect countdown less due is =>
      have phase : after.phase = .connecting before.phase.attempts := congrArg Stance.phase is
      refine .of_dial provisioned phase regular.attempts_le ?_
      intro first
      obtain ⟨noReconnect, noCountdown⟩ := regular.unarmed first
      obtain ⟨rfl, rfl⟩ := less.of_unarmed noReconnect noCountdown
      exact ⟨congrArg Stance.reconnect is, congrArg Stance.countdown is⟩
  | restarts token told answered is =>
      have phase : after.phase = .connecting 0 := congrArg Stance.phase is
      refine .of_dial provisioned phase (Nat.zero_le _) fun _ => ?_
      exact ⟨congrArg Stance.reconnect is, congrArg Stance.countdown is⟩

/-! ## What a turn shows -/

theorem State.mem_notice {shown state noticed : State} :
    noticed ∈ shown.notice state ↔ shown ≠ state ∧ noticed = state := by
  unfold notice
  by_cases same : shown = state
  · simp [same]
  · simp [same]

/-- To show a state that is another one keeps neighbours apart. -/
theorem State.isChain_notice
    {shown state : State} {states : List State}
    (apart : (state :: states).IsChain (· ≠ ·)) :
    (shown :: (shown.notice state ++ states)).IsChain (· ≠ ·) := by
  unfold notice
  by_cases same : shown = state
  · rw [if_pos same, same]
    exact apart
  · rw [if_neg same]
    exact .cons_cons same apart

namespace Course

variable {setup : Setup} {turn : Turn Payload} {before after : Controller Payload}

/-- In a turn the state is shown as often as it changes: once, or not at all. -/
theorem states_eq (course : Course setup turn before after) :
    statesOf after.outbox = before.state.notice after.state := by
  suffices shown : after.stance.states = before.state.notice after.stance.state from shown
  cases course with
  | keeps noSign notDue is =>
      rw [is]
      exact (State.notice_self _).symm
  | fades attempts reconnect countdown noSign dialling less told is =>
      rw [is]
      exact (State.notice_self _).symm
  | dials token place asks answered notOpen reconnect countdown less due is =>
      rw [is]
      exact (State.notice_self _).symm
  | restarts token told answered is =>
      rw [is]
      exact (State.notice_self _).symm
  | counts attempt seconds backingOff told is =>
      rw [is]
      rfl
  | opens link held sign is =>
      rw [is]
      rfl
  | faults link cause held sign is =>
      rw [is]
      rfl
  | stops why cause is emptied =>
      rw [is]
      rfl
  | exhausts immediate cause spent is emptied =>
      rw [is]
      rfl
  | backsOff immediate cause unspent is =>
      rw [is]
      rfl
  | awaits place asks lacks is =>
      rw [is]
      rfl

/-- The state after a turn is the one before it, or counts an attempt of this turn within the limit,
or counts none. -/
theorem state_cases
    (course : Course setup turn before after) (regular : Regular setup before) :
    after.state = before.state ∨
      (∃ attempt seconds, after.state = .reconnecting attempt seconds ∧
        0 < attempt ∧ attempt ≤ setup.settings.backoff.attemptLimit) ∨
      ∀ attempt seconds, after.state ≠ .reconnecting attempt seconds := by
  cases course with
  | keeps noSign notDue is =>
      exact Or.inl (congrArg Stance.state is)
  | fades attempts reconnect countdown noSign dialling less told is =>
      exact Or.inl (congrArg Stance.state is)
  | dials token place asks answered notOpen reconnect countdown less due is =>
      exact Or.inl (congrArg Stance.state is)
  | restarts token told answered is =>
      exact Or.inl (congrArg Stance.state is)
  | counts attempt seconds backingOff told is =>
      have state : after.state = .reconnecting attempt (seconds - 1) := congrArg Stance.state is
      have positive : 0 < attempt := regular.attempt_pos attempt seconds backingOff
      have within := regular.attempts_le
      rw [backingOff] at within
      exact Or.inr (Or.inl ⟨attempt, seconds - 1, state, positive, within⟩)
  | backsOff immediate cause unspent is =>
      exact Or.inr (Or.inl ⟨_, _, congrArg Stance.state is, Nat.succ_pos _, unspent⟩)
  | opens link held sign is =>
      have state : after.state = .connected := congrArg Stance.state is
      simp [state]
  | faults link cause held sign is =>
      have state : after.state = .failed connectionErrorMessage := congrArg Stance.state is
      simp [state]
  | stops why cause is emptied =>
      have state : after.state = .disconnected := congrArg Stance.state is
      simp [state]
  | exhausts immediate cause spent is emptied =>
      have state :
          after.state = .failed (exhaustedMessage setup.settings.backoff.attemptLimit) :=
        congrArg Stance.state is
      simp [state]
  | awaits place asks lacks is =>
      have state : after.state = .disconnected := congrArg Stance.state is
      simp [state]

theorem attempt_bounds
    (course : Course setup turn before after) (regular : Regular setup before)
    {attempt seconds : Nat} (shown : .reconnecting attempt seconds ∈ statesOf after.outbox) :
    0 < attempt ∧ attempt ≤ setup.settings.backoff.attemptLimit := by
  rw [course.states_eq, State.mem_notice] at shown
  obtain ⟨changed, shows⟩ := shown
  rcases course.state_cases regular with
    same | ⟨counted, left, state, positive, within⟩ | uncounted
  · exact absurd same.symm changed
  · rw [state] at shows
    cases shows
    exact ⟨positive, within⟩
  · exact absurd shows.symm (uncounted attempt seconds)

end Course

/-! ## Signs of a connection -/

/-- The state of an open connection is the one that belongs to the last sign of it: that it opened,
or that it failed since. -/
def HeedsSign (last : Option Report) (controller : Controller Payload) : Prop :=
  controller.phase = .opened →
    (last = some .opened ∧ controller.state = .connected) ∨
      ∃ cause, last = some (.failed cause) ∧ controller.state = .failed connectionErrorMessage

theorem Course.heedsSign
    {setup : Setup} {turn : Turn Payload} {before after : Controller Payload}
    (course : Course setup turn before after) {last : Option Report}
    (heeds : HeedsSign last before) :
    HeedsSign ((turn.sign? before).or last) after := by
  intro isOpen
  cases course with
  | keeps noSign notDue is =>
      have phase : after.phase = before.phase := congrArg Stance.phase is
      have state : after.state = before.state := congrArg Stance.state is
      rw [phase] at isOpen
      rw [noSign, state, Option.none_or]
      exact heeds isOpen
  | opens link held sign is =>
      rw [sign]
      exact Or.inl ⟨rfl, congrArg Stance.state is⟩
  | faults link cause held sign is =>
      rw [sign]
      exact Or.inr ⟨cause, rfl, congrArg Stance.state is⟩
  | fades attempts reconnect countdown noSign dialling less told is =>
      have phase : after.phase = before.phase := congrArg Stance.phase is
      rw [phase, dialling] at isOpen
      cases isOpen
  | counts attempt seconds backingOff told is =>
      have phase : after.phase = .backoff attempt (seconds - 1) := congrArg Stance.phase is
      rw [phase] at isOpen
      cases isOpen
  | stops why cause is emptied =>
      have phase : after.phase = .halted why := congrArg Stance.phase is
      rw [phase] at isOpen
      cases isOpen
  | exhausts immediate cause spent is emptied =>
      have phase : after.phase = .halted .exhausted := congrArg Stance.phase is
      rw [phase] at isOpen
      cases isOpen
  | backsOff immediate cause unspent is =>
      obtain ⟨seconds, phase⟩ :
          ∃ seconds, after.phase = .backoff (before.phase.attempts + 1) seconds :=
        ⟨_, congrArg Stance.phase is⟩
      rw [phase] at isOpen
      cases isOpen
  | awaits place asks lacks is =>
      have phase : after.phase = .waitingForToken := congrArg Stance.phase is
      rw [phase] at isOpen
      cases isOpen
  | dials token place asks answered notOpen reconnect countdown less due is =>
      have phase : after.phase = .connecting before.phase.attempts := congrArg Stance.phase is
      rw [phase] at isOpen
      cases isOpen
  | restarts token told answered is =>
      have phase : after.phase = .connecting 0 := congrArg Stance.phase is
      rw [phase] at isOpen
      cases isOpen

namespace Controller

variable {setup : Setup}

/-- What a controller hears of the fate of its connections along a run, in order. -/
def signs (setup : Setup) : List (Turn Payload) → Controller Payload → List Report
  | [], _ => []
  | turn :: rest, controller =>
      (turn.sign? controller).toList ++ signs setup rest (controller.take setup turn)

/-! ## Whole runs -/

theorem regular_take
    (turn : Turn Payload) {controller : Controller Payload} (regular : Regular setup controller)
    (can : controller.canTake turn.stimulus = true) :
    Regular setup (controller.take setup turn) := by
  have course := course_take setup turn regular.provisioned can
  exact regular.course course (sound_take setup turn regular.provisioned can).provisioned

/-- Along a timely run controllers stay regular, and count no attempt beyond the limit. -/
theorem regular_run
    {turns : List (Turn Payload)} {controller : Controller Payload}
    (regular : Regular setup controller) (timely : isTimely setup turns controller = true) :
    Regular setup (after setup turns controller) ∧
      ∀ effect ∈ effects setup turns controller, ∀ attempt seconds,
        effect.state? = some (.reconnecting attempt seconds) →
          0 < attempt ∧ attempt ≤ setup.settings.backoff.attemptLimit := by
  refine timely_run_keeps (Regular setup)
    (fun effect => ∀ attempt seconds, effect.state? = some (.reconnecting attempt seconds) →
      0 < attempt ∧ attempt ≤ setup.settings.backoff.attemptLimit) ?_ turns regular timely
  intro turn before kept can
  refine ⟨regular_take turn kept can, ?_⟩
  intro effect member attempt seconds shows
  have course := course_take setup turn kept.provisioned can
  exact course.attempt_bounds kept (List.mem_filterMap.mpr ⟨effect, member, shows⟩)

theorem regular_after
    {turns : List (Turn Payload)} {controller : Controller Payload}
    (regular : Regular setup controller) (timely : isTimely setup turns controller = true) :
    Regular setup (after setup turns controller) :=
  (regular_run regular timely).1

/-- No observer of states is shown the same one twice in a row, from whichever state on, not even
as the client goes. -/
theorem states_differ
    {turns : List (Turn Payload)} {controller : Controller Payload}
    (regular : Regular setup controller) (timely : isTimely setup turns controller = true) :
    (controller.state :: (statesOf (effects setup turns controller) ++
      statesOf (windDown { after setup turns controller with outbox := [] }).outbox)).IsChain
        (· ≠ ·) := by
  induction turns generalizing controller with
  | nil =>
      rw [effects, after, statesOf_windDown, statesOf_nil, List.nil_append]
      by_cases wasOpen : controller.isOpen = true
      · rw [if_pos wasOpen]
        have alone : [State.disconnected].IsChain (· ≠ ·) := .singleton _
        simpa using State.isChain_notice alone
      · rw [if_neg wasOpen]
        exact .singleton _
  | cons turn rest inductionHypothesis =>
      obtain ⟨can, restTimely⟩ := Bool.and_eq_true_iff.mp timely
      have later := inductionHypothesis (regular_take turn regular can) restTimely
      have now := (course_take setup turn regular.provisioned can).states_eq
      rw [effects, after, statesOf_append, now, List.append_assoc]
      exact State.isChain_notice later

/-- After a run the state of an open connection is that of the last sign in it, or else of the
last one before. -/
theorem heedsSign_after
    {turns : List (Turn Payload)} {controller : Controller Payload} {last : Option Report}
    (regular : Regular setup controller) (timely : isTimely setup turns controller = true)
    (heeds : HeedsSign last controller) :
    HeedsSign ((signs setup turns controller).getLast?.or last) (after setup turns controller) := by
  induction turns generalizing controller last with
  | nil =>
      exact heeds
  | cons turn rest inductionHypothesis =>
      obtain ⟨can, restTimely⟩ := Bool.and_eq_true_iff.mp timely
      have course := course_take setup turn regular.provisioned can
      have later :=
        inductionHypothesis (regular_take turn regular can) restTimely (course.heedsSign heeds)
      have lastSign :
          (signs setup (turn :: rest) controller).getLast?.or last =
            (signs setup rest (controller.take setup turn)).getLast?.or
              ((turn.sign? controller).or last) := by
        rw [signs, List.getLast?_append, Option.or_assoc]
        cases turn.sign? controller <;> rfl
      rw [lastSign]
      exact later

structure PhaseTellsState (setup : Setup) (turns : List (Turn Payload)) : Prop where
  backoff :
    ∀ attempt seconds, (after setup turns (.initial setup)).phase = .backoff attempt seconds →
      (after setup turns (.initial setup)).state = .reconnecting attempt seconds
  exhausted :
    (after setup turns (.initial setup)).phase = .halted .exhausted →
      (after setup turns (.initial setup)).state =
        .failed (exhaustedMessage setup.settings.backoff.attemptLimit)
  halted :
    ∀ why, why ≠ .exhausted → (after setup turns (.initial setup)).phase = .halted why →
      (after setup turns (.initial setup)).state = .disconnected
  waitingForToken :
    (after setup turns (.initial setup)).phase = .waitingForToken →
      (after setup turns (.initial setup)).state = .disconnected
  idle :
    (after setup turns (.initial setup)).phase = .idle →
      (after setup turns (.initial setup)).state = .disconnected
  /-- An open connection is shown as such, until it reports a fault; the fault, until it ends. -/
  opened :
    (after setup turns (.initial setup)).phase = .opened →
      ((signs setup turns (.initial setup)).getLast? = some .opened ∧
          (after setup turns (.initial setup)).state = .connected) ∨
        ∃ cause, (signs setup turns (.initial setup)).getLast? = some (.failed cause) ∧
          (after setup turns (.initial setup)).state = .failed connectionErrorMessage
  /-- Of attempts that are waited for only those within the limit are ever shown. -/
  attempt_bounds :
    ∀ attempt seconds,
      .reconnecting attempt seconds ∈ statesOf (effects setup turns (.initial setup)) →
        1 ≤ attempt ∧ attempt ≤ setup.settings.backoff.attemptLimit
  /-- Whoever is shown the state at some moment, and then the states that follow until the client is
  gone, never sees the same one twice in a row. -/
  states_differ :
    ∀ first rest, turns = first ++ rest →
      List.IsChain (· ≠ ·)
        ((after setup first (.initial setup)).state ::
          (statesOf (effects setup rest (after setup first (.initial setup))) ++
            statesOf (windDown { after setup turns (.initial setup) with outbox := [] }).outbox))

/-- After every timely run the phase tells the state, save while a dial is under way. -/
theorem phase_tells_state
    (setup : Setup) (turns : List (Turn Payload))
    (timely : isTimely setup turns (.initial setup) = true) :
    PhaseTellsState setup turns := by
  obtain ⟨regular, counted⟩ := regular_run (.initial setup) timely
  have state_eq := regular.state_eq
  constructor
  · intro attempt seconds phase
    rw [phase] at state_eq
    exact state_eq _ rfl
  · intro phase
    rw [phase] at state_eq
    exact state_eq _ rfl
  · intro why notExhausted phase
    rw [phase] at state_eq
    cases why with
    | exhausted =>
        exact absurd rfl notExhausted
    | _ =>
        exact state_eq _ rfl
  · intro phase
    rw [phase] at state_eq
    exact state_eq _ rfl
  · intro phase
    rw [phase] at state_eq
    exact state_eq _ rfl
  · have atFirst : HeedsSign none (initial setup : Controller Payload) := by
      rintro ⟨⟩
    have heeds := heedsSign_after (.initial setup) timely atFirst
    rw [Option.or_none] at heeds
    exact heeds
  · intro attempt seconds shown
    obtain ⟨effect, member, shows⟩ := List.mem_filterMap.mp shown
    exact counted effect member attempt seconds shows
  · rintro first rest rfl
    obtain ⟨firstTimely, restTimely⟩ := isTimely_append.mp timely
    rw [after_append]
    exact Controller.states_differ (regular_after (.initial setup) firstTimely) restTimely

/-- A connection reports a fault and its end, the backoff is counted down, and the next dial fails
as often as it may. -/
def failingDials : List (Turn String) :=
  [⟨.steady (some "key"), .command (.connect none)⟩,
    ⟨.steady (some "key"), .report 1 .opened⟩,
    ⟨.steady (some "key"), .report 1 (.failed "reset")⟩,
    ⟨.steady (some "key"), .report 1 (.closed 1006 "reset")⟩,
    ⟨.steady (some "key"), .timer .countdown⟩,
    ⟨.steady (some "key"), .timer .reconnect⟩,
    ⟨.steady (some "key"), .report 2 (.closed 1006 "refused")⟩]

theorem phase_tells_state_of_failingDials :
    isTimely .standard failingDials (.initial .standard) = true ∧
      PhaseTellsState .standard failingDials :=
  ⟨by decide, phase_tells_state .standard failingDials (by decide)⟩

/-- Every change of the state is shown once. -/
example :
    statesOf (effects .standard failingDials (.initial .standard)) =
      [.connected, .failed "connection error", .reconnecting 1 1, .reconnecting 1 0,
        .reconnecting 2 2] := by
  decide

end Controller

end Parley.Connection
