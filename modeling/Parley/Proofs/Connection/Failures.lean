import Parley.Proofs.Connection.Appearance
import Parley.Proofs.Connection.Halting

/-!
# Failures

In a run of failures the user does no more than send, there is always a token, and no connection
comes to anything: each ends in a way that asks for another attempt after a wait. What a single turn
of such a run does follows from the count of the failures before it.
-/

namespace Parley.Connection

variable {Payload : Type}

/-! ## Turns of a run of failures -/

/-- The report leaves a connection as it is, or ends it so that a further attempt is due after a
wait. -/
def Report.keepsFailing : Report → Bool
  | .opened => false
  | .text content =>
      match Wire.Arrival.ofText content with
      | .refusal _ => false
      | _ => true
  | .failed _ => true
  | .closed code _ =>
      code ≠ Wire.CloseCode.normal ∧ code ≠ Wire.CloseCode.tokenChanged ∧
        code ≠ Wire.CloseCode.rejected

/-- In the turn the user does no more than send, there is a token, and no connection comes to
anything. -/
def Turn.keepsFailing (turn : Turn Payload) (controller : Controller Payload) : Bool :=
  match turn.stimulus with
  | .command (.send _) => true
  | .command _ => false
  | .timer _ => (turn.around.answers 0).isSome
  | .report _ _ => (turn.heard? controller).all Report.keepsFailing

/-- The connection that the controller holds reports its end. -/
def Turn.ends (turn : Turn Payload) (controller : Controller Payload) : Bool :=
  match turn.heard? controller with
  | some (.closed _ _) => true
  | _ => false

def Turn.isDue (turn : Turn Payload) : Bool :=
  match turn.stimulus with
  | .timer .reconnect => true
  | _ => false

/-- No attempt is asked for beyond the limit. -/
theorem Phase.attempt_le_of_nextAttempt
    {phase : Phase} {backoff : Settings.Backoff} {attempt delay : Nat}
    (asked : phase.nextAttempt backoff = .after attempt delay) :
    attempt ≤ backoff.attemptLimit := by
  unfold nextAttempt at asked
  split at asked
  · cases asked
  · split at asked
    · cases asked
    next unspent =>
      cases asked
      exact Nat.not_le.mp unspent

namespace Turn

variable {turn : Turn Payload} {controller : Controller Payload}

theorem ends_iff :
    turn.ends controller = true ↔
      ∃ code reason, turn.heard? controller = some (.closed code reason) := by
  unfold ends
  split
  next code reason heard =>
    exact ⟨fun _ => ⟨code, reason, heard⟩, fun _ => rfl⟩
  next other =>
    constructor
    · intro ended
      cases ended
    · rintro ⟨code, reason, heard⟩
      exact absurd heard (other code reason)

theorem not_ends_of_sign
    (notEnd : ∀ code reason, turn.sign? controller ≠ some (.closed code reason)) :
    turn.ends controller = false := by
  rw [← Bool.not_eq_true, ends_iff]
  rintro ⟨code, reason, heard⟩
  exact notEnd code reason (Controller.sign?_eq_some_iff.mpr ⟨heard, rfl⟩)

theorem keepsFailing_of_heard
    (fails : turn.keepsFailing controller = true) {report : Report}
    (heard : turn.heard? controller = some report) : report.keepsFailing = true := by
  obtain ⟨serial, link, told, held, same⟩ := Controller.heard?_eq_some_iff.mp heard
  simpa [keepsFailing, told, heard] using fails

theorem sends_of_keepsFailing
    (fails : turn.keepsFailing controller = true) {order : Order Payload}
    (told : turn.stimulus = .command order) : ∃ payload, order = .send payload := by
  unfold keepsFailing at fails
  rw [told] at fails
  cases order with
  | send payload =>
      exact ⟨payload, rfl⟩
  | _ =>
      cases fails

theorem answered_of_keepsFailing
    (fails : turn.keepsFailing controller = true) {timer : Timer}
    (told : turn.stimulus = .timer timer) : turn.around.answers 0 ≠ none := by
  unfold keepsFailing at fails
  rw [told] at fails
  exact Option.isSome_iff_ne_none.mp fails

theorem not_asksAnew_of_keepsFailing (fails : turn.keepsFailing controller = true) :
    turn.asksAnew = false := by
  unfold keepsFailing at fails
  unfold asksAnew
  split
  next session told =>
    rw [told] at fails
    cases fails
  next told =>
    rw [told] at fails
    cases fails
  next =>
    rfl

/-- In a run of failures no connection is stopped for good. -/
theorem not_stops_of_keepsFailing
    (fails : turn.keepsFailing controller = true) {why : Halt} :
    ¬ turn.Stops controller why := by
  intro stops
  cases stops with
  | manual told =>
      obtain ⟨payload, sends⟩ := sends_of_keepsFailing fails told
      cases sends
  | refused content message heard refuses =>
      have goesOn := keepsFailing_of_heard fails heard
      simp [Report.keepsFailing, refuses] at goesOn
  | closed code reason why heard ends =>
      have goesOn := keepsFailing_of_heard fails heard
      simp only [Report.keepsFailing, decide_eq_true_eq] at goesOn
      rcases Aftermath.ofCode_eq_halt_iff.mp ends with ⟨normal, _⟩ | ⟨rejected, _⟩
      · exact goesOn.1 normal
      · exact goesOn.2.2 rejected

/-- In a run of failures a connection is lost only as it ends, and not to be dialled at once. -/
theorem loses_of_keepsFailing
    (fails : turn.keepsFailing controller = true) {immediate : Bool}
    (loses : turn.Loses controller immediate) :
    immediate = false ∧ turn.ends controller = true := by
  cases loses with
  | closed code reason immediate heard ends =>
      have goesOn := keepsFailing_of_heard fails heard
      simp only [Report.keepsFailing, decide_eq_true_eq] at goesOn
      refine ⟨?_, ends_iff.mpr ⟨code, reason, heard⟩⟩
      unfold Aftermath.ofCode at ends
      split at ends
      · cases ends
        exact decide_eq_false goesOn.2.1
      · split at ends <;> cases ends
  | tokenChanged session link token told held linkOpen answered changed =>
      obtain ⟨payload, sends⟩ := sends_of_keepsFailing fails told
      cases sends

end Turn

/-! ## Standings -/

inductive Standing (limit : Nat) (controller : Controller Payload) : Nat → Prop where
  | opened (phase : controller.phase = .opened) : Standing limit controller 0
  | dialling (count : Nat) (phase : controller.phase = .connecting count)
      (noReconnect : controller.timers.reconnect = none)
      (noCountdown : controller.timers.countdown = none) : Standing limit controller count
  | waiting (count seconds : Nat) (phase : controller.phase = .backoff count seconds) :
      Standing limit controller count
  | finished (phase : controller.phase = .halted .exhausted) : Standing limit controller (limit + 1)

namespace Standing

variable {limit count : Nat} {controller : Controller Payload}

theorem noLook
    (standing : Standing limit controller count) (provisioned : controller.Provisioned) :
    controller.timers.tokenLook = none := by
  unfold Controller.Provisioned at provisioned
  cases standing with
  | opened phase =>
      rw [phase] at provisioned
      exact provisioned.2.1
  | dialling count phase noReconnect noCountdown =>
      rw [phase] at provisioned
      exact provisioned.2
  | waiting count seconds phase =>
      rw [phase] at provisioned
      exact provisioned.2.1
  | finished phase =>
      rw [phase] at provisioned
      exact provisioned.2.1

/-- An attempt is due only while one is waited for. -/
theorem waits_of_due
    (standing : Standing limit controller count) (provisioned : controller.Provisioned)
    (armed : controller.timers.reconnect.isSome = true) :
    ∃ seconds, controller.phase = .backoff count seconds := by
  unfold Controller.Provisioned at provisioned
  cases standing with
  | opened phase =>
      rw [phase] at provisioned
      rw [provisioned.2.2.1] at armed
      cases armed
  | dialling count phase noReconnect noCountdown =>
      rw [noReconnect] at armed
      cases armed
  | waiting count seconds phase =>
      exact ⟨seconds, phase⟩
  | finished phase =>
      rw [phase] at provisioned
      rw [provisioned.2.2.1] at armed
      cases armed

/-- Whoever holds a connection counts the failures before it. -/
theorem attempts_of_held
    (standing : Standing limit controller count) (provisioned : controller.Provisioned)
    {link : Link} (held : controller.link = some link) : controller.phase.attempts = count := by
  unfold Controller.Provisioned at provisioned
  cases standing with
  | opened phase =>
      rw [phase]
      rfl
  | dialling count phase noReconnect noCountdown =>
      rw [phase]
      rfl
  | waiting count seconds phase =>
      rw [phase]
      rfl
  | finished phase =>
      rw [phase, held] at provisioned
      cases provisioned.1

/-- A dial of a run of failures has no timer left of the backoff before it. -/
theorem unarmed_of_dial
    (standing : Standing limit controller count) {attempts : Nat}
    (dialling : controller.phase = .connecting attempts) :
    controller.timers.reconnect = none ∧ controller.timers.countdown = none := by
  cases standing with
  | dialling count phase noReconnect noCountdown =>
      exact ⟨noReconnect, noCountdown⟩
  | opened phase =>
      rw [phase] at dialling
      cases dialling
  | waiting count seconds phase =>
      rw [phase] at dialling
      cases dialling
  | finished phase =>
      rw [phase] at dialling
      cases dialling

theorem attempt_eq
    (standing : Standing limit controller count) {attempt seconds : Nat}
    (backingOff : controller.phase = .backoff attempt seconds) : attempt = count := by
  cases standing with
  | waiting count left phase =>
      rw [phase] at backingOff
      exact (Phase.backoff.inj backingOff).1.symm
  | opened phase =>
      rw [phase] at backingOff
      cases backingOff
  | dialling count phase noReconnect noCountdown =>
      rw [phase] at backingOff
      cases backingOff
  | finished phase =>
      rw [phase] at backingOff
      cases backingOff

/-- In a run of failures a token is asked for only as an attempt is due. -/
theorem due_of_asks
    {turn : Turn Payload} (standing : Standing limit controller count)
    (provisioned : controller.Provisioned) (can : controller.canTake turn.stimulus = true)
    (fails : turn.keepsFailing controller = true) {place : Nat}
    (asks : turn.AsksForToken place) : turn.stimulus = .timer .reconnect ∧ place = 0 := by
  cases asks with
  | connect session told =>
      obtain ⟨payload, sends⟩ := Turn.sends_of_keepsFailing fails told
      cases sends
  | startOver told =>
      obtain ⟨payload, sends⟩ := Turn.sends_of_keepsFailing fails told
      cases sends
  | reconnect told =>
      exact ⟨told, rfl⟩
  | tokenLook told =>
      have noLook := standing.noLook provisioned
      simp [told, Controller.canTake, Schedule.due?, noLook] at can

/-- No more connections fail in a row than attempts are allowed, and the one before them. -/
theorem count_le
    {setup : Setup} (standing : Standing setup.settings.backoff.attemptLimit controller count)
    (regular : Regular setup controller) :
    count ≤ setup.settings.backoff.attemptLimit + 1 := by
  have attempts_le := regular.attempts_le
  cases standing with
  | opened phase =>
      exact Nat.zero_le _
  | dialling count phase noReconnect noCountdown =>
      rw [phase] at attempts_le
      exact Nat.le_succ_of_le attempts_le
  | waiting count seconds phase =>
      rw [phase] at attempts_le
      exact Nat.le_succ_of_le attempts_le
  | finished phase =>
      exact Nat.le_refl _

end Standing

/-- How a turn of a run of failures can go. -/
inductive Struggles (setup : Setup) (count : Nat) (turn : Turn Payload)
    (before after : Controller Payload) : Prop where
  | keeps (goesOn : turn.ends before = false) (notDue : turn.isDue = false)
      (is : after.stance = before.atRest)
  | faults (goesOn : turn.ends before = false) (notDue : turn.isDue = false)
      (is : after.stance = before.atRest.shows (.failed connectionErrorMessage))
  | counts (seconds : Nat) (goesOn : turn.ends before = false) (notDue : turn.isDue = false)
      (backingOff : before.phase = .backoff count seconds)
      (is : after.stance =
        Stance.shows (.reconnecting count (seconds - 1))
          { before.atRest with
            phase := .backoff count (seconds - 1)
            countdown := before.timers.countdown.map (· + 1000) })
  | dials (token : String) (seconds : Nat) (goesOn : turn.ends before = false)
      (due : turn.isDue = true) (backingOff : before.phase = .backoff count seconds)
      (is : after.stance =
        Stance.dialling (before.serial + 1) token count
          { before.atRest with reconnect := none, countdown := none })
  | backsOff (ends : turn.ends before = true)
      (unspent : count < setup.settings.backoff.attemptLimit)
      (is : after.stance =
        before.atRest.vacated.backsOff (count + 1) (setup.settings.backoff.delay count)
          turn.around.now)
  | exhausts (ends : turn.ends before = true)
      (spent : setup.settings.backoff.attemptLimit ≤ count)
      (is : after.stance =
        (before.atRest.vacated.parked (.halted .exhausted)).shows
          (.failed (exhaustedMessage setup.settings.backoff.attemptLimit)))
      (emptied : after.backlog.items = [])

theorem Course.struggles
    {setup : Setup} {count : Nat} {turn : Turn Payload} {before after : Controller Payload}
    (course : Course setup turn before after)
    (standing : Standing setup.settings.backoff.attemptLimit before count)
    (provisioned : before.Provisioned) (can : before.canTake turn.stimulus = true)
    (fails : turn.keepsFailing before = true) :
    Struggles setup count turn before after := by
  have goesOn_of_timer {timer : Timer} (told : turn.stimulus = .timer timer) :
      turn.ends before = false := by
    simp [Turn.ends, Controller.heard?_of_timer told]
  have attempts_of_ends (ends : turn.ends before = true) : before.phase.attempts = count := by
    obtain ⟨code, reason, heard⟩ := Turn.ends_iff.mp ends
    obtain ⟨serial, link, told, held, same⟩ := Controller.heard?_eq_some_iff.mp heard
    exact standing.attempts_of_held provisioned held
  cases course with
  | keeps noSign notDue is =>
      refine .keeps (Turn.not_ends_of_sign (by simp [noSign])) ?_ is
      unfold Turn.isDue
      split
      next told =>
        exact absurd told notDue
      next =>
        rfl
  | fades attempts reconnect countdown noSign dialling less told is =>
      obtain ⟨noReconnect, noCountdown⟩ := standing.unarmed_of_dial dialling
      rcases told with told | told
      · simp [told, Controller.canTake, Schedule.due?, noReconnect] at can
      · simp [told, Controller.canTake, Schedule.due?, noCountdown] at can
  | counts attempt seconds backingOff told is =>
      obtain rfl := standing.attempt_eq backingOff
      exact .counts seconds (goesOn_of_timer told) (by simp [Turn.isDue, told]) backingOff is
  | opens link held sign is =>
      have heard := (Controller.sign?_eq_some_iff.mp sign).1
      have goesOn := Turn.keepsFailing_of_heard fails heard
      cases goesOn
  | faults link cause held sign is =>
      have heard := (Controller.sign?_eq_some_iff.mp sign).1
      obtain ⟨serial, heldLink, told, _, _⟩ := Controller.heard?_eq_some_iff.mp heard
      exact .faults (Turn.not_ends_of_sign (by simp [sign])) (by simp [Turn.isDue, told]) is
  | stops why cause is emptied =>
      exact absurd cause (Turn.not_stops_of_keepsFailing fails)
  | exhausts immediate cause spent is emptied =>
      obtain ⟨_, ends⟩ := Turn.loses_of_keepsFailing fails cause
      rw [attempts_of_ends ends] at spent
      exact .exhausts ends spent is emptied
  | backsOff immediate cause unspent is =>
      obtain ⟨rfl, ends⟩ := Turn.loses_of_keepsFailing fails cause
      rw [attempts_of_ends ends] at unspent is
      exact .backsOff ends unspent is
  | awaits place asks lacks is =>
      obtain ⟨told, rfl⟩ := standing.due_of_asks provisioned can fails asks
      exact absurd lacks (Turn.answered_of_keepsFailing fails told)
  | dials token place asks answered notOpen reconnect countdown less due is =>
      obtain ⟨told, rfl⟩ := standing.due_of_asks provisioned can fails asks
      obtain ⟨rfl, rfl⟩ := due told
      have armed : before.timers.reconnect.isSome = true := by
        simpa [told, Controller.canTake, Schedule.due?] using can
      obtain ⟨seconds, backingOff⟩ := standing.waits_of_due provisioned armed
      have attempts : before.phase.attempts = count := by
        rw [backingOff]
        rfl
      rw [attempts] at is
      exact .dials token seconds (goesOn_of_timer told) (by simp [Turn.isDue, told])
        backingOff is
  | restarts token told answered is =>
      obtain ⟨payload, sends⟩ := Turn.sends_of_keepsFailing fails told
      cases sends

namespace Struggles

variable {setup : Setup} {count : Nat} {turn : Turn Payload} {before after : Controller Payload}

theorem standing
    (struggles : Struggles setup count turn before after)
    (standing : Standing setup.settings.backoff.attemptLimit before count)
    (regular : Regular setup before) :
    Standing setup.settings.backoff.attemptLimit after
      (if turn.ends before then count + 1 else count) := by
  have stays (phase : after.phase = before.phase)
      (reconnect : after.timers.reconnect = before.timers.reconnect)
      (countdown : after.timers.countdown = before.timers.countdown) :
      Standing setup.settings.backoff.attemptLimit after count := by
    cases standing with
    | opened isOpened =>
        exact .opened (phase.trans isOpened)
    | dialling count isDialling noReconnect noCountdown =>
        exact .dialling count (phase.trans isDialling) (reconnect.trans noReconnect)
          (countdown.trans noCountdown)
    | waiting count seconds isWaiting =>
        exact .waiting count seconds (phase.trans isWaiting)
    | finished isOver =>
        exact .finished (phase.trans isOver)
  cases struggles with
  | keeps goesOn notDue is =>
      rw [goesOn]
      exact stays (congrArg Stance.phase is) (congrArg Stance.reconnect is)
        (congrArg Stance.countdown is)
  | faults goesOn notDue is =>
      rw [goesOn]
      exact stays (congrArg Stance.phase is) (congrArg Stance.reconnect is)
        (congrArg Stance.countdown is)
  | counts seconds goesOn notDue backingOff is =>
      rw [goesOn]
      exact .waiting count (seconds - 1) (congrArg Stance.phase is)
  | dials token seconds goesOn due backingOff is =>
      rw [goesOn]
      exact .dialling count (congrArg Stance.phase is) (congrArg Stance.reconnect is)
        (congrArg Stance.countdown is)
  | backsOff ends unspent is =>
      rw [ends]
      exact .waiting (count + 1) _ (congrArg Stance.phase is)
  | exhausts ends spent is emptied =>
      obtain ⟨code, reason, heard⟩ := Turn.ends_iff.mp ends
      obtain ⟨serial, link, told, held, same⟩ := Controller.heard?_eq_some_iff.mp heard
      have attempts := standing.attempts_of_held regular.provisioned held
      have within := regular.attempts_le
      rw [attempts] at within
      have last : count = setup.settings.backoff.attemptLimit := Nat.le_antisymm within spent
      rw [ends, last]
      exact .finished (congrArg Stance.phase is)

/-- The attempt after the present one is shown only as it is waited for. -/
theorem unshown
    (struggles : Struggles setup count turn before after) {stale : Prop}
    (fresh : ∀ seconds, before.state = .reconnecting (count + 1) seconds → count = 0 ∧ stale)
    {seconds : Nat}
    (shows : after.state =
      .reconnecting ((if turn.ends before then count + 1 else count) + 1) seconds) :
    (if turn.ends before then count + 1 else count) = 0 ∧ stale := by
  cases struggles with
  | keeps goesOn notDue is =>
      have state : after.state = before.state := congrArg Stance.state is
      rw [goesOn, state] at shows
      rw [goesOn]
      exact fresh seconds shows
  | faults goesOn notDue is =>
      have state : after.state = .failed connectionErrorMessage := congrArg Stance.state is
      rw [state] at shows
      cases shows
  | counts left goesOn notDue backingOff is =>
      have state : after.state = .reconnecting count (left - 1) := congrArg Stance.state is
      rw [goesOn, state] at shows
      have same : count = count + 1 := (State.reconnecting.inj shows).1
      omega
  | dials token left goesOn due backingOff is =>
      have state : after.state = before.state := congrArg Stance.state is
      rw [goesOn, state] at shows
      rw [goesOn]
      exact fresh seconds shows
  | backsOff ends unspent is =>
      obtain ⟨left, state⟩ : ∃ left, after.state = .reconnecting (count + 1) left :=
        ⟨_, congrArg Stance.state is⟩
      rw [ends, state] at shows
      have same : count + 1 = count + 1 + 1 := (State.reconnecting.inj shows).1
      omega
  | exhausts ends spent is emptied =>
      have state :
          after.state = .failed (exhaustedMessage setup.settings.backoff.attemptLimit) :=
        congrArg Stance.state is
      rw [state] at shows
      cases shows

end Struggles

end Parley.Connection
