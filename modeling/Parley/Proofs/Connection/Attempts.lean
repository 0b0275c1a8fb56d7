import Parley.Proofs.Connection.Failures
import Parley.Proofs.Settings.Delays

/-!
# Attempts

Every connection that fails is followed by another attempt, after a wait that doubles up to a cap,
until too many have failed in a row. The main statement follows a controller through a run of
failures: which attempt each of them leads to, when it is made, and that nothing follows the last.
-/

namespace Parley.Connection

variable {Payload : Type}

/-! ## Runs of failures -/

namespace Controller

variable {setup : Setup}

def keepsFailing (setup : Setup) : List (Turn Payload) → Controller Payload → Bool
  | [], _ => true
  | turn :: rest, controller =>
      turn.keepsFailing controller && keepsFailing setup rest (controller.take setup turn)

/-- How often the connection that is held reports its end. -/
def endings (setup : Setup) : List (Turn Payload) → Controller Payload → Nat
  | [], _ => 0
  | turn :: rest, controller =>
      (if turn.ends controller then 1 else 0) + endings setup rest (controller.take setup turn)

theorem keepsFailing_append
    {first second : List (Turn Payload)} {controller : Controller Payload} :
    keepsFailing setup (first ++ second) controller = true ↔
      keepsFailing setup first controller = true ∧
        keepsFailing setup second (after setup first controller) = true := by
  induction first generalizing controller with
  | nil =>
      simp [keepsFailing, after]
  | cons turn rest inductionHypothesis =>
      simp only [List.cons_append, keepsFailing, after, Bool.and_eq_true, inductionHypothesis,
        and_assoc]

theorem unasked_of_keepsFailing
    {turns : List (Turn Payload)} {controller : Controller Payload}
    (fails : keepsFailing setup turns controller = true) :
    ∀ turn ∈ turns, turn.asksAnew = false := by
  induction turns generalizing controller with
  | nil =>
      intro turn member
      cases member
  | cons turn rest inductionHypothesis =>
      obtain ⟨turnFails, restFails⟩ := Bool.and_eq_true_iff.mp fails
      exact List.forall_mem_cons.mpr
        ⟨Turn.not_asksAnew_of_keepsFailing turnFails, inductionHypothesis restFails⟩

/-- What holds in a run of failures after so many of them. The state of an attempt may be shown
before the attempt is due only if it was `stale` from the start. -/
structure Failing (setup : Setup) (stale : Prop) (count : Nat) (controller : Controller Payload) :
    Prop where
  regular : Regular setup controller
  standing : Standing setup.settings.backoff.attemptLimit controller count
  fresh :
    ∀ seconds, controller.state = .reconnecting (count + 1) seconds → count = 0 ∧ stale

/-- No connection has failed yet: one is open, or the first is dialled. -/
def Unfailed (controller : Controller Payload) : Prop :=
  controller.phase = .opened ∨ controller.phase = .connecting 0

namespace Failing

variable {stale : Prop} {count : Nat} {turn : Turn Payload} {before : Controller Payload}
  {turns : List (Turn Payload)}

theorem start (regular : Regular setup before) (unfailed : before.Unfailed) :
    Failing setup (∃ seconds, before.state = .reconnecting 1 seconds) 0 before where
  regular := regular
  standing := by
    rcases unfailed with opened | dialling
    · exact .opened opened
    · obtain ⟨noReconnect, noCountdown⟩ := regular.first_dial dialling
      exact .dialling 0 dialling noReconnect noCountdown
  fresh := fun seconds shows => ⟨rfl, seconds, shows⟩

/-- A turn of a run of failures goes one of the ways in which it can go after so many failures. -/
theorem struggles
    (failing : Failing setup stale count before) (can : before.canTake turn.stimulus = true)
    (fails : turn.keepsFailing before = true) :
    Struggles setup count turn before (before.take setup turn) :=
  (course_take setup turn failing.regular.provisioned can).struggles failing.standing
    failing.regular.provisioned can fails

theorem take
    (failing : Failing setup stale count before) (can : before.canTake turn.stimulus = true)
    (fails : turn.keepsFailing before = true) :
    Failing setup stale (if turn.ends before then count + 1 else count)
      (before.take setup turn) where
  regular := regular_take turn failing.regular can
  standing := (failing.struggles can fails).standing failing.standing failing.regular
  fresh := fun _ shows => (failing.struggles can fails).unshown failing.fresh shows

theorem run
    (failing : Failing setup stale count before) (timely : isTimely setup turns before = true)
    (fails : keepsFailing setup turns before = true) :
    Failing setup stale (count + endings setup turns before) (after setup turns before) := by
  induction turns generalizing before count with
  | nil =>
      exact failing
  | cons turn rest inductionHypothesis =>
      obtain ⟨can, restTimely⟩ := Bool.and_eq_true_iff.mp timely
      obtain ⟨turnFails, restFails⟩ := Bool.and_eq_true_iff.mp fails
      have later := inductionHypothesis (failing.take can turnFails) restTimely restFails
      have counted :
          (if turn.ends before then count + 1 else count) +
              endings setup rest (before.take setup turn) =
            count + endings setup (turn :: rest) before := by
        rw [endings]
        cases turn.ends before
        · simp
        · simp [Nat.add_assoc]
      rw [counted] at later
      exact later

end Failing

/-! ## Waits -/

/-- While an attempt is waited for it stays due at its time; once it is due there is one dial. -/
structure DialsOnce (setup : Setup) (attempt due : Nat) (wait : List (Turn Payload))
    (controller : Controller Payload) : Prop where
  dials_eq :
    (dialled (livesOf (effects setup wait controller))).length =
      if wait.any Turn.isDue then 1 else 0
  due_eq :
    wait.any Turn.isDue = false → (after setup wait controller).timers.reconnect = some due
  phase_eq :
    wait.any Turn.isDue = true → (after setup wait controller).phase = .connecting attempt

section Waits

variable {stale : Prop} {count due : Nat} {before : Controller Payload}
  {wait : List (Turn Payload)}

theorem endings_cons_eq_zero
    {turn : Turn Payload} (goesOn : endings setup (turn :: wait) before = 0) :
    turn.ends before = false ∧ endings setup wait (before.take setup turn) = 0 := by
  rw [endings] at goesOn
  obtain ⟨now, later⟩ := Nat.add_eq_zero_iff.mp goesOn
  refine ⟨?_, later⟩
  cases ends : turn.ends before with
  | false =>
      rfl
  | true =>
      rw [ends] at now
      cases now

/-- A dial of a run of failures is followed by no other until it ends. -/
theorem dials_while_dialling
    (failing : Failing setup stale count before) (dialling : before.phase = .connecting count)
    (timely : isTimely setup wait before = true)
    (fails : keepsFailing setup wait before = true) (goesOn : endings setup wait before = 0) :
    dialled (livesOf (effects setup wait before)) = [] ∧
      (after setup wait before).phase = .connecting count := by
  induction wait generalizing before with
  | nil =>
      exact ⟨rfl, dialling⟩
  | cons turn rest inductionHypothesis =>
      obtain ⟨can, restTimely⟩ := Bool.and_eq_true_iff.mp timely
      obtain ⟨turnFails, restFails⟩ := Bool.and_eq_true_iff.mp fails
      obtain ⟨noEnd, restGoesOn⟩ := endings_cons_eq_zero goesOn
      have next := failing.take can turnFails
      rw [noEnd] at next
      have stays (phase : (before.take setup turn).phase = before.phase)
          (dials : dialled (livesOf (before.take setup turn).outbox) = []) :
          dialled (livesOf (effects setup (turn :: rest) before)) = [] ∧
            (after setup (turn :: rest) before).phase = .connecting count := by
        obtain ⟨laterDials, laterPhase⟩ :=
          inductionHypothesis next (phase.trans dialling) restTimely restFails restGoesOn
        rw [effects, livesOf_append, dialled_append, dials, laterDials]
        exact ⟨rfl, laterPhase⟩
      cases failing.struggles can turnFails with
      | keeps _ notDue is =>
          exact stays (congrArg Stance.phase is) (congrArg Stance.dials is)
      | faults _ notDue is =>
          exact stays (congrArg Stance.phase is) (congrArg Stance.dials is)
      | counts seconds _ notDue backingOff is =>
          rw [dialling] at backingOff
          cases backingOff
      | dials token seconds _ isDue backingOff is =>
          rw [dialling] at backingOff
          cases backingOff
      | backsOff ends unspent is =>
          rw [noEnd] at ends
          cases ends
      | exhausts ends spent is emptied =>
          rw [noEnd] at ends
          cases ends

/-- In a run of failures in which nothing has ended yet there is one dial, when the attempt is
due. -/
theorem dialsOnce_while_waiting
    (failing : Failing setup stale count before) {seconds : Nat}
    (backingOff : before.phase = .backoff count seconds)
    (armed : before.timers.reconnect = some due) (timely : isTimely setup wait before = true)
    (fails : keepsFailing setup wait before = true) (goesOn : endings setup wait before = 0) :
    DialsOnce setup count due wait before := by
  induction wait generalizing before seconds with
  | nil =>
      exact ⟨rfl, fun _ => armed, fun isDue => Bool.noConfusion isDue⟩
  | cons turn rest inductionHypothesis =>
      obtain ⟨can, restTimely⟩ := Bool.and_eq_true_iff.mp timely
      obtain ⟨turnFails, restFails⟩ := Bool.and_eq_true_iff.mp fails
      obtain ⟨noEnd, restGoesOn⟩ := endings_cons_eq_zero goesOn
      have next := failing.take can turnFails
      rw [noEnd] at next
      have waits (notDue : turn.isDue = false) {left : Nat}
          (phase : (before.take setup turn).phase = .backoff count left)
          (reconnect : (before.take setup turn).timers.reconnect = before.timers.reconnect)
          (dials : dialled (livesOf (before.take setup turn).outbox) = []) :
          DialsOnce setup count due (turn :: rest) before := by
        have later :=
          inductionHypothesis next phase (reconnect.trans armed) restTimely restFails restGoesOn
        have sameDue : (turn :: rest).any Turn.isDue = rest.any Turn.isDue := by
          rw [List.any_cons, notDue, Bool.false_or]
        constructor
        · rw [effects, livesOf_append, dialled_append, dials, List.nil_append, sameDue]
          exact later.dials_eq
        · rw [sameDue]
          exact later.due_eq
        · rw [sameDue]
          exact later.phase_eq
      cases failing.struggles can turnFails with
      | keeps _ notDue is =>
          have phase : (before.take setup turn).phase = before.phase := congrArg Stance.phase is
          exact waits notDue (phase.trans backingOff) (congrArg Stance.reconnect is)
            (congrArg Stance.dials is)
      | faults _ notDue is =>
          have phase : (before.take setup turn).phase = before.phase := congrArg Stance.phase is
          exact waits notDue (phase.trans backingOff) (congrArg Stance.reconnect is)
            (congrArg Stance.dials is)
      | counts left _ notDue _ is =>
          exact waits notDue (congrArg Stance.phase is) (congrArg Stance.reconnect is)
            (congrArg Stance.dials is)
      | dials token left _ isDue _ is =>
          have dialling : (before.take setup turn).phase = .connecting count :=
            congrArg Stance.phase is
          have dials : dialled (livesOf (before.take setup turn).outbox) = [before.serial + 1] :=
            congrArg Stance.dials is
          have someDue : (turn :: rest).any Turn.isDue = true := by
            rw [List.any_cons, isDue, Bool.true_or]
          obtain ⟨laterDials, laterPhase⟩ :=
            dials_while_dialling next dialling restTimely restFails restGoesOn
          constructor
          · rw [effects, livesOf_append, dialled_append, dials, laterDials, someDue]
            rfl
          · rw [someDue]
            exact Bool.noConfusion
          · exact fun _ => laterPhase
      | backsOff ends unspent is =>
          rw [noEnd] at ends
          cases ends
      | exhausts ends spent is emptied =>
          rw [noEnd] at ends
          cases ends

end Waits

/-! ## Whole runs -/

/-- A connection fails in a run of failures, before which none had failed. -/
structure Fails (setup : Setup) (turns before first : List (Turn Payload)) (turn : Turn Payload)
    (rest : List (Turn Payload)) : Prop where
  splits : turns = before ++ (first ++ turn :: rest)
  unfailed : (after setup before (.initial setup)).Unfailed
  failing : keepsFailing setup (first ++ turn :: rest) (after setup before (.initial setup)) = true
  ends : turn.ends (after setup (before ++ first) (.initial setup)) = true

/-- After so many failures another attempt is waited for: its count and its delay are shown, and it
is made once the delay has passed. -/
structure BacksOff (setup : Setup) (start : Controller Payload) (count delay : Nat)
    (turn : Turn Payload) (before : Controller Payload) (rest : List (Turn Payload)) : Prop where
  phase_eq :
    (before.take setup turn).phase = .backoff (count + 1) (Settings.wholeSeconds delay)
  state_eq :
    (before.take setup turn).state = .reconnecting (count + 1) (Settings.wholeSeconds delay)
  seconds_cover :
    ∀ seconds, Settings.wholeSeconds delay ≤ seconds ↔ delay ≤ seconds * 1000
  states_eq :
    statesOf (before.take setup turn).outbox =
      before.state.notice (.reconnecting (count + 1) (Settings.wholeSeconds delay))
  /-- Only a first attempt can be shown already, from before the user started over. -/
  shown :
    0 < count ∨ start.phase = .opened ∨ (∀ seconds, start.state ≠ .reconnecting 1 seconds) →
      statesOf (before.take setup turn).outbox =
        [.reconnecting (count + 1) (Settings.wholeSeconds delay)]
  dials_eq : dialled (livesOf (before.take setup turn).outbox) = []
  dialsOnce :
    ∀ wait later, rest = wait ++ later → endings setup wait (before.take setup turn) = 0 →
      DialsOnce setup (count + 1) (turn.around.now + delay) wait (before.take setup turn)

/-- After the last failure everything halts, and nothing is dialled any more. -/
structure Exhausts (setup : Setup) (turn : Turn Payload) (before : Controller Payload)
    (rest : List (Turn Payload)) : Prop where
  phase_eq : (before.take setup turn).phase = .halted .exhausted
  state_eq :
    (before.take setup turn).state =
      .failed (exhaustedMessage setup.settings.backoff.attemptLimit)
  states_eq :
    statesOf (before.take setup turn).outbox =
      before.state.notice (.failed (exhaustedMessage setup.settings.backoff.attemptLimit))
  backlog_eq : (before.take setup turn).backlog.items = []
  reconnect_eq : (before.take setup turn).timers.reconnect = none
  countdown_eq : (before.take setup turn).timers.countdown = none
  dials_eq :
    dialled (livesOf ((before.take setup turn).outbox ++
      effects setup rest (before.take setup turn))) = []

/-- What becomes of attempts in a run. -/
structure RetryBudget (setup : Setup) (turns : List (Turn Payload)) : Prop where
  backsOff :
    ∀ before first turn rest, Fails setup turns before first turn rest →
      ∀ count, endings setup first (after setup before (.initial setup)) = count →
        count < setup.settings.backoff.attemptLimit →
          BacksOff setup (after setup before (.initial setup)) count
            (min (setup.settings.backoff.baseDelay * Nat.pow 2 count)
              setup.settings.backoff.maxDelay)
            turn (after setup (before ++ first) (.initial setup)) rest
  exhausts :
    ∀ before first turn rest, Fails setup turns before first turn rest →
      endings setup first (after setup before (.initial setup)) =
          setup.settings.backoff.attemptLimit →
        Exhausts setup turn (after setup (before ++ first) (.initial setup)) rest
  endings_le :
    ∀ before rest, turns = before ++ rest → (after setup before (.initial setup)).Unfailed →
      keepsFailing setup rest (after setup before (.initial setup)) = true →
        endings setup rest (after setup before (.initial setup)) ≤
          setup.settings.backoff.attemptLimit + 1
  opened_resets :
    ∀ before turn rest, turns = before ++ turn :: rest →
      turn.heard? (after setup before (.initial setup)) = some .opened →
        (after setup (before ++ [turn]) (.initial setup)).phase = .opened ∧
          (after setup (before ++ [turn]) (.initial setup)).phase.attempts = 0
  attempts_le :
    ∀ before rest, turns = before ++ rest →
      (after setup before (.initial setup)).phase.attempts ≤
        setup.settings.backoff.attemptLimit
  /-- Whatever attempt is asked for, its number still fits a half word. -/
  attempt_fits :
    ∀ before rest attempt delay, turns = before ++ rest →
      (after setup before (.initial setup)).phase.nextAttempt setup.settings.backoff =
          .after attempt delay →
        attempt ≤ setup.settings.backoff.attemptLimit ∧ attempt ≤ greatestHalfWord

structure AtFailure (setup : Setup) (stale : Prop) (count : Nat) (turn : Turn Payload)
    (before : Controller Payload) (rest : List (Turn Payload)) : Prop where
  failing : Failing setup stale count before
  can : before.canTake turn.stimulus = true
  turnFails : turn.keepsFailing before = true
  ends : turn.ends before = true
  restTimely : isTimely setup rest (before.take setup turn) = true
  restFails : keepsFailing setup rest (before.take setup turn) = true

theorem Fails.atFailure
    {turns before first rest : List (Turn Payload)} {turn : Turn Payload}
    (fails : Fails setup turns before first turn rest)
    (timely : isTimely setup turns (.initial setup) = true) :
    AtFailure setup
      (∃ seconds, (after setup before (.initial setup)).state = .reconnecting 1 seconds)
      (endings setup first (after setup before (.initial setup))) turn
      (after setup (before ++ first) (.initial setup)) rest := by
  obtain ⟨rfl, unfailed, failing, ends⟩ := fails
  obtain ⟨beforeTimely, laterTimely⟩ := isTimely_append.mp timely
  obtain ⟨firstTimely, turnsTimely⟩ := isTimely_append.mp laterTimely
  obtain ⟨firstFails, turnsFail⟩ := keepsFailing_append.mp failing
  have regular := regular_after (.initial setup) beforeTimely
  have arrived := (Failing.start regular unfailed).run firstTimely firstFails
  rw [Nat.zero_add] at arrived
  rw [after_append] at ends ⊢
  obtain ⟨can, restTimely⟩ := Bool.and_eq_true_iff.mp turnsTimely
  obtain ⟨turnFails, restFails⟩ := Bool.and_eq_true_iff.mp turnsFail
  exact ⟨arrived, can, turnFails, ends, restTimely, restFails⟩

namespace AtFailure

variable {stale : Prop} {count : Nat} {turn : Turn Payload} {before : Controller Payload}
  {rest : List (Turn Payload)}

/-- A failure is followed by a backoff, or is the last one. -/
theorem cases_of_count (atFailure : AtFailure setup stale count turn before rest) :
    (count < setup.settings.backoff.attemptLimit ∧
        (before.take setup turn).stance =
          before.atRest.vacated.backsOff (count + 1) (setup.settings.backoff.delay count)
            turn.around.now) ∨
      (setup.settings.backoff.attemptLimit ≤ count ∧
        (before.take setup turn).stance =
          (before.atRest.vacated.parked (.halted .exhausted)).shows
            (.failed (exhaustedMessage setup.settings.backoff.attemptLimit)) ∧
        (before.take setup turn).backlog.items = []) := by
  have ends := atFailure.ends
  cases atFailure.failing.struggles atFailure.can atFailure.turnFails with
  | backsOff _ unspent is =>
      exact Or.inl ⟨unspent, is⟩
  | exhausts _ spent is emptied =>
      exact Or.inr ⟨spent, is, emptied⟩
  | keeps goesOn notDue is =>
      rw [goesOn] at ends
      cases ends
  | faults goesOn notDue is =>
      rw [goesOn] at ends
      cases ends
  | counts seconds goesOn notDue backingOff is =>
      rw [goesOn] at ends
      cases ends
  | dials token seconds goesOn due backingOff is =>
      rw [goesOn] at ends
      cases ends

theorem next (atFailure : AtFailure setup stale count turn before rest) :
    Failing setup stale (count + 1) (before.take setup turn) := by
  have later := atFailure.failing.take atFailure.can atFailure.turnFails
  rw [atFailure.ends] at later
  exact later

theorem backsOff
    {start : Controller Payload}
    (atFailure :
      AtFailure setup (∃ seconds, start.state = .reconnecting 1 seconds) count turn before rest)
    (fits : setup.settings.backoff.FitsWords)
    (opened : start.phase = .opened → ∀ seconds, start.state ≠ .reconnecting 1 seconds)
    (unspent : count < setup.settings.backoff.attemptLimit) :
    BacksOff setup start count
      (min (setup.settings.backoff.baseDelay * Nat.pow 2 count) setup.settings.backoff.maxDelay)
      turn before rest := by
  rcases atFailure.cases_of_count with ⟨_, is⟩ | ⟨spent, _⟩
  · rw [Settings.Backoff.delay_eq fits] at is
    have phase := congrArg Stance.phase is
    have states := congrArg Stance.states is
    refine ⟨phase, congrArg Stance.state is, fun _ => Settings.wholeSeconds_le_iff, states, ?_,
      congrArg Stance.dials is, ?_⟩
    · intro unstale
      refine states.trans (if_neg ?_)
      intro already
      obtain ⟨first, seconds, stale⟩ := atFailure.failing.fresh _ already
      rcases unstale with later | isOpened | unstale
      · exact absurd first (Nat.ne_of_gt later)
      · exact opened isOpened seconds stale
      · exact unstale seconds stale
    · rintro wait later rfl goesOn
      have waitTimely := (isTimely_append.mp atFailure.restTimely).1
      have waitFails := (keepsFailing_append.mp atFailure.restFails).1
      exact dialsOnce_while_waiting atFailure.next phase (congrArg Stance.reconnect is)
        waitTimely waitFails goesOn
  · exact absurd unspent (Nat.not_lt.mpr spent)

theorem exhausts
    (atFailure : AtFailure setup stale count turn before rest)
    (spent : count = setup.settings.backoff.attemptLimit) :
    Exhausts setup turn before rest := by
  rcases atFailure.cases_of_count with ⟨unspent, _⟩ | ⟨_, is, emptied⟩
  · exact absurd spent (Nat.ne_of_lt unspent)
  · have phase : (before.take setup turn).phase = .halted .exhausted :=
      congrArg Stance.phase is
    have dials : dialled (livesOf (before.take setup turn).outbox) = [] :=
      congrArg Stance.dials is
    have resting := atFailure.next.regular.provisioned.resting phase
    have rests :=
      rests_run resting (unasked_of_keepsFailing atFailure.restFails) atFailure.restTimely
    refine ⟨phase, congrArg Stance.state is, congrArg Stance.states is, emptied,
      congrArg Stance.reconnect is, congrArg Stance.countdown is, ?_⟩
    rw [livesOf_append, dialled_append, dials, rests.lives_eq]
    rfl

end AtFailure

/-- In every timely run, each failure in a row of failures leads to one further attempt after its
delay, until so many have failed that everything halts. -/
theorem retry_budget
    (setup : Setup) (fits : setup.settings.backoff.FitsWords) (turns : List (Turn Payload))
    (timely : isTimely setup turns (.initial setup) = true) :
    RetryBudget setup turns := by
  have regular (before rest : List (Turn Payload)) (splits : turns = before ++ rest) :
      Regular setup (after setup before (.initial setup)) := by
    subst splits
    exact regular_after (.initial setup) (isTimely_append.mp timely).1
  constructor
  · rintro before first turn rest fails count rfl unspent
    refine (fails.atFailure timely).backsOff fits ?_ unspent
    intro opened seconds reconnecting
    have beforeTimely : isTimely setup before (.initial setup) = true := by
      have whole := timely
      rw [fails.splits] at whole
      exact (isTimely_append.mp whole).1
    have atFirst : HeedsSign none (initial setup : Controller Payload) := by
      rintro ⟨⟩
    rcases heedsSign_after (.initial setup) beforeTimely atFirst opened with
      ⟨_, connected⟩ | ⟨cause, _, failed⟩
    · rw [connected] at reconnecting
      cases reconnecting
    · rw [failed] at reconnecting
      cases reconnecting
  · intro before first turn rest fails spent
    exact (fails.atFailure timely).exhausts spent
  · rintro before rest rfl unfailed failing
    have restTimely := (isTimely_append.mp timely).2
    have last := (Failing.start (regular before rest rfl) unfailed).run restTimely failing
    rw [Nat.zero_add] at last
    exact last.standing.count_le last.regular
  · rintro before turn rest rfl heard
    obtain ⟨backlog, moved, opens, _⟩ :=
      onOpened_frame turn.around.accepts { after setup before (.initial setup) with outbox := [] }
    have phase :
        ((after setup before (.initial setup)).take setup turn).phase = .opened := by
      rw [take_of_opened setup heard, opens]
    rw [after_append]
    refine ⟨phase, ?_⟩
    exact congrArg Phase.attempts phase
  · intro before rest splits
    exact (regular before rest splits).attempts_le
  · intro before rest attempt delay splits asked
    have within : attempt ≤ setup.settings.backoff.attemptLimit :=
      Phase.attempt_le_of_nextAttempt asked
    exact ⟨within, Nat.le_trans within fits.attemptLimit_le⟩

/-- A server on the same machine, to which one attempt is made after a failure. -/
def oneAttempt : Setup :=
  { Setup.standard with
    settings := { Settings.Client.standard with backoff := ⟨1000, 30000, 1⟩ } }

/-- An open connection ends, and so does the dial that follows. -/
def twoFailures : List (Turn String) :=
  [⟨.steady (some "key"), .command (.connect none)⟩,
    ⟨.steady (some "key"), .report 1 .opened⟩,
    ⟨.steady (some "key"), .command (.send "hello")⟩,
    ⟨.steady (some "key"), .report 1 (.closed 1006 "reset")⟩,
    ⟨.steady (some "key"), .timer .countdown⟩,
    ⟨.steady (some "key"), .timer .reconnect⟩,
    ⟨.steady (some "key"), .report 2 (.closed 1006 "refused")⟩]

theorem retry_budget_of_twoFailures :
    oneAttempt.settings.backoff.FitsWords ∧
      isTimely oneAttempt twoFailures (.initial oneAttempt) = true ∧
      Fails oneAttempt twoFailures (twoFailures.take 2) ((twoFailures.drop 2).take 4)
        ⟨.steady (some "key"), .report 2 (.closed 1006 "refused")⟩ [] ∧
      RetryBudget oneAttempt twoFailures := by
  have fits : oneAttempt.settings.backoff.FitsWords := ⟨by decide, by decide⟩
  exact ⟨fits, by decide, ⟨rfl, Or.inl (by decide), by decide, by decide⟩,
    retry_budget oneAttempt fits twoFailures (by decide)⟩

example :
    (after oneAttempt (twoFailures.take 4) (.initial oneAttempt)).phase = .backoff 1 1 ∧
      (after oneAttempt (twoFailures.take 4) (.initial oneAttempt)).timers.reconnect =
        some 1000 ∧
      dialled (livesOf (effects oneAttempt twoFailures (.initial oneAttempt))) = [1, 2] ∧
      (after oneAttempt twoFailures (.initial oneAttempt)).phase = .halted .exhausted := by
  decide

end Controller

end Parley.Connection
