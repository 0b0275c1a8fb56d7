import Parley.Proofs.Connection.Timekeeping

/-!
# Countdown

Two timers run while an attempt is waited for: one ticks every second, the other ends the wait. The
main statement is that the seconds that are shown always cover the time that remains, though the
wait may be no whole number of seconds, and that nothing is left of the countdown after the wait.
-/

namespace Parley.Connection

variable {Payload : Type}

namespace Controller

variable {setup : Setup} {clock start wait attempt ticks : Nat} {turn : Turn Payload}
  {before : Controller Payload}

/-! ## Turns of a wait -/

/-- What a turn makes of a wait for an attempt if it is no tick and no order that concerns the
connection. -/
inductive WaitTurn (turn : Turn Payload) (before after : Controller Payload) : Prop where
  | waits (notDue : turn.fires .reconnect = false) (is : after.stance = before.atRest)
  | dials (token : String) (due : turn.fires .reconnect = true)
      (answered : turn.around.answers 0 = some token)
      (is : after.stance =
        Stance.dialling (before.serial + 1) token before.phase.attempts
          { before.atRest with reconnect := none, countdown := none })
  | lacks (due : turn.fires .reconnect = true) (answered : turn.around.answers 0 = none)
      (is : after.stance =
        (before.atRest.vacated.parked .waitingForToken).shows .disconnected)

theorem due_of_asksForToken {place : Nat} (asks : turn.AsksForToken place)
    (noLook : before.timers.tokenLook = none) (can : before.canTake turn.stimulus = true)
    (unasked : turn.asksAnew = false) : place = 0 ∧ turn.stimulus = .timer .reconnect := by
  cases asks with
  | connect session told =>
      rw [Turn.asksAnew, told] at unasked
      cases unasked
  | startOver told =>
      rw [Turn.asksAnew, told] at unasked
      cases unasked
  | reconnect told =>
      exact ⟨rfl, told⟩
  | tokenLook told =>
      rw [told, canTake, Schedule.due?, noLook] at can
      cases can

theorem waitTurn_take (setup : Setup) {seconds : Nat}
    (backingOff : before.phase = .backoff attempt seconds) (provisioned : before.Provisioned)
    (can : before.canTake turn.stimulus = true) (unasked : turn.asksAnew = false)
    (goesOn : turn.disconnects = false) (noTick : turn.fires .countdown = false) :
    WaitTurn turn before (before.take setup turn) := by
  have holds := provisioned
  unfold Provisioned at holds
  rw [backingOff] at holds
  obtain ⟨vacant, noLook, -, -⟩ := holds
  have unheard (report : Report) : turn.heard? before ≠ some report := by
    intro heard
    obtain ⟨serial, link, told, held, same⟩ := heard?_eq_some_iff.mp heard
    rw [vacant] at held
    cases held
  have noEnd : turn.ends before = false := by
    cases heard : turn.heard? before with
    | none =>
        rw [Turn.ends, heard]
    | some report =>
        exact absurd heard (unheard report)
  cases course_take setup turn provisioned can with
  | keeps noSign notDue is =>
      refine .waits ?_ is
      rw [Bool.eq_false_iff]
      exact fun fires => notDue (Turn.fires_iff.mp fires)
  | fades attempts reconnect countdown noSign dialling less told is =>
      rw [backingOff] at dialling
      cases dialling
  | counts lastAttempt left counting told is =>
      rw [Turn.fires_iff.mpr told] at noTick
      cases noTick
  | opens link held sign is =>
      rw [vacant] at held
      cases held
  | faults link cause held sign is =>
      rw [vacant] at held
      cases held
  | stops why cause is emptied =>
      cases cause with
      | manual told =>
          rw [Turn.disconnects, told] at goesOn
          cases goesOn
      | refused content message heard refuses =>
          exact absurd heard (unheard _)
      | closed code reason why heard ends =>
          exact absurd heard (unheard _)
  | exhausts immediate cause spent is emptied =>
      exact absurd cause (not_loses_of_unasked unasked noEnd)
  | backsOff immediate cause unspent is =>
      exact absurd cause (not_loses_of_unasked unasked noEnd)
  | awaits place asks lacks is =>
      obtain ⟨rfl, told⟩ := due_of_asksForToken asks noLook can unasked
      exact .lacks (Turn.fires_iff.mpr told) lacks is
  | dials token place asks answered notOpen reconnect countdown less due is =>
      obtain ⟨rfl, told⟩ := due_of_asksForToken asks noLook can unasked
      obtain ⟨rfl, rfl⟩ := due told
      exact .dials token (Turn.fires_iff.mpr told) answered is
  | restarts token told answered is =>
      rw [Turn.asksAnew, told] at unasked
      cases unasked

/-! ## Ticks -/

/-- An attempt is waited for, and so many seconds of the wait have been counted. -/
structure Counting (start wait attempt ticks : Nat) (controller : Controller Payload) : Prop where
  provisioned : controller.Provisioned
  phase_eq : controller.phase = .backoff attempt (Settings.wholeSeconds wait - ticks)
  state_eq : controller.state = .reconnecting attempt (Settings.wholeSeconds wait - ticks)
  reconnect_eq : controller.timers.reconnect = some (start + wait)
  countdown_eq :
    controller.timers.countdown =
      if 0 < Settings.wholeSeconds wait then some (start + 1000 * (ticks + 1)) else none

/-- A tick comes on the second while the wait lasts, and one second less is shown. -/
structure TicksAt (wait attempt ticks : Nat) (start : Nat) (turn : Turn Payload)
    (before after : Controller Payload) : Prop where
  now_eq : turn.around.now = start + 1000 * (ticks + 1)
  inWait : turn.around.now ≤ start + wait
  positive : ticks < Settings.wholeSeconds wait
  shown :
    statesOf after.outbox =
      [.reconnecting attempt (Settings.wholeSeconds wait - (ticks + 1))]
  undialled : dialled (livesOf after.outbox) = []
  counting : after.Counting start wait attempt (ticks + 1)

/-- A turn in which the countdown fires is a tick on the second. -/
theorem ticksAt_take (setup : Setup) (counting : before.Counting start wait attempt ticks)
    (onTime : IsOnTime clock before turn) (fires : turn.fires .countdown = true) :
    TicksAt wait attempt ticks start turn before (before.take setup turn) := by
  have due : before.timers.countdown = some turn.around.now := onTime.due_eq fires
  have ends : before.timers.due? .reconnect = some (start + wait) := counting.reconnect_eq
  have inWait : turn.around.now ≤ start + wait := le_of_isInTime onTime.isInTime ends
  have now_eq : turn.around.now = start + 1000 * (ticks + 1) := by
    rw [counting.countdown_eq] at due
    split at due
    · exact (Option.some.inj due).symm
    · cases due
  -- The wait is still on, so the second that is taken off is there.
  have positive : ticks < Settings.wholeSeconds wait := by
    unfold Settings.wholeSeconds
    omega
  have told : turn.stimulus = .timer .countdown := Turn.fires_iff.mp fires
  have takes : before.take setup turn = onCountdown { before with outbox := [] } := by
    simp only [take, step, told, onTimer]
  have ticked :
      Settings.wholeSeconds wait - ticks - 1 = Settings.wholeSeconds wait - (ticks + 1) := by
    omega
  have another : before.state ≠
      .reconnecting attempt (Settings.wholeSeconds wait - (ticks + 1)) := by
    rw [counting.state_eq]
    intro same
    have sameSeconds := (State.reconnecting.inj same).2
    omega
  have beats : before.timers.countdown.map (· + 1000) =
      if 0 < Settings.wholeSeconds wait then some (start + 1000 * (ticks + 1 + 1)) else none := by
    rw [due, if_pos (Nat.zero_lt_of_lt positive), now_eq, Option.map_some, Option.some_inj]
    omega
  have next := (sound_take setup turn counting.provisioned onTime.canTake).provisioned
  rcases onCountdown_cases { before with outbox := [] } with
    ⟨lastAttempt, seconds, backingOff, counts⟩ | ⟨notBackingOff, -⟩
  · have same : Phase.backoff lastAttempt seconds =
        .backoff attempt (Settings.wholeSeconds wait - ticks) :=
      backingOff.symm.trans counting.phase_eq
    cases same
    have stands : (before.take setup turn).stance =
        Stance.shows (.reconnecting attempt (Settings.wholeSeconds wait - (ticks + 1)))
          { before.atRest with
            phase := .backoff attempt (Settings.wholeSeconds wait - (ticks + 1))
            countdown := before.timers.countdown.map (· + 1000) } := by
      rw [takes, counts, stance_publishState, ticked]
      rfl
    refine ⟨now_eq, inWait, positive, ?_, congrArg Stance.dials stands, ?_⟩
    · refine (congrArg Stance.states stands).trans ?_
      exact if_neg another
    · refine ⟨next, congrArg Stance.phase stands, congrArg Stance.state stands,
        (congrArg Stance.reconnect stands).trans counting.reconnect_eq,
        (congrArg Stance.countdown stands).trans beats⟩
  · exact absurd counting.phase_eq (notBackingOff attempt _)

/-- The ticks of a wait have come by a time, one each second, and each has shown a second less. -/
structure CountsTo (start wait attempt ticks now : Nat) (after : Controller Payload)
    (done : List (Effect Payload)) : Prop where
  counting : after.Counting start wait attempt ticks
  notAhead : start + 1000 * ticks ≤ now
  states_eq :
    statesOf done = (List.range ticks).map fun second =>
      .reconnecting attempt (Settings.wholeSeconds wait - (second + 1))
  undialled : dialled (livesOf done) = []

/-- One more turn of a wait keeps count of the ticks up to its time. -/
theorem countsTo_take (setup : Setup) {done : List (Effect Payload)}
    (counts : CountsTo start wait attempt ticks clock before done)
    (onTime : IsOnTime clock before turn) (unasked : turn.asksAnew = false)
    (goesOn : turn.disconnects = false) (notDue : turn.fires .reconnect = false) :
    CountsTo start wait attempt (ticks + firings .countdown [turn]) turn.around.now
      (before.take setup turn) (done ++ (before.take setup turn).outbox) := by
  obtain ⟨counting, notAhead, states_eq, undialled⟩ := counts
  cases fires : turn.fires .countdown with
  | true =>
      obtain ⟨now_eq, -, -, shown, quiet, next⟩ := ticksAt_take setup counting onTime fires
      rw [firings_cons_of_fires [] fires]
      refine ⟨next, Nat.le_of_eq now_eq.symm, ?_, ?_⟩
      · rw [statesOf_append, states_eq, shown]
        exact (List.range_succ ▸ List.map_append).symm
      · rw [livesOf_append, dialled_append, undialled, quiet]
        rfl
  | false =>
      rw [firings_cons_of_not_fires [] fires]
      have next := (sound_take setup turn counting.provisioned onTime.canTake).provisioned
      cases waitTurn_take setup counting.phase_eq counting.provisioned onTime.canTake unasked
        goesOn fires with
      | waits _ is =>
          refine ⟨⟨next, (congrArg Stance.phase is).trans counting.phase_eq,
            (congrArg Stance.state is).trans counting.state_eq,
            (congrArg Stance.reconnect is).trans counting.reconnect_eq,
            (congrArg Stance.countdown is).trans counting.countdown_eq⟩,
            Nat.le_trans notAhead onTime.notBack, ?_, ?_⟩
          · have silent : statesOf (before.take setup turn).outbox = [] :=
              congrArg Stance.states is
            rw [statesOf_append, silent, List.append_nil]
            exact states_eq
          · have quiet : dialled (livesOf (before.take setup turn).outbox) = [] :=
              congrArg Stance.dials is
            rw [livesOf_append, dialled_append, undialled, quiet]
            rfl
      | dials token due answered is =>
          rw [due] at notDue
          cases notDue
      | lacks due answered is =>
          rw [due] at notDue
          cases notDue

/-- Until the wait ends, every tick counts, whatever else happens in the meantime. -/
theorem countsTo_run {turns : List (Turn Payload)}
    (begins : before.Counting start wait attempt 0)
    (keeps : keepsTime setup start turns before = true)
    (unasked : ∀ turn ∈ turns, turn.asksAnew = false)
    (goesOn : ∀ turn ∈ turns, turn.disconnects = false)
    (notDue : ∀ turn ∈ turns, turn.fires .reconnect = false) :
    CountsTo start wait attempt (firings .countdown turns) (clockAfter start turns)
      (after setup turns before) (effects setup turns before) := by
  induction turns using List.reverseRecOn with
  | nil =>
      exact ⟨begins, Nat.le_refl start, rfl, rfl⟩
  | append_singleton passed turn inductionHypothesis =>
      obtain ⟨passedUnasked, turnUnasked⟩ := List.forall_mem_append.mp unasked
      obtain ⟨passedGoesOn, turnGoesOn⟩ := List.forall_mem_append.mp goesOn
      obtain ⟨passedNotDue, turnNotDue⟩ := List.forall_mem_append.mp notDue
      have counts := inductionHypothesis (keepsTime_append.mp keeps).1 passedUnasked passedGoesOn
        passedNotDue
      have onTime := (onTime_of_split keeps).1
      have next := countsTo_take setup counts onTime (turnUnasked turn (by simp))
        (turnGoesOn turn (by simp)) (turnNotDue turn (by simp))
      rw [after_append, effects_append, clockAfter_append, firings_append, effects, effects,
        List.append_nil]
      exact next

/-! ## The end of a wait -/

/-- What is shown so many milliseconds into a wait. -/
structure TellsRemaining (wait attempt elapsed : Nat) (now : Controller Payload)
    (done : List (Effect Payload)) : Prop where
  phase_eq : now.phase = .backoff attempt (Settings.wholeSeconds wait - elapsed / 1000)
  state_eq : now.state = .reconnecting attempt (Settings.wholeSeconds wait - elapsed / 1000)
  covers : wait - elapsed ≤ (Settings.wholeSeconds wait - elapsed / 1000) * 1000
  states_eq :
    statesOf done = (List.range (elapsed / 1000)).map fun second =>
      .reconnecting attempt (Settings.wholeSeconds wait - (second + 1))
  undialled : dialled (livesOf done) = []

/-- The ticks that have come are the seconds that have passed, if none is overdue. -/
theorem ticks_eq_of_isCaughtUp {elapsed now : Nat} {done : List (Effect Payload)}
    (counts : CountsTo start wait attempt ticks now before done) (notAfter : now ≤ start + elapsed)
    (caughtUp : before.isCaughtUp (start + elapsed) = true) (inWait : elapsed < wait) :
    ticks = elapsed / 1000 := by
  have positive : 0 < Settings.wholeSeconds wait := by
    unfold Settings.wholeSeconds
    omega
  have next : before.timers.due? .countdown = some (start + 1000 * (ticks + 1)) :=
    counts.counting.countdown_eq.trans (if_pos positive)
  have notYet := le_of_isInTime caughtUp next
  have notAhead := counts.notAhead
  omega

/-- The wait ends: a connection is dialled if there is a token, and else a token is waited for.
Either way neither timer of the wait is left. -/
structure EndsWait (attempt ends : Nat) (turn : Turn Payload) (before after : Controller Payload) :
    Prop where
  now_eq : turn.around.now = ends
  dials :
    ∀ token, turn.around.answers 0 = some token →
      dialled (livesOf after.outbox) = [before.serial + 1] ∧ after.phase = .connecting attempt ∧
        after.link = some ⟨before.serial + 1, token, false⟩
  lacks :
    turn.around.answers 0 = none →
      dialled (livesOf after.outbox) = [] ∧ after.phase = .waitingForToken ∧ after.link = none
  hasNoWait : after.HasNoWait
  unannounced : ∀ attempt seconds, .reconnecting attempt seconds ∉ statesOf after.outbox

/-- The turn in which the attempt is due ends the wait on time. -/
theorem endsWait_take (setup : Setup) (counting : before.Counting start wait attempt ticks)
    (onTime : IsOnTime clock before turn) (unasked : turn.asksAnew = false)
    (goesOn : turn.disconnects = false) (due : turn.fires .reconnect = true) :
    EndsWait attempt (start + wait) turn before (before.take setup turn) := by
  have now_eq : turn.around.now = start + wait := onTime.now_eq due counting.reconnect_eq
  have noTick : turn.fires .countdown = false := by
    rw [Turn.fires, Turn.fires_iff.mp due]
    rfl
  have attempts : before.phase.attempts = attempt := by
    rw [counting.phase_eq, Phase.attempts]
  cases waitTurn_take setup counting.phase_eq counting.provisioned onTime.canTake unasked goesOn
    noTick with
  | waits notDue is =>
      rw [due] at notDue
      cases notDue
  | dials token _ answered is =>
      rw [attempts] at is
      refine ⟨now_eq, ?_, ?_, ⟨?_, congrArg Stance.reconnect is, congrArg Stance.countdown is⟩, ?_⟩
      · intro otherToken sameAnswer
        rw [answered] at sameAnswer
        cases sameAnswer
        exact ⟨congrArg Stance.dials is, congrArg Stance.phase is, congrArg Stance.link is⟩
      · intro noAnswer
        rw [answered] at noAnswer
        cases noAnswer
      · intro lastAttempt seconds backingOff
        cases (congrArg Stance.phase is).symm.trans backingOff
      · intro lastAttempt seconds member
        have silent : statesOf (before.take setup turn).outbox = [] := congrArg Stance.states is
        rw [silent] at member
        cases member
  | lacks _ answered is =>
      refine ⟨now_eq, ?_, ?_, ⟨?_, congrArg Stance.reconnect is, congrArg Stance.countdown is⟩, ?_⟩
      · intro token someAnswer
        rw [answered] at someAnswer
        cases someAnswer
      · intro _
        exact ⟨congrArg Stance.dials is, congrArg Stance.phase is, congrArg Stance.link is⟩
      · intro lastAttempt seconds backingOff
        cases (congrArg Stance.phase is).symm.trans backingOff
      · intro lastAttempt seconds member
        have noticed : statesOf (before.take setup turn).outbox =
            before.state.notice .disconnected :=
          congrArg Stance.states is
        rw [noticed] at member
        cases mem_notice member

/-! ## Whole waits -/

/-- A wait for an attempt, from the instant at which it begins. -/
structure CountsDown (setup : Setup) (start wait attempt : Nat) (entered : Controller Payload)
    (rest : List (Turn Payload)) : Prop where
  begins :
    entered.phase = .backoff attempt (Settings.wholeSeconds wait) ∧
      entered.state = .reconnecting attempt (Settings.wholeSeconds wait)
  /-- At every instant of the wait the seconds that remain are shown, once all that was due by then
  has fired. -/
  tells :
    ∀ passed later elapsed, rest = passed ++ later → elapsed < wait →
      clockAfter start passed ≤ start + elapsed →
      (after setup passed entered).isCaughtUp (start + elapsed) = true →
        TellsRemaining wait attempt elapsed (after setup passed entered)
          (effects setup passed entered)
  /-- Every tick of the wait comes on a whole second and takes one off what is left. -/
  ticks :
    ∀ passed tick later, rest = passed ++ tick :: later →
      (∀ turn ∈ passed, turn.fires .reconnect = false) → tick.fires .countdown = true →
        ∃ ticks, TicksAt wait attempt ticks start tick (after setup passed entered)
          (after setup (passed ++ [tick]) entered)
  ends :
    ∀ passed due later, rest = passed ++ due :: later →
      (∀ turn ∈ passed, turn.fires .reconnect = false) → due.fires .reconnect = true →
        EndsWait attempt (start + wait) due (after setup passed entered)
          (after setup (passed ++ [due]) entered)
  /-- Whatever happens, the wait has ended once all has fired that was due by its end. -/
  hasEnded :
    ∀ passed later now, rest = passed ++ later → start + wait ≤ now →
      (after setup passed entered).isCaughtUp now = true →
        ∃ turn ∈ passed, turn.fires .reconnect = true
  /-- From the end of the wait on nothing is counted down, until a connection has ended. -/
  falls_silent :
    ∀ passed due further last, rest = passed ++ due :: (further ++ last) →
      (∀ turn ∈ passed, turn.fires .reconnect = false) → due.fires .reconnect = true →
      endings setup further (after setup (passed ++ [due]) entered) = 0 →
        ∀ attempt seconds, .reconnecting attempt seconds ∉
          statesOf (effects setup (due :: further) (after setup passed entered))

theorem countsDown_of_counting {rest : List (Turn Payload)}
    (begins : before.Counting start wait attempt 0)
    (keeps : keepsTime setup start rest before = true)
    (unasked : ∀ turn ∈ rest, turn.asksAnew = false)
    (goesOn : ∀ turn ∈ rest, turn.disconnects = false) :
    CountsDown setup start wait attempt before rest := by
  have counts (passed later : List (Turn Payload)) (splits : rest = passed ++ later)
      (notDue : ∀ turn ∈ passed, turn.fires .reconnect = false) :
      CountsTo start wait attempt (firings .countdown passed) (clockAfter start passed)
        (after setup passed before) (effects setup passed before) := by
    subst splits
    exact countsTo_run begins (keepsTime_append.mp keeps).1
      (fun turn member => unasked turn (List.mem_append_left later member))
      (fun turn member => goesOn turn (List.mem_append_left later member)) notDue
  have ends (passed : List (Turn Payload)) (due : Turn Payload) (later : List (Turn Payload))
      (splits : rest = passed ++ due :: later)
      (notDue : ∀ turn ∈ passed, turn.fires .reconnect = false)
      (fires : due.fires .reconnect = true) :
      EndsWait attempt (start + wait) due (after setup passed before)
        (after setup (passed ++ [due]) before) := by
    have counting := (counts passed (due :: later) splits notDue).counting
    subst splits
    rw [after_append]
    exact endsWait_take setup counting (onTime_of_split keeps).1 (unasked due (by simp))
      (goesOn due (by simp)) fires
  constructor
  · exact ⟨begins.phase_eq, begins.state_eq⟩
  · intro passed later elapsed splits inWait notAfter caughtUp
    have notDue : ∀ turn ∈ passed, turn.fires .reconnect = false := by
      rcases firstFiring .reconnect passed with never | ⟨early, due, late, isPassed, before, fires⟩
      · exact never
      · -- The wait would have ended by now, which is before its end.
        subst isPassed
        have splitsAtDue : rest = early ++ due :: (late ++ later) := by
          rw [splits, List.append_assoc]
          rfl
        have now_eq := (ends early due (late ++ later) splitsAtDue before fires).now_eq
        subst splits
        have notLater := now_le_clockAfter (keepsTime_append.mp keeps).1
        omega
    have reached := counts passed later splits notDue
    have ticks_eq := ticks_eq_of_isCaughtUp reached notAfter caughtUp inWait
    rw [ticks_eq] at reached
    refine ⟨reached.counting.phase_eq, reached.counting.state_eq, ?_, reached.states_eq,
      reached.undialled⟩
    unfold Settings.wholeSeconds
    omega
  · intro passed tick later splits notDue fires
    have counting := (counts passed (tick :: later) splits notDue).counting
    subst splits
    rw [after_append]
    exact ⟨_, ticksAt_take setup counting (onTime_of_split keeps).1 fires⟩
  · exact ends
  · intro passed later now splits notBefore caughtUp
    by_contra never
    have notDue : ∀ turn ∈ passed, turn.fires .reconnect = false := by
      intro turn member
      rw [Bool.eq_false_iff]
      exact fun fires => never ⟨turn, member, fires⟩
    have armed : (after setup passed before).timers.due? .reconnect = some (start + wait) :=
      (counts passed later splits notDue).counting.reconnect_eq
    have notYet := le_of_isInTime caughtUp armed
    omega
  · intro passed due further last splits notDue fires silent attempt seconds
    have ended := ends passed due (further ++ last) splits notDue fires
    subst splits
    rw [after_append] at ended silent
    have throughPassed := provisioned_of_keepsTime keeps begins.provisioned
    have throughDue :=
      (sound_take setup due throughPassed (onTime_of_split keeps).1.canTake).provisioned
    have furtherTimely :
        isTimely setup further (take setup due (after setup passed before)) = true := by
      have later := (onTime_of_split keeps).2
      rw [after_append] at later
      exact isTimely_of_keepsTime (keepsTime_append.mp later).1
    rw [effects, statesOf_append, List.mem_append]
    rintro (now | after)
    · exact ended.unannounced attempt seconds now
    · have furtherUnasked : ∀ turn ∈ further, turn.asksAnew = false := by
        intro turn member
        exact unasked turn (by simp [member])
      have unhurried :=
        unhurried_run ended.hasNoWait throughDue furtherTimely furtherUnasked silent
      exact unhurried.1 attempt seconds after

/-! ## Whole runs -/

/-- Every wait of a run is counted down, as long as the user gives no order about the
connection. -/
def CountdownsTell (setup : Setup) (turns : List (Turn Payload)) : Prop :=
  ∀ before entering rest attempt seconds, turns = before ++ entering :: rest →
    (∀ attempt seconds,
      (after setup before (.initial setup)).phase ≠ .backoff attempt seconds) →
    (after setup (before ++ [entering]) (.initial setup)).phase = .backoff attempt seconds →
    (∀ turn ∈ rest, turn.asksAnew = false) → (∀ turn ∈ rest, turn.disconnects = false) →
      ∃ immediate, entering.Loses (after setup before (.initial setup)) immediate ∧
        attempt = (after setup before (.initial setup)).phase.attempts + 1 ∧
        CountsDown setup entering.around.now
          (if immediate then 0
            else setup.settings.backoff.delay (after setup before (.initial setup)).phase.attempts)
          attempt (after setup (before ++ [entering]) (.initial setup)) rest

theorem counting_of_backsOff {after : Controller Payload}
    (provisioned : after.Provisioned)
    (is : after.stance =
      before.atRest.vacated.backsOff attempt wait turn.around.now) :
    after.Counting turn.around.now wait attempt 0 where
  provisioned := provisioned
  phase_eq := congrArg Stance.phase is
  state_eq := congrArg Stance.state is
  reconnect_eq := congrArg Stance.reconnect is
  countdown_eq := congrArg Stance.countdown is

theorem countdowns_tell (setup : Setup) (turns : List (Turn Payload))
    (keeps : keepsTime setup 0 turns (.initial setup) = true) : CountdownsTell setup turns := by
  rintro before entering rest attempt seconds rfl fresh waits unasked goesOn
  obtain ⟨onTime, restKeeps⟩ := onTime_of_split keeps
  have provisioned := provisioned_of_keepsTime keeps (initial_provisioned setup)
  have nextProvisioned := (sound_take setup entering provisioned onTime.canTake).provisioned
  rw [after_append] at waits restKeeps ⊢
  obtain ⟨immediate, loses, is⟩ := stance_of_backoff provisioned onTime.canTake fresh waits
  have same := (congrArg Stance.phase is).symm.trans waits
  have attempt_eq := (Phase.backoff.inj same).1
  refine ⟨immediate, loses, attempt_eq.symm, ?_⟩
  rw [attempt_eq] at is
  exact countsDown_of_counting (counting_of_backsOff nextProvisioned is) restKeeps unasked goesOn

/-- Settings with a first wait that is no whole number of seconds. -/
def unhurried : Setup :=
  { Setup.standard with
    settings := { Settings.Client.standard with backoff := ⟨1500, 30000, 10⟩ } }

/-- A connection breaks off, and another one is dialled a second and a half later. -/
def interrupted : List (Turn String) :=
  [⟨moment "key" 0, .command (.connect none)⟩,
    ⟨moment "key" 20, .report 1 .opened⟩,
    ⟨moment "key" 500, .report 1 (.closed 1006 "reset")⟩,
    ⟨moment "key" 700, .command (.send "kept")⟩,
    ⟨moment "key" 1500, .timer .countdown⟩,
    ⟨moment "key" 2000, .timer .reconnect⟩,
    ⟨moment "key" 2020, .report 2 .opened⟩]

theorem countsDown_of_interrupted :
    keepsTime unhurried 0 interrupted (.initial unhurried) = true ∧
      (after unhurried (interrupted.take 2) (.initial unhurried)).phase = .opened ∧
      (after unhurried (interrupted.take 3) (.initial unhurried)).phase = .backoff 1 2 ∧
      (∀ turn ∈ interrupted.drop 3, turn.asksAnew = false) ∧
      (∀ turn ∈ interrupted.drop 3, turn.disconnects = false) ∧
      CountsDown unhurried 500 1500 1 (after unhurried (interrupted.take 3) (.initial unhurried))
        (interrupted.drop 3) := by
  have keeps : keepsTime unhurried 0 interrupted (.initial unhurried) = true := by
    decide
  have opened : (after unhurried (interrupted.take 2) (.initial unhurried)).phase = .opened := by
    decide
  have waits :
      (after unhurried (interrupted.take 3) (.initial unhurried)).phase = .backoff 1 2 := by
    decide
  have unasked : ∀ turn ∈ interrupted.drop 3, turn.asksAnew = false := by
    decide
  have goesOn : ∀ turn ∈ interrupted.drop 3, turn.disconnects = false := by
    decide
  refine ⟨keeps, opened, waits, unasked, goesOn, ?_⟩
  obtain ⟨immediate, loses, -, counts⟩ :=
    countdowns_tell unhurried interrupted keeps (interrupted.take 2)
      ⟨moment "key" 500, .report 1 (.closed 1006 "reset")⟩ (interrupted.drop 3) 1 2 rfl
      (by rw [opened]; exact fun _ _ => Phase.noConfusion) waits unasked goesOn
  have notAtOnce : immediate = false := by
    cases loses with
    | closed code reason _ heard ends =>
        cases heard
        cases ends
        rfl
    | tokenChanged session link token told held linkOpen answered changed =>
        cases told
  rw [notAtOnce] at counts
  exact counts

def lostToken : List (Turn String) :=
  interrupted.take 5 ++ [⟨{ moment "key" 2000 with answers := fun _ => none }, .timer .reconnect⟩]

/-- Without a token nothing is dialled as the wait ends. -/
theorem undialled_of_lostToken :
    keepsTime unhurried 0 lostToken (.initial unhurried) = true ∧
      (after unhurried (lostToken.take 2) (.initial unhurried)).phase = .opened ∧
      (after unhurried (lostToken.take 3) (.initial unhurried)).phase = .backoff 1 2 ∧
      (∀ turn ∈ lostToken.drop 3, turn.asksAnew = false) ∧
      (∀ turn ∈ lostToken.drop 3, turn.disconnects = false) ∧
      (after unhurried (lostToken.take 3) (.initial unhurried)).timers.reconnect = some 2000 ∧
      (after unhurried lostToken (.initial unhurried)).isCaughtUp 2000 = true ∧
      dialled (livesOf (effects unhurried (lostToken.drop 3)
        (after unhurried (lostToken.take 3) (.initial unhurried)))) = [] ∧
      (after unhurried lostToken (.initial unhurried)).phase = .waitingForToken := by
  decide

end Controller

end Parley.Connection
