import Parley.Proofs.Connection.Redialling

/-!
# Timekeeping

A clock that stops wherever a timer is due. In a run that keeps time every timer fires at the very
instant at which it is due, so the times of its turns follow from the times at which its timers were
set. Once no attempt is waited for, none is announced until the connection ends.
-/

namespace Parley.Connection

variable {Payload : Type}

def Turn.fires (timer : Timer) (turn : Turn Payload) : Bool :=
  match turn.stimulus with
  | .timer fired => fired = timer
  | _ => false

theorem Turn.fires_iff {timer : Timer} {turn : Turn Payload} :
    turn.fires timer = true ↔ turn.stimulus = .timer timer := by
  unfold fires
  cases turn.stimulus with
  | timer fired =>
      simp
  | _ =>
      simp

def firings (timer : Timer) (turns : List (Turn Payload)) : Nat :=
  turns.countP (Turn.fires timer)

theorem firings_cons_of_fires {timer : Timer} {turn : Turn Payload} (rest : List (Turn Payload))
    (fires : turn.fires timer = true) : firings timer (turn :: rest) = firings timer rest + 1 :=
  List.countP_cons_of_pos fires

theorem firings_cons_of_not_fires {timer : Timer} {turn : Turn Payload}
    (rest : List (Turn Payload)) (rests : turn.fires timer = false) :
    firings timer (turn :: rest) = firings timer rest :=
  List.countP_cons_of_neg (Bool.eq_false_iff.mp rests)

theorem firings_append (timer : Timer) (first second : List (Turn Payload)) :
    firings timer (first ++ second) = firings timer first + firings timer second :=
  List.countP_append

/-- A timer fires in no turn, or in a first one. -/
theorem firstFiring (timer : Timer) (turns : List (Turn Payload)) :
    (∀ turn ∈ turns, turn.fires timer = false) ∨
      ∃ passed turn later, turns = passed ++ turn :: later ∧
        (∀ turn ∈ passed, turn.fires timer = false) ∧ turn.fires timer = true := by
  cases found : turns.find? (Turn.fires timer) with
  | none =>
      refine Or.inl fun turn member => ?_
      exact Bool.eq_false_iff.mpr (List.find?_eq_none.mp found turn member)
  | some turn =>
      obtain ⟨fires, passed, later, splits, notBefore⟩ := List.find?_eq_some_iff_append.mp found
      refine Or.inr ⟨passed, turn, later, splits, fun other member => ?_, fires⟩
      exact (Bool.not_eq_true' _).mp (notBefore other member)

namespace Controller

/-! ## Runs that keep time -/

/-- Every timer that is armed is due at an instant or later. -/
def isInTime (now : Nat) (controller : Controller Payload) : Bool :=
  [Timer.reconnect, .countdown, .tokenLook, .refusalNotice].all fun timer =>
    (controller.timers.due? timer).all (now ≤ ·)

/-- Everything that was due by an instant has fired. -/
def isCaughtUp (now : Nat) (controller : Controller Payload) : Bool :=
  controller.isInTime (now + 1)

/-- The clock does not go back, no timer fires before its time, and none is passed over. -/
def keepsTime (setup : Setup) : Nat → List (Turn Payload) → Controller Payload → Bool
  | _, [], _ => true
  | clock, turn :: rest, controller =>
      decide (clock ≤ turn.around.now) && controller.isTimeFor turn &&
        controller.isInTime turn.around.now &&
        keepsTime setup turn.around.now rest (controller.take setup turn)

variable {setup : Setup} {clock now : Nat} {turn : Turn Payload} {controller : Controller Payload}

theorem le_of_isInTime {timer : Timer} {due : Nat} (inTime : controller.isInTime now = true)
    (armed : controller.timers.due? timer = some due) : now ≤ due := by
  have all : ∀ timer ∈ [Timer.reconnect, .countdown, .tokenLook, .refusalNotice],
      (controller.timers.due? timer).all (now ≤ ·) = true :=
    List.all_eq_true.mp inTime
  have ahead : (controller.timers.due? timer).all (now ≤ ·) = true := by
    apply all
    cases timer <;> simp
  rw [armed] at ahead
  exact of_decide_eq_true ahead

/-- A turn of a run that keeps time. -/
structure IsOnTime (clock : Nat) (controller : Controller Payload) (turn : Turn Payload) :
    Prop where
  notBack : clock ≤ turn.around.now
  isTimeFor : controller.isTimeFor turn = true
  isInTime : controller.isInTime turn.around.now = true

theorem IsOnTime.canTake (onTime : IsOnTime clock controller turn) :
    controller.canTake turn.stimulus = true :=
  canTake_of_isTimeFor onTime.isTimeFor

/-- A timer fires at the very instant at which it is due. -/
theorem IsOnTime.due_eq (onTime : IsOnTime clock controller turn) {timer : Timer}
    (fires : turn.fires timer = true) : controller.timers.due? timer = some turn.around.now := by
  have isTime := onTime.isTimeFor
  rw [Controller.isTimeFor, Turn.fires_iff.mp fires] at isTime
  obtain ⟨due, armed, hasCome⟩ := (Option.any_eq_true _ _).mp isTime
  have notPassed : turn.around.now ≤ due := le_of_isInTime onTime.isInTime armed
  rw [armed, Nat.le_antisymm (of_decide_eq_true hasCome) notPassed]

/-- A timer that is due at a known time fires then and not before. -/
theorem IsOnTime.now_eq (onTime : IsOnTime clock controller turn) {timer : Timer} {due : Nat}
    (fires : turn.fires timer = true) (armed : controller.timers.due? timer = some due) :
    turn.around.now = due := by
  have fired := onTime.due_eq fires
  rw [armed] at fired
  exact (Option.some.inj fired).symm

theorem keepsTime_cons {rest : List (Turn Payload)} :
    keepsTime setup clock (turn :: rest) controller = true ↔
      IsOnTime clock controller turn ∧
        keepsTime setup turn.around.now rest (controller.take setup turn) = true := by
  rw [keepsTime, Bool.and_eq_true, Bool.and_eq_true, Bool.and_eq_true, decide_eq_true_eq]
  constructor
  · rintro ⟨⟨⟨notBack, isTimeFor⟩, isInTime⟩, keeps⟩
    exact ⟨⟨notBack, isTimeFor, isInTime⟩, keeps⟩
  · rintro ⟨⟨notBack, isTimeFor, isInTime⟩, keeps⟩
    exact ⟨⟨⟨notBack, isTimeFor⟩, isInTime⟩, keeps⟩

theorem keepsTime_append {first second : List (Turn Payload)} :
    keepsTime setup clock (first ++ second) controller = true ↔
      keepsTime setup clock first controller = true ∧
        keepsTime setup (clockAfter clock first) second (after setup first controller) = true := by
  induction first generalizing clock controller with
  | nil =>
      simp [keepsTime, clockAfter, after]
  | cons turn rest inductionHypothesis =>
      rw [List.cons_append, keepsTime_cons, keepsTime_cons, inductionHypothesis, clockAfter,
        after, and_assoc]

/-- A run that keeps time is punctual. -/
theorem isPunctual_of_keepsTime
    {turns : List (Turn Payload)} (keeps : keepsTime setup clock turns controller = true) :
    isPunctual setup clock turns controller = true := by
  induction turns generalizing clock controller with
  | nil =>
      rfl
  | cons turn rest inductionHypothesis =>
      obtain ⟨onTime, restKeeps⟩ := keepsTime_cons.mp keeps
      exact isPunctual_cons.mpr
        ⟨onTime.notBack, onTime.isTimeFor, inductionHypothesis restKeeps⟩

theorem isTimely_of_keepsTime
    {turns : List (Turn Payload)} (keeps : keepsTime setup clock turns controller = true) :
    isTimely setup turns controller = true :=
  isTimely_of_isPunctual (isPunctual_of_keepsTime keeps)

/-- A run that keeps time is taken apart at one of its turns. -/
theorem onTime_of_split {before rest : List (Turn Payload)}
    (keeps : keepsTime setup clock (before ++ turn :: rest) controller = true) :
    IsOnTime (clockAfter clock before) (after setup before controller) turn ∧
      keepsTime setup turn.around.now rest
        (after setup (before ++ [turn]) controller) = true := by
  obtain ⟨-, fromTurn⟩ := keepsTime_append.mp keeps
  rw [after_append]
  exact keepsTime_cons.mp fromTurn

theorem provisioned_of_keepsTime {before rest : List (Turn Payload)}
    (keeps : keepsTime setup clock (before ++ rest) controller = true)
    (provisioned : controller.Provisioned) : (after setup before controller).Provisioned :=
  provisioned_after provisioned (isTimely_of_keepsTime (keepsTime_append.mp keeps).1)

/-- The clock does not go back in a run. -/
theorem clock_le_clockAfter {turns : List (Turn Payload)}
    (keeps : keepsTime setup clock turns controller = true) : clock ≤ clockAfter clock turns := by
  induction turns generalizing clock controller with
  | nil =>
      exact Nat.le_refl clock
  | cons turn rest inductionHypothesis =>
      obtain ⟨onTime, restKeeps⟩ := keepsTime_cons.mp keeps
      exact Nat.le_trans onTime.notBack (inductionHypothesis restKeeps)

/-- No turn is later than the end of its run. -/
theorem now_le_clockAfter {before rest : List (Turn Payload)}
    (keeps : keepsTime setup clock (before ++ turn :: rest) controller = true) :
    turn.around.now ≤ clockAfter clock (before ++ turn :: rest) := by
  rw [clockAfter_append]
  exact clock_le_clockAfter (onTime_of_split keeps).2

/-! ## After a wait -/

/-- No attempt is waited for, and no timer of a backoff is left. -/
structure HasNoWait (controller : Controller Payload) : Prop where
  notBackingOff : ∀ attempt seconds, controller.phase ≠ .backoff attempt seconds
  reconnect_eq : controller.timers.reconnect = none
  countdown_eq : controller.timers.countdown = none

/-- A turn announces no attempt, and dials only as a token is found that was waited for. -/
structure IsUnhurried (turn : Turn Payload) (after : Controller Payload) : Prop where
  hasNoWait : after.HasNoWait
  unannounced : ∀ attempt seconds, .reconnecting attempt seconds ∉ statesOf after.outbox
  dials : dialled (livesOf after.outbox) = [] ∨ turn.fires .tokenLook = true

section Waits

variable {before : Controller Payload}

theorem mem_notice {shown state noticed : State} (member : noticed ∈ shown.notice state) :
    noticed = state := by
  unfold State.notice at member
  split at member
  · cases member
  · exact List.mem_singleton.mp member

/-- A connection is lost, for another one to be dialled, only by its end or by an order. -/
theorem not_loses_of_unasked {immediate : Bool} (unasked : turn.asksAnew = false)
    (noEnd : turn.ends before = false) : ¬ turn.Loses before immediate := by
  intro loses
  cases loses with
  | closed code reason immediate heard ends =>
      rw [Turn.ends, heard] at noEnd
      cases noEnd
  | tokenChanged session link token told held linkOpen answered changed =>
      rw [Turn.asksAnew, told] at unasked
      cases unasked

/-- A turn that leaves no wait shows one state at most, which announces no attempt. -/
theorem isUnhurried_of_quiet {after : Controller Payload} {stance : Stance}
    (is : after.stance = stance)
    (notBackingOff : ∀ attempt seconds, stance.phase ≠ .backoff attempt seconds)
    (reconnect : stance.reconnect = none) (countdown : stance.countdown = none)
    (states : stance.states = [] ∨
      ∃ shown state, stance.states = State.notice shown state ∧
        ∀ attempt seconds, state ≠ .reconnecting attempt seconds)
    (dials : stance.dials = [] ∨ turn.fires .tokenLook = true) :
    IsUnhurried turn after where
  hasNoWait := by
    subst is
    exact ⟨notBackingOff, reconnect, countdown⟩
  unannounced attempt seconds member := by
    subst is
    change statesOf after.outbox = [] ∨ ∃ shown state,
      statesOf after.outbox = State.notice shown state ∧ _ at states
    rcases states with noStates | ⟨shown, state, noticed, another⟩
    · rw [noStates] at member
      cases member
    · rw [noticed] at member
      exact another attempt seconds (mem_notice member).symm
  dials := by
    subst is
    exact dials

theorem isUnhurried_take (setup : Setup) (hasNoWait : before.HasNoWait)
    (provisioned : before.Provisioned) (can : before.canTake turn.stimulus = true)
    (unasked : turn.asksAnew = false) (noEnd : turn.ends before = false) :
    IsUnhurried turn (before.take setup turn) := by
  obtain ⟨notBackingOff, noReconnect, noCountdown⟩ := hasNoWait
  cases course_take setup turn provisioned can with
  | keeps noSign notDue is =>
      exact isUnhurried_of_quiet is notBackingOff noReconnect noCountdown (Or.inl rfl)
        (Or.inl rfl)
  | fades attempts reconnect countdown noSign dialling less told is =>
      obtain ⟨reconnect_eq, countdown_eq⟩ := less.of_unarmed noReconnect noCountdown
      exact isUnhurried_of_quiet is notBackingOff reconnect_eq countdown_eq (Or.inl rfl)
        (Or.inl rfl)
  | counts attempt seconds backingOff told is =>
      exact absurd backingOff (notBackingOff attempt seconds)
  | opens link held sign is =>
      exact isUnhurried_of_quiet is (fun _ _ => Phase.noConfusion) rfl rfl
        (Or.inr ⟨_, .connected, rfl, fun _ _ => State.noConfusion⟩) (Or.inl rfl)
  | faults link cause held sign is =>
      exact isUnhurried_of_quiet is notBackingOff noReconnect noCountdown
        (Or.inr ⟨_, .failed _, rfl, fun _ _ => State.noConfusion⟩) (Or.inl rfl)
  | stops why cause is emptied =>
      exact isUnhurried_of_quiet is (fun _ _ => Phase.noConfusion) rfl rfl
        (Or.inr ⟨_, .disconnected, rfl, fun _ _ => State.noConfusion⟩) (Or.inl rfl)
  | exhausts immediate cause spent is emptied =>
      exact absurd cause (not_loses_of_unasked unasked noEnd)
  | backsOff immediate cause unspent is =>
      exact absurd cause (not_loses_of_unasked unasked noEnd)
  | awaits place asks lacks is =>
      exact isUnhurried_of_quiet is (fun _ _ => Phase.noConfusion) rfl rfl
        (Or.inr ⟨_, .disconnected, rfl, fun _ _ => State.noConfusion⟩) (Or.inl rfl)
  | dials token place asks answered notOpen reconnect countdown less due is =>
      obtain ⟨reconnect_eq, countdown_eq⟩ := less.of_unarmed noReconnect noCountdown
      have looks : turn.fires .tokenLook = true := by
        cases asks with
        | connect session told =>
            rw [Turn.asksAnew, told] at unasked
            cases unasked
        | startOver told =>
            rw [Turn.asksAnew, told] at unasked
            cases unasked
        | reconnect told =>
            rw [told, canTake, Schedule.due?, noReconnect] at can
            cases can
        | tokenLook told =>
            exact Turn.fires_iff.mpr told
      exact isUnhurried_of_quiet is (fun _ _ => Phase.noConfusion) reconnect_eq countdown_eq
        (Or.inl rfl) (Or.inr looks)
  | restarts token told answered is =>
      rw [Turn.asksAnew, told] at unasked
      cases unasked

/-- Once no attempt is waited for, none is announced before the connection has ended, and only a
look for a token leads to another dial. -/
theorem unhurried_run {turns : List (Turn Payload)} (hasNoWait : before.HasNoWait)
    (provisioned : before.Provisioned) (timely : isTimely setup turns before = true)
    (unasked : ∀ turn ∈ turns, turn.asksAnew = false)
    (goesOn : endings setup turns before = 0) :
    (∀ attempt seconds, .reconnecting attempt seconds ∉ statesOf (effects setup turns before)) ∧
      ((∀ turn ∈ turns, turn.fires .tokenLook = false) →
        dialled (livesOf (effects setup turns before)) = []) := by
  induction turns generalizing before with
  | nil =>
      exact ⟨fun _ _ => List.not_mem_nil, fun _ => rfl⟩
  | cons turn rest inductionHypothesis =>
      obtain ⟨can, restTimely⟩ := Bool.and_eq_true_iff.mp timely
      obtain ⟨turnUnasked, restUnasked⟩ := List.forall_mem_cons.mp unasked
      obtain ⟨noEnd, restGoesOn⟩ := endings_cons_eq_zero goesOn
      have now := isUnhurried_take setup hasNoWait provisioned can turnUnasked noEnd
      have nextProvisioned := (sound_take setup turn provisioned can).provisioned
      obtain ⟨laterUnannounced, laterUndialled⟩ :=
        inductionHypothesis now.hasNoWait nextProvisioned restTimely restUnasked restGoesOn
      constructor
      · intro attempt seconds
        rw [effects, statesOf_append, List.mem_append, not_or]
        exact ⟨now.unannounced attempt seconds, laterUnannounced attempt seconds⟩
      · intro noLook
        obtain ⟨turnNoLook, restNoLook⟩ := List.forall_mem_cons.mp noLook
        rw [effects, livesOf_append, dialled_append, laterUndialled restNoLook, List.append_nil]
        rcases now.dials with undialled | looks
        · exact undialled
        · rw [turnNoLook] at looks
          cases looks

end Waits

end Controller

end Parley.Connection
