import Parley.Proofs.Connection.Attempts
import Parley.Proofs.Connection.Credentials

/-!
# Redialling

How soon a connection is dialled again that nobody has asked for. As long as the token stays the
same only the end of a connection leads to another dial, and its close code says when. The main
statement is that two dials are apart by no less than the first delay of the backoff, whatever the
server does, unless it closes with the code that stands for a changed token. After that code the
next dial is due at once, and nothing limits how often.
-/

namespace Parley.Connection

variable {Payload : Type}

theorem Aftermath.ofCode_eq_retry_iff {code : Nat} {immediate : Bool} :
    ofCode code = .retry immediate ↔
      (code ≠ Wire.CloseCode.normal ∧ code ≠ Wire.CloseCode.rejected) ∧
        immediate = decide (code = Wire.CloseCode.tokenChanged) := by
  unfold ofCode Wire.CloseCode.isTerminal
  by_cases normal : code = Wire.CloseCode.normal
  · simp [normal, Wire.CloseCode.normal, Wire.CloseCode.rejected]
  · by_cases rejected : code = Wire.CloseCode.rejected
    · simp [rejected]
    · simp [normal, rejected, eq_comm]

/-- The user wants a connection while an open one has another token than the provider answers. -/
def Turn.ChangesToken (turn : Turn Payload) (controller : Controller Payload) : Prop :=
  ∃ session link token, turn.stimulus = .command (.connect session) ∧
    controller.link = some link ∧ link.isOpen = true ∧
    turn.around.answers 0 = some token ∧ link.token ≠ token

theorem Turn.loses_at_once_iff {turn : Turn Payload} {controller : Controller Payload} :
    turn.Loses controller true ↔
      (∃ reason, turn.heard? controller = some (.closed Wire.CloseCode.tokenChanged reason)) ∨
        turn.ChangesToken controller := by
  constructor
  · intro loses
    cases loses with
    | closed code reason _ heard ends =>
        have changed := of_decide_eq_true (Aftermath.ofCode_eq_retry_iff.mp ends).2.symm
        rw [changed] at heard
        exact Or.inl ⟨reason, heard⟩
    | tokenChanged session link token told held linkOpen answered changed =>
        exact Or.inr ⟨session, link, token, told, held, linkOpen, answered, changed⟩
  · rintro (⟨reason, heard⟩ | ⟨session, link, token, told, held, linkOpen, answered, changed⟩)
    · exact .closed _ reason true heard (by decide)
    · exact .tokenChanged session link token told held linkOpen answered changed

/-- Whether the next connection is to be dialled at once does not depend on how the loss is
explained. -/
theorem Turn.loses_inj
    {turn : Turn Payload} {controller : Controller Payload} {first second : Bool}
    (loses : turn.Loses controller first) (also : turn.Loses controller second) :
    first = second := by
  cases loses with
  | closed code reason immediate heard ends =>
      cases also with
      | closed otherCode otherReason immediate alsoHeard alsoEnds =>
          rw [heard] at alsoHeard
          cases alsoHeard
          exact Aftermath.retry.inj (ends.symm.trans alsoEnds)
      | tokenChanged session link token told held linkOpen answered changed =>
          rw [Controller.heard?_of_command told] at heard
          cases heard
  | tokenChanged session link token told held linkOpen answered changed =>
      cases also with
      | closed code reason immediate heard ends =>
          rw [Controller.heard?_of_command told] at heard
          cases heard
      | tokenChanged =>
          rfl

namespace Controller

variable {setup : Setup}

/-- How long a controller waits for another attempt after a close code. -/
def retryWait (setup : Setup) (code : Nat) (controller : Controller Payload) : Nat :=
  if code = Wire.CloseCode.tokenChanged then 0
  else setup.settings.backoff.delay controller.phase.attempts

/-! ## Between two dials -/

/-- Among some turns there is one in which the connection that is held ends, with a code after which
another is dialled. -/
structure Loss (setup : Setup) (start : Controller Payload) (turns held : List (Turn Payload))
    (lost : Turn Payload) (waiting : List (Turn Payload)) (code : Nat) : Prop where
  splits : turns = held ++ lost :: waiting
  heard : ∃ reason, lost.heard? (after setup held start) = some (.closed code reason)
  goesOn : code ≠ Wire.CloseCode.normal ∧ code ≠ Wire.CloseCode.rejected

theorem Loss.append
    {start : Controller Payload} {turns held waiting : List (Turn Payload)} {lost : Turn Payload}
    {code : Nat} (loses : Loss setup start turns held lost waiting code)
    (more : List (Turn Payload)) :
    Loss setup start (turns ++ more) held lost (waiting ++ more) code where
  splits := by
    rw [loses.splits, List.append_assoc]
    rfl
  heard := loses.heard
  goesOn := loses.goesOn

/-- Where a controller stands that has dialled with a token, and that was not asked to connect and
has not dialled since. -/
inductive SinceDial (setup : Setup) (token : String) (start : Controller Payload)
    (turns : List (Turn Payload)) (now : Controller Payload) : Prop where
  | holds (link : Link) (held : now.link = some link) (same : link.token = token)
  | rests (why : Halt) (halted : now.phase = .halted why)
  | waits (held : List (Turn Payload)) (lost : Turn Payload) (waiting : List (Turn Payload))
      (code attempt seconds : Nat) (loses : Loss setup start turns held lost waiting code)
      (backingOff : now.phase = .backoff attempt seconds)
      (due : now.timers.reconnect =
        some (lost.around.now + retryWait setup code (after setup held start)))

section Turns

variable {token : String} {start now next : Controller Payload} {turns : List (Turn Payload)}
  {turn : Turn Payload}

/-- What leaves the connection, the phase and the timer alone leaves a controller where it
stands. -/
theorem SinceDial.goesOn
    (since : SinceDial setup token start turns now) (link : next.link = now.link)
    (phase : next.phase = now.phase) (reconnect : next.timers.reconnect = now.timers.reconnect) :
    SinceDial setup token start (turns ++ [turn]) next := by
  cases since with
  | holds heldLink held same =>
      exact .holds heldLink (link.trans held) same
  | rests why halted =>
      exact .rests why (phase.trans halted)
  | waits held lost waiting code attempt seconds loses backingOff due =>
      exact .waits held lost _ code attempt seconds (loses.append [turn]) (phase.trans backingOff)
        (reconnect.trans due)

theorem exists_dial_of_dialled
    {effects : List (Effect Payload)} (dials : dialled (livesOf effects) ≠ []) :
    ∃ serial token url, .dial serial token url ∈ effects := by
  obtain ⟨serial, member⟩ := List.exists_mem_of_ne_nil _ dials
  obtain ⟨life, isLife, isDial⟩ := List.mem_filterMap.mp member
  obtain ⟨effect, isEffect, lives⟩ := List.mem_filterMap.mp isLife
  cases effect with
  | dial serial token url =>
      exact ⟨serial, token, url, isEffect⟩
  | close serial code reason =>
      cases lives
      cases isDial
  | abandon serial =>
      cases lives
      cases isDial
  | _ =>
      cases lives

/-- A turn dials a while after the connection has ended that was held before it. -/
structure ComesBack (setup : Setup) (start : Controller Payload) (turns held : List (Turn Payload))
    (lost : Turn Payload) (waiting : List (Turn Payload)) (code : Nat) (turn : Turn Payload) :
    Prop where
  loses : Loss setup start turns held lost waiting code
  waited : lost.around.now + retryWait setup code (after setup held start) ≤ turn.around.now

/-- Without a command to connect, a token that stays the same is dialled with only as the wait is
over that has followed the end of the last connection. -/
theorem due_of_dial
    (since : SinceDial setup token start turns now) (provisioned : now.Provisioned)
    (isTime : now.isTimeFor turn = true) (unasked : turn.asksAnew = false)
    (steady : ∀ place, turn.around.answers place = some token)
    (dials : dialled (livesOf (now.take setup turn).outbox) ≠ []) :
    ∃ held lost waiting code, ComesBack setup start turns held lost waiting code turn := by
  obtain ⟨serial, dialledToken, url, member⟩ := exists_dial_of_dialled dials
  have well := dialsWell_of_mem member
  obtain ⟨place, asks, answered⟩ := well.answered
  have sameToken : dialledToken = token := by
    rw [steady place] at answered
    exact (Option.some.inj answered).symm
  have fires : turn.stimulus = .timer .reconnect ∨ turn.stimulus = .timer .tokenLook := by
    cases asks with
    | connect session told =>
        simp [Turn.asksAnew, told] at unasked
    | startOver told =>
        simp [Turn.asksAnew, told] at unasked
    | reconnect told =>
        exact Or.inl told
    | tokenLook told =>
        exact Or.inr told
  have goesOn : turn.stimulus ≠ .command .startOver := by
    rcases fires with told | told <;> simp [told]
  have can := canTake_of_isTimeFor isTime
  unfold Provisioned at provisioned
  cases since with
  | holds link held same =>
      -- A timer that is left over from before finds the connection that it would dial for.
      exact absurd (same.trans sameToken.symm) (well.changed link held goesOn)
  | rests why halted =>
      rw [halted] at provisioned
      obtain ⟨_, noLook, noReconnect, _⟩ := provisioned
      rcases fires with told | told <;>
        simp [told, canTake, Schedule.due?, noLook, noReconnect] at can
  | waits held lost waiting code attempt seconds loses backingOff due =>
      rw [backingOff] at provisioned
      obtain ⟨_, noLook, _, _⟩ := provisioned
      rcases fires with told | told
      · have waited : lost.around.now + retryWait setup code (after setup held start) ≤
            turn.around.now := by
          simpa [isTimeFor, told, Schedule.due?, due] using isTime
        exact ⟨held, lost, waiting, code, loses, waited⟩
      · simp [told, canTake, Schedule.due?, noLook] at can

/-- A turn that does not dial leads from one such place to another. -/
theorem sinceDial_take
    (since : SinceDial setup token start turns now) (is : after setup turns start = now)
    (provisioned : now.Provisioned) (can : now.canTake turn.stimulus = true)
    (unasked : turn.asksAnew = false)
    (steady : ∀ place, turn.around.answers place = some token)
    (undialled : dialled (livesOf (now.take setup turn).outbox) = []) :
    SinceDial setup token start (turns ++ [turn]) (now.take setup turn) := by
  cases course_take setup turn provisioned can with
  | keeps noSign notDue stays =>
      exact since.goesOn (congrArg Stance.link stays) (congrArg Stance.phase stays)
        (congrArg Stance.reconnect stays)
  | faults link cause held sign shows =>
      exact since.goesOn (congrArg Stance.link shows) (congrArg Stance.phase shows)
        (congrArg Stance.reconnect shows)
  | fades attempts reconnect countdown noSign dialling less told fades =>
      cases since with
      | holds link held same =>
          exact .holds link ((congrArg Stance.link fades).trans held) same
      | rests why halted =>
          rw [dialling] at halted
          cases halted
      | waits held lost waiting code attempt seconds loses backingOff due =>
          rw [dialling] at backingOff
          cases backingOff
  | counts attempt seconds backingOff told counts =>
      have phase : (now.take setup turn).phase = .backoff attempt (seconds - 1) :=
        congrArg Stance.phase counts
      cases since with
      | holds link held same =>
          unfold Provisioned at provisioned
          rw [backingOff, held] at provisioned
          cases provisioned.1
      | rests why halted =>
          rw [backingOff] at halted
          cases halted
      | waits held lost waiting code lastAttempt left loses _ due =>
          exact .waits held lost _ code attempt (seconds - 1) (loses.append [turn]) phase
            ((congrArg Stance.reconnect counts).trans due)
  | opens link held sign opens =>
      cases since with
      | holds heldLink isHeld same =>
          rw [held] at isHeld
          cases isHeld
          exact .holds { link with isOpen := true } (congrArg Stance.link opens) same
      | rests why halted =>
          unfold Provisioned at provisioned
          rw [halted, held] at provisioned
          cases provisioned.1
      | waits isHeld lost waiting code attempt seconds loses backingOff due =>
          unfold Provisioned at provisioned
          rw [backingOff, held] at provisioned
          cases provisioned.1
  | stops why cause stops emptied =>
      exact .rests why (congrArg Stance.phase stops)
  | exhausts immediate cause spent exhausts emptied =>
      exact .rests .exhausted (congrArg Stance.phase exhausts)
  | backsOff immediate cause unspent backsOff =>
      cases cause with
      | closed code reason _ heard ends =>
          obtain ⟨goesOn, atOnce⟩ := Aftermath.ofCode_eq_retry_iff.mp ends
          subst is
          refine .waits turns turn [] code _ _ ⟨rfl, ⟨reason, heard⟩, goesOn⟩
            (congrArg Stance.phase backsOff) ?_
          refine (congrArg Stance.reconnect backsOff).trans ?_
          rw [atOnce, retryWait]
          simp only [decide_eq_true_eq]
          rfl
      | tokenChanged session link other told held linkOpen answered changed =>
          simp [Turn.asksAnew, told] at unasked
  | awaits place asks lacks awaits =>
      rw [steady place] at lacks
      cases lacks
  | dials dialledToken place asks answered notOpen reconnect countdown less due dials =>
      have isDial : dialled (livesOf (now.take setup turn).outbox) = [now.serial + 1] :=
        congrArg Stance.dials dials
      rw [isDial] at undialled
      cases undialled
  | restarts dialledToken told answered restarts =>
      simp [Turn.asksAnew, told] at unasked

/-- So do any number of such turns. -/
theorem sinceDial_run
    {more : List (Turn Payload)} (since : SinceDial setup token start turns now)
    (is : after setup turns start = now) (provisioned : now.Provisioned)
    (timely : isTimely setup more now = true) (unasked : ∀ turn ∈ more, turn.asksAnew = false)
    (steady : ∀ turn ∈ more, ∀ place, turn.around.answers place = some token)
    (undialled : dialled (livesOf (effects setup more now)) = []) :
    SinceDial setup token start (turns ++ more) (after setup more now) := by
  induction more generalizing turns now with
  | nil =>
      rw [List.append_nil]
      exact since
  | cons turn rest inductionHypothesis =>
      obtain ⟨can, restTimely⟩ := Bool.and_eq_true_iff.mp timely
      obtain ⟨turnUnasked, restUnasked⟩ := List.forall_mem_cons.mp unasked
      obtain ⟨turnSteady, restSteady⟩ := List.forall_mem_cons.mp steady
      rw [effects, livesOf_append, dialled_append] at undialled
      obtain ⟨turnUndialled, restUndialled⟩ := List.append_eq_nil_iff.mp undialled
      have next :=
        sinceDial_take since is provisioned can turnUnasked turnSteady turnUndialled
      have isNext : after setup (turns ++ [turn]) start = now.take setup turn := by
        rw [after_append, is]
        rfl
      have nextProvisioned := (sound_take setup turn provisioned can).provisioned
      have later :=
        inductionHypothesis next isNext nextProvisioned restTimely restUnasked restSteady
          restUndialled
      rw [List.append_assoc] at later
      exact later

end Turns

/-! ## Whole runs -/

/-- A turn dials after another one that did, with no dial in between and no command to connect
since. -/
structure FollowsDial (setup : Setup) (turns before : List (Turn Payload)) (first : Turn Payload)
    (between : List (Turn Payload)) (second : Turn Payload) (rest : List (Turn Payload)) :
    Prop where
  splits : turns = before ++ [first] ++ between ++ [second] ++ rest
  firstDials :
    dialled (livesOf ((after setup before (.initial setup)).take setup first).outbox) ≠ []
  undialled :
    dialled (livesOf (effects setup between (after setup (before ++ [first]) (.initial setup)))) =
      []
  secondDials :
    dialled (livesOf
      ((after setup (before ++ [first] ++ between) (.initial setup)).take setup second).outbox) ≠ []
  unasked : ∀ turn ∈ between ++ [second], turn.asksAnew = false

/-- A controller begins to wait for an attempt. It is due at once exactly if the token has changed
or the server has closed with the code for that, and after the least delay or more otherwise. -/
structure BeginsToWait (setup : Setup) (turn : Turn Payload) (before : Controller Payload)
    (wait : Nat) : Prop where
  reconnect_eq : (before.take setup turn).timers.reconnect = some (turn.around.now + wait)
  at_once_iff :
    wait = 0 ↔
      (∃ reason, turn.heard? before = some (.closed Wire.CloseCode.tokenChanged reason)) ∨
        turn.ChangesToken before
  least : wait = 0 ∨ setup.settings.backoff.baseDelay ≤ wait

/-- How long it takes in a run until a connection is dialled again. -/
structure RedialsWait (setup : Setup) (turns : List (Turn Payload)) : Prop where
  /-- While the token stays the same, a connection that nobody asks for follows the end of another
  one, and follows the dial of that by the least delay unless the server closed with the code for a
  changed token. -/
  spaced :
    ∀ token, (∀ turn ∈ turns, ∀ place, turn.around.answers place = some token) →
      ∀ before first between second rest,
        FollowsDial setup turns before first between second rest →
          ∃ held lost waiting code,
            ComesBack setup (after setup (before ++ [first]) (.initial setup)) between held lost
                waiting code second ∧
              (code ≠ Wire.CloseCode.tokenChanged →
                first.around.now + setup.settings.backoff.baseDelay ≤ second.around.now)
  /-- Whatever the provider answers, this is how every wait begins. -/
  waits :
    ∀ before turn rest attempt seconds, turns = before ++ [turn] ++ rest →
      (∀ attempt seconds,
        (after setup before (.initial setup)).phase ≠ .backoff attempt seconds) →
      (after setup (before ++ [turn]) (.initial setup)).phase = .backoff attempt seconds →
        ∃ wait, BeginsToWait setup turn (after setup before (.initial setup)) wait

section Runs

variable {turn : Turn Payload} {before : Controller Payload}

/-- Only the loss of a connection makes a controller wait for an attempt. -/
theorem stance_of_backoff
    {attempt seconds : Nat} (provisioned : before.Provisioned)
    (can : before.canTake turn.stimulus = true)
    (fresh : ∀ attempt seconds, before.phase ≠ .backoff attempt seconds)
    (waits : (before.take setup turn).phase = .backoff attempt seconds) :
    ∃ immediate, turn.Loses before immediate ∧
      (before.take setup turn).stance =
        before.atRest.vacated.backsOff (before.phase.attempts + 1)
          (if immediate then 0 else setup.settings.backoff.delay before.phase.attempts)
          turn.around.now := by
  have elsewhere {phase : Phase} (is : (before.take setup turn).phase = phase)
      (other : phase ≠ .backoff attempt seconds) :
      ∃ immediate, turn.Loses before immediate ∧
        (before.take setup turn).stance =
          before.atRest.vacated.backsOff (before.phase.attempts + 1)
            (if immediate then 0 else setup.settings.backoff.delay before.phase.attempts)
            turn.around.now :=
    absurd (is.symm.trans waits) other
  cases course_take setup turn provisioned can with
  | keeps noSign notDue is =>
      exact elsewhere (congrArg Stance.phase is) (fresh attempt seconds)
  | fades attempts reconnect countdown noSign dialling less told is =>
      exact elsewhere (congrArg Stance.phase is) (fresh attempt seconds)
  | faults link cause held sign is =>
      exact elsewhere (congrArg Stance.phase is) (fresh attempt seconds)
  | counts lastAttempt left backingOff told is =>
      exact absurd backingOff (fresh lastAttempt left)
  | opens link held sign is =>
      exact elsewhere (congrArg Stance.phase is) Phase.noConfusion
  | stops why cause is emptied =>
      exact elsewhere (congrArg Stance.phase is) Phase.noConfusion
  | exhausts immediate cause spent is emptied =>
      exact elsewhere (congrArg Stance.phase is) Phase.noConfusion
  | awaits place asks lacks is =>
      exact elsewhere (congrArg Stance.phase is) Phase.noConfusion
  | dials token place asks answered notOpen reconnect countdown less due is =>
      exact elsewhere (congrArg Stance.phase is) Phase.noConfusion
  | restarts token told answered is =>
      exact elsewhere (congrArg Stance.phase is) Phase.noConfusion
  | backsOff immediate cause unspent is =>
      exact ⟨immediate, cause, is⟩

theorem loses_of_backoff
    {attempt seconds : Nat} (provisioned : before.Provisioned)
    (can : before.canTake turn.stimulus = true)
    (fresh : ∀ attempt seconds, before.phase ≠ .backoff attempt seconds)
    (waits : (before.take setup turn).phase = .backoff attempt seconds) :
    ∃ immediate, turn.Loses before immediate ∧
      (before.take setup turn).timers.reconnect =
        some (turn.around.now +
          if immediate then 0 else setup.settings.backoff.delay before.phase.attempts) := by
  obtain ⟨immediate, loses, is⟩ := stance_of_backoff provisioned can fresh waits
  exact ⟨immediate, loses, congrArg Stance.reconnect is⟩

theorem beginsToWait_of_loses
    {immediate : Bool} {base : Url.Parts} (valid : setup.settings.check = .ok base)
    (fits : setup.settings.backoff.FitsWords) (loses : turn.Loses before immediate)
    (reconnect : (before.take setup turn).timers.reconnect =
      some (turn.around.now +
        if immediate then 0 else setup.settings.backoff.delay before.phase.attempts)) :
    ∃ wait, BeginsToWait setup turn before wait := by
  obtain ⟨positive, capped⟩ := Settings.Client.delays_of_check valid
  have least := Settings.Backoff.baseDelay_le_delay fits capped before.phase.attempts
  refine ⟨_, reconnect, ?_, ?_⟩
  · rw [← Turn.loses_at_once_iff]
    cases immediate with
    | true =>
        exact ⟨fun _ => loses, fun _ => rfl⟩
    | false =>
        constructor
        · intro atOnce
          exact absurd (Nat.lt_of_lt_of_le positive least) (Nat.not_lt.mpr (Nat.le_of_eq atOnce))
        · intro atOnce
          cases Turn.loses_inj loses atOnce
  · cases immediate with
    | true =>
        exact Or.inl rfl
    | false =>
        exact Or.inr least

end Runs

/-- In every punctual run of valid settings, connections that nobody asks for are dialled no sooner
than the backoff allows, unless the server closes with the code for a changed token. -/
theorem redials_wait
    (setup : Setup) {base : Url.Parts} (valid : setup.settings.check = .ok base)
    (fits : setup.settings.backoff.FitsWords) (turns : List (Turn Payload))
    (punctual : isPunctual setup 0 turns (.initial setup) = true) :
    RedialsWait setup turns := by
  constructor
  · intro token steady before first between second rest follows
    have split := follows.splits
    subst split
    obtain ⟨throughSecond, _⟩ := isPunctual_append.mp punctual
    obtain ⟨throughBetween, secondPunctual⟩ := isPunctual_append.mp throughSecond
    obtain ⟨throughFirst, betweenPunctual⟩ := isPunctual_append.mp throughBetween
    obtain ⟨throughBefore, firstPunctual⟩ := isPunctual_append.mp throughFirst
    have isSteady (turn : Turn Payload)
        (member : turn ∈ before ++ [first] ++ between ++ [second]) (place : Nat) :
        turn.around.answers place = some token :=
      steady turn (List.mem_append_left rest member) place
    have startProvisioned :
        (after setup (before ++ [first]) (.initial setup)).Provisioned :=
      provisioned_after (initial_provisioned setup) (isTimely_of_isPunctual throughFirst)
    -- The dial of the first turn is held at the start of those that follow.
    have starts :
        SinceDial setup token (after setup (before ++ [first]) (.initial setup)) []
          (after setup (before ++ [first]) (.initial setup)) := by
      obtain ⟨serial, dialledToken, url, member⟩ := exists_dial_of_dialled follows.firstDials
      have well := dialsWell_of_mem member
      obtain ⟨place, _, answered⟩ := well.answered
      rw [isSteady first (by simp) place] at answered
      have held := well.held
      rw [after_append]
      exact .holds _ held (Option.some.inj answered).symm
    have arrives :=
      sinceDial_run starts rfl startProvisioned (isTimely_of_isPunctual betweenPunctual)
        (fun turn member => follows.unasked turn (List.mem_append_left _ member))
        (fun turn member => isSteady turn (by simp [member])) follows.undialled
    rw [← after_append, List.nil_append] at arrives
    obtain ⟨_, isTime, _⟩ := isPunctual_cons.mp secondPunctual
    have provisioned :=
      provisioned_after (initial_provisioned setup) (isTimely_of_isPunctual throughBetween)
    obtain ⟨held, lost, waiting, code, comesBack⟩ :=
      due_of_dial arrives provisioned isTime (follows.unasked second (by simp))
        (isSteady second (by simp)) follows.secondDials
    refine ⟨held, lost, waiting, code, comesBack, ?_⟩
    intro otherCode
    obtain ⟨_, capped⟩ := Settings.Client.delays_of_check valid
    have notBack : first.around.now ≤ lost.around.now := by
      apply clock_le_of_isPunctual (clockAfter_append 0 before [first] ▸ betweenPunctual)
      rw [comesBack.loses.splits]
      simp
    calc first.around.now + setup.settings.backoff.baseDelay
        ≤ lost.around.now +
            retryWait setup code
              (after setup held (after setup (before ++ [first]) (.initial setup))) := by
          rw [retryWait, if_neg otherCode]
          exact Nat.add_le_add notBack (Settings.Backoff.baseDelay_le_delay fits capped _)
      _ ≤ second.around.now := comesBack.waited
  · intro before turn rest attempt seconds split fresh waits
    subst split
    obtain ⟨throughTurn, _⟩ := isPunctual_append.mp punctual
    obtain ⟨throughBefore, turnPunctual⟩ := isPunctual_append.mp throughTurn
    obtain ⟨_, isTime, _⟩ := isPunctual_cons.mp turnPunctual
    have provisioned :=
      provisioned_after (initial_provisioned setup) (isTimely_of_isPunctual throughBefore)
    rw [after_append] at waits
    obtain ⟨immediate, loses, reconnect⟩ :=
      loses_of_backoff provisioned (canTake_of_isTimeFor isTime) fresh waits
    exact beginsToWait_of_loses valid fits loses reconnect

/-- A moment with one answer of the provider, at which the channel takes everything. -/
def moment (token : String) (now : Nat) : Surroundings :=
  { Surroundings.steady (some token) with now }

/-- The server breaks a connection off, and the next one is dialled as the wait is over. -/
def brokenOff : List (Turn String) :=
  [⟨moment "key" 0, .command (.connect none)⟩,
    ⟨moment "key" 20, .report 1 .opened⟩,
    ⟨moment "key" 500, .report 1 (.closed 1006 "reset")⟩,
    ⟨moment "key" 1500, .timer .countdown⟩,
    ⟨moment "key" 1500, .timer .reconnect⟩]

def standardTarget : Url.Parts :=
  ⟨.plain, [], [], .ipv4 0x7f000001, some 9375, [['a', 'p', 'i'], ['c', 'h', 'a', 't']], none, none⟩

theorem redials_wait_of_brokenOff :
    Setup.standard.settings.check = .ok standardTarget ∧
      Setup.standard.settings.backoff.FitsWords ∧
      isPunctual .standard 0 brokenOff (.initial .standard) = true ∧
      (∀ turn ∈ brokenOff, ∀ place, turn.around.answers place = some "key") ∧
      FollowsDial .standard brokenOff [] ⟨moment "key" 0, .command (.connect none)⟩
        ((brokenOff.drop 1).take 3) ⟨moment "key" 1500, .timer .reconnect⟩ [] ∧
      RedialsWait .standard brokenOff := by
  have valid : Setup.standard.settings.check = .ok standardTarget := rfl
  have fits : Setup.standard.settings.backoff.FitsWords := ⟨by decide, by decide⟩
  have punctual : isPunctual .standard 0 brokenOff (.initial .standard) = true := by
    decide
  have follows :
      FollowsDial .standard brokenOff [] ⟨moment "key" 0, .command (.connect none)⟩
        ((brokenOff.drop 1).take 3) ⟨moment "key" 1500, .timer .reconnect⟩ [] :=
    ⟨rfl, by decide, by decide, by decide, by decide⟩
  have steady : ∀ turn ∈ brokenOff, ∀ place, turn.around.answers place = some "key" := by
    simp [brokenOff, moment, Surroundings.steady]
  exact ⟨valid, fits, punctual, steady, follows,
    redials_wait .standard valid fits brokenOff punctual⟩

/-- The server closes the first connection at once, with the code for a changed token. -/
def turnedAway : List (Turn String) :=
  [⟨moment "key" 0, .command (.connect none)⟩,
    ⟨moment "key" 0, .report 1 .opened⟩,
    ⟨moment "key" 0, .report 1 (.closed Wire.CloseCode.tokenChanged "")⟩,
    ⟨moment "key" 0, .timer .reconnect⟩]

/-- No time passes until the next connection is dialled, with the same token. -/
theorem unspaced_of_turnedAway :
    Setup.standard.settings.check = .ok standardTarget ∧
      isPunctual .standard 0 turnedAway (.initial .standard) = true ∧
      (∀ turn ∈ turnedAway, ∀ place, turn.around.answers place = some "key") ∧
      ¬ ∀ before first between second rest,
        FollowsDial .standard turnedAway before first between second rest →
          first.around.now + Setup.standard.settings.backoff.baseDelay ≤ second.around.now := by
  have follows :
      FollowsDial .standard turnedAway [] ⟨moment "key" 0, .command (.connect none)⟩
        ((turnedAway.drop 1).take 2) ⟨moment "key" 0, .timer .reconnect⟩ [] :=
    ⟨rfl, by decide, by decide, by decide, by decide⟩
  refine ⟨rfl, by decide, by simp [turnedAway, moment, Surroundings.steady], ?_⟩
  intro spaced
  have waited : 0 + 1000 ≤ 0 := spaced _ _ _ _ _ follows
  cases waited

/-! ## A server that turns everyone away -/

section TurningAway

variable {token : String} {serial : Nat} {turn : Turn Payload} {before : Controller Payload}

/-- A connection is accepted and closed at once with the code for a changed token, and the next one
is dialled. -/
def turnAway (token : String) (serial : Nat) : List (Turn Payload) :=
  [⟨moment token 0, .report serial .opened⟩,
    ⟨moment token 0, .report serial (.closed Wire.CloseCode.tokenChanged "")⟩,
    ⟨moment token 0, .timer .reconnect⟩]

/-- So are any number of connections, from a serial number on. -/
def turnAllAway (token : String) : Nat → Nat → List (Turn Payload)
  | _, 0 => []
  | serial, count + 1 => turnAway token serial ++ turnAllAway token (serial + 1) count

/-- The connection with a serial number was dialled last, with the token. -/
structure Dialling (token : String) (serial : Nat) (controller : Controller Payload) : Prop where
  link_eq : controller.link = some ⟨serial, token, false⟩
  serial_eq : controller.serial = serial

theorem take_opening
    (setup : Setup) (dialling : before.Dialling token serial)
    (told : turn = ⟨moment token 0, .report serial .opened⟩) :
    (before.take setup turn).link = some ⟨serial, token, true⟩ ∧
      (before.take setup turn).serial = serial ∧
      (before.take setup turn).phase = .opened ∧
      dialled (livesOf (before.take setup turn).outbox) = [] := by
  obtain ⟨held, isLast⟩ := dialling
  have heard : turn.heard? before = some .opened :=
    heard?_eq_some_iff.mpr ⟨serial, _, congrArg Turn.stimulus told, held, rfl⟩
  have stands := stance_onOpened turn.around.accepts held
  obtain ⟨backlog, moved, opens, _⟩ :=
    onOpened_frame turn.around.accepts { before with outbox := [] }
  rw [take_of_opened setup heard]
  refine ⟨congrArg Stance.link stands, ?_, congrArg Stance.phase stands,
    congrArg Stance.dials stands⟩
  rw [opens]
  exact isLast

theorem take_closing
    (limit : 0 < setup.settings.backoff.attemptLimit)
    (held : before.link = some ⟨serial, token, true⟩) (opened : before.phase = .opened)
    (told :
      turn = ⟨moment token 0, .report serial (.closed Wire.CloseCode.tokenChanged "")⟩) :
    (before.take setup turn).link = none ∧
      (before.take setup turn).serial = before.serial ∧
      (before.take setup turn).timers.reconnect = some 0 ∧
      dialled (livesOf (before.take setup turn).outbox) = [] := by
  have heard : turn.heard? before = some (.closed Wire.CloseCode.tokenChanged "") :=
    heard?_eq_some_iff.mpr ⟨serial, _, congrArg Turn.stimulus told, held, rfl⟩
  have now : turn.around.now = 0 := by
    rw [told]
    rfl
  have ends : Aftermath.ofCode Wire.CloseCode.tokenChanged = .retry true := by
    decide
  have waits (lost : Controller Payload) (vacant : lost.link = none)
      (phase : lost.phase = .opened) (silent : livesOf lost.outbox = []) :
      (waitForAttempt setup 0 true lost).link = none ∧
        (waitForAttempt setup 0 true lost).serial = lost.serial ∧
        (waitForAttempt setup 0 true lost).timers.reconnect = some 0 ∧
        dialled (livesOf (waitForAttempt setup 0 true lost).outbox) = [] := by
    have asked : lost.phase.nextAttempt setup.settings.backoff =
        .after 1 (setup.settings.backoff.delay 0) := by
      rw [phase]
      exact Phase.nextAttempt_of_unspent rfl limit
    rw [waitForAttempt_of_after 0 true asked rfl rfl]
    simp [vacant, silent]
  obtain ⟨link, _, closes⟩ := take_of_closed setup heard
  rw [closes, onClosed_of_retry setup _ _ _ ends, now]
  exact waits _ rfl opened (by simp)

theorem take_redial
    (setup : Setup) (vacant : before.link = none)
    (told : turn = ⟨moment token 0, .timer .reconnect⟩) :
    (before.take setup turn).Dialling token (before.serial + 1) ∧
      dialled (livesOf (before.take setup turn).outbox) = [before.serial + 1] := by
  subst told
  have dials : before.take setup ⟨moment token 0, .timer .reconnect⟩ =
      dial setup token
        { before with
          timers := before.timers.forgetRetry.forgetLook
          phase := before.phase.launch
          outbox := [] } :=
    connect_of_vacant setup _ token vacant
  rw [dials]
  refine ⟨⟨?_, ?_⟩, ?_⟩
  · rw [dial_eq]
  · rw [dial_eq]
  · exact congrArg Stance.dials (stance_dial setup token _)

/-- The count of attempts starts again with every connection that opens, so that it never reaches a
limit. -/
theorem dialling_turnAway
    (limit : 0 < setup.settings.backoff.attemptLimit) (dialling : before.Dialling token serial) :
    (after setup (turnAway token serial) before).Dialling token (serial + 1) ∧
      dialled (livesOf (effects setup (turnAway token serial) before)) = [serial + 1] ∧
      isPunctual setup 0 (turnAway token serial) before = true := by
  obtain ⟨held, last, opened, openingDials⟩ := take_opening setup dialling rfl
  obtain ⟨vacant, kept, due, closingDials⟩ := take_closing limit held opened rfl
  obtain ⟨next, redials⟩ := take_redial setup vacant rfl
  rw [kept, last] at next redials
  refine ⟨next, ?_, ?_⟩
  · simp only [turnAway, effects, livesOf_append, dialled_append, openingDials,
      closingDials, redials]
    rfl
  · have isTime :
        isTimeFor
          ((before.take setup ⟨moment token 0, .report serial .opened⟩).take setup
            ⟨moment token 0, .report serial (.closed Wire.CloseCode.tokenChanged "")⟩)
          ⟨moment token 0, .timer .reconnect⟩ = true := by
      simp [isTimeFor, Schedule.due?, due]
    refine isPunctual_cons.mpr ⟨Nat.le_refl 0, rfl, ?_⟩
    refine isPunctual_cons.mpr ⟨Nat.le_refl 0, rfl, ?_⟩
    exact isPunctual_cons.mpr ⟨Nat.le_refl 0, isTime, rfl⟩

/-- A server that turns connections away is dialled again as often as it does, and no time passes.
-/
theorem dialling_turnAllAway
    (limit : 0 < setup.settings.backoff.attemptLimit) (count : Nat)
    (dialling : before.Dialling token serial) :
    dialled (livesOf (effects setup (turnAllAway token serial count) before)) =
        List.range' (serial + 1) count ∧
      isPunctual setup 0 (turnAllAway token serial count) before = true := by
  induction count generalizing serial before with
  | zero =>
      exact ⟨rfl, rfl⟩
  | succ count inductionHypothesis =>
      obtain ⟨next, dials, punctual⟩ := dialling_turnAway limit dialling
      obtain ⟨laterDials, laterPunctual⟩ := inductionHypothesis next
      constructor
      · rw [turnAllAway, effects_append, livesOf_append, dialled_append, dials,
          laterDials]
        rfl
      · exact isPunctual_append.mpr ⟨punctual, laterPunctual⟩

theorem quiet_turnAllAway (token : String) (serial count : Nat) :
    ∀ turn ∈ (turnAllAway token serial count : List (Turn Payload)),
      turn.asksAnew = false ∧ turn.around = moment token 0 := by
  induction count generalizing serial with
  | zero =>
      intro turn member
      cases member
  | succ count inductionHypothesis =>
      intro turn member
      rcases List.mem_append.mp member with now | later
      · simp only [turnAway, List.mem_cons, List.not_mem_nil, or_false] at now
        rcases now with rfl | rfl | rfl <;> exact ⟨rfl, rfl⟩
      · exact inductionHypothesis (serial + 1) turn later

/-- However many attempts may fail in a row, a server can have any number of connections dialled in
one moment, with one token, of which the user has asked for the first alone. -/
theorem dials_unbounded
    (setup : Setup) (limit : 0 < setup.settings.backoff.attemptLimit) (token : String)
    (count : Nat) :
    ∃ rest : List (Turn Payload),
      isPunctual setup 0 (⟨moment token 0, .command (.connect none)⟩ :: rest) (.initial setup) =
          true ∧
        (∀ turn ∈ rest, turn.asksAnew = false ∧ turn.around = moment token 0) ∧
        dialled (livesOf (effects setup
            (⟨moment token 0, .command (.connect none)⟩ :: rest) (.initial setup))) =
          List.range' 1 (count + 1) := by
  have first : (after setup [⟨moment token 0, .command (.connect none)⟩]
      (initial setup : Controller Payload)).Dialling token 1 :=
    ⟨rfl, rfl⟩
  obtain ⟨dials, punctual⟩ := dialling_turnAllAway limit count first
  refine ⟨turnAllAway token 1 count, ?_, ?_, ?_⟩
  · exact isPunctual_cons.mpr ⟨Nat.le_refl 0, rfl, punctual⟩
  · exact quiet_turnAllAway token 1 count
  · rw [effects, livesOf_append, dialled_append]
    exact congrArg (1 :: ·) dials

end TurningAway

end Controller

end Parley.Connection
