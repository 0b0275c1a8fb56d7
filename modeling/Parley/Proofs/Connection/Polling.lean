import Parley.Proofs.Connection.Timekeeping

/-!
# Polling for a token

While there is no token the provider is asked for one at a fixed rhythm. The main statement is that
no order to connect or to send disturbs the rhythm, and that the first look that finds a token leads
to the one dial that is made with it.
-/

namespace Parley.Connection

variable {Payload : Type}

/-- The user gives an order that ends the wait for a token, or begins it anew. -/
def Turn.breaksOff (turn : Turn Payload) : Bool :=
  match turn.stimulus with
  | .command .disconnect => true
  | .command .startOver => true
  | _ => false

/-- The provider has no token where a connection is asked for or a look is due. In a look the second
answer counts. -/
structure Turn.FindsNone (turn : Turn Payload) : Prop where
  connect : ∀ session, turn.stimulus = .command (.connect session) → turn.around.answers 0 = none
  look : turn.fires .tokenLook = true → turn.around.answers 1 = none

/-- The provider has a token, and the user neither asks for a connection nor gives one up. -/
structure Turn.HasToken (token : String) (turn : Turn Payload) : Prop where
  unasked : turn.asksAnew = false
  goesOn : turn.disconnects = false
  answered : ∀ place, turn.around.answers place = some token

theorem Turn.HasToken.breaksOff_eq {token : String} {turn : Turn Payload}
    (hasToken : turn.HasToken token) : turn.breaksOff = false := by
  obtain ⟨unasked, goesOn, -⟩ := hasToken
  unfold asksAnew at unasked
  unfold disconnects at goesOn
  unfold breaksOff
  split
  next told =>
    rw [told] at goesOn
    cases goesOn
  next told =>
    rw [told] at unasked
    cases unasked
  next =>
    rfl

/-- As long as no look is due, the provider is not asked for its token. -/
theorem Turn.HasToken.findsNone {token : String} {turn : Turn Payload}
    (hasToken : turn.HasToken token) (noLook : turn.fires .tokenLook = false) :
    turn.FindsNone where
  connect session told := by
    have unasked := hasToken.unasked
    rw [asksAnew, told] at unasked
    cases unasked
  look looks := by
    rw [noLook] at looks
    cases looks

namespace Controller

variable {setup : Setup} {clock start looks : Nat} {turn : Turn Payload}
  {before : Controller Payload}

/-! ## The first look -/

theorem tokenLook_waitForToken (setup : Setup) (now : Nat) {controller : Controller Payload}
    (notWaiting : controller.phase ≠ .waitingForToken) :
    (waitForToken setup now controller).timers.tokenLook =
      some (now + setup.settings.tokenLook) := by
  rcases waitForToken_cases setup now controller with ⟨waiting, -⟩ | ⟨-, begins⟩
  · exact absurd waiting notWaiting
  · rw [begins]

/-- A controller that begins to wait for a token looks for it a whole interval later. -/
theorem tokenLook_of_lacks (setup : Setup) (provisioned : before.Provisioned)
    (can : before.canTake turn.stimulus = true) (notWaiting : before.phase ≠ .waitingForToken)
    {place : Nat} (asks : turn.AsksForToken place) (lacks : turn.around.answers place = none) :
    (before.take setup turn).timers.tokenLook =
      some (turn.around.now + setup.settings.tokenLook) := by
  cases asks with
  | connect session told =>
      simp only [take, step, told, onCommand, lacks, connect]
      apply tokenLook_waitForToken
      cases session <;> exact notWaiting
  | startOver told =>
      simp only [take, step, told, onCommand, startOver_eq, lacks, connect]
      apply tokenLook_waitForToken
      exact Phase.noConfusion
  | reconnect told =>
      simp only [take, step, told, onTimer, onReconnectDue, lacks, connect]
      apply tokenLook_waitForToken
      cases phase : before.phase with
      | waitingForToken =>
          exact absurd phase notWaiting
      | _ =>
          simp [Phase.launch]
  | tokenLook told =>
      rw [told] at can
      exact absurd (provisioned.coherent.tokenLook_iff.mp can) notWaiting

/-- Only a turn that asks for a token in vain makes a controller wait for one. -/
theorem lacks_of_waiting (setup : Setup) (provisioned : before.Provisioned)
    (can : before.canTake turn.stimulus = true) (notWaiting : before.phase ≠ .waitingForToken)
    (waits : (before.take setup turn).phase = .waitingForToken) :
    ∃ place, turn.AsksForToken place ∧ turn.around.answers place = none ∧
      (before.take setup turn).state = .disconnected := by
  have elsewhere {phase : Phase} (is : (before.take setup turn).phase = phase)
      (other : phase ≠ .waitingForToken) :
      ∃ place, turn.AsksForToken place ∧ turn.around.answers place = none ∧
        (before.take setup turn).state = .disconnected :=
    absurd (is.symm.trans waits) other
  cases course_take setup turn provisioned can with
  | keeps noSign notDue is =>
      exact elsewhere (congrArg Stance.phase is) notWaiting
  | fades attempts reconnect countdown noSign dialling less told is =>
      exact elsewhere (congrArg Stance.phase is) notWaiting
  | faults link cause held sign is =>
      exact elsewhere (congrArg Stance.phase is) notWaiting
  | counts attempt seconds backingOff told is =>
      exact elsewhere (congrArg Stance.phase is) Phase.noConfusion
  | opens link held sign is =>
      exact elsewhere (congrArg Stance.phase is) Phase.noConfusion
  | stops why cause is emptied =>
      exact elsewhere (congrArg Stance.phase is) Phase.noConfusion
  | exhausts immediate cause spent is emptied =>
      exact elsewhere (congrArg Stance.phase is) Phase.noConfusion
  | backsOff immediate cause unspent is =>
      exact elsewhere (congrArg Stance.phase is) Phase.noConfusion
  | awaits place asks lacks is =>
      exact ⟨place, asks, lacks, congrArg Stance.state is⟩
  | dials token place asks answered notOpen reconnect countdown less due is =>
      exact elsewhere (congrArg Stance.phase is) Phase.noConfusion
  | restarts token told answered is =>
      exact elsewhere (congrArg Stance.phase is) Phase.noConfusion

/-- Where the provider always has a token, none is waited for. -/
theorem notWaiting_take (setup : Setup) (provisioned : before.Provisioned)
    (can : before.canTake turn.stimulus = true) (notWaiting : before.phase ≠ .waitingForToken)
    (answered : ∀ place, (turn.around.answers place).isSome = true) :
    (before.take setup turn).phase ≠ .waitingForToken := by
  intro waits
  obtain ⟨place, -, lacks, -⟩ := lacks_of_waiting setup provisioned can notWaiting waits
  have some := answered place
  rw [lacks] at some
  cases some

/-! ## Looks -/

/-- A token is waited for, after so many looks for it. -/
structure Looking (setup : Setup) (start looks : Nat) (controller : Controller Payload) :
    Prop where
  provisioned : controller.Provisioned
  phase_eq : controller.phase = .waitingForToken
  state_eq : controller.state = .disconnected
  tokenLook_eq :
    controller.timers.tokenLook = some (start + setup.settings.tokenLook * (looks + 1))

theorem Looking.unarmed (looking : before.Looking setup start looks) :
    before.link = none ∧ before.timers.reconnect = none ∧ before.timers.countdown = none := by
  have provisioned := looking.provisioned
  unfold Provisioned at provisioned
  rw [looking.phase_eq] at provisioned
  obtain ⟨vacant, -, noReconnect, noCountdown⟩ := provisioned
  exact ⟨vacant, noReconnect, noCountdown⟩

/-- A turn neither shows nor opens anything, and leaves the next look at a time. -/
structure LooksOn (due : Option Nat) (after : Controller Payload) : Prop where
  phase_eq : after.phase = .waitingForToken
  state_eq : after.state = .disconnected
  tokenLook_eq : after.timers.tokenLook = due
  unshown : statesOf after.outbox = []
  undialled : livesOf after.outbox = []

theorem looksOn_onTokenLook (looking : before.Looking setup start looks)
    (due : before.timers.tokenLook = some turn.around.now)
    (lacks : turn.around.answers 1 = none) :
    LooksOn (before.timers.tokenLook.map (· + setup.settings.tokenLook))
      (onTokenLook setup turn.around { before with outbox := [] }) := by
  obtain ⟨vacant, -, -⟩ := looking.unarmed
  unfold onTokenLook
  split
  · -- The token that was found is gone before it is used, and the wait begins again at its time.
    rw [lacks, connect]
    rcases waitForToken_cases setup turn.around.now
      { before with timers := before.timers.forgetLook, phase := .idle, outbox := [] } with
      ⟨waiting, -⟩ | ⟨-, begins⟩
    · cases waiting
    · rw [begins, due]
      refine ⟨rfl, rfl, rfl, ?_, ?_⟩
      · simp [looking.state_eq, vacant, farewells, downNotice, isOpen, stateNotice]
      · simp [looking.state_eq, vacant, farewells, downNotice, isOpen, stateNotice]
  · exact ⟨looking.phase_eq, looking.state_eq, rfl, rfl, rfl⟩

/-- A turn without a token moves the next look on by one period if it is a look, and leaves it
else. -/
theorem looksOn_take (looking : before.Looking setup start looks)
    (onTime : IsOnTime clock before turn) (goesOn : turn.breaksOff = false)
    (findsNone : turn.FindsNone) :
    LooksOn
      (if turn.fires .tokenLook then before.timers.tokenLook.map (· + setup.settings.tokenLook)
        else before.timers.tokenLook)
      (before.take setup turn) := by
  obtain ⟨vacant, noReconnect, noCountdown⟩ := looking.unarmed
  have can := onTime.canTake
  unfold take step
  cases told : turn.stimulus with
  | command order =>
      have rests : turn.fires .tokenLook = false := by
        rw [Turn.fires, told]
      rw [rests]
      cases order with
      | connect session =>
          have lacks := findsNone.connect session told
          have stays (ready : Controller Payload) (phase : ready.phase = before.phase)
              (state : ready.state = before.state) (timers : ready.timers = before.timers)
              (unshown : statesOf ready.outbox = []) (undialled : livesOf ready.outbox = []) :
              LooksOn before.timers.tokenLook
                (connect setup turn.around.now none ready) := by
            have waiting : ready.phase = .waitingForToken := phase.trans looking.phase_eq
            rw [connect, waitForToken, if_pos waiting]
            exact ⟨waiting, state.trans looking.state_eq, by rw [timers], unshown, undialled⟩
          simp only [onCommand, lacks]
          cases session with
          | none =>
              exact stays _ rfl rfl rfl rfl rfl
          | some session =>
              exact stays _ rfl rfl rfl rfl rfl
      | send payload =>
          rcases send_cases turn.around.accepts payload { before with outbox := [] } with
            ⟨link, held, -⟩ | ⟨-, waits⟩
          · rw [vacant] at held
            cases held
          · simp only [onCommand, waits, enqueue_eq]
            refine ⟨looking.phase_eq, looking.state_eq, rfl, ?_, ?_⟩
            · cases (before.backlog.push payload).2 <;> rfl
            · cases (before.backlog.push payload).2 <;> rfl
      | disconnect =>
          rw [Turn.breaksOff, told] at goesOn
          cases goesOn
      | startOver =>
          rw [Turn.breaksOff, told] at goesOn
          cases goesOn
  | report serial report =>
      have rests : turn.fires .tokenLook = false := by
        rw [Turn.fires, told]
      rw [rests]
      simp only [onReport, vacant]
      exact ⟨looking.phase_eq, looking.state_eq, rfl, rfl, rfl⟩
  | timer timer =>
      rw [told] at can
      cases timer with
      | reconnect =>
          rw [canTake, Schedule.due?, noReconnect] at can
          cases can
      | countdown =>
          rw [canTake, Schedule.due?, noCountdown] at can
          cases can
      | tokenLook =>
          have fires : turn.fires .tokenLook = true := Turn.fires_iff.mpr told
          rw [fires]
          exact looksOn_onTokenLook looking (onTime.due_eq fires) (findsNone.look fires)
      | refusalNotice =>
          have rests : turn.fires .tokenLook = false := by
            rw [Turn.fires, told]
            rfl
          rw [rests]
          simp only [onTimer, onRefusalNotice_eq]
          refine ⟨looking.phase_eq, looking.state_eq, rfl, ?_, ?_⟩
          · cases before.untoldRefusal <;> rfl
          · cases before.untoldRefusal <;> rfl

/-- The looks for a token have come by a time, at a fixed rhythm, and nothing has come of them. -/
structure KeepsLooking (setup : Setup) (start now : Nat) (waiting : List (Turn Payload))
    (after : Controller Payload) (done : List (Effect Payload)) : Prop where
  looking : after.Looking setup start (firings .tokenLook waiting)
  notAhead : start + setup.settings.tokenLook * firings .tokenLook waiting ≤ now
  times_eq :
    (waiting.filter (Turn.fires .tokenLook)).map (·.around.now) =
      (List.range (firings .tokenLook waiting)).map fun look =>
        start + setup.settings.tokenLook * (look + 1)
  unshown : statesOf done = []
  undialled : livesOf done = []

/-- One more turn without a token keeps the rhythm of the looks. -/
theorem keepsLooking_take {waiting : List (Turn Payload)} {done : List (Effect Payload)}
    (keepsLooking : KeepsLooking setup start clock waiting before done)
    (onTime : IsOnTime clock before turn) (goesOn : turn.breaksOff = false)
    (findsNone : turn.FindsNone) :
    KeepsLooking setup start turn.around.now (waiting ++ [turn]) (before.take setup turn)
      (done ++ (before.take setup turn).outbox) := by
  obtain ⟨looking, notAhead, times_eq, unshown, undialled⟩ := keepsLooking
  obtain ⟨phase, state, tokenLook, stillUnshown, stillUndialled⟩ :=
    looksOn_take looking onTime goesOn findsNone
  have next := (sound_take setup turn looking.provisioned onTime.canTake).provisioned
  have noStates : statesOf (done ++ (before.take setup turn).outbox) = [] := by
    rw [statesOf_append, unshown, stillUnshown]
    rfl
  have noLives : livesOf (done ++ (before.take setup turn).outbox) = [] := by
    rw [livesOf_append, undialled, stillUndialled]
    rfl
  cases fires : turn.fires .tokenLook with
  | true =>
      have now_eq : turn.around.now = start +
          setup.settings.tokenLook * (firings .tokenLook waiting + 1) :=
        onTime.now_eq fires looking.tokenLook_eq
      have looks : firings .tokenLook (waiting ++ [turn]) = firings .tokenLook waiting + 1 := by
        rw [firings_append, firings_cons_of_fires [] fires]
        rfl
      refine ⟨⟨next, phase, state, ?_⟩, ?_, ?_, noStates, noLives⟩
      · rw [tokenLook, if_pos fires, looking.tokenLook_eq, looks, Option.map_some, Nat.add_assoc]
        rfl
      · rw [looks]
        exact Nat.le_of_eq now_eq.symm
      · rw [looks, List.filter_append, List.map_append, times_eq, List.range_succ,
          List.map_append, List.filter_cons_of_pos fires]
        simp [now_eq]
  | false =>
      have looks : firings .tokenLook (waiting ++ [turn]) = firings .tokenLook waiting := by
        rw [firings_append, firings_cons_of_not_fires [] fires]
        rfl
      refine ⟨⟨next, phase, state, ?_⟩, ?_, ?_, noStates, noLives⟩
      · rw [tokenLook, fires, looks]
        exact looking.tokenLook_eq
      · rw [looks]
        exact Nat.le_trans notAhead onTime.notBack
      · rw [looks, List.filter_append, List.map_append, times_eq,
          List.filter_cons_of_neg (Bool.eq_false_iff.mp fires)]
        exact List.append_nil _

/-- Whatever else happens while the provider has no token, the looks for it go on. -/
theorem keepsLooking_run {waiting more : List (Turn Payload)} {done : List (Effect Payload)}
    (begun : KeepsLooking setup start clock waiting before done)
    (keeps : keepsTime setup clock more before = true)
    (goesOn : ∀ turn ∈ more, turn.breaksOff = false)
    (findsNone : ∀ turn ∈ more, turn.FindsNone) :
    KeepsLooking setup start (clockAfter clock more) (waiting ++ more) (after setup more before)
      (done ++ effects setup more before) := by
  induction more using List.reverseRecOn with
  | nil =>
      rw [List.append_nil, effects, List.append_nil]
      exact begun
  | append_singleton passed turn inductionHypothesis =>
      obtain ⟨passedGoesOn, turnGoesOn⟩ := List.forall_mem_append.mp goesOn
      obtain ⟨passedFindsNone, turnFindsNone⟩ := List.forall_mem_append.mp findsNone
      have keepsLooking :=
        inductionHypothesis (keepsTime_append.mp keeps).1 passedGoesOn passedFindsNone
      have onTime := (onTime_of_split keeps).1
      have next := keepsLooking_take keepsLooking onTime (turnGoesOn turn (by simp))
        (turnFindsNone turn (by simp))
      rw [after_append, effects_append, clockAfter_append, effects, effects, List.append_nil,
        ← List.append_assoc, ← List.append_assoc]
      exact next

/-! ## The dial -/

/-- A look finds a token, and dials with it and with a session. -/
structure LookDials (setup : Setup) (due : Nat) (token : String) (session : Option String)
    (turn : Turn Payload) (before after : Controller Payload) : Prop where
  now_eq : turn.around.now = due
  outbox_eq :
    after.outbox =
      [.dial (before.serial + 1) token (Settings.authorizedUrl setup.base token session)]
  phase_eq : after.phase = .connecting 0
  link_eq : after.link = some ⟨before.serial + 1, token, false⟩
  hasNoWait : after.HasNoWait

/-- The first look that finds a token dials with it, on time. -/
theorem lookDials_take {token : String} (looking : before.Looking setup start looks)
    (onTime : IsOnTime clock before turn) (fires : turn.fires .tokenLook = true)
    (answered : ∀ place, turn.around.answers place = some token) :
    LookDials setup (start + setup.settings.tokenLook * (looks + 1)) token before.session turn
      before (before.take setup turn) := by
  obtain ⟨vacant, noReconnect, noCountdown⟩ := looking.unarmed
  have dials : before.take setup turn =
      dial setup token
        { before with
          timers := before.timers.forgetLook.forgetLook, phase := .idle, outbox := [] } := by
    simp only [take, step, Turn.fires_iff.mp fires, onTimer, onTokenLook, answered]
    exact connect_of_vacant setup _ token vacant
  rw [dials, dial_eq]
  refine ⟨onTime.now_eq fires looking.tokenLook_eq, ?_, rfl, rfl, ?_, noReconnect, noCountdown⟩
  · simp [vacant, farewells]
  · exact fun _ _ => Phase.noConfusion

/-- Where the provider always has a token, no look for one is due after it was found. -/
theorem noLook_run {turns : List (Turn Payload)} (provisioned : before.Provisioned)
    (notWaiting : before.phase ≠ .waitingForToken) (timely : isTimely setup turns before = true)
    (answered : ∀ turn ∈ turns, ∀ place, (turn.around.answers place).isSome = true) :
    (∀ turn ∈ turns, turn.fires .tokenLook = false) ∧
      (after setup turns before).timers.tokenLook = none := by
  induction turns generalizing before with
  | nil =>
      refine ⟨nofun, ?_⟩
      rw [after, ← Option.not_isSome_iff_eq_none, provisioned.coherent.tokenLook_iff]
      exact notWaiting
  | cons turn rest inductionHypothesis =>
      obtain ⟨can, restTimely⟩ := Bool.and_eq_true_iff.mp timely
      obtain ⟨turnAnswered, restAnswered⟩ := List.forall_mem_cons.mp answered
      have nextProvisioned := (sound_take setup turn provisioned can).provisioned
      have stillNotWaiting := notWaiting_take setup provisioned can notWaiting turnAnswered
      obtain ⟨restNoLook, unarmed⟩ :=
        inductionHypothesis nextProvisioned stillNotWaiting restTimely restAnswered
      refine ⟨List.forall_mem_cons.mpr ⟨?_, restNoLook⟩, unarmed⟩
      rw [Bool.eq_false_iff]
      intro fires
      rw [Turn.fires_iff.mp fires] at can
      exact notWaiting (provisioned.coherent.tokenLook_iff.mp can)

/-! ## Whole runs -/

/-- The provider gets a token that stays, some time into a wait for one. -/
structure Finds (setup : Setup) (past found : List (Turn Payload)) (start looks : Nat)
    (token : String) : Prop where
  /-- The look that finds the token is the first at the time at which it appears or later. -/
  soonest :
    ∀ appeared, clockAfter 0 past ≤ appeared → (∀ turn ∈ found, appeared ≤ turn.around.now) →
      (∃ turn ∈ found, turn.fires .tokenLook = true) →
        start + setup.settings.tokenLook * looks ≤ appeared ∧
          appeared ≤ start + setup.settings.tokenLook * (looks + 1)
  comes :
    ∀ now, start + setup.settings.tokenLook * (looks + 1) ≤ now →
      (after setup (past ++ found) (.initial setup)).isCaughtUp now = true →
        ∃ turn ∈ found, turn.fires .tokenLook = true
  dials :
    ∀ passed look last, found = passed ++ look :: last → look.fires .tokenLook = true →
      LookDials setup (start + setup.settings.tokenLook * (looks + 1)) token
        (storedIn setup (past ++ passed) (.initial setup)).getLast? look
        (after setup (past ++ passed) (.initial setup))
        (after setup (past ++ passed ++ [look]) (.initial setup))
  /-- There is no other look, and no other dial until the connection has ended. -/
  once :
    ∀ passed look last, found = passed ++ look :: last → look.fires .tokenLook = true →
      (∀ turn ∈ passed ++ last, turn.fires .tokenLook = false) ∧
        (after setup (past ++ found) (.initial setup)).timers.tokenLook = none ∧
        livesOf (effects setup passed (after setup past (.initial setup))) = [] ∧
        (endings setup last (after setup (past ++ passed ++ [look]) (.initial setup)) = 0 →
          dialled (livesOf (effects setup last
            (after setup (past ++ passed ++ [look]) (.initial setup)))) = [])

/-- A wait for a token that begins at the end of some turns. -/
structure Polls (setup : Setup) (past : List (Turn Payload)) (start : Nat)
    (rest : List (Turn Payload)) : Prop where
  begins : (after setup past (.initial setup)).Looking setup start 0
  /-- As long as the provider has no token, nothing but the looks for it happens. -/
  waits :
    ∀ waiting later, rest = waiting ++ later → (∀ turn ∈ waiting, turn.breaksOff = false) →
      (∀ turn ∈ waiting, turn.FindsNone) →
        KeepsLooking setup start (clockAfter start waiting) waiting
          (after setup (past ++ waiting) (.initial setup))
          (effects setup waiting (after setup past (.initial setup)))
  /-- None of the looks that are due by an instant is left out. -/
  complete :
    ∀ waiting later elapsed, rest = waiting ++ later →
      (∀ turn ∈ waiting, turn.breaksOff = false) → (∀ turn ∈ waiting, turn.FindsNone) →
      0 < setup.settings.tokenLook → clockAfter start waiting ≤ start + elapsed →
      (after setup (past ++ waiting) (.initial setup)).isCaughtUp (start + elapsed) = true →
        firings .tokenLook waiting = elapsed / setup.settings.tokenLook
  finds :
    ∀ waiting found token, rest = waiting ++ found →
      (∀ turn ∈ waiting, turn.breaksOff = false) → (∀ turn ∈ waiting, turn.FindsNone) →
      (∀ turn ∈ found, turn.HasToken token) →
        Finds setup (past ++ waiting) found start (firings .tokenLook waiting) token

/-- A token appears after some looks in vain, and stays. -/
structure Appears (setup : Setup) (past found waiting : List (Turn Payload)) (start : Nat)
    (token : String) (done : List (Effect Payload)) : Prop where
  begun :
    KeepsLooking setup start (clockAfter 0 past) waiting (after setup past (.initial setup)) done
  keeps : keepsTime setup (clockAfter 0 past) found (after setup past (.initial setup)) = true
  hasToken : ∀ turn ∈ found, turn.HasToken token

namespace Appears

variable {past found waiting passed later last : List (Turn Payload)} {look : Turn Payload}
  {token : String} {done : List (Effect Payload)}

/-- Before the look that is due the token makes no difference. -/
theorem unseen (appears : Appears setup past found waiting start token done)
    (splits : found = passed ++ later) (noLook : ∀ turn ∈ passed, turn.fires .tokenLook = false) :
    (after setup (past ++ passed) (.initial setup)).Looking setup start
        (firings .tokenLook waiting) ∧
      livesOf (effects setup passed (after setup past (.initial setup))) = [] := by
  obtain ⟨begun, keeps, hasToken⟩ := appears
  subst splits
  have goesOn : ∀ turn ∈ passed, turn.breaksOff = false := fun turn member =>
    (hasToken turn (List.mem_append_left later member)).breaksOff_eq
  have findsNone : ∀ turn ∈ passed, turn.FindsNone := fun turn member =>
    (hasToken turn (List.mem_append_left later member)).findsNone (noLook turn member)
  have keepsLooking := keepsLooking_run begun (keepsTime_append.mp keeps).1 goesOn findsNone
  have noMore : firings .tokenLook passed = 0 := by
    rw [firings, List.countP_eq_zero]
    exact fun turn member => Bool.eq_false_iff.mp (noLook turn member)
  have looking := keepsLooking.looking
  have undialled := keepsLooking.undialled
  rw [firings_append, noMore, Nat.add_zero, ← after_append] at looking
  rw [livesOf_append] at undialled
  exact ⟨looking, (List.append_eq_nil_iff.mp undialled).2⟩

theorem lookDials (appears : Appears setup past found waiting start token done)
    (splits : found = passed ++ look :: last)
    (noLook : ∀ turn ∈ passed, turn.fires .tokenLook = false)
    (fires : look.fires .tokenLook = true) :
    LookDials setup (start + setup.settings.tokenLook * (firings .tokenLook waiting + 1)) token
      (storedIn setup (past ++ passed) (.initial setup)).getLast? look
      (after setup (past ++ passed) (.initial setup))
      (after setup (past ++ passed ++ [look]) (.initial setup)) := by
  have looking := (appears.unseen splits noLook).1
  obtain ⟨-, keeps, hasToken⟩ := appears
  subst splits
  have onTime := (onTime_of_split keeps).1
  rw [← after_append] at onTime
  have session : (after setup (past ++ passed) (.initial setup)).session =
      (storedIn setup (past ++ passed) (.initial setup)).getLast? := by
    rw [session_after]
    exact Option.or_none
  rw [after_append setup (past ++ passed) [look], ← session]
  exact lookDials_take looking onTime fires (hasToken look (by simp)).answered

theorem provisioned (appears : Appears setup past found waiting start token done)
    (splits : found = passed ++ look :: last) :
    (after setup (past ++ passed ++ [look]) (.initial setup)).Provisioned ∧
      isTimely setup last (after setup (past ++ passed ++ [look]) (.initial setup)) = true := by
  obtain ⟨begun, keeps, -⟩ := appears
  subst splits
  have timely := isTimely_of_keepsTime keeps
  rw [← List.singleton_append, ← List.append_assoc, isTimely_append] at timely
  rw [List.append_assoc, after_append]
  exact ⟨provisioned_after begun.looking.provisioned timely.1, timely.2⟩

/-- After the look that finds the token no other is due. -/
theorem quiet (appears : Appears setup past found waiting start token done)
    (splits : found = passed ++ look :: last)
    (noLook : ∀ turn ∈ passed, turn.fires .tokenLook = false)
    (fires : look.fires .tokenLook = true) :
    (∀ turn ∈ last, turn.fires .tokenLook = false) ∧
      (after setup (past ++ found) (.initial setup)).timers.tokenLook = none := by
  obtain ⟨stands, timely⟩ := appears.provisioned splits
  have notWaiting : (after setup (past ++ passed ++ [look]) (.initial setup)).phase ≠
      .waitingForToken := by
    rw [(appears.lookDials splits noLook fires).phase_eq]
    exact Phase.noConfusion
  have answered : ∀ turn ∈ last, ∀ place, (turn.around.answers place).isSome = true := by
    intro turn member place
    rw [(appears.hasToken turn (by simp [splits, member])).answered place]
    rfl
  have noMore := noLook_run stands notWaiting timely answered
  rw [← after_append] at noMore
  subst splits
  simpa only [List.append_assoc, List.singleton_append] using noMore

theorem noEarlier (appears : Appears setup past found waiting start token done)
    (splits : found = passed ++ look :: last) (fires : look.fires .tokenLook = true) :
    ∀ turn ∈ passed, turn.fires .tokenLook = false := by
  rcases firstFiring .tokenLook passed with
    never | ⟨early, first, late, isPassed, noLook, firstFires⟩
  · exact never
  · have splitsAtFirst : found = early ++ first :: (late ++ look :: last) := by
      rw [splits, isPassed, List.append_assoc]
      rfl
    have noMore := (appears.quiet splitsAtFirst noLook firstFires).1 look (by simp)
    rw [fires] at noMore
    cases noMore

theorem finds (appears : Appears setup past found waiting start token done) :
    Finds setup past found start (firings .tokenLook waiting) token := by
  constructor
  · rintro appeared notBefore stays ⟨look, member, fires⟩
    obtain ⟨passed, last, splits⟩ := List.append_of_mem member
    have noLook := appears.noEarlier splits fires
    have now_eq := (appears.lookDials splits noLook fires).now_eq
    exact ⟨Nat.le_trans appears.begun.notAhead notBefore, now_eq ▸ stays look member⟩
  · intro now isPast caughtUp
    by_contra never
    have noLook : ∀ turn ∈ found, turn.fires .tokenLook = false := by
      intro turn member
      rw [Bool.eq_false_iff]
      exact fun fires => never ⟨turn, member, fires⟩
    have looking := (appears.unseen (List.append_nil found).symm noLook).1
    have armed : (after setup (past ++ found) (.initial setup)).timers.due? .tokenLook = some
        (start + setup.settings.tokenLook * (firings .tokenLook waiting + 1)) :=
      looking.tokenLook_eq
    have notYet := le_of_isInTime caughtUp armed
    omega
  · intro passed look last splits fires
    exact appears.lookDials splits (appears.noEarlier splits fires) fires
  · intro passed look last splits fires
    have noLook := appears.noEarlier splits fires
    obtain ⟨noMore, unarmed⟩ := appears.quiet splits noLook fires
    refine ⟨List.forall_mem_append.mpr ⟨noLook, noMore⟩, unarmed,
      (appears.unseen splits noLook).2, ?_⟩
    intro goesOn
    obtain ⟨stands, timely⟩ := appears.provisioned splits
    have unasked : ∀ turn ∈ last, turn.asksAnew = false := fun turn member =>
      (appears.hasToken turn (by simp [splits, member])).unasked
    have hasNoWait := (appears.lookDials splits noLook fires).hasNoWait
    exact (unhurried_run hasNoWait stands timely unasked goesOn).2 noMore

end Appears

theorem polls_of_looking {past rest : List (Turn Payload)}
    (begins : (after setup past (.initial setup)).Looking setup (clockAfter 0 past) 0)
    (keeps : keepsTime setup (clockAfter 0 past) rest (after setup past (.initial setup)) = true) :
    Polls setup past (clockAfter 0 past) rest := by
  have waits (waiting later : List (Turn Payload)) (splits : rest = waiting ++ later)
      (goesOn : ∀ turn ∈ waiting, turn.breaksOff = false)
      (findsNone : ∀ turn ∈ waiting, turn.FindsNone) :
      KeepsLooking setup (clockAfter 0 past) (clockAfter (clockAfter 0 past) waiting) waiting
        (after setup (past ++ waiting) (.initial setup))
        (effects setup waiting (after setup past (.initial setup))) := by
    subst splits
    rw [after_append]
    have begun : KeepsLooking setup (clockAfter 0 past) (clockAfter 0 past) []
        (after setup past (.initial setup)) [] :=
      ⟨begins, Nat.le_refl _, rfl, rfl, rfl⟩
    exact keepsLooking_run begun (keepsTime_append.mp keeps).1 goesOn findsNone
  constructor
  · exact begins
  · exact waits
  · intro waiting later elapsed splits goesOn findsNone positive notAfter caughtUp
    have keepsLooking := waits waiting later splits goesOn findsNone
    have armed : (after setup (past ++ waiting) (.initial setup)).timers.due? .tokenLook =
        some (clockAfter 0 past + setup.settings.tokenLook * (firings .tokenLook waiting + 1)) :=
      keepsLooking.looking.tokenLook_eq
    have notYet := le_of_isInTime caughtUp armed
    have notAhead := keepsLooking.notAhead
    rw [eq_comm, Nat.div_eq_iff positive]
    rw [Nat.mul_add, Nat.mul_one] at notYet
    rw [Nat.mul_comm]
    omega
  · intro waiting found token splits goesOn findsNone hasToken
    have begun := waits waiting found splits goesOn findsNone
    subst splits
    rw [keepsTime_append, ← after_append, ← clockAfter_append] at keeps
    rw [← clockAfter_append] at begun
    exact Appears.finds ⟨begun, keeps.2, hasToken⟩

/-- Every wait for a token in a run goes this way. -/
def PollingLasts (setup : Setup) (turns : List (Turn Payload)) : Prop :=
  ∀ before entering rest, turns = before ++ entering :: rest →
    (after setup before (.initial setup)).phase ≠ .waitingForToken →
    (after setup (before ++ [entering]) (.initial setup)).phase = .waitingForToken →
      Polls setup (before ++ [entering]) entering.around.now rest

theorem polling_lasts (setup : Setup) (turns : List (Turn Payload))
    (keeps : keepsTime setup 0 turns (.initial setup) = true) : PollingLasts setup turns := by
  rintro before entering rest rfl notWaiting waits
  obtain ⟨onTime, restKeeps⟩ := onTime_of_split keeps
  have provisioned := provisioned_of_keepsTime keeps (initial_provisioned setup)
  have nextProvisioned := (sound_take setup entering provisioned onTime.canTake).provisioned
  have now_eq : clockAfter 0 (before ++ [entering]) = entering.around.now := by
    rw [clockAfter_append]
    rfl
  have waitsNow : ((after setup before (.initial setup)).take setup entering).phase =
      .waitingForToken := by
    rw [after_append] at waits
    exact waits
  obtain ⟨place, asks, lacks, state⟩ :=
    lacks_of_waiting setup provisioned onTime.canTake notWaiting waitsNow
  have looks := tokenLook_of_lacks setup provisioned onTime.canTake notWaiting asks lacks
  rw [← now_eq] at restKeeps looks ⊢
  apply polls_of_looking
  · rw [after_append]
    refine ⟨nextProvisioned, waitsNow, state, ?_⟩
    rw [Nat.zero_add, Nat.mul_one]
    exact looks
  · exact restKeeps

def emptyHanded (now : Nat) : Surroundings :=
  { Surroundings.steady none with now }

/-- The user asks for a connection again and again before there is a token for it. -/
def lateToken : List (Turn String) :=
  [⟨emptyHanded 0, .command (.connect none)⟩,
    ⟨emptyHanded 300, .command (.connect (some "second"))⟩,
    ⟨emptyHanded 600, .command (.send "kept")⟩,
    ⟨emptyHanded 1000, .timer .tokenLook⟩,
    ⟨emptyHanded 1700, .command (.connect none)⟩,
    ⟨moment "key" 1900, .command (.send "later")⟩,
    ⟨moment "key" 2000, .timer .tokenLook⟩,
    ⟨moment "key" 2020, .report 1 .opened⟩]

theorem polls_of_lateToken :
    keepsTime .standard 0 lateToken (.initial .standard) = true ∧
      (after .standard (lateToken.take 1) (.initial .standard)).phase = .waitingForToken ∧
      Polls .standard (lateToken.take 1) 0 (lateToken.drop 1) ∧
      Finds .standard (lateToken.take 5) (lateToken.drop 5) 0 1 "key" := by
  have keeps : keepsTime .standard 0 lateToken (.initial .standard) = true := by
    decide
  have waits : (after .standard (lateToken.take 1) (.initial .standard)).phase =
      .waitingForToken := by
    decide
  have polls : Polls .standard (lateToken.take 1) 0 (lateToken.drop 1) :=
    polling_lasts .standard lateToken keeps [] ⟨emptyHanded 0, .command (.connect none)⟩
      (lateToken.drop 1) rfl Phase.noConfusion waits
  have goesOn : ∀ turn ∈ (lateToken.drop 1).take 4, turn.breaksOff = false := by
    decide
  have findsNone : ∀ turn ∈ (lateToken.drop 1).take 4, turn.FindsNone := by
    intro turn member
    simp only [lateToken, List.drop_succ_cons, List.drop_zero, List.take_succ_cons,
      List.take_zero, List.mem_cons, List.not_mem_nil, or_false] at member
    rcases member with rfl | rfl | rfl | rfl <;> exact ⟨fun _ _ => rfl, fun _ => rfl⟩
  have hasToken : ∀ turn ∈ lateToken.drop 5, turn.HasToken "key" := by
    intro turn member
    simp only [lateToken, List.drop_succ_cons, List.drop_zero, List.mem_cons, List.not_mem_nil,
      or_false] at member
    rcases member with rfl | rfl | rfl <;> exact ⟨rfl, rfl, fun _ => rfl⟩
  exact ⟨keeps, waits, polls,
    polls.finds ((lateToken.drop 1).take 4) (lateToken.drop 5) "key" rfl goesOn findsNone hasToken⟩

example :
    (after .standard lateToken (.initial .standard)).link = some ⟨1, "key", true⟩ ∧
      (after .standard lateToken (.initial .standard)).session = some "second" ∧
      (after .standard lateToken (.initial .standard)).timers.tokenLook = none := by
  decide

end Controller

end Parley.Connection
