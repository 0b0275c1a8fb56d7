import Parley.Connection.Client
import Parley.Proofs.Connection.Run

/-!
# Moments of a client

Between two stimuli from outside a client may tell its controller many things. Its moments are the
points between them, and what it passes through up to a moment is a run of its controller. The main
statement is that every operation of a client is made of such moments, and that the clock of the
client makes its runs punctual.
-/

namespace Parley.Connection

variable {Payload : Type}

/-! ## Punctual runs -/

namespace Controller

/-- A timer fires at its time or later. -/
def isTimeFor (controller : Controller Payload) (turn : Turn Payload) : Bool :=
  match turn.stimulus with
  | .timer timer => (controller.timers.due? timer).any (· ≤ turn.around.now)
  | _ => true

/-- The clock does not go back, and no timer fires before its time. -/
def isPunctual (setup : Setup) : Nat → List (Turn Payload) → Controller Payload → Bool
  | _, [], _ => true
  | clock, turn :: rest, controller =>
      decide (clock ≤ turn.around.now) && controller.isTimeFor turn &&
        isPunctual setup turn.around.now rest (controller.take setup turn)

def clockAfter : Nat → List (Turn Payload) → Nat
  | clock, [] => clock
  | _, turn :: rest => clockAfter turn.around.now rest

variable {setup : Setup} {clock : Nat} {turn : Turn Payload} {controller : Controller Payload}

theorem canTake_of_isTimeFor (isTime : controller.isTimeFor turn = true) :
    controller.canTake turn.stimulus = true := by
  cases told : turn.stimulus with
  | timer timer =>
      simp only [isTimeFor, told] at isTime
      obtain ⟨due, armed, _⟩ := (Option.any_eq_true _ _).mp isTime
      simp [canTake, armed]
  | _ =>
      rfl

theorem isPunctual_cons {rest : List (Turn Payload)} :
    isPunctual setup clock (turn :: rest) controller = true ↔
      clock ≤ turn.around.now ∧ controller.isTimeFor turn = true ∧
        isPunctual setup turn.around.now rest (controller.take setup turn) = true := by
  rw [isPunctual, Bool.and_eq_true, Bool.and_eq_true, decide_eq_true_eq, and_assoc]

/-- A timer that fires at its time or later was armed. -/
theorem isTimely_of_isPunctual
    {turns : List (Turn Payload)} (punctual : isPunctual setup clock turns controller = true) :
    isTimely setup turns controller = true := by
  induction turns generalizing clock controller with
  | nil =>
      rfl
  | cons turn rest inductionHypothesis =>
      obtain ⟨_, isTime, restPunctual⟩ := isPunctual_cons.mp punctual
      rw [isTimely, canTake_of_isTimeFor isTime, inductionHypothesis restPunctual]
      rfl

theorem isPunctual_append {first second : List (Turn Payload)} :
    isPunctual setup clock (first ++ second) controller = true ↔
      isPunctual setup clock first controller = true ∧
        isPunctual setup (clockAfter clock first) second (after setup first controller) = true := by
  induction first generalizing clock controller with
  | nil =>
      simp [isPunctual, clockAfter, after]
  | cons turn rest inductionHypothesis =>
      rw [List.cons_append, isPunctual_cons, isPunctual_cons, inductionHypothesis, clockAfter,
        after, and_assoc, and_assoc]

/-- No turn of a punctual run is before its start. -/
theorem clock_le_of_isPunctual
    {turns : List (Turn Payload)} (punctual : isPunctual setup clock turns controller = true) :
    ∀ turn ∈ turns, clock ≤ turn.around.now := by
  induction turns generalizing clock controller with
  | nil =>
      intro turn member
      cases member
  | cons turn rest inductionHypothesis =>
      obtain ⟨notBack, _, restPunctual⟩ := isPunctual_cons.mp punctual
      intro later member
      rcases List.mem_cons.mp member with rfl | inRest
      · exact notBack
      · exact Nat.le_trans notBack (inductionHypothesis restPunctual later inRest)

theorem clockAfter_append (clock : Nat) (first second : List (Turn Payload)) :
    clockAfter clock (first ++ second) = clockAfter (clockAfter clock first) second := by
  induction first generalizing clock with
  | nil =>
      rfl
  | cons turn rest inductionHypothesis =>
      exact inductionHypothesis turn.around.now

end Controller

/-! ## What effects leave alone -/

def Effect.session? : Effect Payload → Option String
  | .session known => some known
  | _ => none

def sessionsOf (effects : List (Effect Payload)) : List String :=
  effects.filterMap Effect.session?

namespace Client

/-- Apart from its connections, its observers and its log, two clients are the same. -/
structure SetsAside (before after : Client) : Prop where
  setup_eq : after.setup = before.setup
  now_eq : after.now = before.now
  controller_eq : after.controller = before.controller
  isRunning_eq : after.isRunning = before.isRunning
  session_eq : after.session = before.session

theorem SetsAside.refl (client : Client) : SetsAside client client :=
  ⟨rfl, rfl, rfl, rfl, rfl⟩

theorem SetsAside.trans
    {before middle after : Client} (first : SetsAside before middle)
    (second : SetsAside middle after) : SetsAside before after where
  setup_eq := second.setup_eq.trans first.setup_eq
  now_eq := second.now_eq.trans first.now_eq
  controller_eq := second.controller_eq.trans first.controller_eq
  isRunning_eq := second.isRunning_eq.trans first.isRunning_eq
  session_eq := second.session_eq.trans first.session_eq

theorem setsAside_adopt (dial : Nat) (turn : Channel.Turn) (client : Client) :
    SetsAside client (client.adopt dial turn).1 :=
  ⟨rfl, rfl, rfl, rfl, rfl⟩

theorem setsAside_settleChannels (client : Client) :
    SetsAside client client.settleChannels.1 := by
  have settles {Reports Entry : Type} (settle : Client × Reports → Entry → Client × Reports)
      (aside : ∀ state entry, SetsAside state.1 (settle state entry).1) (entries : List Entry)
      (state : Client × Reports) : SetsAside state.1 (entries.foldl settle state).1 := by
    induction entries generalizing state with
    | nil =>
        exact .refl state.1
    | cons entry rest inductionHypothesis =>
        exact (aside state entry).trans (inductionHypothesis (settle state entry))
  refine settles _ ?_ client.channels (client, [])
  intro state entry
  exact setsAside_adopt entry.1 entry.2.settle state.1

/-- To carry out an effect changes the session if the effect makes one known, and else nothing but
connections, observers and the log. -/
theorem setsAside_carryOut (client : Client) (effect : Effect String) :
    SetsAside { client with session := effect.session?.or client.session }
      (client.carryOut effect) := by
  cases effect <;> exact ⟨rfl, rfl, rfl, rfl, rfl⟩

theorem setsAside_carryOutAll (effects : List (Effect String)) (client : Client) :
    SetsAside
      { client with session := (sessionsOf effects).getLast?.or client.session }
      (effects.foldl carryOut client) := by
  induction effects generalizing client with
  | nil =>
      exact .refl client
  | cons effect rest inductionHypothesis =>
      have now := setsAside_carryOut client effect
      have later := inductionHypothesis (client.carryOut effect)
      refine ⟨later.setup_eq.trans now.setup_eq, later.now_eq.trans now.now_eq,
        later.controller_eq.trans now.controller_eq,
        later.isRunning_eq.trans now.isRunning_eq, ?_⟩
      refine later.session_eq.trans ?_
      rw [now.session_eq, sessionsOf, sessionsOf, List.filterMap_cons]
      cases effect.session? with
      | none =>
          rfl
      | some session =>
          simp only [List.getLast?_cons]
          cases (rest.filterMap Effect.session?).getLast? <;> rfl

/-! ## Moments -/

/-- The turn in which a client tells its controller something. -/
def turn (client : Client) (stimulus : Stimulus String) : Turn String where
  around := {
    now := client.now
    answers := fun _ => Token.present client.token
    accepts := fun _ => client.accepts }
  stimulus

theorem tell_eq {client : Client} (running : client.isRunning = true)
    (stimulus : Stimulus String) :
    client.tell stimulus =
      (client.controller.take client.setup (client.turn stimulus)).outbox.foldl carryOut
        { client with
          controller := client.controller.take client.setup (client.turn stimulus) } := by
  rw [tell, if_pos running]
  rfl

/-- The controller winds down, and takes nothing any more. -/
def windUp (client : Client) : Client :=
  (Controller.windDown { client.controller with outbox := [] }).outbox.foldl carryOut
    { client with
      controller := Controller.windDown { client.controller with outbox := [] }
      isRunning := false }

theorem shutdown_eq {client : Client} (running : client.isRunning = true) :
    client.shutdown = client.windUp.settle [] := by
  rw [shutdown, if_pos running]
  rfl

/-- What a client passes through on its way to a moment. -/
inductive Passes (start : Client) : List (Turn String) → Client → Prop where
  | starts : Passes start [] start
  | tells {turns : List (Turn String)} {middle : Client} (stimulus : Stimulus String)
      (passes : Passes start turns middle) (running : middle.isRunning = true)
      (isTime : middle.controller.isTimeFor (middle.turn stimulus) = true) :
      Passes start (turns ++ [middle.turn stimulus]) (middle.tell stimulus)
  | ends {turns : List (Turn String)} {middle : Client} (passes : Passes start turns middle)
      (running : middle.isRunning = true) : Passes start turns middle.windUp
  | setsAside {turns : List (Turn String)} {middle after : Client}
      (passes : Passes start turns middle) (aside : SetsAside middle after) :
      Passes start turns after
  | waits {turns : List (Turn String)} {middle : Client} {now : Nat}
      (passes : Passes start turns middle) (later : middle.now ≤ now) :
      Passes start turns { middle with now }

/-- What a client passes through on its way to a moment if it is given no command. -/
inductive Hears (start : Client) : List (Turn String) → Client → Prop where
  | starts : Hears start [] start
  | hears {turns : List (Turn String)} {middle : Client} (stimulus : Stimulus String)
      (hears : Hears start turns middle) (running : middle.isRunning = true)
      (unasked : stimulus.isCommand = false)
      (isTime : middle.controller.isTimeFor (middle.turn stimulus) = true) :
      Hears start (turns ++ [middle.turn stimulus]) (middle.tell stimulus)
  | setsAside {turns : List (Turn String)} {middle after : Client}
      (hears : Hears start turns middle) (aside : SetsAside middle after) :
      Hears start turns after
  | waits {turns : List (Turn String)} {middle : Client} {now : Nat}
      (hears : Hears start turns middle) (later : middle.now ≤ now) :
      Hears start turns { middle with now }

namespace Hears

variable {start middle after : Client} {first second : List (Turn String)}

theorem trans (early : Hears start first middle) (late : Hears middle second after) :
    Hears start (first ++ second) after := by
  induction late with
  | starts =>
      rw [List.append_nil]
      exact early
  | hears stimulus _ running unasked isTime inductionHypothesis =>
      rw [← List.append_assoc]
      exact .hears stimulus inductionHypothesis running unasked isTime
  | setsAside _ aside inductionHypothesis =>
      exact .setsAside inductionHypothesis aside
  | waits _ later inductionHypothesis =>
      exact .waits inductionHypothesis later

theorem passes (passes : Passes start first middle) (hears : Hears middle second after) :
    Passes start (first ++ second) after := by
  induction hears with
  | starts =>
      rw [List.append_nil]
      exact passes
  | hears stimulus _ running unasked isTime inductionHypothesis =>
      rw [← List.append_assoc]
      exact .tells stimulus inductionHypothesis running isTime
  | setsAside _ aside inductionHypothesis =>
      exact .setsAside inductionHypothesis aside
  | waits _ later inductionHypothesis =>
      exact .waits inductionHypothesis later

end Hears

/-- A client comes to a moment without a command while its clock stands still. -/
structure Reaches (before after : Client) : Prop where
  now_eq : after.now = before.now
  hears : ∃ turns, Hears before turns after

namespace Reaches

variable {before middle after : Client}

theorem refl (client : Client) : Reaches client client where
  now_eq := rfl
  hears := ⟨[], .starts⟩

theorem trans (first : Reaches before middle) (second : Reaches middle after) :
    Reaches before after where
  now_eq := second.now_eq.trans first.now_eq
  hears := by
    obtain ⟨turns, early⟩ := first.hears
    obtain ⟨more, late⟩ := second.hears
    exact ⟨turns ++ more, early.trans late⟩

theorem setsAside (aside : SetsAside before after) : Reaches before after where
  now_eq := aside.now_eq
  hears := ⟨[], .setsAside .starts aside⟩

/-- To do the same with each of a list leads on if each time it does. -/
theorem foldl
    {Item : Type} {act : Client → Item → Client}
    (leads : ∀ client item, Reaches client (act client item)) (items : List Item)
    (client : Client) : Reaches client (items.foldl act client) := by
  induction items generalizing client with
  | nil =>
      exact .refl client
  | cons item rest inductionHypothesis =>
      exact (leads client item).trans (inductionHypothesis (act client item))

end Reaches

theorem tell_of_stopped {client : Client} (stopped : client.isRunning = false)
    (stimulus : Stimulus String) : client.tell stimulus = client := by
  simp [tell, stopped]

theorem reaches_tell
    {client : Client} {stimulus : Stimulus String} (unasked : stimulus.isCommand = false)
    (isTime : client.controller.isTimeFor (client.turn stimulus) = true) :
    Reaches client (client.tell stimulus) := by
  cases running : client.isRunning with
  | false =>
      rw [tell_of_stopped running]
      exact .refl client
  | true =>
      constructor
      · rw [tell_eq running]
        exact (setsAside_carryOutAll _ _).now_eq
      · exact ⟨_, .hears stimulus .starts running unasked isTime⟩

/-! ## Operations -/

theorem reaches_deliver (fuel : Nat) (reports : List (Nat × Report)) (client : Client) :
    Reaches client (client.deliver fuel reports) := by
  induction fuel generalizing reports client with
  | zero =>
      exact .refl client
  | succ fuel inductionHypothesis =>
      cases reports with
      | nil =>
          exact .refl client
      | cons head rest =>
          obtain ⟨dial, report⟩ := head
          have told : Reaches client (client.tell (.report dial report)) :=
            reaches_tell rfl rfl
          have settled := setsAside_settleChannels (client.tell (.report dial report))
          exact (told.trans (.setsAside settled)).trans (inductionHypothesis _ _)

theorem reaches_settleReports (reports : List (Nat × Report)) (client : Client) :
    Reaches client (client.settleReports reports) :=
  (Reaches.setsAside (setsAside_settleChannels client)).trans (reaches_deliver _ _ _)

theorem reaches_fire (timer : Timer) (client : Client) : Reaches client (client.fire timer) := by
  unfold fire
  split
  next due armed =>
    split
    next ready =>
      have onTime : due ≤ client.now := of_decide_eq_true (Bool.and_eq_true_iff.mp ready).2
      have isTime : client.controller.isTimeFor (client.turn (.timer timer)) = true := by
        simp [Controller.isTimeFor, turn, armed, onTime]
      exact (reaches_tell rfl isTime).trans (reaches_settleReports [] _)
    · exact .refl client
  · exact .refl client

theorem reaches_adopt
    (dial : Nat) (turn : Channel.Turn) {client after : Client}
    (reaches : Reaches (client.adopt dial turn).1 after) : Reaches client after :=
  (Reaches.setsAside (setsAside_adopt dial turn client)).trans reaches

theorem reaches_expire (dial : Nat) (client : Client) : Reaches client (client.expire dial) := by
  unfold expire
  split
  · exact reaches_adopt dial _ (reaches_settleReports _ _)
  · exact .refl client

theorem reaches_fireDue (client : Client) : Reaches client client.fireDue :=
  (Reaches.foldl (fun client timer => reaches_fire timer client) _ client).trans
    (Reaches.foldl (fun client dial => reaches_expire dial client) _ _)

theorem reaches_settle (reports : List (Nat × Report)) (client : Client) :
    Reaches client (client.settle reports) :=
  (reaches_settleReports reports client).trans (reaches_fireDue _)

theorem reaches_onNetwork (dial : Nat) (step : Channel → Channel.Turn) (client : Client) :
    Reaches client (client.onNetwork dial step) := by
  unfold onNetwork
  split
  · exact reaches_adopt dial _ (reaches_settle _ _)
  · exact .refl client

/-- What a client is asked for from outside. -/
inductive Operation where
  | post (commands : List Command)
  | shutdown
  | advance (milliseconds : Nat)
  | accept (dial : Nat)
  | refuse (dial : Nat) (cause : String)
  | receive (dial : Nat) (incoming : Incoming)
  | breakWrites (dial : Nat)
  | setToken (token : Option String)
  | subscribe (topic : Topic) (name : String)
  | unsubscribe (topic : Topic) (number : Nat)
  | takeLog

def perform (client : Client) : Operation → Client
  | .post commands => client.post commands
  | .shutdown => client.shutdown
  | .advance milliseconds => client.advance milliseconds
  | .accept dial => client.accept dial
  | .refuse dial cause => client.refuse dial cause
  | .receive dial incoming => client.receive dial incoming
  | .breakWrites dial => client.breakWrites dial
  | .setToken token => client.setToken token
  | .subscribe topic name => (client.subscribe topic name).1
  | .unsubscribe topic number => client.unsubscribe topic number
  | .takeLog => client.takeLog.1

section Hearing

variable {start client : Client} {turns : List (Turn String)}

theorem hears_wait
    {now : Nat} (hears : Hears start turns client) (later : client.now ≤ now) :
    ∃ more, Hears start (turns ++ more) (settle [] { client with now }) := by
  obtain ⟨more, settles⟩ := (reaches_settle [] { client with now }).hears
  exact ⟨more, (hears.waits later).trans settles⟩

theorem hears_advanceFrom
    {target now : Nat} (hears : Hears start turns client) (clock : client.now = now)
    (ahead : now ≤ target) :
    ∃ more, Hears start (turns ++ more) (client.advanceFrom target now) := by
  -- The clock stops at every due time on its way, and settles there before it goes on.
  induction now, client using advanceFrom.induct target generalizing turns with
  | case1 now client due isDue inTime inductionHypothesis =>
      obtain ⟨later, within⟩ := inTime
      have notBack : client.now ≤ due := by
        omega
      obtain ⟨more, waited⟩ := hears_wait hears notBack
      have stands : (settle [] { client with now := due }).now = due :=
        (reaches_settle [] { client with now := due }).now_eq
      obtain ⟨further, arrives⟩ := inductionHypothesis waited stands within
      rw [List.append_assoc] at arrives
      rw [advanceFrom, isDue]
      exact ⟨more ++ further, by simpa [later, within] using arrives⟩
  | case2 now client due isDue notInTime =>
      rw [advanceFrom, isDue]
      simp only [if_neg notInTime]
      exact hears_wait hears (clock ▸ ahead)
  | case3 now client noneDue =>
      rw [advanceFrom, noneDue]
      exact hears_wait hears (clock ▸ ahead)

theorem hears_advance (milliseconds : Nat) (client : Client) :
    ∃ turns, Hears client turns (client.advance milliseconds) :=
  hears_advanceFrom .starts rfl (Nat.le_add_right client.now milliseconds)

end Hearing

section Passing

variable {start client : Client} {turns : List (Turn String)}

theorem passes_tellAll (passes : Passes start turns client) (commands : List Command) :
    ∃ more, Passes start (turns ++ more)
      (commands.foldl (fun client command => client.tell (.command command)) client) := by
  induction commands generalizing turns client with
  | nil =>
      exact ⟨[], by simpa using passes⟩
  | cons command rest inductionHypothesis =>
      cases running : client.isRunning with
      | false =>
          rw [List.foldl_cons, tell_of_stopped running]
          exact inductionHypothesis passes
      | true =>
          obtain ⟨more, told⟩ :=
            inductionHypothesis (passes.tells (.command command) running rfl)
          rw [List.append_assoc] at told
          exact ⟨_, told⟩

/-- What comes of an operation is a moment again. -/
theorem passes_perform (passes : Passes start turns client) (operation : Operation) :
    ∃ more, Passes start (turns ++ more) (client.perform operation) := by
  have goesOn {middle after : Client} {passed : List (Turn String)}
      (passes : Passes start (turns ++ passed) middle)
      (hears : ∃ heard, Hears middle heard after) :
      ∃ more, Passes start (turns ++ more) after := by
    obtain ⟨heard, hears⟩ := hears
    have arrives := hears.passes passes
    rw [List.append_assoc] at arrives
    exact ⟨passed ++ heard, arrives⟩
  have here : Passes start (turns ++ []) client := by
    rw [List.append_nil]
    exact passes
  have stays {after : Client} (aside : SetsAside client after) :
      ∃ more, Passes start (turns ++ more) after :=
    goesOn here (Reaches.setsAside aside).hears
  cases operation with
  | post commands =>
      obtain ⟨more, told⟩ := passes_tellAll passes commands
      exact goesOn told (reaches_settle [] _).hears
  | shutdown =>
      cases running : client.isRunning with
      | false =>
          rw [perform, shutdown, running]
          exact ⟨[], here⟩
      | true =>
          rw [perform, shutdown_eq running]
          exact goesOn (here.ends running) (reaches_settle [] _).hears
  | advance milliseconds =>
      exact goesOn here (hears_advance milliseconds client)
  | accept dial =>
      exact goesOn here (reaches_onNetwork dial _ client).hears
  | refuse dial cause =>
      exact goesOn here (reaches_onNetwork dial _ client).hears
  | receive dial incoming =>
      exact goesOn here (reaches_onNetwork dial _ client).hears
  | breakWrites dial =>
      exact stays ⟨rfl, rfl, rfl, rfl, rfl⟩
  | setToken token =>
      exact stays ⟨rfl, rfl, rfl, rfl, rfl⟩
  | subscribe topic name =>
      cases topic <;> exact stays ⟨rfl, rfl, rfl, rfl, rfl⟩
  | unsubscribe topic number =>
      cases topic <;> exact stays ⟨rfl, rfl, rfl, rfl, rfl⟩
  | takeLog =>
      exact stays ⟨rfl, rfl, rfl, rfl, rfl⟩

/-- After any operations a client is at a moment of its own. -/
theorem passes_performAll (start : Client) (operations : List Operation) :
    ∃ turns, Passes start turns (operations.foldl perform start) := by
  have goesOn (operations : List Operation) {turns : List (Turn String)} {client : Client}
      (passes : Passes start turns client) :
      ∃ turns, Passes start turns (operations.foldl perform client) := by
    induction operations generalizing turns client with
    | nil =>
        exact ⟨turns, passes⟩
    | cons operation rest inductionHypothesis =>
        obtain ⟨more, performed⟩ := passes_perform passes operation
        exact inductionHypothesis performed
  exact goesOn operations .starts

end Passing

/-! ## Runs of the controller -/

/-- What a client has passed through is a punctual run, and its controller is the one after it. -/
structure Runs (setup : Setup) (turns : List (Turn String)) (client : Client) : Prop where
  setup_eq : client.setup = setup
  punctual : Controller.isPunctual setup 0 turns (.initial setup) = true
  clock_le : Controller.clockAfter 0 turns ≤ client.now
  controller_eq :
    client.isRunning = true → client.controller = Controller.after setup turns (.initial setup)

/-- All that a client passes through from its start on is a punctual run of its controller. -/
theorem runs_of_passes
    {setup : Setup} {token : Option String} {turns : List (Turn String)} {client : Client}
    (passes : (Client.start setup token).Passes turns client) : Runs setup turns client := by
  induction passes with
  | starts =>
      exact ⟨rfl, rfl, Nat.zero_le 0, fun _ => rfl⟩
  | @tells turns middle stimulus passes running isTime runs =>
      obtain ⟨setup_eq, punctual, clock_le, controller_eq⟩ := runs
      have stands := controller_eq running
      have aside := setsAside_carryOutAll
        (middle.controller.take middle.setup (middle.turn stimulus)).outbox
        { middle with
          controller := middle.controller.take middle.setup (middle.turn stimulus) }
      rw [tell_eq running]
      constructor
      · exact aside.setup_eq.trans setup_eq
      · rw [stands] at isTime
        have nowPunctual : Controller.isPunctual setup (Controller.clockAfter 0 turns)
            [middle.turn stimulus] (Controller.after setup turns (.initial setup)) = true :=
          Controller.isPunctual_cons.mpr ⟨clock_le, isTime, rfl⟩
        exact Controller.isPunctual_append.mpr ⟨punctual, nowPunctual⟩
      · rw [Controller.clockAfter_append, aside.now_eq]
        exact Nat.le_refl middle.now
      · intro _
        rw [aside.controller_eq, Controller.after_append, ← stands, ← setup_eq]
        rfl
  | @ends turns middle passes running runs =>
      have aside := setsAside_carryOutAll
        (Controller.windDown { middle.controller with outbox := [] }).outbox
        { middle with
          controller := Controller.windDown { middle.controller with outbox := [] }
          isRunning := false }
      refine ⟨aside.setup_eq.trans runs.setup_eq, runs.punctual, ?_, ?_⟩
      · rw [windUp, aside.now_eq]
        exact runs.clock_le
      · intro stillRunning
        have stopped : middle.windUp.isRunning = false := aside.isRunning_eq
        rw [stopped] at stillRunning
        cases stillRunning
  | setsAside passes aside runs =>
      refine ⟨aside.setup_eq.trans runs.setup_eq, runs.punctual, ?_, ?_⟩
      · rw [aside.now_eq]
        exact runs.clock_le
      · rw [aside.isRunning_eq, aside.controller_eq]
        exact runs.controller_eq
  | waits passes later runs =>
      exact ⟨runs.setup_eq, runs.punctual, Nat.le_trans runs.clock_le later, runs.controller_eq⟩

end Client

end Parley.Connection
