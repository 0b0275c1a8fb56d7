import Parley.Proofs.Connection.Moves
import Parley.Proofs.Connection.Run

/-!
# What a controller shows

Observers are shown two things: a state, and a status that says whether there is a connection. The
handlers publish them separately. The main statements are that the status never lies, and exactly
when the state does: starting over with an open connection dials at once without showing a new
state, so the client goes on calling itself connected until the dial comes to something.
-/

namespace Parley.Connection

variable {Payload : Type}

/-! ## Faces -/

def Effect.state? : Effect Payload → Option State
  | .state shown => some shown
  | _ => none

def Effect.status? : Effect Payload → Option Status
  | .status shown => some shown
  | _ => none

def statesOf (effects : List (Effect Payload)) : List State :=
  effects.filterMap Effect.state?

def statusesOf (effects : List (Effect Payload)) : List Status :=
  effects.filterMap Effect.status?

/-- The states that are shown where one state was shown last and another is to be shown. -/
def State.notice (shown state : State) : List State :=
  if shown = state then [] else [state]

@[simp]
theorem State.notice_self (state : State) : state.notice state = [] := by
  simp [notice]

/-- What can be seen of a controller: what was shown last and in this turn, and the connection. -/
structure Face where
  state : State
  status : Status
  isOpen : Bool
  states : List State
  statuses : List Status

def Controller.face (controller : Controller Payload) : Face where
  state := controller.state
  status := controller.status
  isOpen := controller.isOpen
  states := statesOf controller.outbox
  statuses := statusesOf controller.outbox

/-- The face once the connection is given up, which only the status shows. -/
def Face.released (before : Face) : Face :=
  { before with
    status := if before.isOpen then .down else before.status
    isOpen := false
    statuses := before.statuses ++ if before.isOpen then [.down] else [] }

/-- The face once the connection is given up and a state is shown for that. -/
def Face.down (state : State) (before : Face) : Face :=
  { before.released with
    state
    states := before.states ++ before.state.notice state }

/-- How one turn can change what is seen, if all of it is shown. -/
inductive Face.Turns (before : Face) : Face → Prop where
  /-- The connection stays as it is, and no state but a lesser one is shown. -/
  | quiet (state : State) (lesser : state = .connected → before.state = .connected) :
      Turns before { before with
        state
        states := before.states ++ before.state.notice state }
  /-- An open connection is given up, and that is shown twice. -/
  | fell (state : State) (wasOpen : before.isOpen = true) (lesser : state ≠ .connected) :
      Turns before
        ⟨state, .down, false, before.states ++ before.state.notice state,
          before.statuses ++ [.down]⟩
  /-- A connection opens, and that is shown twice. -/
  | rose (isRenewal : Bool) :
      Turns before
        ⟨.connected, ⟨true, isRenewal⟩, true, before.states ++ before.state.notice .connected,
          before.statuses ++ [⟨true, isRenewal⟩]⟩

def Face.Overstates (face : Face) : Prop :=
  face.state = .connected ∧ face.isOpen = false

namespace Face.Turns

variable {before face : Face}

theorem same (face : Face) : face.Turns face := by
  have unchanged : face.Turns _ := .quiet face.state id
  simpa [State.notice] using unchanged

/-- Whatever connection there was is given up, and a lesser state is shown. -/
theorem toDown (before : Face) {state : State} (lesser : state ≠ .connected) :
    before.Turns (before.down state) := by
  obtain ⟨shown, status, _ | _, states, statuses⟩ := before
  · have quietly : Turns ⟨shown, status, false, states, statuses⟩ _ :=
      .quiet state fun same => absurd same lesser
    simpa [down, released] using quietly
  · exact (fell state rfl lesser : Turns ⟨shown, status, true, states, statuses⟩ _)

theorem frank
    (turns : before.Turns face) (frankBefore : before.status.connected = before.isOpen) :
    face.status.connected = face.isOpen := by
  cases turns with
  | quiet state lesser =>
      exact frankBefore
  | fell state wasOpen lesser =>
      rfl
  | rose isRenewal =>
      rfl

theorem state_last
    (turns : before.Turns face) (noStates : before.states = []) :
    face.state = face.states.getLastD before.state := by
  have noticed : ∀ state, state = (before.state.notice state).getLastD before.state := by
    intro state
    unfold State.notice
    by_cases same : before.state = state
    · rw [if_pos same, same]
      rfl
    · rw [if_neg same]
      rfl
  cases turns with
  | quiet state lesser =>
      simpa [noStates] using noticed state
  | fell state wasOpen lesser =>
      simpa [noStates] using noticed state
  | rose isRenewal =>
      simpa [noStates] using noticed .connected

theorem status_last
    (turns : before.Turns face) (noStatuses : before.statuses = []) :
    face.status = face.statuses.getLastD before.status := by
  cases turns with
  | quiet state lesser =>
      rw [noStatuses]
      rfl
  | fell state wasOpen lesser =>
      simp
  | rose isRenewal =>
      simp

/-- A turn that shows everything does not make a client overstate its connection: it goes on doing
so as long as it shows nothing. -/
theorem overstates_iff
    (turns : before.Turns face)
    (noStates : before.states = []) (noStatuses : before.statuses = []) :
    face.Overstates ↔ before.Overstates ∧ face.states = [] ∧ face.statuses = [] := by
  unfold Overstates
  cases turns with
  | quiet state lesser =>
      simp only [noStates, noStatuses, List.nil_append, and_true]
      constructor
      · rintro ⟨connected, notOpen⟩
        have shown : before.state = .connected := lesser connected
        refine ⟨⟨shown, notOpen⟩, ?_⟩
        rw [shown, connected]
        rfl
      · rintro ⟨⟨connected, notOpen⟩, unshown⟩
        refine ⟨?_, notOpen⟩
        unfold State.notice at unshown
        by_cases same : before.state = state
        · rw [← same, connected]
        · rw [if_neg same] at unshown
          cases unshown
  | fell state wasOpen lesser =>
      simp [lesser]
  | rose isRenewal =>
      simp

end Face.Turns

/-! ## What moves show -/

section Shown

@[simp]
theorem statesOf_append (first second : List (Effect Payload)) :
    statesOf (first ++ second) = statesOf first ++ statesOf second :=
  List.filterMap_append

@[simp]
theorem statusesOf_append (first second : List (Effect Payload)) :
    statusesOf (first ++ second) = statusesOf first ++ statusesOf second :=
  List.filterMap_append

@[simp]
theorem statesOf_farewells (code : Nat) (reason : String) (link : Option Link) :
    statesOf (Controller.farewells code reason link : List (Effect Payload)) = [] :=
  Controller.filterMap_farewells _ code reason link (fun _ => rfl) (fun _ => rfl)

@[simp]
theorem statusesOf_farewells (code : Nat) (reason : String) (link : Option Link) :
    statusesOf (Controller.farewells code reason link : List (Effect Payload)) = [] :=
  Controller.filterMap_farewells _ code reason link (fun _ => rfl) (fun _ => rfl)

@[simp]
theorem statesOf_stateNotice (shown state : State) :
    statesOf (Controller.stateNotice shown state : List (Effect Payload)) =
      shown.notice state := by
  unfold Controller.stateNotice State.notice
  split <;> rfl

@[simp]
theorem statusesOf_stateNotice (shown state : State) :
    statusesOf (Controller.stateNotice shown state : List (Effect Payload)) = [] :=
  Controller.filterMap_stateNotice _ shown state rfl

@[simp]
theorem statesOf_downNotice (wasOpen : Bool) :
    statesOf (Controller.downNotice wasOpen : List (Effect Payload)) = [] :=
  Controller.filterMap_downNotice _ wasOpen rfl

@[simp]
theorem statusesOf_downNotice (wasOpen : Bool) :
    statusesOf (Controller.downNotice wasOpen : List (Effect Payload)) =
      if wasOpen then [.down] else [] := by
  cases wasOpen <;> rfl

@[simp]
theorem statesOf_discardNotice (backlog : Backlog Payload) :
    statesOf (Controller.discardNotice backlog) = [] :=
  Controller.filterMap_discardNotice _ backlog fun _ => rfl

@[simp]
theorem statusesOf_discardNotice (backlog : Backlog Payload) :
    statusesOf (Controller.discardNotice backlog) = [] :=
  Controller.filterMap_discardNotice _ backlog fun _ => rfl

theorem statesOf_eq_nil
    {effects : List (Effect Payload)}
    (silent : ∀ effect ∈ effects, effect.movesPayload = true ∨ effect.converses = true) :
    statesOf effects = [] := by
  refine List.filterMap_eq_nil_iff.mpr fun effect member => ?_
  cases effect with
  | state _ =>
      rcases silent _ member with moves | converses
      · cases moves
      · cases converses
  | _ => rfl

theorem statusesOf_eq_nil
    {effects : List (Effect Payload)}
    (silent : ∀ effect ∈ effects, effect.movesPayload = true ∨ effect.converses = true) :
    statusesOf effects = [] := by
  refine List.filterMap_eq_nil_iff.mpr fun effect member => ?_
  cases effect with
  | status _ =>
      rcases silent _ member with moves | converses
      · cases moves
      · cases converses
  | _ => rfl

end Shown

namespace Controller

/-! ## Handlers -/

theorem isOpen_eq_false
    {controller : Controller Payload} (noLink : controller.link = none) :
    controller.isOpen = false := by
  simp [isOpen, noLink]

theorem face_halt (why : Halt) (reason : String) (controller : Controller Payload) :
    (halt why reason controller).face = controller.face.down .disconnected := by
  rw [halt_eq]
  cases wasOpen : controller.isOpen <;>
    simp [face, Face.down, Face.released, isOpen_eq_false, wasOpen]

theorem face_onClosed
    (setup : Setup) (now code : Nat) (wasOpen : Bool) (controller : Controller Payload)
    (noLink : controller.link = none) :
    ∃ state, state ≠ .connected ∧
      (onClosed setup now code wasOpen controller).face =
        { controller.face with isOpen := wasOpen }.down state := by
  obtain ⟨state, phase, timers, backlog, noted, ends, lesser, aside⟩ :=
    onClosed_frame setup now code wasOpen controller
  have noStates : statesOf noted = [] :=
    aside.filterMap_eq_nil _ rfl fun _ => rfl
  have noStatuses : statusesOf noted = [] :=
    aside.filterMap_eq_nil _ rfl fun _ => rfl
  refine ⟨state, lesser, ?_⟩
  rw [ends]
  cases wasOpen <;>
    simp [face, Face.down, Face.released, isOpen_eq_false, noLink, noStates, noStatuses]

theorem face_waitForToken (setup : Setup) (now : Nat) (controller : Controller Payload) :
    (controller.phase = .waitingForToken ∧
        (waitForToken setup now controller).face = controller.face) ∨
      (waitForToken setup now controller).face = controller.face.down .disconnected := by
  rcases waitForToken_cases setup now controller with ⟨already, stays⟩ | ⟨_, begins⟩
  · rw [stays]
    exact Or.inl ⟨already, rfl⟩
  · rw [begins]
    right
    cases wasOpen : controller.isOpen <;>
      simp [face, Face.down, Face.released, isOpen_eq_false, wasOpen]

/-- A dial in place of anything but an open connection cannot be seen. -/
theorem face_dial
    (setup : Setup) (token : String) {controller : Controller Payload}
    (notOpen : controller.isOpen = false) :
    (dial setup token controller).face = controller.face := by
  rw [dial_eq]
  have noStates :
      ∀ url, statesOf [(.dial (controller.serial + 1) token url : Effect Payload)] = [] :=
    fun _ => rfl
  have noStatuses :
      ∀ url, statusesOf [(.dial (controller.serial + 1) token url : Effect Payload)] = [] :=
    fun _ => rfl
  rw [isOpen] at notOpen
  simp [face, isOpen, notOpen, noStates, noStatuses]

/-- To connect in any way but by replacing an open connection shows the truth. -/
theorem face_connect
    (setup : Setup) (now : Nat) (answer : Option String) (controller : Controller Payload) :
    controller.face.Turns (connect setup now answer controller).face := by
  rcases connect_cases setup now answer controller with
    ⟨_, waits⟩ |
      ⟨token, _, ⟨notOpen, _, dials⟩ | ⟨_, _, _, keeps⟩ | ⟨link, held, linkOpen, _, cycles⟩⟩
  · rw [waits]
    rcases face_waitForToken setup now controller with ⟨_, stays⟩ | begins
    · rw [stays]
      exact .same controller.face
    · rw [begins]
      exact .toDown controller.face State.noConfusion
  · have unseen :
        (dial setup token { controller with timers := controller.timers.forgetLook }).face =
          controller.face :=
      face_dial setup token notOpen
    rw [dials, unseen]
    exact .same controller.face
  · rw [keeps]
    exact .same controller.face
  · rw [cycles, retireWith_eq]
    obtain ⟨state, lesser, ends⟩ :=
      face_onClosed setup now Wire.CloseCode.tokenChanged true
        { controller with
          timers := controller.timers.forgetLook
          link := none
          outbox := controller.outbox ++
            farewells Wire.CloseCode.tokenChanged "token changed" controller.link }
        rfl
    have wasOpen : controller.isOpen = true := by
      simp [isOpen, held, linkOpen]
    have again :
        (onClosed setup now Wire.CloseCode.tokenChanged true
            { controller with
              timers := controller.timers.forgetLook
              link := none
              outbox := controller.outbox ++
                farewells Wire.CloseCode.tokenChanged "token changed" controller.link }).face =
          controller.face.down state := by
      rw [ends]
      simp [face, Face.down, Face.released, wasOpen]
    exact again ▸ .toDown controller.face lesser

/-- Starting over shows in the status that the connection is given up. Only if there is a token does
the state go unmentioned. -/
theorem face_startOver
    (setup : Setup) (around : Surroundings) (controller : Controller Payload) :
    (startOver setup around controller).face =
      if (around.answers 0).isSome then controller.face.released
      else controller.face.down .disconnected := by
  have released : controller.restarted.face = controller.face.released := by
    cases wasOpen : controller.isOpen <;>
      simp [restarted, face, Face.released, isOpen_eq_false, wasOpen]
  rw [startOver_eq]
  cases answer : around.answers 0 with
  | none =>
      rcases face_waitForToken setup around.now controller.restarted with ⟨⟨⟩, _⟩ | begins
      refine begins.trans ?_
      rw [released]
      simp [Face.down, Face.released]
  | some token =>
      rw [if_pos Option.isSome_some, ← released]
      exact face_dial setup token (isOpen_eq_false rfl)

theorem face_onOpened
    (accepts : Nat → Bool) {controller : Controller Payload} {link : Link}
    (held : controller.link = some link) :
    controller.face.Turns (onOpened accepts controller).face := by
  obtain ⟨backlog, moved, opens, moves⟩ := onOpened_frame accepts controller
  have silent : ∀ effect ∈ moved, effect.movesPayload = true ∨ effect.converses = true :=
    fun effect member => Or.inl (moves effect member)
  have states : statesOf (.status ⟨true, controller.hasOpened⟩ :: moved) = [] := by
    change statesOf moved = []
    exact statesOf_eq_nil silent
  have statuses :
      statusesOf (.status ⟨true, controller.hasOpened⟩ :: moved) =
        [⟨true, controller.hasOpened⟩] :=
    congrArg _ (statusesOf_eq_nil silent)
  have rises : controller.face.Turns _ := .rose controller.hasOpened
  rw [opens, held]
  simpa [face, isOpen, held, states, statuses] using rises

theorem face_onText
    (setup : Setup) (around : Surroundings) (content : String) (controller : Controller Payload) :
    controller.face.Turns (onText setup around content controller).face := by
  rcases onText_cases setup around content controller with
    ⟨message, _, refuses⟩ | ⟨session, spoken, speaks, converses⟩
  · have halts : (onRefusal setup around.now message controller).face =
        controller.face.down .disconnected :=
      face_halt .refused "auth failure" controller
    rw [refuses, halts]
    exact .toDown controller.face State.noConfusion
  · have silent : ∀ effect ∈ spoken, effect.movesPayload = true ∨ effect.converses = true :=
      fun effect member => Or.inr (converses effect member)
    have unchanged := Face.Turns.same controller.face
    rw [speaks]
    simpa [face, isOpen, statesOf_eq_nil silent, statusesOf_eq_nil silent] using unchanged

theorem face_onReport
    (setup : Setup) (around : Surroundings) (serial : Nat) (report : Report)
    (controller : Controller Payload) :
    controller.face.Turns (onReport setup around serial report controller).face := by
  unfold onReport
  split
  next =>
    exact .same controller.face
  next link held =>
    split
    · exact .same controller.face
    · cases report with
      | opened =>
          exact face_onOpened around.accepts held
      | text content =>
          exact face_onText setup around content controller
      | failed cause =>
          have fails : controller.face.Turns _ :=
            .quiet (.failed connectionErrorMessage) State.noConfusion
          simp only [publishState_eq]
          simpa [face, isOpen] using fails
      | closed code reason =>
          obtain ⟨state, lesser, ends⟩ :=
            face_onClosed setup around.now code link.isOpen { controller with link := none } rfl
          have asBefore :
              { ({ controller with link := none } : Controller Payload).face with
                isOpen := link.isOpen } = controller.face := by
            simp [face, isOpen, held]
          refine Eq.subst (motive := controller.face.Turns) ends.symm ?_
          rw [asBefore]
          exact .toDown controller.face lesser

theorem face_onTimer
    (setup : Setup) (around : Surroundings) (timer : Timer) (controller : Controller Payload) :
    controller.face.Turns (onTimer setup around timer controller).face := by
  cases timer with
  | reconnect =>
      exact face_connect setup around.now (around.answers 0)
        { controller with
          timers := controller.timers.forgetRetry
          phase := controller.phase.launch }
  | countdown =>
      rcases onCountdown_cases controller with ⟨attempt, seconds, _, beats⟩ | ⟨_, stops⟩
      · have counts : controller.face.Turns _ :=
          .quiet (.reconnecting attempt (seconds - 1)) State.noConfusion
        rw [onTimer, beats, publishState_eq]
        simpa [face, isOpen] using counts
      · rw [onTimer, stops]
        exact .same controller.face
  | tokenLook =>
      rw [onTimer, onTokenLook]
      split
      · exact face_connect setup around.now (around.answers 1)
          { controller with timers := controller.timers.forgetLook, phase := .idle }
      · exact .same controller.face
  | refusalNotice =>
      have told (untold : Option String) :
          statesOf (untold.map (.refusal : String → Effect Payload)).toList = [] ∧
            statusesOf (untold.map (.refusal : String → Effect Payload)).toList = [] := by
        cases untold <;> exact ⟨rfl, rfl⟩
      have unchanged := Face.Turns.same controller.face
      rw [onTimer, onRefusalNotice_eq]
      simpa [face, isOpen, told] using unchanged

theorem face_onCommand
    (setup : Setup) (around : Surroundings) {order : Order Payload}
    (goesOn : order ≠ .startOver) (controller : Controller Payload) :
    controller.face.Turns (onCommand setup around order controller).face := by
  cases order with
  | connect session =>
      cases session with
      | none =>
          exact face_connect setup around.now (around.answers 0) controller
      | some session =>
          have adopted : (adoptSession session controller).face = controller.face := by
            simp [adoptSession, emit, face, isOpen, statesOf, statusesOf, Effect.state?,
              Effect.status?]
          exact adopted ▸
            face_connect setup around.now (around.answers 0) (adoptSession session controller)
  | send payload =>
      obtain ⟨backlog, moved, sends, moves⟩ := send_frame around.accepts payload controller
      have silent : ∀ effect ∈ moved, effect.movesPayload = true ∨ effect.converses = true :=
        fun effect member => Or.inl (moves effect member)
      have unchanged := Face.Turns.same controller.face
      rw [onCommand, sends]
      simpa [face, isOpen, statesOf_eq_nil silent, statusesOf_eq_nil silent] using unchanged
  | disconnect =>
      rw [onCommand, face_halt]
      exact .toDown controller.face State.noConfusion
  | startOver =>
      exact absurd rfl goesOn

/-! ## Turns -/

/-- The turn replaces an open connection by a dial: the user starts over, and there is a token. -/
def Replaces (turn : Turn Payload) (controller : Controller Payload) : Prop :=
  turn.stimulus = .command .startOver ∧ (turn.around.answers 0).isSome = true ∧
    controller.isOpen = true

/-- As it begins a turn, a controller shows what it showed last and has shown nothing since. -/
def outset (controller : Controller Payload) : Face :=
  ⟨controller.state, controller.status, controller.isOpen, [], []⟩

/-- Every turn shows in both ways what becomes of the connection, save that starting over does not
show in the state that an open connection is replaced. -/
theorem face_take (setup : Setup) (turn : Turn Payload) (controller : Controller Payload) :
    (Replaces turn controller ∧ (controller.take setup turn).face = controller.outset.released) ∨
      (¬ Replaces turn controller ∧
        controller.outset.Turns (controller.take setup turn).face) := by
  unfold Replaces take step
  cases told : turn.stimulus with
  | report serial report =>
      refine Or.inr ⟨by simp, ?_⟩
      exact face_onReport setup turn.around serial report { controller with outbox := [] }
  | timer timer =>
      refine Or.inr ⟨by simp, ?_⟩
      exact face_onTimer setup turn.around timer { controller with outbox := [] }
  | command order =>
      by_cases startsOver : order = .startOver
      · have shown := face_startOver setup turn.around { controller with outbox := [] }
        rw [startsOver]
        cases answered : (turn.around.answers 0).isSome with
        | false =>
            have downs : controller.outset.Turns (controller.outset.down .disconnected) :=
              .toDown controller.outset State.noConfusion
            rw [answered] at shown
            exact Or.inr ⟨by simp, Eq.subst (motive := controller.outset.Turns) shown.symm downs⟩
        | true =>
            rw [answered] at shown
            cases wasOpen : controller.isOpen with
            | true =>
                exact Or.inl ⟨⟨rfl, rfl, rfl⟩, shown⟩
            | false =>
                have nothing : controller.outset.Turns controller.outset.released := by
                  have unreleased : controller.outset.released = controller.outset := by
                    simp [outset, Face.released, wasOpen]
                  rw [unreleased]
                  exact .same controller.outset
                exact Or.inr
                  ⟨by simp, Eq.subst (motive := controller.outset.Turns) shown.symm nothing⟩
      · refine Or.inr ⟨fun replaces => startsOver (Stimulus.command.inj replaces.1), ?_⟩
        exact face_onCommand setup turn.around startsOver { controller with outbox := [] }

/-! ## Whole runs -/

/-- The controller calls itself connected without a connection. -/
def Overstates (controller : Controller Payload) : Prop :=
  controller.state = .connected ∧ controller.isOpen = false

/-- Nothing is shown of the connection. -/
def Silent (effects : List (Effect Payload)) : Prop :=
  statesOf effects = [] ∧ statusesOf effects = []

@[simp]
theorem silent_append (first second : List (Effect Payload)) :
    Silent (first ++ second) ↔ Silent first ∧ Silent second := by
  simp only [Silent, statesOf_append, statusesOf_append, List.append_eq_nil_iff]
  exact and_and_and_comm

theorem frank_take
    (setup : Setup) (turn : Turn Payload) {controller : Controller Payload}
    (frank : controller.status.connected = controller.isOpen) :
    (controller.take setup turn).status.connected = (controller.take setup turn).isOpen := by
  rcases face_take setup turn controller with ⟨⟨_, _, wasOpen⟩, replaced⟩ | ⟨_, turns⟩
  · have status : (controller.take setup turn).status = controller.outset.released.status :=
      congrArg Face.status replaced
    have notOpen : (controller.take setup turn).isOpen = false :=
      congrArg Face.isOpen replaced
    rw [status, notOpen]
    simp [outset, Face.released, wasOpen, Status.down]
  · exact turns.frank frank

/-- A controller overstates its connection from the turn in which an open one is replaced, until it
shows anything. -/
theorem overstates_take_iff
    (setup : Setup) (turn : Turn Payload) (controller : Controller Payload) :
    (controller.take setup turn).Overstates ↔
      (controller.Overstates ∧ Silent (controller.take setup turn).outbox) ∨
        (Replaces turn controller ∧ controller.state = .connected) := by
  rcases face_take setup turn controller with ⟨replaces, replaced⟩ | ⟨keeps, turns⟩
  · have state : (controller.take setup turn).state = controller.state :=
      congrArg Face.state replaced
    have notOpen : (controller.take setup turn).isOpen = false :=
      congrArg Face.isOpen replaced
    simp [Overstates, state, notOpen, replaces, replaces.2.2]
  · have still := turns.overstates_iff rfl rfl
    simp only [keeps, false_and, or_false]
    exact still

/-- A controller overstates its connection exactly if it did so at first or an open connection was
replaced under a state that called it connected, and nothing was shown since. -/
theorem overstates_after_iff
    (setup : Setup) (turns : List (Turn Payload)) (controller : Controller Payload) :
    (after setup turns controller).Overstates ↔
      (controller.Overstates ∧ Silent (effects setup turns controller)) ∨
        ∃ before turn rest, turns = before ++ turn :: rest ∧
          Replaces turn (after setup before controller) ∧
          (after setup before controller).state = .connected ∧
          Silent (effects setup rest (after setup (before ++ [turn]) controller)) := by
  induction turns generalizing controller with
  | nil =>
      simp [after, effects, Silent, statesOf, statusesOf]
  | cons turn rest inductionHypothesis =>
      rw [after, inductionHypothesis (controller.take setup turn), overstates_take_iff, effects,
        silent_append]
      -- The open connection was replaced before this turn, in it, or in a later one.
      constructor
      · rintro (⟨⟨overstates, silent⟩ | ⟨replaces, connected⟩, restSilent⟩ |
          ⟨before, later, last, rfl, replaces, connected, silent⟩)
        · exact Or.inl ⟨overstates, silent, restSilent⟩
        · exact Or.inr ⟨[], turn, rest, rfl, replaces, connected, restSilent⟩
        · exact Or.inr ⟨turn :: before, later, last, rfl, replaces, connected, silent⟩
      · rintro (⟨overstates, silent, restSilent⟩ |
          ⟨before, later, last, splits, replaces, connected, silent⟩)
        · exact Or.inl ⟨Or.inl ⟨overstates, silent⟩, restSilent⟩
        · cases before with
          | nil =>
              obtain ⟨rfl, rfl⟩ := List.cons.inj splits
              exact Or.inl ⟨Or.inr ⟨replaces, connected⟩, silent⟩
          | cons first middle =>
              obtain ⟨rfl, rfl⟩ := List.cons.inj splits
              exact Or.inr ⟨middle, later, last, rfl, replaces, connected, silent⟩

theorem shown_last_take
    (setup : Setup) (turn : Turn Payload) (controller : Controller Payload) :
    (controller.take setup turn).state =
        (statesOf (controller.take setup turn).outbox).getLastD controller.state ∧
      (controller.take setup turn).status =
        (statusesOf (controller.take setup turn).outbox).getLastD controller.status := by
  rcases face_take setup turn controller with ⟨⟨_, _, wasOpen⟩, replaced⟩ | ⟨_, turns⟩
  · have state : (controller.take setup turn).state = controller.state :=
      congrArg Face.state replaced
    have status : (controller.take setup turn).status = controller.outset.released.status :=
      congrArg Face.status replaced
    have states : statesOf (controller.take setup turn).outbox = [] :=
      congrArg Face.states replaced
    have statuses :
        statusesOf (controller.take setup turn).outbox = controller.outset.released.statuses :=
      congrArg Face.statuses replaced
    rw [state, status, states, statuses]
    simp [outset, Face.released, wasOpen]
  · exact ⟨turns.state_last rfl, turns.status_last rfl⟩

/-- What the controller takes to be shown is what its observers were shown last. -/
theorem shown_last
    (setup : Setup) (turns : List (Turn Payload)) (controller : Controller Payload) :
    (after setup turns controller).state =
        (statesOf (effects setup turns controller)).getLastD controller.state ∧
      (after setup turns controller).status =
        (statusesOf (effects setup turns controller)).getLastD controller.status := by
  induction turns generalizing controller with
  | nil =>
      exact ⟨rfl, rfl⟩
  | cons turn rest inductionHypothesis =>
      obtain ⟨stateNow, statusNow⟩ := shown_last_take setup turn controller
      obtain ⟨stateLast, statusLast⟩ := inductionHypothesis (controller.take setup turn)
      rw [after, effects, stateLast, statusLast, stateNow, statusNow, statesOf_append,
        statusesOf_append]
      simp

/-- After every run the status says whether there is an open connection, if it did before. -/
theorem frank_after
    (setup : Setup) (turns : List (Turn Payload)) {controller : Controller Payload}
    (frank : controller.status.connected = controller.isOpen) :
    (after setup turns controller).status.connected = (after setup turns controller).isOpen := by
  induction turns generalizing controller with
  | nil =>
      exact frank
  | cons turn rest inductionHypothesis =>
      exact inductionHypothesis (frank_take setup turn frank)

/-- Going for good closes the connection and is shown in the status. The state is only shown of an
open connection, so that a controller which overstates one goes on doing so. -/
theorem windDown_shows {controller : Controller Payload}
    (frank : controller.status.connected = controller.isOpen) :
    controller.windDown.isOpen = false ∧ controller.windDown.status.connected = false ∧
      (controller.windDown.state = .connected ↔ controller.Overstates) := by
  rw [windDown_eq]
  cases wasOpen : controller.isOpen with
  | true =>
      simp [isOpen_eq_false, Overstates, wasOpen, Status.down]
  | false =>
      rw [wasOpen] at frank
      simp [isOpen_eq_false, Overstates, wasOpen, frank]

/-- After every run the status is that of the connection, but the state calls the client connected
without an open connection exactly if an open one was replaced by starting over and nothing was
shown since. Going for good does not change that. Both are what observers were shown last. -/
theorem overstates_iff_replaced_unshown
    (setup : Setup) (turns : List (Turn Payload)) :
    (after setup turns (.initial setup)).status.connected =
        (after setup turns (.initial setup)).isOpen ∧
      ((after setup turns (.initial setup)).Overstates ↔
        ∃ before turn rest, turns = before ++ turn :: rest ∧
          Replaces turn (after setup before (.initial setup)) ∧
          (after setup before (.initial setup)).state = .connected ∧
          Silent (effects setup rest (after setup (before ++ [turn]) (.initial setup)))) ∧
      (after setup turns (.initial setup)).windDown.isOpen = false ∧
      (after setup turns (.initial setup)).windDown.status.connected = false ∧
      ((after setup turns (.initial setup)).windDown.state = .connected ↔
        (after setup turns (.initial setup)).Overstates) ∧
      (after setup turns (.initial setup)).state =
        (statesOf (effects setup turns (.initial setup))).getLastD .disconnected ∧
      (after setup turns (.initial setup)).status =
        (statusesOf (effects setup turns (.initial setup))).getLastD .down := by
  have frank :
      (after setup turns (.initial setup)).status.connected =
        (after setup turns (.initial setup)).isOpen :=
    frank_after setup turns rfl
  have overstates := overstates_after_iff setup turns (.initial setup)
  have atFirst : ¬ (initial setup : Controller Payload).Overstates :=
    fun overstates => State.noConfusion overstates.1
  obtain ⟨closed, down, still⟩ := windDown_shows frank
  obtain ⟨state, status⟩ := shown_last setup turns (.initial setup)
  simp only [atFirst, false_and, false_or] at overstates
  exact ⟨frank, overstates, closed, down, still, state, status⟩

/-- A connection opens, the user starts over, and a text is sent while the dial is under way. -/
def startedOver : List (Turn String) :=
  [⟨.steady (some "key"), .command (.connect none)⟩,
    ⟨.steady (some "key"), .report 1 .opened⟩,
    ⟨.steady (some "key"), .command .startOver⟩,
    ⟨.steady (some "key"), .command (.send "hello")⟩]

/-- The client calls itself connected while its status says that it is not and the text waits, and
it still does so when it is gone. -/
theorem overstates_of_startedOver :
    (after .standard startedOver (.initial .standard)).state = .connected ∧
      (after .standard startedOver (.initial .standard)).isOpen = false ∧
      (after .standard startedOver (.initial .standard)).status.connected = false ∧
      (after .standard startedOver (.initial .standard)).backlog.items = ["hello"] ∧
      (after .standard startedOver (.initial .standard)).windDown.state = .connected := by
  decide

end Controller

end Parley.Connection
