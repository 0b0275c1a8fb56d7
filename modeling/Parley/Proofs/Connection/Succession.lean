import Parley.Proofs.Connection.Moves
import Parley.Proofs.Connection.Run

/-!
# The succession of connections

A controller dials one connection after the other, and they all report to it in one stream. The main
statement is that there is never more than one of them that lives, that each is over before the next
one is dialled, and that whatever a former one still reports leaves no trace: a run without such
reports does the same and ends the same.
-/

namespace Parley.Connection

variable {Payload : Type}

/-! ## Lives -/

/-- A connection begins with its dial. It is over once the controller gives it up, or once it has
reported its end. -/
inductive Life where
  | dialled (serial : Nat)
  | ended (serial : Nat)
deriving DecidableEq, Repr

def Effect.life? : Effect Payload → Option Life
  | .dial serial _ _ => some (.dialled serial)
  | .close serial _ _ => some (.ended serial)
  | .abandon serial => some (.ended serial)
  | _ => none

def livesOf (effects : List (Effect Payload)) : List Life :=
  effects.filterMap Effect.life?

/-- The serial number of the connection that reports its end in a turn. -/
def Turn.ended? (turn : Turn Payload) : Option Nat :=
  match turn.stimulus with
  | .report serial (.closed _ _) => some serial
  | _ => none

def dialled (lives : List Life) : List Nat :=
  lives.filterMap fun
    | .dialled serial => some serial
    | .ended _ => none

/-- The connections that have been dialled and are not over. -/
def living (lives : List Life) : List Nat :=
  lives.foldl (fun alive life =>
    match life with
    | .dialled serial => alive ++ [serial]
    | .ended serial => alive.filter (· ≠ serial)) []

theorem living_dialled (lives : List Life) (serial : Nat) :
    living (lives ++ [.dialled serial]) = living lives ++ [serial] := by
  simp [living]

theorem living_ended (lives : List Life) (serial : Nat) :
    living (lives ++ [.ended serial]) = (living lives).filter (· ≠ serial) := by
  simp [living]

/-- A connection that lives did so before, or has been dialled since. -/
theorem mem_living_append
    {earlier later : List Life} {serial : Nat} (lives : serial ∈ living (earlier ++ later)) :
    serial ∈ living earlier ∨ serial ∈ dialled later := by
  induction later generalizing earlier with
  | nil =>
      rw [List.append_nil] at lives
      exact Or.inl lives
  | cons life rest inductionHypothesis =>
      have split : earlier ++ life :: rest = (earlier ++ [life]) ++ rest := by
        simp
      rw [split] at lives
      rcases inductionHypothesis lives with livesThere | dialledLater
      · cases life with
        | dialled next =>
            rw [living_dialled, List.mem_append, List.mem_singleton] at livesThere
            rcases livesThere with livedBefore | rfl
            · exact Or.inl livedBefore
            · exact Or.inr List.mem_cons_self
        | ended last =>
            rw [living_ended] at livesThere
            exact Or.inl (List.mem_filter.mp livesThere).1
      · have later : dialled rest ⊆ dialled (life :: rest) :=
          ((List.sublist_cons_self life rest).filterMap _).subset
        exact Or.inr (later dialledLater)

/-- The connection was dialled, and is over. -/
def IsFormer (lives : List Life) (serial : Nat) : Prop :=
  serial ∈ dialled lives ∧ serial ∉ living lives

instance (lives : List Life) (serial : Nat) : Decidable (IsFormer lives serial) :=
  inferInstanceAs (Decidable (_ ∧ _))

/-- Lives are in succession: at most one connection lives at a time, the last one is the one that is
held, and dials are numbered one after the other up to the last. -/
structure InSuccession (lives : List Life) (held : Option Nat) (serial : Nat) : Prop where
  living_eq : living lives = held.toList
  dialled_eq : dialled lives = List.range' 1 serial
  alone : ∀ first, first <+: lives → (living first).length ≤ 1
  vacant : ∀ first next, first ++ [.dialled next] <+: lives → living first = []

namespace InSuccession

variable {lives : List Life} {held : Option Nat} {serial : Nat}

theorem nil : InSuccession [] none 0 where
  living_eq := rfl
  dialled_eq := rfl
  alone first isFirst := by
    rw [List.prefix_nil.mp isFirst]
    exact Nat.zero_le 1
  vacant first next isFirst := by
    have empty := List.prefix_nil.mp isFirst
    simp at empty

theorem ended (succession : InSuccession lives held serial) (last : Nat) :
    InSuccession (lives ++ [.ended last]) (held.filter (· ≠ last)) serial where
  living_eq := by
    rw [living_ended, succession.living_eq]
    cases held with
    | none =>
        rfl
    | some serial =>
        by_cases same : serial = last <;> simp [Option.filter, same]
  dialled_eq := by
    rw [← succession.dialled_eq]
    simp [dialled]
  alone first isFirst := by
    rcases List.prefix_concat_iff.mp isFirst with rfl | isBefore
    · rw [living_ended]
      exact Nat.le_trans (List.length_filter_le _ _) (succession.alone lives (List.prefix_refl _))
    · exact succession.alone first isBefore
  vacant first next isFirst := by
    rcases List.prefix_concat_iff.mp isFirst with same | isBefore
    · have sameLast := (List.append_inj_right' same rfl)
      cases sameLast
    · exact succession.vacant first next isBefore

theorem dial (succession : InSuccession lives none serial) :
    InSuccession (lives ++ [.dialled (serial + 1)]) (some (serial + 1)) (serial + 1) where
  living_eq := by
    rw [living_dialled, succession.living_eq]
    rfl
  dialled_eq := by
    have dials : dialled (lives ++ [.dialled (serial + 1)]) = dialled lives ++ [serial + 1] := by
      simp [dialled]
    rw [dials, succession.dialled_eq, List.range'_concat]
    simp [Nat.add_comm]
  alone first isFirst := by
    rcases List.prefix_concat_iff.mp isFirst with rfl | isBefore
    · rw [living_dialled, succession.living_eq]
      exact Nat.le_refl 1
    · exact succession.alone first isBefore
  vacant first next isFirst := by
    rcases List.prefix_concat_iff.mp isFirst with same | isBefore
    · have sameFirst := List.append_inj_left' same rfl
      rw [sameFirst]
      exact succession.living_eq
    · exact succession.vacant first next isBefore

theorem vacate (succession : InSuccession lives held serial) :
    InSuccession (lives ++ held.toList.map .ended) none serial := by
  cases held with
  | none =>
      simpa using succession
  | some last =>
      have vacated := succession.ended last
      simpa [Option.filter] using vacated

/-- A serial number is dialled once, so that what is over stays over. -/
theorem former_append
    {earlier later : List Life} {former : Nat}
    (succession : InSuccession (earlier ++ later) held serial)
    (isFormer : IsFormer earlier former) :
    IsFormer (earlier ++ later) former := by
  have appended : dialled (earlier ++ later) = dialled earlier ++ dialled later :=
    List.filterMap_append
  refine ⟨?_, fun lives => ?_⟩
  · rw [appended]
    exact List.mem_append_left _ isFormer.1
  · rcases mem_living_append lives with livedBefore | dialledAgain
    · exact isFormer.2 livedBefore
    · -- Dials are numbered one after the other, so that no number comes up again.
      have distinct : (dialled earlier ++ dialled later).Nodup := by
        rw [← appended, succession.dialled_eq]
        exact List.nodup_range'
      exact (List.nodup_append.mp distinct).2.2 former isFormer.1 former dialledAgain rfl

end InSuccession

/-! ## Slots -/

/-- The place of the connection: the serial numbers of the one that is held and of the last dial,
and what has become of connections. -/
structure Slot where
  held : Option Nat
  serial : Nat
  lives : List Life

def Controller.slot (controller : Controller Payload) : Slot where
  held := controller.link.map (·.serial)
  serial := controller.serial
  lives := livesOf controller.outbox

/-- The slot once the connection is given up, if there is one. -/
def Slot.vacated (slot : Slot) : Slot :=
  { slot with
    held := none
    lives := slot.lives ++ slot.held.toList.map .ended }

def Slot.filled (slot : Slot) : Slot where
  held := some (slot.serial + 1)
  serial := slot.serial + 1
  lives := slot.lives ++ [.dialled (slot.serial + 1)]

/-- What can become of a slot: a connection is dialled only once the slot is vacant. -/
inductive Slot.Turns (before : Slot) : Slot → Prop where
  | kept : Turns before before
  | vacated : Turns before before.vacated
  | filled : Turns before before.vacated.filled

theorem Slot.vacated_vacated (slot : Slot) : slot.vacated.vacated = slot.vacated := by
  simp [vacated]

theorem Slot.Turns.of_vacated {before after : Slot} (turns : before.vacated.Turns after) :
    before.Turns after := by
  cases turns with
  | kept =>
      exact .vacated
  | vacated =>
      rw [Slot.vacated_vacated]
      exact .vacated
  | filled =>
      rw [Slot.vacated_vacated]
      exact .filled

theorem InSuccession.turns
    {earlier : List Life} {before after : Slot} (turns : before.Turns after)
    (succession : InSuccession (earlier ++ before.lives) before.held before.serial) :
    InSuccession (earlier ++ after.lives) after.held after.serial := by
  have vacated :
      InSuccession (earlier ++ before.vacated.lives) none before.serial := by
    have given := succession.vacate
    rwa [List.append_assoc] at given
  cases turns with
  | kept =>
      exact succession
  | vacated =>
      exact vacated
  | filled =>
      have dialled := vacated.dial
      rwa [List.append_assoc] at dialled

@[simp]
theorem livesOf_append (first second : List (Effect Payload)) :
    livesOf (first ++ second) = livesOf first ++ livesOf second :=
  List.filterMap_append

theorem livesOf_eq_nil
    {effects : List (Effect Payload)} (lifeless : ∀ effect ∈ effects, effect.life? = none) :
    livesOf effects = [] :=
  List.filterMap_eq_nil_iff.mpr lifeless

theorem Effect.life?_of_movesPayload
    {effect : Effect Payload} (moves : effect.movesPayload = true) :
    effect.life? = none := by
  cases effect <;> simp_all [movesPayload, life?]

theorem Effect.life?_of_converses {effect : Effect Payload} (converses : effect.converses = true) :
    effect.life? = none := by
  cases effect <;> simp_all [Effect.converses, life?]

namespace Controller

@[simp]
theorem livesOf_farewells (code : Nat) (reason : String) (link : Option Link) :
    livesOf (farewells code reason link : List (Effect Payload)) =
      (link.map (·.serial)).toList.map .ended := by
  cases link with
  | none =>
      rfl
  | some link =>
      rcases link.farewell_cases Payload code reason with ⟨_, is⟩ | ⟨_, is⟩
      · simp [farewells, is, livesOf, Effect.life?]
      · simp [farewells, is, livesOf, Effect.life?]

@[simp]
theorem livesOf_stateNotice (shown state : State) :
    livesOf (stateNotice shown state : List (Effect Payload)) = [] :=
  filterMap_stateNotice _ shown state rfl

@[simp]
theorem livesOf_downNotice (wasOpen : Bool) :
    livesOf (downNotice wasOpen : List (Effect Payload)) = [] :=
  filterMap_downNotice _ wasOpen rfl

@[simp]
theorem livesOf_discardNotice (backlog : Backlog Payload) :
    livesOf (discardNotice backlog) = [] :=
  filterMap_discardNotice _ backlog fun _ => rfl

theorem slot_halt (why : Halt) (reason : String) (controller : Controller Payload) :
    (halt why reason controller).slot = controller.slot.vacated := by
  rw [halt_eq]
  simp [slot, Slot.vacated]

/-- The end of a connection leaves the slot as it is: the connection was given up before. -/
theorem slot_onClosed
    (setup : Setup) (now code : Nat) (wasOpen : Bool) (controller : Controller Payload) :
    (onClosed setup now code wasOpen controller).slot = controller.slot := by
  obtain ⟨state, phase, timers, backlog, noted, ends, _, aside⟩ :=
    onClosed_frame setup now code wasOpen controller
  have lifeless : livesOf noted = [] :=
    aside.filterMap_eq_nil _ rfl fun _ => rfl
  rw [ends]
  simp [slot, lifeless]

theorem slot_waitForToken (setup : Setup) (now : Nat) (controller : Controller Payload) :
    controller.slot.Turns (waitForToken setup now controller).slot := by
  rcases waitForToken_cases setup now controller with ⟨_, stays⟩ | ⟨_, begins⟩
  · rw [stays]
    exact .kept
  · have vacates : (waitForToken setup now controller).slot = controller.slot.vacated := by
      rw [begins]
      simp [slot, Slot.vacated]
    rw [vacates]
    exact .vacated

theorem slot_dial (setup : Setup) (token : String) (controller : Controller Payload) :
    (dial setup token controller).slot = controller.slot.vacated.filled := by
  rw [dial_eq]
  have lives :
      ∀ url, livesOf [(.dial (controller.serial + 1) token url : Effect Payload)] =
        [.dialled (controller.serial + 1)] :=
    fun _ => rfl
  simp [slot, Slot.vacated, Slot.filled, lives]

theorem slot_connect
    (setup : Setup) (now : Nat) (answer : Option String) (controller : Controller Payload) :
    controller.slot.Turns (connect setup now answer controller).slot := by
  rcases connect_cases setup now answer controller with
    ⟨_, waits⟩ | ⟨token, _, ⟨_, _, dials⟩ | ⟨_, _, _, keeps⟩ | ⟨_, _, _, _, cycles⟩⟩
  · rw [waits]
    exact slot_waitForToken setup now controller
  · rw [dials, slot_dial]
    exact .filled
  · rw [keeps]
    exact .kept
  · have vacates :
        (retireWith Wire.CloseCode.tokenChanged "token changed"
          { controller with timers := controller.timers.forgetLook }).slot =
            controller.slot.vacated := by
      rw [retireWith_eq]
      simp [slot, Slot.vacated]
    rw [cycles, slot_onClosed, vacates]
    exact .vacated

theorem slot_startOver
    (setup : Setup) (around : Surroundings) (controller : Controller Payload) :
    controller.slot.Turns (startOver setup around controller).slot := by
  have vacates : controller.restarted.slot = controller.slot.vacated := by
    simp [restarted, slot, Slot.vacated]
  have connects := slot_connect setup around.now (around.answers 0) controller.restarted
  rw [vacates] at connects
  rw [startOver_eq]
  exact connects.of_vacated

theorem slot_onText
    (setup : Setup) (around : Surroundings) (content : String) (controller : Controller Payload) :
    controller.slot.Turns (onText setup around content controller).slot := by
  rcases onText_cases setup around content controller with
    ⟨message, _, refuses⟩ | ⟨session, spoken, speaks, converses⟩
  · have vacates : (onRefusal setup around.now message controller).slot =
        controller.slot.vacated :=
      slot_halt .refused "auth failure" controller
    rw [refuses, vacates]
    exact .vacated
  · have lifeless : livesOf spoken = [] :=
      livesOf_eq_nil fun effect member => Effect.life?_of_converses (converses effect member)
    have keeps : (onText setup around content controller).slot = controller.slot := by
      rw [speaks]
      simp [slot, lifeless]
    rw [keeps]
    exact .kept

/-! ## Turns -/

/-- As it begins a turn, a controller holds the connection that it held before, unless the report of
that turn is its end. -/
def slotAt (turn : Turn Payload) (controller : Controller Payload) : Slot where
  held := (controller.link.map (·.serial)).filter (some · ≠ turn.ended?)
  serial := controller.serial
  lives := []

theorem slotAt_of_no_end
    {turn : Turn Payload} (noEnd : turn.ended? = none) (controller : Controller Payload) :
    slotAt turn controller = slot { controller with outbox := [] } := by
  cases held : controller.link <;> simp [slotAt, slot, noEnd, held, livesOf, Option.filter]

theorem slot_onReport_of_no_end
    (setup : Setup) (around : Surroundings) (serial : Nat) {report : Report}
    (goesOn : ∀ code reason, report ≠ .closed code reason) (controller : Controller Payload) :
    controller.slot.Turns (onReport setup around serial report controller).slot := by
  unfold onReport
  split
  next =>
    exact .kept
  next link held =>
    split
    · exact .kept
    · cases report with
      | opened =>
          obtain ⟨backlog, moved, opens, moves⟩ := onOpened_frame around.accepts controller
          have lifeless : livesOf (.status ⟨true, controller.hasOpened⟩ :: moved) = [] := by
            change livesOf moved = []
            exact livesOf_eq_nil fun effect member =>
              Effect.life?_of_movesPayload (moves effect member)
          have keeps : (onOpened around.accepts controller).slot = controller.slot := by
            rw [opens]
            simp [slot, lifeless, held]
          simp only [keeps]
          exact .kept
      | text content =>
          exact slot_onText setup around content controller
      | failed cause =>
          have keeps :
              (publishState (.failed connectionErrorMessage) controller).slot =
                controller.slot := by
            rw [publishState_eq]
            simp [slot]
          simp only [keeps]
          exact .kept
      | closed code reason =>
          exact absurd rfl (goesOn code reason)

theorem slot_onReport_of_end
    {turn : Turn Payload} {serial code : Nat} {reason : String}
    (setup : Setup) (told : turn.stimulus = .report serial (.closed code reason))
    (controller : Controller Payload) :
    (onReport setup turn.around serial (.closed code reason)
      { controller with outbox := [] }).slot = slotAt turn controller := by
  have ended : turn.ended? = some serial := by
    simp [Turn.ended?, told]
  unfold onReport
  split
  next noLink =>
    have none : controller.link = none := noLink
    simp [slotAt, slot, livesOf, none]
  next link held =>
    have isHeld : controller.link = some link := held
    split
    next other =>
      simp [slotAt, slot, livesOf, isHeld, ended, Option.filter, other]
    next isSerial =>
      have same : link.serial = serial := Decidable.not_not.mp isSerial
      simp only [slot_onClosed]
      simp [slotAt, slot, livesOf, isHeld, ended, Option.filter, same]

theorem slot_onTimer
    (setup : Setup) (around : Surroundings) (timer : Timer) (controller : Controller Payload) :
    controller.slot.Turns (onTimer setup around timer controller).slot := by
  cases timer with
  | reconnect =>
      exact slot_connect setup around.now (around.answers 0)
        { controller with
          timers := controller.timers.forgetRetry
          phase := controller.phase.launch }
  | countdown =>
      have keeps : (onCountdown controller).slot = controller.slot := by
        rcases onCountdown_cases controller with ⟨attempt, seconds, _, beats⟩ | ⟨_, stops⟩
        · rw [beats, publishState_eq]
          simp [slot]
        · rw [stops]
          rfl
      rw [onTimer, keeps]
      exact .kept
  | tokenLook =>
      rw [onTimer, onTokenLook]
      split
      · exact slot_connect setup around.now (around.answers 1)
          { controller with timers := controller.timers.forgetLook, phase := .idle }
      · exact .kept
  | refusalNotice =>
      have told (untold : Option String) :
          livesOf (untold.map (.refusal : String → Effect Payload)).toList = [] := by
        cases untold <;> rfl
      have keeps : (onRefusalNotice controller).slot = controller.slot := by
        rw [onRefusalNotice_eq]
        simp [slot, told]
      rw [onTimer, keeps]
      exact .kept

theorem slot_onCommand
    (setup : Setup) (around : Surroundings) (order : Order Payload)
    (controller : Controller Payload) :
    controller.slot.Turns (onCommand setup around order controller).slot := by
  cases order with
  | connect session =>
      cases session with
      | none =>
          exact slot_connect setup around.now (around.answers 0) controller
      | some session =>
          have adopted : (adoptSession session controller).slot = controller.slot := by
            simp [adoptSession, emit, slot, livesOf, Effect.life?]
          exact adopted ▸
            slot_connect setup around.now (around.answers 0) (adoptSession session controller)
  | send payload =>
      obtain ⟨backlog, moved, sends, moves⟩ := send_frame around.accepts payload controller
      have lifeless : livesOf moved = [] :=
        livesOf_eq_nil fun effect member => Effect.life?_of_movesPayload (moves effect member)
      have keeps : (send around.accepts payload controller).slot = controller.slot := by
        rw [sends]
        simp [slot, lifeless]
      rw [onCommand, keeps]
      exact .kept
  | disconnect =>
      rw [onCommand, slot_halt]
      exact .vacated
  | startOver =>
      exact slot_startOver setup around controller

/-- In every turn a connection is dialled only once there is none left. -/
theorem slot_take (setup : Setup) (turn : Turn Payload) (controller : Controller Payload) :
    (slotAt turn controller).Turns (controller.take setup turn).slot := by
  unfold take step
  cases told : turn.stimulus with
  | report serial report =>
      cases report with
      | closed code reason =>
          have ends := slot_onReport_of_end setup told controller
          exact ends.symm ▸ .kept
      | _ =>
          have noEnd : turn.ended? = none := by
            simp [Turn.ended?, told]
          rw [slotAt_of_no_end noEnd]
          exact slot_onReport_of_no_end setup turn.around serial (fun _ _ => Report.noConfusion)
            { controller with outbox := [] }
  | command order =>
      have noEnd : turn.ended? = none := by
        simp [Turn.ended?, told]
      rw [slotAt_of_no_end noEnd]
      exact slot_onCommand setup turn.around order { controller with outbox := [] }
  | timer timer =>
      have noEnd : turn.ended? = none := by
        simp [Turn.ended?, told]
      rw [slotAt_of_no_end noEnd]
      exact slot_onTimer setup turn.around timer { controller with outbox := [] }

/-! ## Whole runs -/

/-- What becomes of connections in a run: the ends that they report and what the controller does. -/
def livesIn (setup : Setup) : List (Turn Payload) → Controller Payload → List Life
  | [], _ => []
  | turn :: rest, controller =>
      turn.ended?.toList.map .ended ++ livesOf (controller.take setup turn).outbox ++
        livesIn setup rest (controller.take setup turn)

theorem livesIn_append
    (setup : Setup) (first second : List (Turn Payload)) (controller : Controller Payload) :
    livesIn setup (first ++ second) controller =
      livesIn setup first controller ++ livesIn setup second (after setup first controller) := by
  induction first generalizing controller with
  | nil =>
      rfl
  | cons turn rest inductionHypothesis =>
      simp only [List.cons_append, livesIn, after, inductionHypothesis, List.append_assoc]

/-- The connections that have come and gone so far are in succession up to the one that is held. -/
def Succeeds (lives : List Life) (controller : Controller Payload) : Prop :=
  InSuccession lives (controller.link.map (·.serial)) controller.serial

theorem Succeeds.turn
    {lives : List Life} {controller : Controller Payload} (setup : Setup) (turn : Turn Payload)
    (succeeds : Succeeds lives controller) :
    Succeeds
      (lives ++ (turn.ended?.toList.map .ended ++ livesOf (controller.take setup turn).outbox))
      (controller.take setup turn) := by
  have told :
      InSuccession (lives ++ turn.ended?.toList.map .ended) (slotAt turn controller).held
        controller.serial := by
    unfold slotAt
    unfold Succeeds at succeeds
    cases ended : turn.ended? with
    | none =>
        cases held : controller.link.map (·.serial) <;>
          simpa [Option.filter, held] using succeeds
    | some last =>
        simpa using succeeds.ended last
  have base :
      InSuccession ((lives ++ turn.ended?.toList.map .ended) ++ (slotAt turn controller).lives)
        (slotAt turn controller).held (slotAt turn controller).serial := by
    rw [show (slotAt turn controller).lives = [] from rfl, List.append_nil]
    exact told
  have taken := base.turns (slot_take setup turn controller)
  rw [List.append_assoc] at taken
  exact taken

theorem Succeeds.run
    {lives : List Life} {controller : Controller Payload} (setup : Setup)
    (turns : List (Turn Payload)) (succeeds : Succeeds lives controller) :
    Succeeds (lives ++ livesIn setup turns controller) (after setup turns controller) := by
  induction turns generalizing lives controller with
  | nil =>
      simpa [livesIn, after] using succeeds
  | cons turn rest inductionHypothesis =>
      have later := inductionHypothesis (succeeds.turn setup turn)
      rwa [List.append_assoc] at later

/-- In every run connections have come one after the other. -/
theorem succeeds_run (setup : Setup) (turns : List (Turn Payload)) :
    Succeeds (livesIn setup turns (.initial setup)) (after setup turns (.initial setup)) := by
  have atFirst : Succeeds [] (initial setup : Controller Payload) := InSuccession.nil
  exact atFirst.run setup turns

/-! ## Former connections -/

/-- The turn is a report of a former connection. -/
def isLate (lives : List Life) (turn : Turn Payload) : Bool :=
  match turn.stimulus with
  | .report serial _ => IsFormer lives serial
  | _ => false

/-- A run without the reports of former connections. -/
def withoutLate (setup : Setup) :
    List Life → List (Turn Payload) → Controller Payload → List (Turn Payload)
  | _, [], _ => []
  | lives, turn :: rest, controller =>
      let later := withoutLate setup
        (lives ++ (turn.ended?.toList.map .ended ++ livesOf (controller.take setup turn).outbox))
        rest (controller.take setup turn)
      if isLate lives turn then later else turn :: later

theorem take_of_other
    {turn : Turn Payload} {controller : Controller Payload} {serial : Nat} {report : Report}
    (setup : Setup) (told : turn.stimulus = .report serial report)
    (other : controller.link.map (·.serial) ≠ some serial) :
    controller.take setup turn = { controller with outbox := [] } := by
  simp only [take, step, told, onReport]
  cases held : controller.link with
  | none =>
      rfl
  | some link =>
      rw [held] at other
      have otherSerial : link.serial ≠ serial := by
        simpa using other
      simp [otherSerial]

/-- A connection that is over is not held any more. -/
theorem Succeeds.not_held
    {lives : List Life} {controller : Controller Payload} {serial : Nat}
    (succeeds : Succeeds lives controller) (isFormer : IsFormer lives serial) :
    controller.link.map (·.serial) ≠ some serial := by
  intro held
  have livesStill := succeeds.living_eq
  rw [held] at livesStill
  exact isFormer.2 (livesStill ▸ List.mem_singleton_self serial)

/-- What is left of the turn before does not matter to the next one. -/
theorem effects_of_outbox
    (setup : Setup) (turns : List (Turn Payload)) (controller : Controller Payload) :
    effects setup turns { controller with outbox := [] } = effects setup turns controller := by
  cases turns <;> rfl

theorem after_of_outbox
    (setup : Setup) (turns : List (Turn Payload)) (controller : Controller Payload) :
    { after setup turns { controller with outbox := [] } with outbox := [] } =
      { after setup turns controller with outbox := [] } := by
  cases turns <;> rfl

/-- Without the reports of former connections a run does the same, and ends the same. -/
theorem withoutLate_spec
    (setup : Setup) (turns : List (Turn Payload)) {lives : List Life}
    {controller : Controller Payload} (succeeds : Succeeds lives controller) :
    effects setup (withoutLate setup lives turns controller) controller =
        effects setup turns controller ∧
      { after setup (withoutLate setup lives turns controller) controller with outbox := [] } =
        { after setup turns controller with outbox := [] } := by
  -- The lives so far go along with the controller, for they tell which reports are late.
  induction turns generalizing lives controller with
  | nil =>
      exact ⟨rfl, rfl⟩
  | cons turn rest inductionHypothesis =>
      obtain ⟨sameEffects, sameAfter⟩ := inductionHypothesis (succeeds.turn setup turn)
      unfold withoutLate
      by_cases late : isLate lives turn = true
      · have ignored : controller.take setup turn = { controller with outbox := [] } := by
          unfold isLate at late
          split at late
          next serial report told =>
            exact take_of_other setup told (succeeds.not_held (of_decide_eq_true late))
          next =>
            cases late
        rw [if_pos late, effects, after]
        rw [ignored] at sameEffects sameAfter ⊢
        rw [effects_of_outbox] at sameEffects
        rw [after_of_outbox] at sameAfter
        exact ⟨sameEffects, sameAfter⟩
      · rw [if_neg late, effects, effects, after, after, sameEffects, sameAfter]
        exact ⟨rfl, rfl⟩

/-- Connections come one after the other, and former ones are dead. -/
structure OneByOne (setup : Setup) (turns : List (Turn Payload)) : Prop where
  /-- Dials are numbered one after the other. -/
  dialled_eq :
    dialled (livesIn setup turns (.initial setup)) =
      List.range' 1 (after setup turns (.initial setup)).serial
  increasing : (dialled (livesIn setup turns (.initial setup))).Pairwise (· < ·)
  /-- The connection that lives is the one that is held. -/
  living_eq :
    living (livesIn setup turns (.initial setup)) =
      ((after setup turns (.initial setup)).link.map (·.serial)).toList
  /-- At no moment do two connections live. -/
  alone :
    ∀ first, first <+: livesIn setup turns (.initial setup) → (living first).length ≤ 1
  /-- No connection lives at the moment of a dial. -/
  vacant :
    ∀ first next, first ++ [.dialled next] <+: livesIn setup turns (.initial setup) →
      living first = []
  /-- Whatever a former connection reports at any later time changes nothing and does nothing. -/
  dead :
    ∀ before between turn rest serial report, turns = before ++ between ++ turn :: rest →
      IsFormer (livesIn setup before (.initial setup)) serial →
      turn.stimulus = .report serial report →
      (after setup (before ++ between) (.initial setup)).take setup turn =
        { after setup (before ++ between) (.initial setup) with outbox := [] }
  /-- Without such reports the run does the same. -/
  effects_eq :
    effects setup (withoutLate setup [] turns (.initial setup)) (.initial setup) =
      effects setup turns (.initial setup)
  /-- Without such reports the run ends the same. -/
  after_eq :
    { after setup (withoutLate setup [] turns (.initial setup)) (.initial setup) with
      outbox := [] } =
      { after setup turns (.initial setup) with outbox := [] }

/-- In every run, whatever is reported by whichever connection and whenever timers fire, connections
come one after the other, and former ones are dead. -/
theorem connections_one_by_one (setup : Setup) (turns : List (Turn Payload)) :
    OneByOne setup turns := by
  have succeeds := succeeds_run setup turns
  have atFirst : Succeeds [] (initial setup : Controller Payload) := InSuccession.nil
  obtain ⟨sameEffects, sameAfter⟩ := withoutLate_spec setup turns atFirst
  constructor
  · exact succeeds.dialled_eq
  · rw [succeeds.dialled_eq]
    exact List.pairwise_lt_range'
  · exact succeeds.living_eq
  · exact succeeds.alone
  · exact succeeds.vacant
  · intro before between turn rest serial report splits isFormer told
    have succeedsThere := succeeds_run setup (before ++ between)
    rw [livesIn_append] at succeedsThere
    exact take_of_other setup told (succeedsThere.not_held (succeedsThere.former_append isFormer))
  · exact sameEffects
  · exact sameAfter

/-- A connection is replaced, and still reports a text and its end. -/
example :
    (withoutLate .standard []
      ([⟨.steady (some "key"), .command (.connect none)⟩,
        ⟨.steady (some "key"), .report 1 .opened⟩,
        ⟨.steady (some "key"), .command .startOver⟩,
        ⟨.steady (some "key"), .report 1 (.text "late")⟩,
        ⟨.steady (some "key"), .report 1 (.closed 1006 "stream ended")⟩,
        ⟨.steady (some "key"), .report 2 .opened⟩] : List (Turn String))
      (.initial .standard)).map Turn.stimulus =
      [.command (.connect none), .report 1 .opened, .command .startOver, .report 2 .opened] := by
  decide

end Controller

end Parley.Connection
