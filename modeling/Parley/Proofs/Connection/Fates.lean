import Parley.Proofs.Connection.Moves
import Parley.Proofs.Connection.Run

/-!
# Fates of payloads

A payload that is to be sent waits until it meets its fate: it is handed over to a connection,
evicted from a full backlog, or discarded as the connection halts. This file says what each handler
does with payloads. A turn deals with them in one of four ways, and in all of them the payloads that
meet a fate are the oldest ones.
-/

namespace Parley.Connection

variable {Payload : Type}

/-! ## Fates -/

inductive Fate where
  | handedOver
  | evicted
  | discarded
deriving DecidableEq, Repr

def Effect.fates : Effect Payload → List (Payload × Fate)
  | .handOver _ payload => [(payload, .handedOver)]
  | .evicted payload => [(payload, .evicted)]
  | .discarded payloads => payloads.map (·, .discarded)
  | _ => []

def fatesOf (effects : List (Effect Payload)) : List (Payload × Fate) :=
  effects.flatMap Effect.fates

def met (fate : Fate) (effects : List (Effect Payload)) : List Payload :=
  ((fatesOf effects).filter (·.2 = fate)).map (·.1)

/-- The payloads that a turn asks to send: one, or none. -/
def Turn.payloads (turn : Turn Payload) : List Payload :=
  match turn.stimulus with
  | .command (.send payload) => [payload]
  | _ => []

/-- The payloads that a run asks to send, in order. -/
def sentIn (turns : List (Turn Payload)) : List Payload :=
  turns.flatMap Turn.payloads

/-- What halts a connection: the user, a refusal, a close code, or too many failed attempts. -/
inductive Turn.Halts (turn : Turn Payload) : Halt → Prop where
  | manual (told : turn.stimulus = .command .disconnect) : Halts turn .manual
  | refused (serial : Nat) (content message : String)
      (told : turn.stimulus = .report serial (.text content))
      (refuses : Wire.Arrival.ofText content = .refusal message) : Halts turn .refused
  | closed (serial code : Nat) (reason : String) (why : Halt)
      (told : turn.stimulus = .report serial (.closed code reason))
      (ends : Aftermath.ofCode code = .halt why) : Halts turn why
  | exhausted : Halts turn .exhausted

@[simp]
theorem fatesOf_nil : fatesOf ([] : List (Effect Payload)) = [] :=
  rfl

@[simp]
theorem fatesOf_cons (effect : Effect Payload) (rest : List (Effect Payload)) :
    fatesOf (effect :: rest) = effect.fates ++ fatesOf rest :=
  List.flatMap_cons

@[simp]
theorem fatesOf_append (first second : List (Effect Payload)) :
    fatesOf (first ++ second) = fatesOf first ++ fatesOf second :=
  List.flatMap_append

theorem fatesOf_eq_nil
    {effects : List (Effect Payload)} (fateless : ∀ effect ∈ effects, effect.fates = []) :
    fatesOf effects = [] :=
  List.flatMap_eq_nil_iff.mpr fateless

namespace Backlog

variable (backlog : Backlog Payload) (item : Payload)

/-- What is evicted and what is kept are together what there was and the new item, in order. -/
theorem push_conserves :
    (backlog.push item).2.toList ++ (backlog.push item).1.items = backlog.items ++ [item] := by
  obtain ⟨items, capacity⟩ := backlog
  unfold push
  split
  · rfl
  · cases items <;> rfl

@[simp]
theorem push_capacity : (backlog.push item).1.capacity = backlog.capacity := by
  unfold push
  split <;> rfl

/-- Only a full backlog evicts, and only its oldest item. -/
theorem push_evicts {oldest : Payload} (evicts : (backlog.push item).2 = some oldest) :
    backlog.capacity ≤ backlog.items.length ∧ backlog.items.head? = some oldest := by
  unfold push at evicts
  split at evicts
  next =>
    cases evicts
  next isFull =>
    exact ⟨Nat.le_of_not_lt isFull, evicts⟩

theorem push_fits
    (fits : backlog.items.length ≤ backlog.capacity) (hasRoom : 0 < backlog.capacity) :
    (backlog.push item).1.items.length ≤ backlog.capacity := by
  unfold push
  split
  next isShort =>
    simp only [List.length_append, List.length_singleton]
    exact isShort
  next =>
    simp only [List.length_append, List.length_drop, List.length_singleton]
    omega

end Backlog

namespace Controller

@[simp]
theorem fatesOf_farewells (code : Nat) (reason : String) (link : Option Link) :
    fatesOf (farewells code reason link : List (Effect Payload)) = [] := by
  cases link with
  | none =>
      rfl
  | some link =>
      rcases link.farewell_cases Payload code reason with ⟨_, is⟩ | ⟨_, is⟩
      · simp [farewells, is, fatesOf, Effect.fates]
      · simp [farewells, is, fatesOf, Effect.fates]

@[simp]
theorem fatesOf_stateNotice (shown state : State) :
    fatesOf (stateNotice shown state : List (Effect Payload)) = [] := by
  unfold stateNotice
  split <;> rfl

@[simp]
theorem fatesOf_downNotice (wasOpen : Bool) :
    fatesOf (downNotice wasOpen : List (Effect Payload)) = [] := by
  cases wasOpen <;> rfl

@[simp]
theorem fatesOf_discardNotice (backlog : Backlog Payload) :
    fatesOf (discardNotice backlog) = backlog.items.map (·, .discarded) := by
  obtain ⟨items, capacity⟩ := backlog
  cases items <;> simp [discardNotice, fatesOf, Effect.fates]

/-! ## Handlers that send nothing -/

/-- No payload moves, unless all that wait are discarded for a cause of a halt; and no connection
comes to be open. -/
structure Spares (Cause : Halt → Prop) (before after : Controller Payload) : Prop where
  opens : ∀ link, after.link = some link → link.isOpen = true → before.link = some link
  backlog :
    (fatesOf after.outbox = fatesOf before.outbox ∧ after.backlog = before.backlog) ∨
      (fatesOf after.outbox = fatesOf before.outbox ++ before.backlog.items.map (·, .discarded) ∧
        after.backlog = before.backlog.clear ∧ ∃ why, Cause why ∧ after.phase = .halted why)

namespace Spares

variable {Cause : Halt → Prop} {first before after : Controller Payload}

theorem weaken
    {Other : Halt → Prop} (spares : Spares Cause before after)
    (implies : ∀ why, Cause why → Other why) : Spares Other before after where
  opens := spares.opens
  backlog := spares.backlog.imp id
    fun ⟨fates, cleared, why, cause, halted⟩ => ⟨fates, cleared, why, implies why cause, halted⟩

/-- What is spared may be changed before in anything but its payloads and the open connection. -/
theorem of_same
    (spares : Spares Cause before after)
    (sameFates : fatesOf before.outbox = fatesOf first.outbox)
    (sameBacklog : before.backlog = first.backlog)
    (opens : ∀ link, before.link = some link → link.isOpen = true → first.link = some link) :
    Spares Cause first after where
  opens link held isOpen := opens link (spares.opens link held isOpen) isOpen
  backlog := by
    rw [← sameFates, ← sameBacklog]
    exact spares.backlog

end Spares

theorem spares_halt (why : Halt) (reason : String) (controller : Controller Payload) :
    Spares (· = why) controller (halt why reason controller) := by
  rw [halt_eq]
  exact ⟨by simp, Or.inr ⟨by simp, rfl, why, rfl, rfl⟩⟩

theorem spares_waitForAttempt
    (setup : Setup) (now : Nat) (immediate : Bool) (controller : Controller Payload) :
    Spares (· = .exhausted) controller (waitForAttempt setup now immediate controller) := by
  cases asked : controller.phase.nextAttempt setup.settings.backoff with
  | suppressed =>
      rw [waitForAttempt_of_suppressed now immediate asked]
      exact ⟨fun _ held _ => held, Or.inl ⟨by simp [Effect.fates], rfl⟩⟩
  | exhausted =>
      rw [waitForAttempt_of_exhausted now immediate asked]
      exact ⟨fun _ held _ => held, Or.inr ⟨by simp, rfl, _, rfl, rfl⟩⟩
  | after attempt delay =>
      rw [waitForAttempt_of_after now immediate asked rfl rfl]
      exact ⟨fun _ held _ => held, Or.inl ⟨by simp, rfl⟩⟩

/-- The end of a connection discards what waits if its code halts, or if too many attempts have
failed. -/
theorem spares_onClosed
    (setup : Setup) (now code : Nat) (wasOpen : Bool) (controller : Controller Payload) :
    Spares (fun why => Aftermath.ofCode code = .halt why ∨ why = .exhausted) controller
      (onClosed setup now code wasOpen controller) := by
  cases ended : Aftermath.ofCode code with
  | halt why =>
      rw [onClosed_of_halt setup now wasOpen controller ended]
      exact ⟨fun _ held _ => held, Or.inr ⟨by simp, rfl, why, Or.inl rfl, rfl⟩⟩
  | retry immediate =>
      rw [onClosed_of_retry setup now wasOpen controller ended]
      exact ((spares_waitForAttempt setup now immediate _).weaken fun _ => Or.inr).of_same
        (by simp) rfl fun _ held _ => held

theorem spares_waitForToken
    (Cause : Halt → Prop) (setup : Setup) (now : Nat) (controller : Controller Payload) :
    Spares Cause controller (waitForToken setup now controller) := by
  rcases waitForToken_cases setup now controller with ⟨_, stays⟩ | ⟨_, begins⟩
  · rw [stays]
    exact ⟨fun _ held _ => held, Or.inl ⟨rfl, rfl⟩⟩
  · rw [begins]
    exact ⟨by simp, Or.inl ⟨by simp, rfl⟩⟩

theorem spares_dial
    (Cause : Halt → Prop) (setup : Setup) (token : String) (controller : Controller Payload) :
    Spares Cause controller (dial setup token controller) := by
  rw [dial_eq]
  refine ⟨?_, Or.inl ⟨?_, rfl⟩⟩
  · rintro link held isOpen
    cases held
    cases isOpen
  · simp [Effect.fates]

theorem spares_connect
    (setup : Setup) (now : Nat) (answer : Option String) (controller : Controller Payload) :
    Spares (· = .exhausted) controller (connect setup now answer controller) := by
  rcases connect_cases setup now answer controller with
    ⟨_, waits⟩ | ⟨token, _, ⟨_, _, dials⟩ | ⟨_, _, _, keeps⟩ | ⟨_, _, _, _, cycles⟩⟩
  · rw [waits]
    exact spares_waitForToken _ setup now controller
  · rw [dials]
    exact (spares_dial _ setup token _).of_same rfl rfl fun _ held _ => held
  · rw [keeps]
    exact ⟨fun _ held _ => held, Or.inl ⟨rfl, rfl⟩⟩
  · rw [cycles, retireWith_eq]
    refine ((spares_onClosed setup now Wire.CloseCode.tokenChanged true _).weaken ?_).of_same
      ?_ rfl ?_
    · rintro why (ends | exhausted)
      · cases ends
      · exact exhausted
    · simp
    · simp

theorem spares_onText
    (setup : Setup) (around : Surroundings) (content : String) (controller : Controller Payload) :
    Spares
      (fun why => why = .refused ∧ ∃ message, Wire.Arrival.ofText content = .refusal message)
      controller (onText setup around content controller) := by
  rcases onText_cases setup around content controller with
    ⟨message, refusal, refuses⟩ | ⟨session, spoken, speaks, converses⟩
  · have halts :
        Spares
          (fun why => why = .refused ∧ ∃ message, Wire.Arrival.ofText content = .refusal message)
          controller (halt .refused "auth failure" controller) :=
      (spares_halt .refused "auth failure" controller).weaken
        fun why same => ⟨same, message, refusal⟩
    rw [refuses]
    exact ⟨halts.opens, halts.backlog⟩
  · have fateless : fatesOf spoken = [] :=
      fatesOf_eq_nil fun effect member => by
        have speaks := converses effect member
        cases effect <;> simp_all [Effect.converses, Effect.fates]
    rw [speaks]
    exact ⟨fun _ held _ => held, Or.inl ⟨by simp [fateless], rfl⟩⟩

theorem spares_onTimer
    (setup : Setup) (around : Surroundings) (timer : Timer) (controller : Controller Payload) :
    Spares (· = .exhausted) controller (onTimer setup around timer controller) := by
  cases timer with
  | reconnect =>
      exact (spares_connect setup around.now (around.answers 0) _).of_same rfl rfl
        fun _ held _ => held
  | countdown =>
      rcases onCountdown_cases controller with ⟨attempt, seconds, _, beats⟩ | ⟨_, stops⟩
      · rw [onTimer, beats, publishState_eq]
        exact ⟨fun _ held _ => held, Or.inl ⟨by simp, rfl⟩⟩
      · rw [onTimer, stops]
        exact ⟨fun _ held _ => held, Or.inl ⟨rfl, rfl⟩⟩
  | tokenLook =>
      rw [onTimer, onTokenLook]
      split
      · exact (spares_connect setup around.now (around.answers 1) _).of_same rfl rfl
          fun _ held _ => held
      · exact ⟨fun _ held _ => held, Or.inl ⟨rfl, rfl⟩⟩
  | refusalNotice =>
      have told (untold : Option String) :
          fatesOf (untold.map (.refusal : String → Effect Payload)).toList = [] := by
        cases untold <;> rfl
      rw [onTimer, onRefusalNotice_eq]
      exact ⟨fun _ held _ => held, Or.inl ⟨by simp [told], rfl⟩⟩

/-! ## Handlers that send -/

theorem fatesOf_enqueue (payload : Payload) (controller : Controller Payload) :
    fatesOf (enqueue payload controller).outbox =
      fatesOf controller.outbox ++
        ((controller.backlog.push payload).2.map (·, Fate.evicted)).toList := by
  rw [enqueue_eq]
  cases (controller.backlog.push payload).2 <;> simp [Effect.fates]

/-- Payloads for which there is room go into the backlog, and none is evicted. -/
theorem enqueueAll_of_room
    (payloads : List Payload) (controller : Controller Payload)
    (hasRoom :
      controller.backlog.items.length + payloads.length ≤ controller.backlog.capacity) :
    payloads.foldl (fun controller payload => enqueue payload controller) controller =
      { controller with
        backlog := { controller.backlog with items := controller.backlog.items ++ payloads } } := by
  induction payloads generalizing controller with
  | nil =>
      simp
  | cons payload rest inductionHypothesis =>
      rw [List.length_cons] at hasRoom
      have roomNow : controller.backlog.items.length < controller.backlog.capacity := by omega
      have first :
          enqueue payload controller =
            { controller with
              backlog :=
                { controller.backlog with items := controller.backlog.items ++ [payload] } } := by
        rw [enqueue_eq]
        simp [Backlog.push, roomNow]
      rw [List.foldl_cons, first, inductionHypothesis]
      · simp
      · simp only [List.length_append, List.length_singleton]
        omega

/-- Payloads are handed over up to the first that the channel does not take. That one and those
behind it go into the backlog, if there is room for them. -/
theorem handOver_splits
    (accepts : Nat → Bool) (serial place : Nat) (payloads : List Payload)
    (controller : Controller Payload)
    (hasRoom :
      controller.backlog.items.length + payloads.length ≤ controller.backlog.capacity) :
    ∃ count, (count < payloads.length → accepts (place + count) = false) ∧
      handOver accepts serial place payloads controller =
        { controller with
          backlog :=
            { controller.backlog with
              items := controller.backlog.items ++ payloads.drop count }
          outbox := controller.outbox ++ (payloads.take count).map (.handOver serial) } := by
  -- `place` goes up with every payload that is taken, and so must the count that is found.
  induction payloads generalizing place controller with
  | nil =>
      exact ⟨0, by simp, by simp [handOver]⟩
  | cons payload rest inductionHypothesis =>
      rw [List.length_cons] at hasRoom
      by_cases accepted : accepts place = true
      · have roomStill :
            (emit (.handOver serial payload) controller).backlog.items.length + rest.length ≤
              (emit (.handOver serial payload) controller).backlog.capacity :=
          Nat.le_of_succ_le hasRoom
        obtain ⟨count, refused, later⟩ :=
          inductionHypothesis (place + 1) (emit (.handOver serial payload) controller) roomStill
        refine ⟨count + 1, ?_, ?_⟩
        · intro isShort
          have refusedThere := refused (Nat.lt_of_succ_lt_succ isShort)
          rwa [Nat.add_assoc, Nat.add_comm 1 count] at refusedThere
        · rw [handOver, if_pos accepted, later]
          simp [emit]
      · refine ⟨0, fun _ => by simpa using accepted, ?_⟩
        rw [handOver, if_neg accepted, enqueueAll_of_room (payload :: rest) controller hasRoom]
        simp

/-- A flush sends what waits, up to the first payload that the channel does not take. -/
theorem flush_splits
    (accepts : Nat → Bool) {controller : Controller Payload} {link : Link}
    (held : controller.link = some link) (linkOpen : link.isOpen = true)
    (fits : controller.backlog.items.length ≤ controller.backlog.capacity) :
    ∃ count, (count < controller.backlog.items.length → accepts count = false) ∧
      flush accepts controller =
        { controller with
          backlog := { controller.backlog with items := controller.backlog.items.drop count }
          outbox := controller.outbox ++
            (controller.backlog.items.take count).map (.handOver link.serial) } := by
  have hasRoom :
      controller.backlog.clear.items.length + controller.backlog.items.length ≤
        controller.backlog.clear.capacity := by
    simpa [Backlog.clear] using fits
  obtain ⟨count, refused, splits⟩ :=
    handOver_splits accepts link.serial 0 controller.backlog.items
      { controller with backlog := controller.backlog.clear } hasRoom
  have flushes :
      flush accepts controller =
        handOver accepts link.serial 0 controller.backlog.items
          { controller with backlog := controller.backlog.clear } := by
    simp [flush, held, Option.filter, linkOpen, Backlog.drain]
  refine ⟨count, by simpa using refused, ?_⟩
  rw [flushes, splits]
  simp [Backlog.clear]

/-! ## Turns -/

inductive Deals (turn : Turn Payload) (before after : Controller Payload) : Prop where
  /-- No payload moves, or all that wait are discarded with a halt. -/
  | spared (asksNone : turn.payloads = [])
      (spares : Spares turn.Halts { before with outbox := [] } after)
  /-- The channel of the open connection takes the payload. -/
  | handed (link : Link) (payload : Payload) (told : turn.stimulus = .command (.send payload))
      (held : before.link = some link) (isOpen : link.isOpen = true)
      (accepted : turn.around.accepts 0 = true)
      (is : after = { before with outbox := [.handOver link.serial payload] })
  /-- There is no channel that takes the payload, and it waits. -/
  | queued (payload : Payload) (told : turn.stimulus = .command (.send payload))
      (unaccepted : before.isOpen = true → turn.around.accepts 0 = false)
      (is : after = enqueue payload { before with outbox := [] })
  /-- A connection opens and takes what waits, up to the first payload that it does not take. -/
  | flushed (link : Link) (count : Nat) (asksNone : turn.payloads = [])
      (held : before.link = some link)
      (refused : count < before.backlog.items.length → turn.around.accepts count = false)
      (opens : after.link = some { link with isOpen := true })
      (fates : fatesOf after.outbox =
        (before.backlog.items.take count).map (·, .handedOver))
      (backlog : after.backlog =
        { before.backlog with items := before.backlog.items.drop count })

theorem fatesOf_handOvers (serial : Nat) (payloads : List Payload) :
    fatesOf (payloads.map (.handOver serial)) = payloads.map (·, .handedOver) := by
  induction payloads with
  | nil =>
      rfl
  | cons payload rest inductionHypothesis =>
      rw [List.map_cons, fatesOf_cons, inductionHypothesis]
      rfl

theorem deals_send
    {turn : Turn Payload} {payload : Payload} (told : turn.stimulus = .command (.send payload))
    (controller : Controller Payload) :
    Deals turn controller (send turn.around.accepts payload { controller with outbox := [] }) := by
  rcases send_cases turn.around.accepts payload { controller with outbox := [] } with
    ⟨link, held, isOpen, sends⟩ | ⟨notOpen, waits⟩
  · rw [sends]
    by_cases accepted : turn.around.accepts 0 = true
    · rw [handOver, if_pos accepted]
      exact .handed link payload told held isOpen accepted rfl
    · rw [handOver, if_neg accepted]
      exact .queued payload told (fun _ => by simpa using accepted) rfl
  · rw [waits]
    exact .queued payload told (fun isOpen => absurd (notOpen.symm.trans isOpen) Bool.false_ne_true)
      rfl

theorem deals_onOpened
    {turn : Turn Payload} {controller : Controller Payload} {link : Link}
    (asksNone : turn.payloads = []) (held : controller.link = some link)
    (fits : controller.backlog.items.length ≤ controller.backlog.capacity) :
    Deals turn controller (onOpened turn.around.accepts { controller with outbox := [] }) := by
  obtain ⟨opened, is⟩ :
      ∃ opened : Controller Payload, opened =
        { controller with
          link := some { link with isOpen := true }
          hasOpened := true
          phase := .opened
          timers := controller.timers.forgetRetry
          state := .connected
          status := ⟨true, controller.hasOpened⟩
          outbox := stateNotice controller.state .connected ++
            [.status ⟨true, controller.hasOpened⟩] } :=
    ⟨_, rfl⟩
  have opens :
      onOpened turn.around.accepts { controller with outbox := [] } =
        flush turn.around.accepts opened := by
    rw [onOpened_eq, is]
    simp [held]
  have openedLink : opened.link = some { link with isOpen := true } := by
    rw [is]
  have sameBacklog : opened.backlog = controller.backlog := by
    rw [is]
  have fateless : fatesOf opened.outbox = [] := by
    simp [is, Effect.fates]
  obtain ⟨count, refused, splits⟩ :=
    flush_splits turn.around.accepts openedLink rfl (by rw [sameBacklog]; exact fits)
  rw [sameBacklog] at refused splits
  rw [opens, splits]
  refine .flushed link count asksNone held refused openedLink ?_ rfl
  rw [fatesOf_append, fateless, fatesOf_handOvers]
  rfl

theorem deals_onReport
    {turn : Turn Payload} {controller : Controller Payload} {serial : Nat} {report : Report}
    (setup : Setup) (told : turn.stimulus = .report serial report)
    (fits : controller.backlog.items.length ≤ controller.backlog.capacity) :
    Deals turn controller
      (onReport setup turn.around serial report { controller with outbox := [] }) := by
  have asksNone : turn.payloads = [] := by
    simp [Turn.payloads, told]
  unfold onReport
  split
  next =>
    exact .spared asksNone ⟨fun _ held _ => held, Or.inl ⟨rfl, rfl⟩⟩
  next link held =>
    split
    · exact .spared asksNone ⟨fun _ held _ => held, Or.inl ⟨rfl, rfl⟩⟩
    · cases report with
      | opened =>
          exact deals_onOpened asksNone held fits
      | text content =>
          refine .spared asksNone ((spares_onText setup turn.around content _).weaken ?_)
          rintro why ⟨rfl, message, refuses⟩
          exact .refused serial content message told refuses
      | failed cause =>
          simp only [publishState_eq]
          exact .spared asksNone ⟨fun _ held _ => held, Or.inl ⟨by simp, rfl⟩⟩
      | closed code reason =>
          refine .spared asksNone (((spares_onClosed setup turn.around.now code link.isOpen
            { controller with link := none, outbox := [] }).weaken ?_).of_same rfl rfl (by simp))
          rintro why (ends | rfl)
          · exact .closed serial code reason why told ends
          · exact .exhausted

theorem deals_onCommand
    {turn : Turn Payload} {order : Order Payload}
    (setup : Setup) (told : turn.stimulus = .command order) (controller : Controller Payload) :
    Deals turn controller (onCommand setup turn.around order { controller with outbox := [] }) := by
  cases order with
  | connect session =>
      have asksNone : turn.payloads = [] := by
        simp [Turn.payloads, told]
      refine .spared asksNone ?_
      cases session with
      | none =>
          exact (spares_connect setup turn.around.now (turn.around.answers 0) _).weaken
            fun _ same => same ▸ .exhausted
      | some session =>
          exact ((spares_connect setup turn.around.now (turn.around.answers 0) _).weaken
            fun _ same => same ▸ .exhausted).of_same rfl rfl fun _ held _ => held
  | send payload =>
      exact deals_send told controller
  | disconnect =>
      have asksNone : turn.payloads = [] := by
        simp [Turn.payloads, told]
      exact .spared asksNone ((spares_halt .manual "client disconnect" _).weaken
        fun _ same => same ▸ .manual told)
  | startOver =>
      have asksNone : turn.payloads = [] := by
        simp [Turn.payloads, told]
      rw [onCommand, startOver_eq]
      have connects :
          Spares turn.Halts (restarted { controller with outbox := [] })
            (connect setup turn.around.now (turn.around.answers 0)
              (restarted { controller with outbox := [] })) :=
        (spares_connect setup turn.around.now (turn.around.answers 0) _).weaken
          fun _ same => same ▸ .exhausted
      exact .spared asksNone (connects.of_same (by simp [restarted]) rfl (by simp [restarted]))

/-- Every turn deals with payloads in one of the four ways. -/
theorem deals_take
    (setup : Setup) (turn : Turn Payload) {controller : Controller Payload}
    (fits : controller.backlog.items.length ≤ controller.backlog.capacity) :
    Deals turn controller (controller.take setup turn) := by
  unfold take step
  cases told : turn.stimulus with
  | command order =>
      exact deals_onCommand setup told controller
  | report serial report =>
      exact deals_onReport setup told fits
  | timer timer =>
      have asksNone : turn.payloads = [] := by
        simp [Turn.payloads, told]
      exact .spared asksNone ((spares_onTimer setup turn.around timer _).weaken
        fun _ same => same ▸ .exhausted)

namespace Deals

variable {turn : Turn Payload} {before after : Controller Payload}

/-- Payloads that meet a fate in a turn are the oldest that wait, so that what meets a fate and what
still waits are together what waited and was to be sent, in order. -/
theorem conserves
    (deals : Deals turn before after)
    (waitsNot : before.isOpen = true → turn.around.accepts 0 = true → before.backlog.items = []) :
    (fatesOf after.outbox).map (·.1) ++ after.backlog.items =
      before.backlog.items ++ turn.payloads := by
  cases deals with
  | spared asksNone spares =>
      rcases spares.backlog with ⟨fates, kept⟩ | ⟨fates, cleared, _⟩
      · simp [fates, kept, asksNone]
      · simp [fates, cleared, asksNone, Backlog.clear, Function.comp_def]
  | handed link payload told held isOpen accepted is =>
      -- The payload goes past the backlog, so that there must be nothing to overtake.
      have empty : before.backlog.items = [] :=
        waitsNot (by simp [Controller.isOpen, held, isOpen]) accepted
      simp [is, empty, Effect.fates, Turn.payloads, told]
  | queued payload told unaccepted is =>
      have conserved := before.backlog.push_conserves payload
      rw [is, fatesOf_enqueue, enqueue_eq]
      simpa [Turn.payloads, told, Function.comp_def, ← Option.toList_map] using conserved
  | flushed link count asksNone held refused opens fates backlog =>
      simp [fates, backlog, asksNone, Function.comp_def]

theorem capacity_eq (deals : Deals turn before after) :
    after.backlog.capacity = before.backlog.capacity := by
  cases deals with
  | spared asksNone spares =>
      rcases spares.backlog with ⟨_, kept⟩ | ⟨_, cleared, _⟩
      · rw [kept]
      · rw [cleared]
        rfl
  | handed link payload told held isOpen accepted is =>
      rw [is]
  | queued payload told unaccepted is =>
      rw [is, enqueue_eq]
      exact before.backlog.push_capacity payload
  | flushed link count asksNone held refused opens fates backlog =>
      rw [backlog]

theorem fits
    (deals : Deals turn before after)
    (fitsBefore : before.backlog.items.length ≤ before.backlog.capacity)
    (hasRoom : 0 < before.backlog.capacity) :
    after.backlog.items.length ≤ after.backlog.capacity := by
  rw [deals.capacity_eq]
  cases deals with
  | spared asksNone spares =>
      rcases spares.backlog with ⟨_, kept⟩ | ⟨_, cleared, _⟩
      · rw [kept]
        exact fitsBefore
      · rw [cleared]
        exact Nat.zero_le _
  | handed link payload told held isOpen accepted is =>
      rw [is]
      exact fitsBefore
  | queued payload told unaccepted is =>
      rw [is, enqueue_eq]
      exact before.backlog.push_fits payload fitsBefore hasRoom
  | flushed link count asksNone held refused opens fates backlog =>
      rw [backlog]
      exact Nat.le_trans (List.drop_sublist count _).length_le fitsBefore

/-- Only a further payload evicts one, the oldest of a full backlog. -/
theorem evicts_oldest
    (deals : Deals turn before after) {payload : Payload}
    (evicted : (payload, .evicted) ∈ fatesOf after.outbox) :
    (∃ newest, turn.stimulus = .command (.send newest)) ∧
      before.backlog.capacity ≤ before.backlog.items.length ∧
      before.backlog.items.head? = some payload := by
  cases deals with
  | spared asksNone spares =>
      rcases spares.backlog with ⟨fates, _⟩ | ⟨fates, _⟩
      · simp [fates] at evicted
      · simp [fates] at evicted
  | handed link newest told held isOpen accepted is =>
      simp [is, Effect.fates] at evicted
  | queued newest told unaccepted is =>
      rw [is, fatesOf_enqueue] at evicted
      have oldest : (before.backlog.push newest).2 = some payload := by
        simpa using evicted
      exact ⟨⟨newest, told⟩, before.backlog.push_evicts newest oldest⟩
  | flushed link count asksNone held refused opens fates backlog =>
      rw [fates] at evicted
      obtain ⟨_, _, same⟩ := List.mem_map.mp evicted
      cases same

/-- Payloads are only discarded in a turn that ends in a halt. -/
theorem discards_with_halt
    (deals : Deals turn before after) {payload : Payload}
    (discarded : (payload, .discarded) ∈ fatesOf after.outbox) :
    payload ∈ before.backlog.items ∧ ∃ why, turn.Halts why ∧ after.phase = .halted why := by
  cases deals with
  | spared asksNone spares =>
      rcases spares.backlog with ⟨fates, _⟩ | ⟨fates, _, halted⟩
      · simp [fates] at discarded
      · refine ⟨?_, halted⟩
        simpa [fates] using discarded
  | handed link newest told held isOpen accepted is =>
      simp [is, Effect.fates] at discarded
  | queued newest told unaccepted is =>
      rw [is, fatesOf_enqueue] at discarded
      simp at discarded
  | flushed link count asksNone held refused opens fates backlog =>
      rw [fates] at discarded
      obtain ⟨_, _, same⟩ := List.mem_map.mp discarded
      cases same

/-- If payloads wait although there is an open connection, then they did so before, or the channel
of that connection did not take one in this turn. -/
theorem waits_open
    (deals : Deals turn before after) {link : Link}
    (held : after.link = some link) (isOpen : link.isOpen = true)
    (waits : after.backlog.items ≠ []) :
    ∃ heldBefore, before.link = some heldBefore ∧ heldBefore.serial = link.serial ∧
      ((heldBefore.isOpen = true ∧ before.backlog.items ≠ []) ∨
        ∃ place, turn.around.accepts place = false) := by
  cases deals with
  | spared asksNone spares =>
      rcases spares.backlog with ⟨_, kept⟩ | ⟨_, cleared, _⟩
      · rw [kept] at waits
        exact ⟨link, spares.opens link held isOpen, rfl, Or.inl ⟨isOpen, waits⟩⟩
      · rw [cleared] at waits
        exact absurd rfl waits
  | handed heldBefore payload told isHeld wasOpen accepted is =>
      rw [is] at held waits
      exact ⟨link, held, rfl, Or.inl ⟨isOpen, waits⟩⟩
  | queued payload told unaccepted is =>
      rw [is, enqueue_eq] at held
      have wasOpen : before.isOpen = true := by
        simp [Controller.isOpen, show before.link = some link from held, isOpen]
      exact ⟨link, held, rfl, Or.inr ⟨0, unaccepted wasOpen⟩⟩
  | flushed heldBefore count asksNone isHeld refused opens fates backlog =>
      have isShort : count < before.backlog.items.length := by
        rw [backlog] at waits
        simpa using waits
      have same : { heldBefore with isOpen := true } = link :=
        Option.some.inj (opens.symm.trans held)
      exact ⟨heldBefore, isHeld, by rw [← same], Or.inr ⟨count, refused isShort⟩⟩

end Deals

end Controller

end Parley.Connection
