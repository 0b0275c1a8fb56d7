import Parley.Proofs.Connection.Course

/-!
# The alternation of statuses

The status says that a connection has opened, or that an open one is gone. The main statement is
that these two alternate along every run in which no connection opens twice, each of them with its
cause, and that every opening but the first is called a renewal, whatever lies in between.
-/

namespace Parley.Connection

variable {Payload : Type}

/-! ## Changes -/

/-- What is shown where the connection was open or not, and is so or not. -/
def Status.ofChange (wasOpen isOpen isRenewal : Bool) : List Status :=
  if wasOpen = isOpen then []
  else if isOpen then [⟨true, isRenewal⟩]
  else [.down]

/-- The status at a place in an alternation that begins with a connection. -/
def Status.nth (place : Nat) : Status :=
  if place % 2 = 0 then ⟨true, place ≠ 0⟩ else .down

inductive Turn.GivesUp (turn : Turn Payload) (before : Controller Payload) : Prop where
  | ended (code : Nat) (reason : String)
      (heard : turn.heard? before = some (.closed code reason))
  | refused (content message : String)
      (heard : turn.heard? before = some (.text content))
      (refuses : Wire.Arrival.ofText content = .refusal message)
  | tokenChanged (session : Option String) (link : Link) (token : String)
      (told : turn.stimulus = .command (.connect session))
      (held : before.link = some link) (answered : turn.around.answers 0 = some token)
      (changed : link.token ≠ token)
  | tokenGone (session : Option String) (told : turn.stimulus = .command (.connect session))
      (lacks : turn.around.answers 0 = none)
  | disconnected (told : turn.stimulus = .command .disconnect)
  | startedOver (told : turn.stimulus = .command .startOver)

def Turn.opening? (turn : Turn Payload) : Option Nat :=
  match turn.stimulus with
  | .report serial .opened => some serial
  | _ => none

/-- No connection reports twice that it has opened. -/
def OpensOnce (turns : List (Turn Payload)) : Prop :=
  (turns.filterMap Turn.opening?).Nodup

instance (turns : List (Turn Payload)) : Decidable (OpensOnce turns) :=
  inferInstanceAs (Decidable (List.Nodup _))

theorem Turn.Stops.givesUp
    {turn : Turn Payload} {before : Controller Payload} {why : Halt}
    (stops : turn.Stops before why) : turn.GivesUp before := by
  cases stops with
  | manual told =>
      exact .disconnected told
  | refused content message heard refuses =>
      exact .refused content message heard refuses
  | closed code reason why heard ends =>
      exact .ended code reason heard

theorem Turn.Loses.givesUp
    {turn : Turn Payload} {before : Controller Payload} {immediate : Bool}
    (loses : turn.Loses before immediate) : turn.GivesUp before := by
  cases loses with
  | closed code reason immediate heard ends =>
      exact .ended code reason heard
  | tokenChanged session link token told held linkOpen answered changed =>
      exact .tokenChanged session link token told held answered changed

theorem Turn.opening?_of_heard
    {turn : Turn Payload} {before : Controller Payload} {link : Link}
    (heard : turn.heard? before = some .opened) (held : before.link = some link) :
    turn.opening? = some link.serial := by
  obtain ⟨serial, heldLink, told, isHeld, same⟩ := Controller.heard?_eq_some_iff.mp heard
  rw [held] at isHeld
  cases isHeld
  simp [opening?, told, same]

/-- An open connection comes with its phase, and without a timer that could ask for a token. -/
theorem Controller.Provisioned.opened
    {controller : Controller Payload} (provisioned : controller.Provisioned)
    (isOpen : controller.isOpen = true) :
    controller.phase = .opened ∧ controller.timers.tokenLook = none ∧
      controller.timers.reconnect = none := by
  obtain ⟨link, held, linkOpen⟩ : ∃ link, controller.link = some link ∧ link.isOpen = true := by
    simpa [Controller.isOpen, Option.any_eq_true] using isOpen
  have phase : controller.phase = .opened :=
    provisioned.coherent.open_iff.mp ⟨link, held, linkOpen⟩
  unfold Provisioned at provisioned
  rw [phase] at provisioned
  exact ⟨phase, provisioned.2.1, provisioned.2.2.1⟩

/-! ## One turn -/

namespace Course

variable {setup : Setup} {turn : Turn Payload} {before after : Controller Payload}

/-- The status is shown exactly as the connection opens and as an open one goes. -/
theorem statuses_eq
    (course : Course setup turn before after)
    (once : turn.heard? before = some .opened → before.isOpen = false)
    (known : before.isOpen = true → before.hasOpened = true) :
    statusesOf after.outbox =
        Status.ofChange before.isOpen after.isOpen before.hasOpened ∧
      after.hasOpened = (before.hasOpened || after.isOpen) := by
  have stays (isOpen : after.isOpen = before.isOpen)
      (hasOpened : after.hasOpened = before.hasOpened) (statuses : statusesOf after.outbox = []) :
      statusesOf after.outbox =
          Status.ofChange before.isOpen after.isOpen before.hasOpened ∧
        after.hasOpened = (before.hasOpened || after.isOpen) := by
    rw [isOpen, hasOpened, statuses]
    refine ⟨(if_pos rfl).symm, ?_⟩
    cases wasOpen : before.isOpen with
    | false =>
        exact (Bool.or_false _).symm
    | true =>
        rw [known wasOpen]
        rfl
  have goes (isOpen : after.isOpen = false)
      (hasOpened : after.hasOpened = before.hasOpened)
      (statuses : statusesOf after.outbox = if before.isOpen then [.down] else []) :
      statusesOf after.outbox =
          Status.ofChange before.isOpen after.isOpen before.hasOpened ∧
        after.hasOpened = (before.hasOpened || after.isOpen) := by
    rw [isOpen, hasOpened, statuses, Bool.or_false]
    refine ⟨?_, rfl⟩
    cases before.isOpen with
    | false =>
        rfl
    | true =>
        rfl
  cases course with
  | keeps noSign notDue is =>
      exact stays (congrArg Stance.isOpen is) (congrArg Stance.hasOpened is)
        (congrArg Stance.statuses is)
  | fades attempts reconnect countdown noSign dialling less told is =>
      exact stays (congrArg Stance.isOpen is) (congrArg Stance.hasOpened is)
        (congrArg Stance.statuses is)
  | counts attempt seconds backingOff told is =>
      exact stays (congrArg Stance.isOpen is) (congrArg Stance.hasOpened is)
        (congrArg Stance.statuses is)
  | faults link cause held sign is =>
      exact stays (congrArg Stance.isOpen is) (congrArg Stance.hasOpened is)
        (congrArg Stance.statuses is)
  | opens link held sign is =>
      have wasShut : before.isOpen = false :=
        once (Controller.sign?_eq_some_iff.mp sign).1
      have isOpen : after.isOpen = true := congrArg Stance.isOpen is
      have hasOpened : after.hasOpened = true := congrArg Stance.hasOpened is
      have statuses : statusesOf after.outbox = [⟨true, before.hasOpened⟩] :=
        congrArg Stance.statuses is
      rw [wasShut, isOpen, hasOpened, statuses, Bool.or_true]
      exact ⟨rfl, rfl⟩
  | stops why cause is emptied =>
      exact goes (congrArg Stance.isOpen is) (congrArg Stance.hasOpened is)
        (congrArg Stance.statuses is)
  | exhausts immediate cause spent is emptied =>
      exact goes (congrArg Stance.isOpen is) (congrArg Stance.hasOpened is)
        (congrArg Stance.statuses is)
  | backsOff immediate cause unspent is =>
      exact goes (congrArg Stance.isOpen is) (congrArg Stance.hasOpened is)
        (congrArg Stance.statuses is)
  | awaits place asks lacks is =>
      exact goes (congrArg Stance.isOpen is) (congrArg Stance.hasOpened is)
        (congrArg Stance.statuses is)
  | restarts token told answered is =>
      exact goes (congrArg Stance.isOpen is) (congrArg Stance.hasOpened is)
        (congrArg Stance.statuses is)
  | dials token place asks answered notOpen reconnect countdown less due is =>
      have isOpen : after.isOpen = false := congrArg Stance.isOpen is
      exact stays (isOpen.trans notOpen.symm) (congrArg Stance.hasOpened is)
        (congrArg Stance.statuses is)

/-- The connection stays, opens, is gone, or is dialled anew. -/
theorem link_cases (course : Course setup turn before after) :
    after.link = before.link ∨
      (∃ link, before.link = some link ∧ turn.heard? before = some .opened ∧
        after.link = some { link with isOpen := true }) ∨
      after.link = none ∨
      ∃ token, after.link = some ⟨before.serial + 1, token, false⟩ := by
  cases course with
  | keeps noSign notDue is =>
      exact Or.inl (congrArg Stance.link is)
  | fades attempts reconnect countdown noSign dialling less told is =>
      exact Or.inl (congrArg Stance.link is)
  | counts attempt seconds backingOff told is =>
      exact Or.inl (congrArg Stance.link is)
  | faults link cause held sign is =>
      exact Or.inl (congrArg Stance.link is)
  | opens link held sign is =>
      have heard : turn.heard? before = some .opened :=
        (Controller.sign?_eq_some_iff.mp sign).1
      exact Or.inr (Or.inl ⟨link, held, heard, congrArg Stance.link is⟩)
  | stops why cause is emptied =>
      exact Or.inr (Or.inr (Or.inl (congrArg Stance.link is)))
  | exhausts immediate cause spent is emptied =>
      exact Or.inr (Or.inr (Or.inl (congrArg Stance.link is)))
  | backsOff immediate cause unspent is =>
      exact Or.inr (Or.inr (Or.inl (congrArg Stance.link is)))
  | awaits place asks lacks is =>
      exact Or.inr (Or.inr (Or.inl (congrArg Stance.link is)))
  | dials token place asks answered notOpen reconnect countdown less due is =>
      exact Or.inr (Or.inr (Or.inr ⟨token, congrArg Stance.link is⟩))
  | restarts token told answered is =>
      exact Or.inr (Or.inr (Or.inr ⟨token, congrArg Stance.link is⟩))

/-- A connection that is open was so before, or has just reported that it opened. -/
theorem opened_cases
    (course : Course setup turn before after) {link : Link}
    (held : after.link = some link) (linkOpen : link.isOpen = true) :
    before.link = some link ∨ turn.opening? = some link.serial := by
  rcases course.link_cases with
    same | ⟨dialled, heldBefore, heard, opened⟩ | vacant | ⟨token, dialled⟩
  · rw [same] at held
    exact Or.inl held
  · rw [opened] at held
    cases held
    have opening : turn.opening? = some dialled.serial :=
      Turn.opening?_of_heard heard heldBefore
    exact Or.inr opening
  · rw [vacant] at held
    cases held
  · rw [dialled] at held
    cases held
    cases linkOpen

/-- A controller has an open connection only as it hears that it opened. -/
theorem heard_of_opened
    (course : Course setup turn before after)
    (wasShut : before.isOpen = false) (isOpen : after.isOpen = true) :
    turn.heard? before = some .opened := by
  unfold Controller.isOpen at wasShut isOpen
  rcases course.link_cases with
    same | ⟨dialled, heldBefore, heard, opened⟩ | vacant | ⟨token, dialled⟩
  · rw [same, wasShut] at isOpen
    cases isOpen
  · exact heard
  · rw [vacant] at isOpen
    cases isOpen
  · rw [dialled] at isOpen
    cases isOpen

/-- An open connection goes only as it is given up. -/
theorem givesUp_of_gone
    (course : Course setup turn before after) (provisioned : before.Provisioned)
    (can : before.canTake turn.stimulus = true)
    (wasOpen : before.isOpen = true) (gone : after.isOpen = false) :
    turn.GivesUp before := by
  have stays (isOpen : after.isOpen = before.isOpen) : turn.GivesUp before := by
    rw [isOpen, wasOpen] at gone
    cases gone
  cases course with
  | keeps noSign notDue is =>
      exact stays (congrArg Stance.isOpen is)
  | fades attempts reconnect countdown noSign dialling less told is =>
      exact stays (congrArg Stance.isOpen is)
  | counts attempt seconds backingOff told is =>
      exact stays (congrArg Stance.isOpen is)
  | faults link cause held sign is =>
      exact stays (congrArg Stance.isOpen is)
  | opens link held sign is =>
      have isOpen : after.isOpen = true := congrArg Stance.isOpen is
      rw [isOpen] at gone
      cases gone
  | stops why cause is emptied =>
      exact cause.givesUp
  | exhausts immediate cause spent is emptied =>
      exact cause.givesUp
  | backsOff immediate cause unspent is =>
      exact cause.givesUp
  | awaits place asks lacks is =>
      -- An open connection has no timer that could ask for a token.
      obtain ⟨_, noLook, noReconnect⟩ := provisioned.opened wasOpen
      cases asks with
      | connect session told =>
          exact .tokenGone session told lacks
      | startOver told =>
          exact .startedOver told
      | reconnect told =>
          simp [told, Controller.canTake, Schedule.due?, noReconnect] at can
      | tokenLook told =>
          simp [told, Controller.canTake, Schedule.due?, noLook] at can
  | dials token place asks answered notOpen reconnect countdown less due is =>
      rw [notOpen] at wasOpen
      cases wasOpen
  | restarts token told answered is =>
      exact .startedOver told

end Course

namespace Controller

section Turns

variable {setup : Setup} {turn : Turn Payload} {before : Controller Payload}

theorem isOpen_of_opened (setup : Setup) (heard : turn.heard? before = some .opened) :
    (before.take setup turn).isOpen = true := by
  obtain ⟨serial, link, told, held, same⟩ := heard?_eq_some_iff.mp heard
  obtain ⟨backlog, moved, opens, _⟩ :=
    onOpened_frame turn.around.accepts { before with outbox := [] }
  rw [take_of_opened setup heard, opens]
  simp [isOpen, held]

/-- An open connection that is given up is gone, even if another one is dialled at once. -/
theorem gone_of_givesUp
    (setup : Setup) (provisioned : before.Provisioned) (wasOpen : before.isOpen = true)
    (givesUp : turn.GivesUp before) :
    (before.take setup turn).isOpen = false := by
  obtain ⟨opened, _, _⟩ := provisioned.opened wasOpen
  cases givesUp with
  | ended code reason heard =>
      obtain ⟨link, _, closes⟩ := take_of_closed setup heard
      obtain ⟨state, phase, timers, backlog, noted, ends, _⟩ :=
        onClosed_frame setup turn.around.now code link.isOpen
          { before with link := none, outbox := [] }
      rw [closes, ends]
      rfl
  | refused content message heard refuses =>
      rw [take_of_refused setup heard refuses, onRefusal, halt_eq]
      rfl
  | tokenChanged session link token told held answered changed =>
      have linkOpen : link.isOpen = true := by
        simpa [isOpen, held] using wasOpen
      have loses : turn.Loses before true :=
        .tokenChanged session link token told held linkOpen answered changed
      obtain ⟨lost, _, noLink, waits⟩ := take_of_loses setup loses
      obtain ⟨state, phase, timers, backlog, noted, gives, _⟩ :=
        waitForAttempt_frame setup turn.around.now true lost
      rw [waits, gives]
      exact isOpen_eq_false noLink
  | tokenGone session told lacks =>
      have waits (ready : Controller Payload) (phase : ready.phase = before.phase) :
          (waitForToken setup turn.around.now ready).isOpen = false := by
        rcases waitForToken_cases setup turn.around.now ready with ⟨waiting, _⟩ | ⟨_, begins⟩
        · rw [phase, opened] at waiting
          cases waiting
        · rw [begins]
          rfl
      simp only [take, step, told, onCommand, lacks, connect]
      cases session with
      | none =>
          exact waits { before with outbox := [] } rfl
      | some session =>
          exact waits (adoptSession session { before with outbox := [] }) rfl
  | disconnected told =>
      rw [take_of_disconnect setup told, halt_eq]
      rfl
  | startedOver told =>
      have shows := face_startOver setup turn.around { before with outbox := [] }
      have isOpen :
          (startOver setup turn.around { before with outbox := [] }).isOpen = false := by
        refine (congrArg Face.isOpen shows).trans ?_
        split <;> rfl
      simpa only [take, step, told, onCommand] using isOpen

end Turns

/-! ## Whole runs -/

/-- What holds once so many statuses were shown and these connections reported that they opened. -/
structure Swung (count : Nat) (opened : List Nat) (controller : Controller Payload) : Prop where
  provisioned : controller.Provisioned
  isOpen_eq : controller.isOpen = decide (count % 2 = 1)
  hasOpened_eq : controller.hasOpened = decide (count ≠ 0)
  known :
    ∀ link, controller.link = some link → link.isOpen = true → link.serial ∈ opened

namespace Swung

variable {setup : Setup} {turn : Turn Payload} {before : Controller Payload} {count : Nat}
  {opened : List Nat}

theorem initial (setup : Setup) : Swung 0 [] (initial setup : Controller Payload) where
  provisioned := initial_provisioned setup
  isOpen_eq := rfl
  hasOpened_eq := rfl
  known := by
    rintro link ⟨⟩

theorem hasOpened_of_isOpen (swung : Swung count opened before) (isOpen : before.isOpen = true) :
    before.hasOpened = true := by
  have isOdd := swung.isOpen_eq
  rw [isOpen] at isOdd
  have odd : count % 2 = 1 := of_decide_eq_true isOdd.symm
  rw [swung.hasOpened_eq, decide_eq_true_eq]
  omega

/-- A connection that has not reported so yet is not open. -/
theorem shut_of_opened
    (swung : Swung count opened before)
    (fresh : ∀ serial, turn.opening? = some serial → serial ∉ opened)
    (heard : turn.heard? before = some .opened) : before.isOpen = false := by
  obtain ⟨serial, link, told, held, same⟩ := heard?_eq_some_iff.mp heard
  have unknown : link.serial ∉ opened :=
    fresh link.serial (Turn.opening?_of_heard heard held)
  cases linkOpen : link.isOpen with
  | false =>
      simp [isOpen, held, linkOpen]
  | true =>
      exact absurd (swung.known link held linkOpen) unknown

/-- What one turn shows is the next in the alternation, if it shows anything. -/
theorem take
    (setup : Setup) (swung : Swung count opened before) (can : before.canTake turn.stimulus = true)
    (fresh : ∀ serial, turn.opening? = some serial → serial ∉ opened) :
    ∃ more,
      statusesOf (before.take setup turn).outbox = (List.range' count more).map Status.nth ∧
        Swung (count + more) (opened ++ turn.opening?.toList) (before.take setup turn) := by
  have course := course_take setup turn swung.provisioned can
  have provisioned := (sound_take setup turn swung.provisioned can).provisioned
  obtain ⟨statuses, hasOpened⟩ :=
    course.statuses_eq (swung.shut_of_opened fresh) swung.hasOpened_of_isOpen
  have known :
      ∀ link, (before.take setup turn).link = some link → link.isOpen = true →
        link.serial ∈ opened ++ turn.opening?.toList := by
    intro link held linkOpen
    rcases course.opened_cases held linkOpen with heldBefore | opening
    · exact List.mem_append_left _ (swung.known link heldBefore linkOpen)
    · exact List.mem_append_right _ (Option.mem_toList.mpr opening)
  rw [swung.isOpen_eq, swung.hasOpened_eq] at statuses
  rw [swung.hasOpened_eq] at hasOpened
  rcases Nat.mod_two_eq_zero_or_one count with even | odd
  · cases isOpen : (before.take setup turn).isOpen with
    | false =>
        rw [isOpen] at statuses hasOpened
        refine ⟨0, ?_, provisioned, ?_, ?_, known⟩
        · simpa [even, Status.ofChange] using statuses
        · simp [isOpen, even]
        · simpa using hasOpened
    | true =>
        rw [isOpen] at statuses hasOpened
        refine ⟨1, ?_, provisioned, ?_, ?_, known⟩
        · simpa [even, Status.ofChange, Status.nth] using statuses
        · simp [isOpen, Nat.add_mod, even]
        · simpa using hasOpened
  · have positive : count ≠ 0 := by
      rintro rfl
      cases odd
    cases isOpen : (before.take setup turn).isOpen with
    | false =>
        rw [isOpen] at statuses hasOpened
        refine ⟨1, ?_, provisioned, ?_, ?_, known⟩
        · simpa [odd, Status.ofChange, Status.nth] using statuses
        · simp [isOpen, Nat.add_mod, odd]
        · simpa [positive] using hasOpened
    | true =>
        rw [isOpen] at statuses hasOpened
        refine ⟨0, ?_, provisioned, ?_, ?_, known⟩
        · simpa [odd, Status.ofChange] using statuses
        · simp [isOpen, odd]
        · simpa [positive] using hasOpened

/-- A run takes the alternation of statuses on from where it stood. -/
theorem run
    {turns : List (Turn Payload)} (swung : Swung count opened before)
    (timely : isTimely setup turns before = true)
    (fresh : (opened ++ turns.filterMap Turn.opening?).Nodup) :
    ∃ more,
      statusesOf (effects setup turns before) = (List.range' count more).map Status.nth ∧
        Swung (count + more) (opened ++ turns.filterMap Turn.opening?)
          (after setup turns before) := by
  induction turns generalizing before count opened with
  | nil =>
      refine ⟨0, rfl, ?_⟩
      rw [List.filterMap_nil, List.append_nil]
      exact swung
  | cons turn rest inductionHypothesis =>
      obtain ⟨can, restTimely⟩ := Bool.and_eq_true_iff.mp timely
      have splits :
          opened ++ (turn :: rest).filterMap Turn.opening? =
            opened ++ turn.opening?.toList ++ rest.filterMap Turn.opening? := by
        cases opening : turn.opening? with
        | none =>
            simp [opening]
        | some serial =>
            simp [opening]
      rw [splits] at fresh ⊢
      have freshNow : ∀ serial, turn.opening? = some serial → serial ∉ opened := by
        intro serial opening member
        have apart := (List.nodup_append.mp (List.nodup_append.mp fresh).1).2.2
        exact apart serial member serial (Option.mem_toList.mpr opening) rfl
      obtain ⟨now, shownNow, swungNow⟩ := swung.take setup can freshNow
      obtain ⟨later, shownLater, swungLater⟩ := inductionHypothesis swungNow restTimely fresh
      refine ⟨now + later, ?_, ?_⟩
      · rw [effects, statusesOf_append, shownNow, shownLater, ← List.map_append,
          List.range'_append_1]
      · rw [← Nat.add_assoc]
        exact swungLater

end Swung

/-- A turn shows in the status what becomes of the connection, and only its causes change that. -/
structure ShowsChange (setup : Setup) (turn : Turn Payload) (before : Controller Payload) :
    Prop where
  statuses_eq :
    statusesOf (before.take setup turn).outbox =
      Status.ofChange before.isOpen (before.take setup turn).isOpen before.hasOpened
  opens_iff :
    before.isOpen = false ∧ (before.take setup turn).isOpen = true ↔
      turn.heard? before = some .opened
  goes_iff :
    before.isOpen = true ∧ (before.take setup turn).isOpen = false ↔
      before.isOpen = true ∧ turn.GivesUp before

/-- The statuses of a run, to the end of the client. -/
structure StatusesAlternate (setup : Setup) (turns : List (Turn Payload)) : Prop where
  alternate :
    ∃ count,
      statusesOf (effects setup turns (.initial setup)) ++
          statusesOf (windDown { after setup turns (.initial setup) with outbox := [] }).outbox =
        (List.range count).map Status.nth
  turnwise :
    ∀ before turn rest, turns = before ++ turn :: rest →
      ShowsChange setup turn (after setup before (.initial setup))
  retained :
    ∀ before rest, turns = before ++ rest →
      (after setup before (.initial setup)).status =
          (statusesOf (effects setup before (.initial setup))).getLastD .down ∧
        (after setup before (.initial setup)).status.connected =
          (after setup before (.initial setup)).isOpen
  windDown_shows :
    statusesOf (windDown { after setup turns (.initial setup) with outbox := [] }).outbox =
        (if (after setup turns (.initial setup)).isOpen then [.down] else []) ∧
      (after setup turns (.initial setup)).windDown.status.connected = false ∧
      (after setup turns (.initial setup)).windDown.isOpen = false

theorem showsChange
    {setup : Setup} {turn : Turn Payload} {before : Controller Payload} {count : Nat}
    {opened : List Nat} (swung : Swung count opened before)
    (can : before.canTake turn.stimulus = true)
    (fresh : ∀ serial, turn.opening? = some serial → serial ∉ opened) :
    ShowsChange setup turn before := by
  have course := course_take setup turn swung.provisioned can
  constructor
  · exact (course.statuses_eq (swung.shut_of_opened fresh) swung.hasOpened_of_isOpen).1
  · constructor
    · rintro ⟨wasShut, isOpen⟩
      exact course.heard_of_opened wasShut isOpen
    · intro heard
      exact ⟨swung.shut_of_opened fresh heard, isOpen_of_opened setup heard⟩
  · constructor
    · rintro ⟨wasOpen, gone⟩
      exact ⟨wasOpen, course.givesUp_of_gone swung.provisioned can wasOpen gone⟩
    · rintro ⟨wasOpen, givesUp⟩
      exact ⟨wasOpen, gone_of_givesUp setup swung.provisioned wasOpen givesUp⟩

/-- Along every timely run in which no connection opens twice, the statuses alternate. -/
theorem statuses_alternate
    (setup : Setup) (turns : List (Turn Payload))
    (timely : isTimely setup turns (.initial setup) = true) (once : OpensOnce turns) :
    StatusesAlternate setup turns := by
  have frank (before : List (Turn Payload)) :
      (after setup before (.initial setup : Controller Payload)).status.connected =
        (after setup before (.initial setup)).isOpen :=
    frank_after setup before rfl
  constructor
  · obtain ⟨count, statuses, swung⟩ := (Swung.initial setup).run timely once
    rw [List.nil_append] at swung
    rw [Nat.zero_add] at swung
    rw [statusesOf_windDown, statuses, swung.isOpen_eq, ← List.range_eq_range']
    rcases Nat.mod_two_eq_zero_or_one count with even | odd
    · refine ⟨count, ?_⟩
      simp [even]
    · refine ⟨count + 1, ?_⟩
      simp [odd, List.range_succ, Status.nth]
  · rintro before turn rest rfl
    obtain ⟨beforeTimely, turnTimely⟩ := isTimely_append.mp timely
    have can := (Bool.and_eq_true_iff.mp turnTimely).1
    unfold OpensOnce at once
    rw [List.filterMap_append] at once
    obtain ⟨beforeOnce, _, apart⟩ := List.nodup_append.mp once
    obtain ⟨count, _, swung⟩ := (Swung.initial setup).run beforeTimely beforeOnce
    refine showsChange swung can ?_
    intro serial opening member
    refine apart serial member serial ?_ rfl
    exact List.mem_filterMap.mpr ⟨turn, List.mem_cons_self, opening⟩
  · rintro before rest rfl
    exact ⟨(shown_last setup before (.initial setup)).2, frank before⟩
  · obtain ⟨closed, down, _⟩ := windDown_shows (frank turns)
    exact ⟨statusesOf_windDown _, down, closed⟩

/-- A connection ends, the next one is replaced as the user starts over, and the third one is open
as the client goes. -/
def threeOpenings : List (Turn String) :=
  [⟨.steady (some "key"), .command (.connect none)⟩,
    ⟨.steady (some "key"), .report 1 .opened⟩,
    ⟨.steady (some "key"), .report 1 (.closed 1006 "reset")⟩,
    ⟨.steady (some "key"), .timer .reconnect⟩,
    ⟨.steady (some "key"), .report 2 .opened⟩,
    ⟨.steady (some "key"), .command .startOver⟩,
    ⟨.steady (some "key"), .report 2 (.closed 1000 "late")⟩,
    ⟨.steady (some "key"), .report 3 .opened⟩]

theorem statuses_alternate_of_threeOpenings :
    isTimely .standard threeOpenings (.initial .standard) = true ∧ OpensOnce threeOpenings ∧
      StatusesAlternate .standard threeOpenings :=
  ⟨by decide, by decide, statuses_alternate .standard threeOpenings (by decide) (by decide)⟩

example :
    statusesOf (effects .standard threeOpenings (.initial .standard)) =
      [⟨true, false⟩, .down, ⟨true, true⟩, .down, ⟨true, true⟩] := by
  decide

end Controller

end Parley.Connection
