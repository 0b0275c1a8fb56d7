import Parley.Proofs.Connection.Course
import Parley.Proofs.Wire.Reading

/-!
# Deeds of a controller

Much of what a controller does is upkeep: a connection is given up, the backlog is discarded, and
what becomes of the connection is shown. Everything else is a deed, also that a connection is closed
for another token. The account of a controller holds its deeds, and what it remembers for later
ones: the session and the refusal that is still to be told. Handlers are written here as changes of
the account, so that the upkeep need not be looked at again.
-/

namespace Parley.Connection

variable {Payload : Type}

/-! ## Deeds -/

def Effect.isUpkeep : Effect Payload → Bool
  | .close _ code _ => code ≠ Wire.CloseCode.tokenChanged
  | .abandon _ => true
  | .discarded _ => true
  | .suppressed => true
  | .state _ => true
  | .status _ => true
  | _ => false

/-- The effect begins a connection, or ends one for another token. -/
def Effect.isRedial : Effect Payload → Bool
  | .dial _ _ _ => true
  | .close _ code _ => code = Wire.CloseCode.tokenChanged
  | _ => false

/-- What is done apart from upkeep, in order. -/
def deedsOf (effects : List (Effect Payload)) : List (Effect Payload) :=
  effects.filter (! ·.isUpkeep)

@[simp]
theorem deedsOf_nil : deedsOf ([] : List (Effect Payload)) = [] :=
  rfl

@[simp]
theorem deedsOf_append (first second : List (Effect Payload)) :
    deedsOf (first ++ second) = deedsOf first ++ deedsOf second :=
  List.filter_append first second

@[simp]
theorem deedsOf_cons (effect : Effect Payload) (rest : List (Effect Payload)) :
    deedsOf (effect :: rest) =
      if effect.isUpkeep then deedsOf rest else effect :: deedsOf rest := by
  cases upkeep : effect.isUpkeep <;> simp [deedsOf, upkeep]

theorem deedsOf_eq_nil
    {effects : List (Effect Payload)} (upkeep : ∀ effect ∈ effects, effect.isUpkeep = true) :
    deedsOf effects = [] := by
  rw [deedsOf, List.filter_eq_nil_iff]
  intro effect member
  simp [upkeep effect member]

theorem deedsOf_of_moves
    {moved : List (Effect Payload)} (moves : ∀ effect ∈ moved, effect.movesPayload = true) :
    deedsOf moved = moved := by
  rw [deedsOf, List.filter_eq_self]
  intro effect member
  have isMove : effect.movesPayload = true := moves effect member
  cases effect with
  | handOver serial payload =>
      rfl
  | evicted payload =>
      rfl
  | _ =>
      cases isMove

/-- An observation that is blind to upkeep sees as much of the deeds as of everything. -/
theorem filterMap_deedsOf
    {Seen : Type} {observe : Effect Payload → Option Seen}
    (blind : ∀ effect, effect.isUpkeep = true → observe effect = none)
    (effects : List (Effect Payload)) :
    (deedsOf effects).filterMap observe = effects.filterMap observe := by
  induction effects with
  | nil =>
      rfl
  | cons effect rest inductionHypothesis =>
      rw [deedsOf_cons, List.filterMap_cons]
      by_cases upkeep : effect.isUpkeep = true
      · rw [if_pos upkeep, blind effect upkeep, inductionHypothesis]
      · rw [if_neg upkeep, List.filterMap_cons, inductionHypothesis]

/-- An observation that is blind to payloads sees nothing of their moves. -/
theorem filterMap_of_moves
    {Seen : Type} {observe : Effect Payload → Option Seen}
    (handOver : ∀ serial payload, observe (.handOver serial payload) = none)
    (evicted : ∀ payload, observe (.evicted payload) = none)
    {moved : List (Effect Payload)} (moves : ∀ effect ∈ moved, effect.movesPayload = true) :
    moved.filterMap observe = [] := by
  apply List.filterMap_eq_nil_iff.mpr
  intro effect member
  have isMove : effect.movesPayload = true := moves effect member
  cases effect with
  | handOver serial payload =>
      exact handOver serial payload
  | evicted payload =>
      exact evicted payload
  | _ =>
      cases isMove

/-- An observation that is blind to dials and closes sees no connection begin or end. -/
theorem filterMap_of_redials
    {Seen : Type} {observe : Effect Payload → Option Seen}
    (dial : ∀ serial token url, observe (.dial serial token url) = none)
    (close : ∀ serial code reason, observe (.close serial code reason) = none)
    {begun : List (Effect Payload)} (redials : ∀ effect ∈ begun, effect.isRedial = true) :
    begun.filterMap observe = [] := by
  apply List.filterMap_eq_nil_iff.mpr
  intro effect member
  have isRedial : effect.isRedial = true := redials effect member
  cases effect with
  | dial serial token url =>
      exact dial serial token url
  | close serial code reason =>
      exact close serial code reason
  | _ =>
      cases isRedial

theorem mem_deedsOf {effect : Effect Payload} {effects : List (Effect Payload)} :
    effect ∈ deedsOf effects ↔ effect ∈ effects ∧ effect.isUpkeep = false := by
  simp [deedsOf]

/-- What a controller has done apart from upkeep, and what it remembers for later. -/
structure Account (Payload : Type) where
  session : Option String
  untold : Option String
  /-- When the untold refusal is to be told. -/
  notice : Option Nat
  deeds : List (Effect Payload)

def Controller.account (controller : Controller Payload) : Account Payload where
  session := controller.session
  untold := controller.untoldRefusal
  notice := controller.timers.refusalNotice
  deeds := deedsOf controller.outbox

def Controller.opening (controller : Controller Payload) : Account Payload :=
  { controller.account with deeds := [] }

def Account.does (deeds : List (Effect Payload)) (account : Account Payload) : Account Payload :=
  { account with deeds := account.deeds ++ deeds }

@[simp]
theorem Account.does_nil (account : Account Payload) : account.does [] = account := by
  simp [does]

/-- What is seen of a turn is seen of the deeds in the account. -/
theorem Controller.filterMap_outbox
    {Seen : Type} {observe : Effect Payload → Option Seen}
    (blind : ∀ effect, effect.isUpkeep = true → observe effect = none)
    {controller : Controller Payload} {account : Account Payload}
    (is : controller.account = account) :
    controller.outbox.filterMap observe = account.deeds.filterMap observe := by
  rw [← filterMap_deedsOf blind, ← is]
  rfl

namespace Controller

@[simp]
theorem deedsOf_farewells (reason : String) (link : Option Link) :
    deedsOf (farewells Wire.CloseCode.normal reason link : List (Effect Payload)) = [] := by
  apply deedsOf_eq_nil
  cases link with
  | none =>
      simp [farewells]
  | some link =>
      rcases link.farewell_cases Payload Wire.CloseCode.normal reason with ⟨_, is⟩ | ⟨_, is⟩
      · have onPurpose : Wire.CloseCode.normal ≠ Wire.CloseCode.tokenChanged := by
          decide
        simp [farewells, is, Effect.isUpkeep, onPurpose]
      · simp [farewells, is, Effect.isUpkeep]

@[simp]
theorem deedsOf_stateNotice (shown state : State) :
    deedsOf (stateNotice shown state : List (Effect Payload)) = [] := by
  unfold stateNotice
  split <;> rfl

@[simp]
theorem deedsOf_downNotice (wasOpen : Bool) :
    deedsOf (downNotice wasOpen : List (Effect Payload)) = [] := by
  cases wasOpen <;> rfl

@[simp]
theorem deedsOf_discardNotice (backlog : Backlog Payload) :
    deedsOf (discardNotice backlog) = [] := by
  unfold discardNotice
  split <;> rfl

/-! ## Upkeep -/

theorem account_publishState (state : State) (controller : Controller Payload) :
    (publishState state controller).account = controller.account := by
  rw [publishState_eq]
  simp [account]

/-- A halt forgets when the untold refusal was to be told. -/
theorem account_halt (why : Halt) (reason : String) (controller : Controller Payload) :
    (halt why reason controller).account = { controller.account with notice := none } := by
  rw [halt_eq]
  simp [account, Schedule.none]

theorem account_waitForAttempt
    (setup : Setup) (now : Nat) (immediate : Bool) (controller : Controller Payload) :
    (waitForAttempt setup now immediate controller).account = controller.account := by
  cases asked : controller.phase.nextAttempt setup.settings.backoff with
  | suppressed =>
      rw [waitForAttempt_of_suppressed now immediate asked]
      simp [account, Effect.isUpkeep]
  | exhausted =>
      rw [waitForAttempt_of_exhausted now immediate asked]
      simp [account, Schedule.forgetRetry]
  | after attempt delay =>
      rw [waitForAttempt_of_after now immediate asked rfl rfl]
      simp [account]

theorem account_onClosed
    (setup : Setup) (now code : Nat) (wasOpen : Bool) (controller : Controller Payload) :
    (onClosed setup now code wasOpen controller).account = controller.account := by
  cases ended : Aftermath.ofCode code with
  | halt why =>
      rw [onClosed_of_halt setup now wasOpen controller ended]
      simp [account, Schedule.forgetRetry]
  | retry immediate =>
      rw [onClosed_of_retry setup now wasOpen controller ended, account_waitForAttempt]
      simp [account]

theorem account_waitForToken (setup : Setup) (now : Nat) (controller : Controller Payload) :
    (waitForToken setup now controller).account = controller.account := by
  rcases waitForToken_cases setup now controller with ⟨_, stays⟩ | ⟨_, begins⟩
  · rw [stays]
  · rw [begins]
    simp [account, Schedule.forgetRetry]

/-- The end of the client has no deeds, and leaves no refusal to tell of. -/
theorem account_windDown (controller : Controller Payload) :
    (windDown { controller with outbox := [] }).account =
      { controller.opening with untold := none, notice := none } := by
  rw [windDown_eq]
  cases wasOpen : isOpen ({ controller with outbox := [] } : Controller Payload) <;>
    simp [account, opening, Schedule.none]

/-! ## Connecting -/

/-- What comes of connecting: an open connection that has another token than the one that was
answered is closed, or a connection is dialled, with that token and the session that is stored. -/
inductive Dials (setup : Setup) (answer : Option String) (held : Option Link)
    (start : Account Payload) (after : Controller Payload) : Prop where
  | undialled (is : after.account = start)
  | cycled (link : Link) (token : String) (isHeld : held = some link)
      (linkOpen : link.isOpen = true) (answered : answer = some token)
      (changed : link.token ≠ token) (vacant : after.link = none)
      (is : after.account =
        start.does [.close link.serial Wire.CloseCode.tokenChanged "token changed"])
  | dialled (serial : Nat) (token : String) (answered : answer = some token)
      (changed : ∀ link, held = some link → link.token ≠ token)
      (isHeld : after.link = some ⟨serial, token, false⟩)
      (is : after.account =
        start.does [.dial serial token (Settings.authorizedUrl setup.base token start.session)])

theorem link_waitForAttempt
    (setup : Setup) (now : Nat) (immediate : Bool) (controller : Controller Payload) :
    (waitForAttempt setup now immediate controller).link = controller.link := by
  obtain ⟨state, phase, timers, backlog, noted, waits, _⟩ :=
    waitForAttempt_frame setup now immediate controller
  rw [waits]

/-- Connecting deals with the answer of the provider in one of the ways of `Dials`. -/
theorem dials_connect
    {controller : Controller Payload} {held : Option Link} {start : Account Payload}
    (setup : Setup) (now : Nat) (answer : Option String) (holds : controller.link = held)
    (starts : controller.account = start) :
    Dials setup answer held start (connect setup now answer controller) := by
  subst holds starts
  rcases connect_cases setup now answer controller with
    ⟨_, waits⟩ |
      ⟨token, answered, ⟨_, changed, dials⟩ | ⟨_, _, _, keeps⟩ |
        ⟨link, isHeld, linkOpen, changed, cycles⟩⟩
  · rw [waits]
    exact .undialled (account_waitForToken setup now controller)
  · rw [dials, dial_eq]
    refine .dialled (controller.serial + 1) token answered changed rfl ?_
    simp [account, Account.does, Effect.isUpkeep, Schedule.forgetLook]
  · rw [keeps]
    exact .undialled rfl
  · have closes : (farewells Wire.CloseCode.tokenChanged "token changed" controller.link :
        List (Effect Payload)) =
          [.close link.serial Wire.CloseCode.tokenChanged "token changed"] := by
      simp [farewells, Link.farewell, isHeld, linkOpen]
    have ends : Aftermath.ofCode Wire.CloseCode.tokenChanged = .retry true := by
      decide
    refine .cycled link token isHeld linkOpen answered changed ?_ ?_
    · rw [cycles, onClosed_of_retry setup _ _ _ ends, link_waitForAttempt, retireWith_eq]
    · rw [cycles, account_onClosed, retireWith_eq, closes]
      simp [account, Account.does, Effect.isUpkeep, Schedule.forgetLook]

theorem Dials.account_eq
    {setup : Setup} {answer : Option String} {held : Option Link} {start : Account Payload}
    {after : Controller Payload} (dials : Dials setup answer held start after) :
    ∃ begun, after.account = start.does begun ∧ ∀ effect ∈ begun, effect.isRedial = true := by
  cases dials with
  | undialled is =>
      exact ⟨[], by rw [is, Account.does_nil], by simp⟩
  | cycled link token isHeld linkOpen answered changed vacant is =>
      exact ⟨_, is, by simp [Effect.isRedial]⟩
  | dialled serial token answered changed isHeld is =>
      exact ⟨_, is, by simp [Effect.isRedial]⟩

/-! ## Payloads -/

theorem account_onOpened (accepts : Nat → Bool) (controller : Controller Payload) :
    ∃ moved, (∀ effect ∈ moved, effect.movesPayload = true) ∧
      (onOpened accepts controller).account = controller.account.does moved := by
  obtain ⟨backlog, moved, opens, moves⟩ := onOpened_frame accepts controller
  refine ⟨moved, moves, ?_⟩
  rw [opens]
  simp [account, Account.does, deedsOf_of_moves moves, Effect.isUpkeep, Schedule.forgetRetry]

theorem account_send
    (accepts : Nat → Bool) (payload : Payload) (controller : Controller Payload) :
    ∃ moved, (∀ effect ∈ moved, effect.movesPayload = true) ∧
      (send accepts payload controller).account = controller.account.does moved := by
  obtain ⟨backlog, moved, sends, moves⟩ := send_frame accepts payload controller
  refine ⟨moved, moves, ?_⟩
  rw [sends]
  simp [account, Account.does, deedsOf_of_moves moves]

/-! ## Turns -/

section Turns

variable {setup : Setup} {turn : Turn Payload} {before : Controller Payload}

theorem take_of_text
    {content : String} (setup : Setup) (heard : turn.heard? before = some (.text content)) :
    ∃ link, before.link = some link ∧
      before.take setup turn =
        onText setup turn.around content { before with outbox := [] } := by
  obtain ⟨serial, link, told, held, same⟩ := heard?_eq_some_iff.mp heard
  refine ⟨link, held, ?_⟩
  simp [take, step, told, onReport, held, same]

theorem take_of_failed
    {cause : String} (setup : Setup) (heard : turn.heard? before = some (.failed cause)) :
    before.take setup turn =
      publishState (.failed connectionErrorMessage) { before with outbox := [] } := by
  obtain ⟨serial, link, told, held, same⟩ := heard?_eq_some_iff.mp heard
  simp [take, step, told, onReport, held, same]

/-- What a turn adds to the account of a controller. -/
inductive Dealing (setup : Setup) (turn : Turn Payload) (before after : Controller Payload) :
    Prop where
  | connects (session : Option String) (told : turn.stimulus = .command (.connect session))
      (dials : Dials setup (turn.around.answers 0) before.link
        { before.opening with
          session := session.or before.session
          deeds := (session.map .session).toList }
        after)
  | startsOver (told : turn.stimulus = .command .startOver)
      (dials : Dials setup (turn.around.answers 0) none
        { before.opening with untold := none, notice := none } after)
  | disconnects (told : turn.stimulus = .command .disconnect)
      (is : after.account = { before.opening with notice := none })
  | sends (payload : Payload) (moved : List (Effect Payload))
      (told : turn.stimulus = .command (.send payload))
      (moves : ∀ effect ∈ moved, effect.movesPayload = true)
      (is : after.account = before.opening.does moved)
  | opens (moved : List (Effect Payload)) (heard : turn.heard? before = some .opened)
      (moves : ∀ effect ∈ moved, effect.movesPayload = true)
      (is : after.account = before.opening.does moved)
  | drops (content : String) (cause : Wire.Packet.Defect)
      (heard : turn.heard? before = some (.text content))
      (broken : Wire.Packet.parse content = .error cause)
      (is : after.account = before.opening)
  | beats (content : String) (link : Link)
      (heard : turn.heard? before = some (.text content)) (held : before.link = some link)
      (asks : Wire.isHeartbeat content = true)
      (is : after.account =
        before.opening.does
          (if link.isOpen && turn.around.accepts 0 then [.answerHeartbeat link.serial] else []))
  | refuses (content message : String)
      (heard : turn.heard? before = some (.text content))
      (holds : Wire.refusal? content = some message)
      (is : after.account =
        { before.opening with
          untold := some message
          notice := some (turn.around.now + setup.settings.noticeDelay) })
  | forwards (content : String) (packet : Wire.Packet)
      (heard : turn.heard? before = some (.text content))
      (holds : Wire.forwarded? content = some packet)
      (is : after.account =
        { before.opening with
          session := packet.announced?.or before.session
          deeds := (packet.announced?.map .session).toList ++ [.message packet] })
  | reconnects (told : turn.stimulus = .timer .reconnect)
      (dials : Dials setup (turn.around.answers 0) before.link before.opening after)
  | looks (told : turn.stimulus = .timer .tokenLook)
      (dials : Dials setup (turn.around.answers 1) before.link before.opening after)
  | tells (told : turn.stimulus = .timer .refusalNotice)
      (is : after.account =
        { before.opening with
          untold := none
          notice := none
          deeds := (before.untoldRefusal.map .refusal).toList })
  /-- The turn adds nothing: nothing is asked for, said or due to be told. -/
  | rests (unasked : ∀ order, turn.stimulus ≠ .command order)
      (unsaid : ∀ content, turn.heard? before ≠ some (.text content))
      (notDue : turn.stimulus ≠ .timer .refusalNotice)
      (is : after.account = before.opening)

theorem dealing_of_text
    {content : String} (heard : turn.heard? before = some (.text content)) :
    Dealing setup turn before (before.take setup turn) := by
  obtain ⟨link, held, takes⟩ := take_of_text setup heard
  rw [takes, onText]
  cases means : Wire.Arrival.ofText content with
  | malformed cause =>
      exact .drops content cause heard (Wire.Arrival.ofText_eq_malformed_iff.mp means) rfl
  | heartbeat =>
      refine .beats content link heard held (Wire.Arrival.ofText_eq_heartbeat_iff.mp means) ?_
      cases linkOpen : link.isOpen with
      | false =>
          simp [held, Option.filter, linkOpen, account, opening]
      | true =>
          by_cases accepted : turn.around.accepts 0 = true
          · simp [held, Option.filter, linkOpen, accepted, account, opening, emit, Account.does,
              Effect.isUpkeep]
          · simp [held, Option.filter, linkOpen, accepted, account, opening]
  | refusal message =>
      refine .refuses content message heard (Wire.Arrival.ofText_eq_refusal_iff.mp means) ?_
      simp [onRefusal, halt_eq, account, opening]
  | message packet =>
      refine .forwards content packet heard (Wire.Arrival.ofText_eq_message_iff.mp means) ?_
      cases announced : packet.announced? with
      | none =>
          simp [announced, account, opening, emit, Effect.isUpkeep]
      | some session =>
          simp [announced, account, opening, emit, adoptSession, Effect.isUpkeep]

theorem dealing_of_command
    {order : Order Payload} (told : turn.stimulus = .command order) :
    Dealing setup turn before (before.take setup turn) := by
  simp only [take, step, told]
  cases order with
  | connect session =>
      refine .connects session told ?_
      cases session with
      | none =>
          exact dials_connect setup turn.around.now _ rfl rfl
      | some session =>
          exact dials_connect setup turn.around.now _ rfl rfl
  | send payload =>
      obtain ⟨moved, moves, is⟩ :=
        account_send turn.around.accepts payload { before with outbox := [] }
      exact .sends payload moved told moves is
  | disconnect =>
      exact .disconnects told (account_halt .manual "client disconnect" _)
  | startOver =>
      refine .startsOver told ?_
      -- The connection is given up before the token is asked for, so that there is none to keep.
      have restarts :
          (restarted { before with outbox := [] }).account =
            { before.opening with untold := none, notice := none } := by
        simp [restarted, account, opening, Schedule.none]
      rw [onCommand, startOver_eq]
      exact dials_connect setup turn.around.now _ rfl restarts

theorem dealing_of_unheard
    {serial : Nat} {report : Report} (told : turn.stimulus = .report serial report)
    (unheard : turn.heard? before = none) :
    Dealing setup turn before (before.take setup turn) := by
  have other : before.link.map (·.serial) ≠ some serial := by
    intro isHeld
    obtain ⟨link, held, same⟩ := Option.map_eq_some_iff.mp isHeld
    have heard := heard?_eq_some_iff.mpr ⟨serial, link, told, held, same⟩
    rw [unheard] at heard
    cases heard
  refine .rests ?_ ?_ ?_ ?_
  · simp [told]
  · simp [unheard]
  · simp [told]
  · rw [take_of_other setup told other]
    rfl

theorem dealing_of_report
    {serial : Nat} {report : Report} (told : turn.stimulus = .report serial report) :
    Dealing setup turn before (before.take setup turn) := by
  cases heard : turn.heard? before with
  | none =>
      exact dealing_of_unheard told heard
  | some sign =>
      have unasked (order : Order Payload) : turn.stimulus ≠ .command order := by
        simp [told]
      have notDue : turn.stimulus ≠ .timer .refusalNotice := by
        simp [told]
      cases sign with
      | opened =>
          obtain ⟨moved, moves, is⟩ :=
            account_onOpened turn.around.accepts { before with outbox := [] }
          rw [take_of_opened setup heard]
          exact .opens moved heard moves is
      | text content =>
          exact dealing_of_text heard
      | failed cause =>
          refine .rests unasked (by simp [heard]) notDue ?_
          rw [take_of_failed setup heard]
          exact account_publishState _ _
      | closed code reason =>
          refine .rests unasked (by simp [heard]) notDue ?_
          obtain ⟨link, _, closes⟩ := take_of_closed setup heard
          rw [closes]
          exact account_onClosed setup turn.around.now code link.isOpen _

theorem dealing_of_timer
    {timer : Timer} (told : turn.stimulus = .timer timer) :
    Dealing setup turn before (before.take setup turn) := by
  have unheard : turn.heard? before = none :=
    heard?_of_timer told
  have unasked (order : Order Payload) : turn.stimulus ≠ .command order := by
    simp [told]
  have unsaid (content : String) : turn.heard? before ≠ some (.text content) := by
    simp [unheard]
  simp only [take, step, told]
  cases timer with
  | reconnect =>
      exact .reconnects told (dials_connect setup turn.around.now _ rfl rfl)
  | countdown =>
      refine .rests unasked unsaid (by simp [told]) ?_
      rw [onTimer]
      rcases onCountdown_cases { before with outbox := [] } with
        ⟨attempt, seconds, _, beats⟩ | ⟨_, stops⟩
      · rw [beats, account_publishState]
        rfl
      · rw [stops]
        rfl
  | tokenLook =>
      rw [onTimer, onTokenLook]
      split
      · exact .looks told (dials_connect setup turn.around.now _ rfl rfl)
      · exact .rests unasked unsaid (by simp [told]) rfl
  | refusalNotice =>
      refine .tells told ?_
      rw [onTimer, onRefusalNotice_eq]
      cases untold : before.untoldRefusal with
      | none =>
          simp [account, opening, untold]
      | some message =>
          simp [account, opening, untold, Effect.isUpkeep]

/-- Every turn adds to the account in one of these ways. -/
theorem dealing_take (setup : Setup) (turn : Turn Payload) (before : Controller Payload) :
    Dealing setup turn before (before.take setup turn) := by
  cases told : turn.stimulus with
  | command order =>
      exact dealing_of_command told
  | report serial report =>
      exact dealing_of_report told
  | timer timer =>
      exact dealing_of_timer told

end Turns

end Controller

end Parley.Connection
