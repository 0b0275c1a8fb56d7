import Parley.Proofs.Client.Moments
import Parley.Proofs.Connection.Deeds

/-!
# Credentials

A dial carries a token and the session that is stored. The token is asked for again in every turn
that may dial; the session comes from the user or from the server, and the client keeps a copy of
it. The main statement is that no dial is made with a token or a session of the past, and that the
copy never falls behind.
-/

namespace Parley.Connection

variable {Payload : Type}

/-! ## Sessions -/

/-- The session that a turn stores: the one that the user asks for, or one that the connection that
is held announces. -/
def Turn.stored? (turn : Turn Payload) (controller : Controller Payload) : Option String :=
  match turn.stimulus with
  | .command (.connect session) => session
  | _ =>
      match turn.heard? controller with
      | some (.text content) => Wire.announced? content
      | _ => none

namespace Controller

def storedIn (setup : Setup) : List (Turn Payload) → Controller Payload → List String
  | [], _ => []
  | turn :: rest, controller =>
      (turn.stored? controller).toList ++ storedIn setup rest (controller.take setup turn)

end Controller

theorem session?_of_isUpkeep (effect : Effect Payload) (upkeep : effect.isUpkeep = true) :
    effect.session? = none := by
  cases effect with
  | session known =>
      cases upkeep
  | _ =>
      rfl

namespace Controller

section Turns

variable {setup : Setup} {turn : Turn Payload} {before after : Controller Payload}

structure Stores (stored : Option String) (before after : Controller Payload) : Prop where
  session_eq : after.session = stored.or before.session
  sessions_eq : sessionsOf after.outbox = stored.toList

theorem stores_of_account
    {stored : Option String} {account : Account Payload} (is : after.account = account)
    (session : account.session = stored.or before.session)
    (sessions : sessionsOf account.deeds = stored.toList) : Stores stored before after where
  session_eq := by
    rw [← session, ← is]
    rfl
  sessions_eq := by
    rw [← sessions]
    exact filterMap_outbox session?_of_isUpkeep is

theorem stores_of_dials
    {stored answer : Option String} {held : Option Link} {start : Account Payload}
    (dials : Dials setup answer held start after)
    (session : start.session = stored.or before.session)
    (sessions : sessionsOf start.deeds = stored.toList) : Stores stored before after := by
  obtain ⟨begun, is, redials⟩ := dials.account_eq
  have unstored : begun.filterMap Effect.session? = [] :=
    filterMap_of_redials (fun _ _ _ => rfl) (fun _ _ _ => rfl) redials
  refine stores_of_account is session ?_
  rw [← sessions, Account.does, sessionsOf, List.filterMap_append, unstored, List.append_nil]
  rfl

theorem stored?_of_timer {timer : Timer} (told : turn.stimulus = .timer timer) :
    turn.stored? before = none := by
  simp [Turn.stored?, told, heard?_of_timer told]

theorem stored?_of_text
    {content : String} (heard : turn.heard? before = some (.text content)) :
    turn.stored? before = Wire.announced? content := by
  obtain ⟨serial, link, told, held, same⟩ := heard?_eq_some_iff.mp heard
  simp [Turn.stored?, told, heard]

theorem stored?_eq_none
    (unasked : ∀ session, turn.stimulus ≠ .command (.connect session))
    (unsaid : ∀ content, turn.heard? before ≠ some (.text content)) :
    turn.stored? before = none := by
  unfold Turn.stored?
  split
  next session told =>
    exact absurd told (unasked session)
  next =>
    split
    next content heard =>
      exact absurd heard (unsaid content)
    next =>
      rfl

theorem unsaid_of_untold
    (untold : ∀ serial report, turn.stimulus ≠ .report serial report) (content : String) :
    turn.heard? before ≠ some (.text content) := by
  intro heard
  obtain ⟨serial, link, told, _⟩ := heard?_eq_some_iff.mp heard
  exact untold serial _ told

/-- What a turn stores is what it makes known, and everything else leaves the session alone. -/
theorem stores_take (setup : Setup) (turn : Turn Payload) (before : Controller Payload) :
    Stores (turn.stored? before) before (before.take setup turn) := by
  cases dealing_take setup turn before with
  | connects session told dials =>
      have stored : turn.stored? before = session := by
        simp [Turn.stored?, told]
      rw [stored]
      refine stores_of_dials dials rfl ?_
      cases session <;> rfl
  | startsOver told dials =>
      rw [stored?_eq_none (by simp [told]) (unsaid_of_untold (by simp [told]))]
      exact stores_of_dials dials rfl rfl
  | disconnects told is =>
      rw [stored?_eq_none (by simp [told]) (unsaid_of_untold (by simp [told]))]
      exact stores_of_account is rfl rfl
  | sends payload moved told moves is =>
      rw [stored?_eq_none (by simp [told]) (unsaid_of_untold (by simp [told]))]
      exact stores_of_account is rfl (filterMap_of_moves (fun _ _ => rfl) (fun _ => rfl) moves)
  | opens moved heard moves is =>
      obtain ⟨serial, link, told, _⟩ := heard?_eq_some_iff.mp heard
      rw [stored?_eq_none (by simp [told]) (by simp [heard])]
      exact stores_of_account is rfl (filterMap_of_moves (fun _ _ => rfl) (fun _ => rfl) moves)
  | drops content cause heard broken is =>
      have means := Wire.Arrival.ofText_eq_malformed_iff.mpr broken
      rw [stored?_of_text heard, Wire.announced?_eq_none means (by simp)]
      exact stores_of_account is rfl rfl
  | beats content link heard held asks is =>
      have means := Wire.Arrival.ofText_eq_heartbeat_iff.mpr asks
      rw [stored?_of_text heard, Wire.announced?_eq_none means (by simp)]
      refine stores_of_account is rfl ?_
      split <;> rfl
  | refuses content message heard holds is =>
      have means := Wire.Arrival.ofText_eq_refusal_iff.mpr holds
      rw [stored?_of_text heard, Wire.announced?_eq_none means (by simp)]
      exact stores_of_account is rfl rfl
  | forwards content packet heard holds is =>
      have announces : Wire.announced? content = packet.announced? := by
        rw [Wire.announced?_eq, holds, Option.bind_some]
      rw [stored?_of_text heard, announces]
      refine stores_of_account is rfl ?_
      cases packet.announced? <;> rfl
  | reconnects told dials =>
      rw [stored?_of_timer told]
      exact stores_of_dials dials rfl rfl
  | looks told dials =>
      rw [stored?_of_timer told]
      exact stores_of_dials dials rfl rfl
  | tells told is =>
      rw [stored?_of_timer told]
      refine stores_of_account is rfl ?_
      cases before.untoldRefusal <;> rfl
  | rests unasked unsaid notDue is =>
      rw [stored?_eq_none (fun session => unasked _) unsaid]
      exact stores_of_account is rfl rfl

end Turns

/-! ## Dials -/

section Dials

variable {setup : Setup} {turn : Turn Payload} {before : Controller Payload}

/-- A turn in which the token provider is asked, and what comes of its answer. The connection that
was held is dropped if the user starts over. -/
structure Redials (setup : Setup) (turn : Turn Payload) (before : Controller Payload) (place : Nat)
    (held : Option Link) (start : Account Payload) : Prop where
  asks : turn.AsksForToken place
  held_eq : held = before.link ∨ held = none ∧ turn.stimulus = .command .startOver
  session_eq : start.session = (turn.stored? before).or before.session
  unbegun : ∀ effect ∈ start.deeds, effect.isRedial = false
  dials : Dials setup (turn.around.answers place) held start (before.take setup turn)

theorem redials_of_mem
    {effect : Effect Payload} (member : effect ∈ (before.take setup turn).outbox)
    (isRedial : effect.isRedial = true) :
    ∃ place held start, Redials setup turn before place held start := by
  have notUpkeep : effect.isUpkeep = false := by
    cases effect with
    | dial serial token url =>
        rfl
    | close serial code reason =>
        simpa [Effect.isUpkeep, Effect.isRedial] using isRedial
    | _ =>
        cases isRedial
  have isDeed : effect ∈ (before.take setup turn).account.deeds :=
    mem_deedsOf.mpr ⟨member, notUpkeep⟩
  have stores := stores_take setup turn before
  have elsewhere {account : Account Payload} (is : (before.take setup turn).account = account)
      (none : ∀ deed ∈ account.deeds, deed.isRedial = false) :
      ∃ place held start, Redials setup turn before place held start := by
    rw [is] at isDeed
    rw [none effect isDeed] at isRedial
    cases isRedial
  have noRedial {moved : List (Effect Payload)}
      (moves : ∀ deed ∈ moved, deed.movesPayload = true) :
      ∀ deed ∈ moved, deed.isRedial = false := by
    intro deed isMoved
    have isMove := moves deed isMoved
    cases deed with
    | handOver serial payload =>
        rfl
    | evicted payload =>
        rfl
    | _ =>
        cases isMove
  cases dealing_take setup turn before with
  | connects session told dials =>
      refine ⟨0, before.link, _, .connect session told, Or.inl rfl, ?_, ?_, dials⟩
      · simp [Turn.stored?, told]
      · cases session <;> simp [Effect.isRedial]
  | startsOver told dials =>
      refine ⟨0, none, _, .startOver told, Or.inr ⟨rfl, told⟩, ?_, by simp [opening], dials⟩
      rw [stored?_eq_none (by simp [told]) (unsaid_of_untold (by simp [told]))]
      rfl
  | reconnects told dials =>
      refine ⟨0, before.link, _, .reconnect told, Or.inl rfl, ?_, by simp [opening], dials⟩
      rw [stored?_of_timer told]
      rfl
  | looks told dials =>
      refine ⟨1, before.link, _, .tokenLook told, Or.inl rfl, ?_, by simp [opening], dials⟩
      rw [stored?_of_timer told]
      rfl
  | disconnects told is =>
      exact elsewhere is (by simp [opening])
  | sends payload moved told moves is =>
      exact elsewhere is (noRedial moves)
  | opens moved heard moves is =>
      exact elsewhere is (noRedial moves)
  | drops content cause heard broken is =>
      exact elsewhere is (by simp [opening])
  | beats content link heard held asks is =>
      refine elsewhere is ?_
      split <;> simp [opening, Account.does, Effect.isRedial]
  | refuses content message heard holds is =>
      exact elsewhere is (by simp [opening])
  | forwards content packet heard holds is =>
      refine elsewhere is ?_
      cases packet.announced? <;> simp [Effect.isRedial]
  | tells told is =>
      refine elsewhere is ?_
      cases before.untoldRefusal <;> simp [Effect.isRedial]
  | rests unasked unsaid notDue is =>
      exact elsewhere is (by simp [opening])

/-- A dial is made with the token that is answered in its turn, for a connection without that token
or for none, and with the session that is stored then. -/
structure DialsWell (setup : Setup) (turn : Turn Payload) (before after : Controller Payload)
    (serial : Nat) (token : String) (url : Url.Parts) : Prop where
  answered : ∃ place, turn.AsksForToken place ∧ turn.around.answers place = some token
  changed :
    ∀ link, before.link = some link → turn.stimulus ≠ .command .startOver → link.token ≠ token
  held : after.link = some ⟨serial, token, false⟩
  url_eq : url = Settings.authorizedUrl setup.base token after.session

/-- Whatever turn a dial is made in, it is made with the credentials of that turn. -/
theorem dialsWell_of_mem
    {serial : Nat} {token : String} {url : Url.Parts}
    (member : .dial serial token url ∈ (before.take setup turn).outbox) :
    DialsWell setup turn before (before.take setup turn) serial token url := by
  have isDeed :
      (.dial serial token url : Effect Payload) ∈ (before.take setup turn).account.deeds :=
    mem_deedsOf.mpr ⟨member, rfl⟩
  obtain ⟨place, held, start, redials⟩ := redials_of_mem member rfl
  have unbegun : (.dial serial token url : Effect Payload) ∉ start.deeds := by
    intro begun
    exact Bool.noConfusion (redials.unbegun _ begun)
  cases redials.dials with
  | undialled is =>
      rw [is] at isDeed
      exact absurd isDeed unbegun
  | cycled link other isHeld linkOpen answered changed vacant is =>
      rw [is] at isDeed
      simp [Account.does, unbegun] at isDeed
  | dialled dialledSerial dialledToken answered changed isHeld is =>
      rw [is] at isDeed
      have same :
          (.dial serial token url : Effect Payload) =
            .dial dialledSerial dialledToken
              (Settings.authorizedUrl setup.base dialledToken start.session) := by
        simpa [Account.does, unbegun] using isDeed
      cases same
      have session : (before.take setup turn).session = start.session :=
        congrArg Account.session is
      refine ⟨⟨place, redials.asks, answered⟩, ?_, isHeld, by rw [session]⟩
      intro link wasHeld goesOn
      rcases redials.held_eq with same | ⟨_, startsOver⟩
      · rw [same] at changed
        exact changed link wasHeld
      · exact absurd startsOver goesOn

/-- An open connection is closed as the answered token is another one, and none is dialled. -/
structure Cycles (turn : Turn Payload) (before after : Controller Payload) (link : Link) :
    Prop where
  held : before.link = some link
  linkOpen : link.isOpen = true
  changed :
    ∃ place token, turn.AsksForToken place ∧ turn.around.answers place = some token ∧
      token ≠ link.token
  vacant : after.link = none
  undialled : ∀ serial token url, .dial serial token url ∉ after.outbox

/-- A connection is only closed for a changed token if the token has changed. -/
theorem cycles_of_mem
    {serial : Nat} {reason : String}
    (member :
      .close serial Wire.CloseCode.tokenChanged reason ∈ (before.take setup turn).outbox) :
    ∃ link, link.serial = serial ∧ Cycles turn before (before.take setup turn) link := by
  have isDeed :
      (.close serial Wire.CloseCode.tokenChanged reason : Effect Payload) ∈
        (before.take setup turn).account.deeds :=
    mem_deedsOf.mpr ⟨member, rfl⟩
  obtain ⟨place, held, start, redials⟩ := redials_of_mem member rfl
  have unbegun :
      (.close serial Wire.CloseCode.tokenChanged reason : Effect Payload) ∉ start.deeds := by
    intro begun
    exact Bool.noConfusion (redials.unbegun _ begun)
  cases redials.dials with
  | undialled is =>
      rw [is] at isDeed
      exact absurd isDeed unbegun
  | dialled dialledSerial token answered changed isHeld is =>
      rw [is] at isDeed
      simp [Account.does, unbegun] at isDeed
  | cycled link token isHeld linkOpen answered changed vacant is =>
      rw [is] at isDeed
      have same : serial = link.serial := by
        have closes :
            (.close serial Wire.CloseCode.tokenChanged reason : Effect Payload) =
              .close link.serial Wire.CloseCode.tokenChanged "token changed" := by
          simpa [Account.does, unbegun] using isDeed
        exact (Effect.close.inj closes).1
      have wasHeld : before.link = some link := by
        rcases redials.held_eq with isBefore | ⟨isNone, _⟩
        · rw [← isBefore]
          exact isHeld
        · rw [isNone] at isHeld
          cases isHeld
      refine ⟨link, same.symm, wasHeld, linkOpen,
        ⟨place, token, redials.asks, answered, changed.symm⟩, vacant, ?_⟩
      intro dialledSerial dialledToken url dialled
      have held := (dialsWell_of_mem dialled).held
      rw [vacant] at held
      cases held

end Dials

/-! ## Whole runs -/

section Runs

variable {setup : Setup}

/-- After a run the session is the one stored last. -/
theorem session_after (setup : Setup) (turns : List (Turn Payload))
    (controller : Controller Payload) :
    (after setup turns controller).session =
      (storedIn setup turns controller).getLast?.or controller.session := by
  induction turns generalizing controller with
  | nil =>
      rfl
  | cons turn rest inductionHypothesis =>
      rw [after, inductionHypothesis, (stores_take setup turn controller).session_eq, storedIn,
        List.getLast?_append, Option.or_assoc]
      cases turn.stored? controller <;> rfl

end Runs

end Controller

/-! ## The copy of the session -/

namespace Client

/-- The copy of the session is that of the controller, which is the one stored last. -/
structure ShowsSession (setup : Setup) (turns : List (Turn String)) (client : Client) : Prop where
  copy_eq : client.session = client.controller.session
  stored_eq :
    client.controller.session = (Controller.storedIn setup turns (.initial setup)).getLast?

/-- The copy keeps up with the controller at every moment of a client. -/
theorem showsSession_of_passes
    {setup : Setup} {token : Option String} {turns : List (Turn String)} {client : Client}
    (passes : (Client.start setup token).Passes turns client) :
    ShowsSession setup turns client := by
  induction passes with
  | starts =>
      exact ⟨rfl, rfl⟩
  | @tells turns middle stimulus passes running isTime shown =>
      have aside := setsAside_carryOutAll
        (middle.controller.take middle.setup (middle.turn stimulus)).outbox
        { middle with
          controller := middle.controller.take middle.setup (middle.turn stimulus) }
      have stores :=
        Controller.stores_take middle.setup (middle.turn stimulus) middle.controller
      have told := runs_of_passes (passes.tells stimulus running isTime)
      have stillRunning : (middle.tell stimulus).isRunning = true := by
        rw [tell_eq running, aside.isRunning_eq]
        exact running
      constructor
      · rw [tell_eq running, aside.session_eq, aside.controller_eq, stores.session_eq,
          stores.sessions_eq, shown.copy_eq]
        cases (middle.turn stimulus).stored? middle.controller <;> rfl
      · rw [told.controller_eq stillRunning, Controller.session_after]
        exact Option.or_none
  | @ends turns middle passes running shown =>
      have aside := setsAside_carryOutAll
        (Controller.windDown { middle.controller with outbox := [] }).outbox
        { middle with
          controller := Controller.windDown { middle.controller with outbox := [] }
          isRunning := false }
      have account := Controller.account_windDown middle.controller
      have kept : (Controller.windDown { middle.controller with outbox := [] }).session =
          middle.controller.session :=
        congrArg Account.session account
      have silent :
          sessionsOf (Controller.windDown { middle.controller with outbox := [] }).outbox = [] := by
        exact Controller.filterMap_outbox session?_of_isUpkeep account
      constructor
      · rw [windUp, aside.session_eq, aside.controller_eq, silent, kept]
        exact shown.copy_eq
      · rw [windUp, aside.controller_eq, kept]
        exact shown.stored_eq
  | setsAside passes aside shown =>
      constructor
      · rw [aside.session_eq, aside.controller_eq]
        exact shown.copy_eq
      · rw [aside.controller_eq]
        exact shown.stored_eq
  | waits passes later shown =>
      exact ⟨shown.copy_eq, shown.stored_eq⟩

end Client

/-! ## Current credentials -/

namespace Controller

/-- No dial is made with credentials of the past, and the client shows the session of the next. -/
structure CurrentCredentials (setup : Setup) (turns : List (Turn String)) : Prop where
  /-- The token of a dial is answered in the turn of the dial, and its session is stored last. -/
  dials :
    ∀ before turn rest serial token url, turns = before ++ turn :: rest →
      .dial serial token url ∈ ((after setup before (.initial setup)).take setup turn).outbox →
        (∃ place, turn.AsksForToken place ∧ turn.around.answers place = some token) ∧
          url = Settings.authorizedUrl setup.base token
            (storedIn setup (before ++ [turn]) (.initial setup)).getLast?
  /-- A connection is closed for another token only if there is one, and no later dial is made with
  the token that it had unless the provider answers that one again. -/
  cycles :
    ∀ before turn rest serial reason, turns = before ++ turn :: rest →
      .close serial Wire.CloseCode.tokenChanged reason ∈
          ((after setup before (.initial setup)).take setup turn).outbox →
        ∃ link, link.serial = serial ∧
          Cycles turn (after setup before (.initial setup))
            (after setup (before ++ [turn]) (.initial setup)) link ∧
          ∀ between later last next url, rest = between ++ later :: last →
            .dial next link.token url ∈
                ((after setup (before ++ turn :: between) (.initial setup)).take setup
                  later).outbox →
              ∃ place, later.AsksForToken place ∧ later.around.answers place = some link.token
  /-- At every moment of a client that passes through the run, its copy of the session is that of
  its controller. -/
  copies :
    ∀ token (client : Client), (Client.start setup token).Passes turns client →
      client.session = client.controller.session ∧
        client.session = (storedIn setup turns (.initial setup)).getLast?
  /-- So it is after any operations. -/
  operations :
    ∀ token (operations : List Client.Operation) (client : Client),
      operations.foldl Client.perform (Client.start setup token) = client →
        client.session = client.controller.session

/-- In every run, and at every moment of every client, credentials are current. -/
theorem credentials_current (setup : Setup) (turns : List (Turn String)) :
    CurrentCredentials setup turns := by
  constructor
  · intro before turn rest serial token url splits dialled
    have well := dialsWell_of_mem dialled
    refine ⟨well.answered, ?_⟩
    have session := session_after setup (before ++ [turn]) (.initial setup)
    rw [after_append] at session
    rw [show (initial setup : Controller String).session = none from rfl, Option.or_none]
      at session
    rw [well.url_eq, ← session]
    rfl
  · intro before turn rest serial reason splits closed
    obtain ⟨link, same, cycles⟩ := cycles_of_mem closed
    refine ⟨link, same, ?_, ?_⟩
    · rw [after_append]
      exact cycles
    · intro between later last next url _ dialled
      exact (dialsWell_of_mem dialled).answered
  · intro token client passes
    have shown := Client.showsSession_of_passes passes
    exact ⟨shown.copy_eq, shown.copy_eq.trans shown.stored_eq⟩
  · rintro token operations client rfl
    obtain ⟨passed, passes⟩ := Client.passes_performAll (Client.start setup token) operations
    exact (Client.showsSession_of_passes passes).copy_eq

def changedToken : List (Turn String) :=
  [⟨.steady (some "old"), .command (.connect (some "first"))⟩,
    ⟨.steady (some "old"), .report 1 .opened⟩,
    ⟨.steady (some "new"), .command (.connect none)⟩,
    ⟨.steady (some "new"), .timer .reconnect⟩]

example :
    (after .standard (changedToken.take 3) (.initial .standard)).link = none ∧
      (after .standard changedToken (.initial .standard)).link = some ⟨2, "new", false⟩ ∧
      storedIn .standard changedToken (.initial .standard) = ["first"] := by
  decide

end Controller

end Parley.Connection
