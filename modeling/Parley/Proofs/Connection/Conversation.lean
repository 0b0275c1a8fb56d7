import Parley.Proofs.Connection.Credentials
import Parley.Proofs.Connection.Halting

/-!
# Conversations

What the server says on an open connection reaches the observers, text by text, until it refuses
the token. The main statement is what becomes of each text of a conversation: packets are forwarded
in order, heartbeats are answered on the same connection, sessions are known before anyone hears of
them, and after a refusal nothing of the connection is heard any more.
-/

namespace Parley.Connection

variable {Payload : Type}

/-! ## What is heard -/

def Turn.text? (serial : Nat) (turn : Turn Payload) : Option String :=
  match turn.stimulus with
  | .report number (.text content) => if number = serial then some content else none
  | _ => none

def Turn.forwarded? (serial : Nat) (turn : Turn Payload) : Option Wire.Packet :=
  (turn.text? serial).bind Wire.forwarded?

def Turn.announced? (serial : Nat) (turn : Turn Payload) : Option String :=
  (turn.text? serial).bind Wire.announced?

def Turn.refuses (serial : Nat) (turn : Turn Payload) : Bool :=
  ((turn.text? serial).bind Wire.refusal?).isSome

/-- The user does no more than send, and the connection neither opens anew nor ends. -/
def Turn.letsTalk (serial : Nat) (turn : Turn Payload) : Bool :=
  match turn.stimulus with
  | .command (.send _) => true
  | .command _ => false
  | .timer _ => true
  | .report number .opened => number ≠ serial
  | .report number (.closed _ _) => number ≠ serial
  | .report _ _ => true

/-- What is heard of a conversation: everything up to the first refusal. -/
def heardOf (serial : Nat) (talk : List (Turn Payload)) : List (Turn Payload) :=
  talk.takeWhile (! ·.refuses serial)

/-! ## What is said -/

/-- The frames that a turn of a conversation puts on its connection: what is sent, and answers to
heartbeats, as long as the connection takes them. -/
def Turn.frames (serial : Nat) (turn : Turn String) : List Frame :=
  match turn.stimulus with
  | .command (.send content) => if turn.around.accepts 0 then [.text content] else []
  | _ =>
      if (turn.text? serial).any Wire.isHeartbeat && turn.around.accepts 0 then
        [.text Wire.heartbeatAnswer]
      else []

/-- The frame that is handed over for writing, with the connection that is to write it. -/
def Effect.frame? : Effect String → Option (Nat × Frame)
  | .handOver serial content => some (serial, .text content)
  | .answerHeartbeat serial => some (serial, .text Wire.heartbeatAnswer)
  | .close serial code reason => some (serial, .close code reason)
  | _ => none

def framesOf (effects : List (Effect String)) : List (Nat × Frame) :=
  effects.filterMap Effect.frame?

def Effect.message? : Effect Payload → Option Wire.Packet
  | .message packet => some packet
  | _ => none

def messagesOf (effects : List (Effect Payload)) : List Wire.Packet :=
  effects.filterMap Effect.message?

/-- A conversation ends with a close frame if the token is refused. -/
def farewellFrames (serial : Nat) (talk : List (Turn Payload)) : List Frame :=
  if talk.any (·.refuses serial) then [.close Wire.CloseCode.normal "auth failure"] else []

@[simp]
theorem framesOf_append (first second : List (Effect String)) :
    framesOf (first ++ second) = framesOf first ++ framesOf second :=
  List.filterMap_append

@[simp]
theorem messagesOf_append (first second : List (Effect Payload)) :
    messagesOf (first ++ second) = messagesOf first ++ messagesOf second :=
  List.filterMap_append

namespace Controller

/-! ## One text -/

section Texts

variable {turn : Turn Payload} {before : Controller Payload} {link : Link} {content : String}

theorem heard?_of_text?
    (held : before.link = some link) (brings : turn.text? link.serial = some content) :
    turn.heard? before = some (.text content) := by
  unfold Turn.text? at brings
  split at brings
  next number said told =>
    by_cases same : number = link.serial
    · rw [if_pos same] at brings
      cases brings
      exact heard?_eq_some_iff.mpr ⟨number, link, told, held, same.symm⟩
    · rw [if_neg same] at brings
      cases brings
  next =>
    cases brings

/-- A text that is no packet does nothing at all. -/
theorem take_of_malformed
    {cause : Wire.Packet.Defect} (setup : Setup) (held : before.link = some link)
    (brings : turn.text? link.serial = some content)
    (broken : Wire.Packet.parse content = .error cause) :
    before.take setup turn = { before with outbox := [] } := by
  obtain ⟨_, _, takes⟩ := take_of_text setup (heard?_of_text? held brings)
  rw [takes, onText, Wire.Arrival.ofText_eq_malformed_iff.mpr broken]

/-- A heartbeat is answered on an open connection, if that takes the answer. -/
theorem take_of_heartbeat
    (setup : Setup) (held : before.link = some link) (linkOpen : link.isOpen = true)
    (brings : turn.text? link.serial = some content) (asks : Wire.isHeartbeat content = true) :
    before.take setup turn =
      { before with
        outbox := if turn.around.accepts 0 then [.answerHeartbeat link.serial] else [] } := by
  obtain ⟨_, _, takes⟩ := take_of_text setup (heard?_of_text? held brings)
  rw [takes, onText, Wire.Arrival.ofText_eq_heartbeat_iff.mpr asks]
  by_cases accepted : turn.around.accepts 0 = true
  · simp [held, Option.filter, linkOpen, accepted, emit]
  · simp [held, Option.filter, linkOpen, accepted]

/-- A packet is forwarded, after the session that it announces is known. -/
theorem take_of_forwarded
    {packet : Wire.Packet} (setup : Setup) (held : before.link = some link)
    (brings : turn.text? link.serial = some content)
    (holds : Wire.forwarded? content = some packet) :
    before.take setup turn =
      { before with
        session := packet.announced?.or before.session
        outbox := (packet.announced?.map .session).toList ++ [.message packet] } := by
  obtain ⟨_, _, takes⟩ := take_of_text setup (heard?_of_text? held brings)
  rw [takes, onText, Wire.Arrival.ofText_eq_message_iff.mpr holds]
  cases announces : packet.announced? with
  | none =>
      simp [announces, emit]
  | some session =>
      simp [announces, adoptSession, emit]

end Texts

/-! ## One turn -/

section Turns

variable {setup : Setup} {turn : Turn String} {before after : Controller String} {serial : Nat}
  {link : Link}

/-- What a turn of a conversation does to what is heard and said. -/
structure Talks (serial : Nat) (turn : Turn String) (before after : Controller String) : Prop where
  link_eq : after.link = before.link
  session_eq : after.session = (turn.announced? serial).or before.session
  messages_eq : messagesOf after.outbox = (turn.forwarded? serial).toList
  frames_eq : framesOf after.outbox = (turn.frames serial).map (serial, ·)

/-- Nothing is said in the turn, and it does nothing that is heard or said. -/
theorem talks_of_silence
    (noText : turn.text? serial = none)
    (unsent : ∀ content, turn.stimulus ≠ .command (.send content))
    (link : after.link = before.link) (session : after.session = before.session)
    (silent : ∀ effect ∈ after.outbox, effect.message? = none ∧ effect.frame? = none) :
    Talks serial turn before after where
  link_eq := link
  session_eq := by
    rw [Turn.announced?, noText]
    exact session
  messages_eq := by
    rw [Turn.forwarded?, noText]
    exact List.filterMap_eq_nil_iff.mpr fun effect member => (silent effect member).1
  frames_eq := by
    have noFrames : turn.frames serial = [] := by
      unfold Turn.frames
      split
      next content told =>
        exact absurd told (unsent content)
      next =>
        simp [noText]
    rw [noFrames]
    exact List.filterMap_eq_nil_iff.mpr fun effect member => (silent effect member).2

/-- While a connection is open, nothing but a refusal can be due. -/
theorem Provisioned.due?_of_open
    {controller : Controller Payload} {timer : Timer} (provisioned : controller.Provisioned)
    (held : controller.link = some link) (linkOpen : link.isOpen = true)
    (armed : (controller.timers.due? timer).isSome = true) : timer = .refusalNotice := by
  have opened : controller.phase = .opened :=
    provisioned.coherent.open_iff.mp ⟨link, held, linkOpen⟩
  unfold Provisioned at provisioned
  rw [opened] at provisioned
  obtain ⟨_, noLook, noReconnect, noCountdown⟩ := provisioned
  cases timer with
  | refusalNotice =>
      rfl
  | _ =>
      simp [Schedule.due?, noLook, noReconnect, noCountdown] at armed

theorem talks_of_send
    {content : String} (held : before.link = some link) (linkOpen : link.isOpen = true)
    (told : turn.stimulus = .command (.send content)) :
    Talks link.serial turn before (before.take setup turn) := by
  have noText : turn.text? link.serial = none := by
    simp [Turn.text?, told]
  by_cases accepted : turn.around.accepts 0 = true
  · have sends : before.take setup turn =
        { before with outbox := [.handOver link.serial content] } := by
      simp [take, step, told, onCommand, send, held, Option.filter, linkOpen, handOver, accepted,
        emit]
    rw [sends]
    constructor
    · rfl
    · simp [Turn.announced?, noText]
    · simp [Turn.forwarded?, noText, messagesOf, Effect.message?]
    · simp [Turn.frames, told, accepted, framesOf, Effect.frame?]
  · have keeps : before.take setup turn = enqueue content { before with outbox := [] } := by
      simp [take, step, told, onCommand, send, held, Option.filter, linkOpen, handOver, accepted]
    rw [keeps, enqueue_eq]
    constructor
    · rfl
    · simp [Turn.announced?, noText]
    · cases (before.backlog.push content).2 <;>
        simp [Turn.forwarded?, noText, messagesOf, Effect.message?]
    · cases (before.backlog.push content).2 <;>
        simp [Turn.frames, told, accepted, framesOf, Effect.frame?]

theorem talks_of_text
    {content : String} (held : before.link = some link) (linkOpen : link.isOpen = true)
    (brings : turn.text? link.serial = some content) (goesOn : turn.refuses link.serial = false) :
    Talks link.serial turn before (before.take setup turn) := by
  have unsent (payload : String) : turn.stimulus ≠ .command (.send payload) := by
    intro told
    simp [Turn.text?, told] at brings
  have frames : turn.frames link.serial =
      if Wire.isHeartbeat content && turn.around.accepts 0 then [.text Wire.heartbeatAnswer]
      else [] := by
    unfold Turn.frames
    split
    next payload told =>
      exact absurd told (unsent payload)
    next =>
      simp [brings]
  cases means : Wire.Arrival.ofText content with
  | malformed cause =>
      have broken := Wire.Arrival.ofText_eq_malformed_iff.mp means
      rw [take_of_malformed setup held brings broken]
      constructor
      · rfl
      · simp [Turn.announced?, brings, Wire.announced?_eq_none means]
      · simp [Turn.forwarded?, brings, Wire.forwarded?_eq_none means, messagesOf]
      · simp [frames, Wire.isHeartbeat_eq_false means, framesOf]
  | heartbeat =>
      have asks := Wire.Arrival.ofText_eq_heartbeat_iff.mp means
      rw [take_of_heartbeat setup held linkOpen brings asks]
      constructor
      · rfl
      · simp [Turn.announced?, brings, Wire.announced?_eq_none means]
      · by_cases accepted : turn.around.accepts 0 = true
        · simp [Turn.forwarded?, brings, Wire.forwarded?_eq_none means, messagesOf, accepted,
            Effect.message?]
        · simp [Turn.forwarded?, brings, Wire.forwarded?_eq_none means, messagesOf, accepted]
      · by_cases accepted : turn.around.accepts 0 = true
        · simp [frames, asks, framesOf, accepted, Effect.frame?]
        · simp [frames, framesOf, accepted]
  | refusal message =>
      have holds := Wire.Arrival.ofText_eq_refusal_iff.mp means
      simp [Turn.refuses, brings, holds] at goesOn
  | message packet =>
      have holds := Wire.Arrival.ofText_eq_message_iff.mp means
      have announces : Wire.announced? content = packet.announced? := by
        rw [Wire.announced?_eq, holds, Option.bind_some]
      rw [take_of_forwarded setup held brings holds]
      constructor
      · rfl
      · simp [Turn.announced?, brings, announces]
      · cases packet.announced? <;>
          simp [Turn.forwarded?, brings, holds, messagesOf, List.filterMap_cons, Effect.message?]
      · cases packet.announced? <;>
          simp [frames, Wire.isHeartbeat_eq_false means, framesOf, Effect.frame?]

/-- A conversation goes on in every turn that does not refuse the token. -/
theorem talks_take
    (setup : Setup) (provisioned : before.Provisioned) (held : before.link = some link)
    (linkOpen : link.isOpen = true) (can : before.canTake turn.stimulus = true)
    (talks : turn.letsTalk link.serial = true) (goesOn : turn.refuses link.serial = false) :
    Talks link.serial turn before (before.take setup turn) := by
  cases told : turn.stimulus with
  | command order =>
      cases order with
      | send content =>
          exact talks_of_send held linkOpen told
      | _ =>
          simp [Turn.letsTalk, told] at talks
  | timer timer =>
      rw [told] at can
      have isNotice := provisioned.due?_of_open held linkOpen can
      subst isNotice
      refine talks_of_silence (by simp [Turn.text?, told]) (by simp [told]) ?_ ?_ ?_
      · simp [take, step, told, onTimer, onRefusalNotice_eq]
      · simp [take, step, told, onTimer, onRefusalNotice_eq]
      · cases untold : before.untoldRefusal <;>
          simp [take, step, told, onTimer, onRefusalNotice_eq, untold, Effect.message?,
            Effect.frame?]
  | report number report =>
      have unsent (content : String) : turn.stimulus ≠ .command (.send content) := by
        simp [told]
      by_cases same : number = link.serial
      · subst same
        cases report with
        | opened =>
            simp [Turn.letsTalk, told] at talks
        | closed code reason =>
            simp [Turn.letsTalk, told] at talks
        | text content =>
            have brings : turn.text? link.serial = some content := by
              simp [Turn.text?, told]
            exact talks_of_text held linkOpen brings goesOn
        | failed cause =>
            have heard : turn.heard? before = some (.failed cause) :=
              heard?_eq_some_iff.mpr ⟨link.serial, link, told, held, rfl⟩
            rw [take_of_failed setup heard, publishState_eq]
            refine talks_of_silence (by simp [Turn.text?, told]) unsent rfl rfl ?_
            unfold stateNotice
            split <;> simp [Effect.message?, Effect.frame?]
      · have other : before.link.map (·.serial) ≠ some number := by
          rw [held]
          simpa using fun isSerial : link.serial = number => same isSerial.symm
        rw [take_of_other setup told other]
        refine talks_of_silence ?_ unsent rfl rfl (by simp)
        cases report <;> simp [Turn.text?, told, same]

/-! ## A refusal -/

/-- A refusal gives the connection up with a close frame, and nothing of it is forwarded. -/
structure Silences (serial : Nat) (before after : Controller String) : Prop where
  phase_eq : after.phase = .halted .refused
  link_eq : after.link = none
  session_eq : after.session = before.session
  messages_eq : messagesOf after.outbox = []
  frames_eq : framesOf after.outbox = [(serial, .close Wire.CloseCode.normal "auth failure")]

/-- The turn that brings the refusal gives the connection up. -/
theorem silences_take
    (setup : Setup) (held : before.link = some link) (linkOpen : link.isOpen = true)
    (refuses : turn.refuses link.serial = true) :
    Silences link.serial before (before.take setup turn) := by
  obtain ⟨message, refusal⟩ := Option.isSome_iff_exists.mp refuses
  obtain ⟨content, brings, holds⟩ := Option.bind_eq_some_iff.mp refusal
  have means := Wire.Arrival.ofText_eq_refusal_iff.mpr holds
  have takes := take_of_refused setup (heard?_of_text? held brings) means
  have outbox : (before.take setup turn).outbox =
      .close link.serial Wire.CloseCode.normal "auth failure" ::
        (discardNotice before.backlog ++ stateNotice before.state .disconnected ++
          downNotice before.isOpen) := by
    rw [takes, onRefusal, halt_eq]
    simp [farewells, Link.farewell, held, linkOpen, isOpen]
  have observed {Seen : Type} (observe : Effect String → Option Seen)
      (discarded : ∀ payloads, observe (.discarded payloads) = none)
      (state : observe (.state .disconnected) = none)
      (status : observe (.status .down) = none) :
      (before.take setup turn).outbox.filterMap observe =
        (observe (.close link.serial Wire.CloseCode.normal "auth failure")).toList := by
    rw [outbox, List.filterMap_cons, List.filterMap_append, List.filterMap_append,
      filterMap_discardNotice observe before.backlog discarded,
      filterMap_stateNotice observe before.state .disconnected state,
      filterMap_downNotice observe before.isOpen status]
    cases observe (.close link.serial Wire.CloseCode.normal "auth failure") <;> rfl
  constructor
  · rw [takes, onRefusal, halt_eq]
  · rw [takes, onRefusal, halt_eq]
  · rw [takes, onRefusal, halt_eq]
  · exact observed Effect.message? (fun _ => rfl) rfl rfl
  · exact observed Effect.frame? (fun _ => rfl) rfl rfl

end Turns

/-! ## Whole conversations -/

section Runs

variable {setup : Setup} {before : Controller String} {talk : List (Turn String)} {link : Link}

/-- What a halted controller does is neither heard nor said. -/
theorem silent_of_offline
    {effect : Effect String} (offline : effect.isOffline = true) :
    effect.message? = none ∧ effect.frame? = none := by
  cases effect with
  | message packet =>
      cases offline
  | handOver serial content =>
      cases offline
  | answerHeartbeat serial =>
      cases offline
  | close serial code reason =>
      cases offline
  | _ =>
      exact ⟨rfl, rfl⟩

/-- A halted controller that is not asked for a connection stores no session. -/
theorem storedIn_of_resting
    {why : Halt} (resting : before.Resting why)
    (unasked : ∀ turn ∈ talk, turn.asksAnew = false)
    (timely : isTimely setup talk before = true) : storedIn setup talk before = [] := by
  induction talk generalizing before why with
  | nil =>
      rfl
  | cons turn rest inductionHypothesis =>
      obtain ⟨can, restTimely⟩ := Bool.and_eq_true_iff.mp timely
      obtain ⟨turnUnasked, restUnasked⟩ := List.forall_mem_cons.mp unasked
      have now := rests_take setup resting turnUnasked can
      have unstored : turn.stored? before = none := by
        apply stored?_eq_none
        · intro session told
          simp [Turn.asksAnew, told] at turnUnasked
        · intro content heard
          obtain ⟨serial, link, told, held, same⟩ := heard?_eq_some_iff.mp heard
          rw [resting.link_eq] at held
          cases held
      rw [storedIn, unstored, inductionHypothesis now.resting restUnasked restTimely]
      rfl

theorem not_asksAnew_of_letsTalk
    {serial : Nat} {turn : Turn Payload} (talks : turn.letsTalk serial = true) :
    turn.asksAnew = false := by
  unfold Turn.letsTalk at talks
  unfold Turn.asksAnew
  split
  next session told =>
    rw [told] at talks
    cases talks
  next told =>
    rw [told] at talks
    cases talks
  next =>
    rfl

structure Conversed (setup : Setup) (serial : Nat) (talk : List (Turn String))
    (before : Controller String) : Prop where
  messages_eq :
    messagesOf (effects setup talk before) = (heardOf serial talk).filterMap (·.forwarded? serial)
  frames_eq :
    framesOf (effects setup talk before) =
      ((heardOf serial talk).flatMap (·.frames serial) ++ farewellFrames serial talk).map
        (serial, ·)
  session_eq :
    (after setup talk before).session =
      ((heardOf serial talk).filterMap (·.announced? serial)).getLast?.or before.session

/-- The first refusal ends a conversation, whatever else comes. -/
theorem conversed_of_refusal
    {turn : Turn String} {rest : List (Turn String)} (provisioned : before.Provisioned)
    (held : before.link = some link) (linkOpen : link.isOpen = true)
    (timely : isTimely setup (turn :: rest) before = true)
    (talks : ∀ turn ∈ rest, turn.letsTalk link.serial = true)
    (refuses : turn.refuses link.serial = true) :
    Conversed setup link.serial (turn :: rest) before := by
  obtain ⟨can, restTimely⟩ := Bool.and_eq_true_iff.mp timely
  have silences := silences_take setup held linkOpen refuses
  have next := (sound_take setup turn provisioned can).provisioned
  have resting := next.resting silences.phase_eq
  have unasked : ∀ turn ∈ rest, turn.asksAnew = false :=
    fun turn member => not_asksAnew_of_letsTalk (talks turn member)
  have rests := rests_run resting unasked restTimely
  have unheard : heardOf link.serial (turn :: rest) = [] := by
    simp [heardOf, refuses]
  constructor
  · rw [unheard, effects, messagesOf_append, silences.messages_eq]
    exact List.filterMap_eq_nil_iff.mpr fun effect member =>
      (silent_of_offline (rests.offline effect member)).1
  · have noFrames : framesOf (effects setup rest (before.take setup turn)) = [] :=
      List.filterMap_eq_nil_iff.mpr fun effect member =>
        (silent_of_offline (rests.offline effect member)).2
    rw [unheard, effects, framesOf_append, silences.frames_eq, noFrames]
    simp [farewellFrames, refuses]
  · rw [unheard, after, session_after, storedIn_of_resting resting unasked restTimely]
    exact silences.session_eq

/-- What comes of a talk of any length on an open connection. -/
theorem conversed_run
    (provisioned : before.Provisioned) (held : before.link = some link)
    (linkOpen : link.isOpen = true) (timely : isTimely setup talk before = true)
    (talks : ∀ turn ∈ talk, turn.letsTalk link.serial = true) :
    Conversed setup link.serial talk before := by
  induction talk generalizing before with
  | nil =>
      exact ⟨rfl, rfl, rfl⟩
  | cons turn rest inductionHypothesis =>
      obtain ⟨turnTalks, restTalks⟩ := List.forall_mem_cons.mp talks
      -- Up to the first refusal the link is kept, which is what the induction needs of it.
      cases refuses : turn.refuses link.serial with
      | true =>
          exact conversed_of_refusal provisioned held linkOpen timely restTalks refuses
      | false =>
          obtain ⟨can, restTimely⟩ := Bool.and_eq_true_iff.mp timely
          have now := talks_take setup provisioned held linkOpen can turnTalks refuses
          have next := (sound_take setup turn provisioned can).provisioned
          have later :=
            inductionHypothesis next (now.link_eq.trans held) restTimely restTalks
          have hears : heardOf link.serial (turn :: rest) = turn :: heardOf link.serial rest := by
            simp [heardOf, refuses]
          have farewells : farewellFrames link.serial (turn :: rest) =
              farewellFrames link.serial rest := by
            simp [farewellFrames, refuses]
          constructor
          · rw [hears, effects, messagesOf_append, now.messages_eq, later.messages_eq,
              List.filterMap_cons]
            cases turn.forwarded? link.serial <;> rfl
          · rw [hears, farewells, effects, framesOf_append, now.frames_eq, later.frames_eq]
            simp only [List.flatMap_cons, List.map_append, List.append_assoc]
          · rw [hears, after, later.session_eq, now.session_eq, List.filterMap_cons]
            cases turn.announced? link.serial with
            | none =>
                rfl
            | some session =>
                simp only [List.getLast?_cons]
                cases ((heardOf link.serial rest).filterMap
                  (·.announced? link.serial)).getLast? <;> rfl

/-- Until the token is refused, a conversation stays on its connection. -/
theorem link_after_talk
    (provisioned : before.Provisioned) (held : before.link = some link)
    (linkOpen : link.isOpen = true) (timely : isTimely setup talk before = true)
    (talks : ∀ turn ∈ talk, turn.letsTalk link.serial = true)
    (goesOn : ∀ turn ∈ talk, turn.refuses link.serial = false) :
    (after setup talk before).link = some link := by
  induction talk generalizing before with
  | nil =>
      exact held
  | cons turn rest inductionHypothesis =>
      obtain ⟨turnTalks, restTalks⟩ := List.forall_mem_cons.mp talks
      obtain ⟨turnGoesOn, restGoesOn⟩ := List.forall_mem_cons.mp goesOn
      obtain ⟨can, restTimely⟩ := Bool.and_eq_true_iff.mp timely
      have now := talks_take setup provisioned held linkOpen can turnTalks turnGoesOn
      have next := (sound_take setup turn provisioned can).provisioned
      exact inductionHypothesis next (now.link_eq.trans held) restTimely restTalks restGoesOn

/-- A connection that was held and is given up is never held again. -/
theorem not_held_again
    {turns more : List (Turn String)}
    (held : (after setup turns (.initial setup)).link = some link)
    (vacant : (after setup (turns ++ more) (.initial setup)).link = none)
    (further : List (Turn String)) :
    (after setup (turns ++ more ++ further) (.initial setup)).link.map (·.serial) ≠
      some link.serial := by
  have dialledThere :
      link.serial ∈ dialled (livesIn setup turns (.initial setup : Controller String)) := by
    have lives := (succeeds_run setup turns).living_eq
    rw [held] at lives
    have livesThere :
        link.serial ∈ living ([] ++ livesIn setup turns (.initial setup : Controller String)) := by
      rw [List.nil_append, lives]
      exact List.mem_singleton_self link.serial
    rcases mem_living_append livesThere with nowhere | isDialled
    · cases nowhere
    · exact isDialled
  have isFormer :
      IsFormer (livesIn setup (turns ++ more) (.initial setup : Controller String))
        link.serial := by
    have lives := (succeeds_run setup (turns ++ more)).living_eq
    rw [vacant] at lives
    constructor
    · rw [livesIn_append, dialled_append]
      exact List.mem_append_left _ dialledThere
    · rw [lives]
      exact List.not_mem_nil
  have succeeds := succeeds_run setup (turns ++ more ++ further)
  rw [livesIn_append] at succeeds
  exact succeeds.not_held (succeeds.former_append isFormer)

/-- A turn that is heard of a conversation comes before any refusal. -/
theorem heardOf_splits
    {serial : Nat} {first rest : List (Turn String)} {turn : Turn String}
    (splits : heardOf serial talk = first ++ turn :: rest) :
    first ++ [turn] <+: talk ∧ (∀ earlier ∈ first, earlier.refuses serial = false) ∧
      turn.refuses serial = false := by
  have heard (member : Turn String) (isHeard : member ∈ heardOf serial talk) :
      member.refuses serial = false := by
    simpa using List.all_eq_true.mp List.all_takeWhile member isHeard
  refine ⟨?_, ?_, ?_⟩
  · have whole : first ++ [turn] <+: heardOf serial talk := by
      rw [splits]
      exact ⟨rest, by simp⟩
    exact whole.trans (List.takeWhile_prefix _)
  · intro earlier member
    apply heard
    rw [splits]
    exact List.mem_append_left _ member
  · apply heard
    rw [splits]
    exact List.mem_append_right _ List.mem_cons_self

/-! ## The contract -/

/-- What becomes of the texts of a conversation on an open connection. -/
structure InboundContract (setup : Setup) (before talk : List (Turn String)) (serial : Nat) :
    Prop where
  /-- Packets are forwarded once each and in order, up to the first refusal. -/
  messages_eq :
    messagesOf (effects setup talk (after setup before (.initial setup))) =
      (heardOf serial talk).filterMap (·.forwarded? serial)
  /-- Heartbeats are answered once each, in order with what is sent, and nothing follows the close
  frame. -/
  frames_eq :
    framesOf (effects setup talk (after setup before (.initial setup))) =
      ((heardOf serial talk).flatMap (·.frames serial) ++ farewellFrames serial talk).map
        (serial, ·)
  /-- After each turn the session is the one announced last. -/
  session_eq :
    ∀ first, first <+: talk →
      (after setup (before ++ first) (.initial setup)).session =
        ((heardOf serial first).filterMap (·.announced? serial)).getLast?.or
          (after setup before (.initial setup)).session
  /-- A text that is no packet changes nothing and does nothing. -/
  malformed :
    ∀ first turn rest content cause, heardOf serial talk = first ++ turn :: rest →
      turn.text? serial = some content → Wire.Packet.parse content = .error cause →
        (after setup (before ++ first) (.initial setup)).take setup turn =
          { after setup (before ++ first) (.initial setup) with outbox := [] }
  /-- The session that a packet announces is known before anyone is told of the packet. -/
  known :
    ∀ first turn rest packet, heardOf serial talk = first ++ turn :: rest →
      turn.forwarded? serial = some packet →
        ((after setup (before ++ first) (.initial setup)).take setup turn).outbox =
          (packet.announced?.map .session).toList ++ [.message packet]
  /-- So it is for the copy that the client shows: as each observer is told once of the packet, the
  copy already is the session announced last. -/
  observed :
    ∀ token first content packet (client : Client), first <+: talk →
      (∀ earlier ∈ first, earlier.refuses serial = false) →
      (Client.start setup token).Passes (before ++ first) client → client.isRunning = true →
      Wire.forwarded? content = some packet →
        ∃ known : Client,
          known.session =
              packet.announced?.or
                (((heardOf serial first).filterMap (·.announced? serial)).getLast?.or
                  (after setup before (.initial setup)).session) ∧
            known.log = client.log ∧ known.messages = client.messages ∧
            client.tell (.report serial (.text content)) =
              known.record (known.messages.observers.map (.message · packet))
  /-- Once the token is refused, no report of the connection does anything, whatever follows. -/
  silenced :
    ∀ first turn rest, talk = first ++ turn :: rest →
      (∀ earlier ∈ first, earlier.refuses serial = false) → turn.refuses serial = true →
      ∀ between late report, late.stimulus = .report serial report →
        (after setup (before ++ first ++ [turn] ++ between) (.initial setup)).take setup late =
          { after setup (before ++ first ++ [turn] ++ between) (.initial setup) with
            outbox := [] }

/-- To tell a client of a packet makes the session known that it announces, and then calls each
observer once. -/
theorem tell_of_forwarded
    {client : Client} {content : String} {packet : Wire.Packet} (running : client.isRunning = true)
    (held : client.controller.link = some link) (holds : Wire.forwarded? content = some packet) :
    ∃ known : Client, known.session = packet.announced?.or client.session ∧
      known.log = client.log ∧ known.messages = client.messages ∧
      client.tell (.report link.serial (.text content)) =
        known.record (known.messages.observers.map (.message · packet)) := by
  have brings : (client.turn (.report link.serial (.text content))).text? link.serial =
      some content := by
    simp [Client.turn, Turn.text?]
  have outbox := congrArg Controller.outbox (take_of_forwarded client.setup held brings holds)
  rw [Client.tell_eq running, outbox, List.foldl_append]
  refine ⟨_, ?_, ?_, ?_, rfl⟩
  · cases packet.announced? <;> rfl
  · cases packet.announced? <;> rfl
  · cases packet.announced? <;> rfl

/-- Whatever is heard and sent on an open connection, as timers fire between, comes to what the
contract says. -/
theorem inbound_contract
    (setup : Setup) (before talk : List (Turn String)) (serial : Nat) (token : String)
    (timely : isTimely setup (before ++ talk) (.initial setup) = true)
    (held : (after setup before (.initial setup)).link = some ⟨serial, token, true⟩)
    (talks : ∀ turn ∈ talk, turn.letsTalk serial = true) :
    InboundContract setup before talk serial := by
  obtain ⟨beforeTimely, talkTimely⟩ := isTimely_append.mp timely
  have provisioned := provisioned_after (initial_provisioned setup) beforeTimely
  have whole := conversed_run provisioned held rfl talkTimely talks
  have conversed (first : List (Turn String)) (isFirst : first <+: talk) :
      Conversed setup serial first (after setup before (.initial setup)) := by
    obtain ⟨rest, rfl⟩ := isFirst
    exact conversed_run provisioned held rfl (isTimely_append.mp talkTimely).1
      fun turn member => talks turn (List.mem_append_left _ member)
  have stays (first : List (Turn String)) (isFirst : first <+: talk)
      (goesOn : ∀ earlier ∈ first, earlier.refuses serial = false) :
      (after setup (before ++ first) (.initial setup)).link = some ⟨serial, token, true⟩ := by
    obtain ⟨rest, rfl⟩ := isFirst
    rw [after_append]
    exact link_after_talk provisioned held rfl (isTimely_append.mp talkTimely).1
      (fun turn member => talks turn (List.mem_append_left _ member)) goesOn
  have heardLink (first rest : List (Turn String)) (turn : Turn String)
      (splits : heardOf serial talk = first ++ turn :: rest) :
      (after setup (before ++ first) (.initial setup)).link = some ⟨serial, token, true⟩ := by
    obtain ⟨isFirst, goesOn, _⟩ := heardOf_splits splits
    exact stays first ((List.prefix_append first [turn]).trans isFirst) goesOn
  constructor
  · exact whole.messages_eq
  · exact whole.frames_eq
  · intro first isFirst
    rw [after_append]
    exact (conversed first isFirst).session_eq
  · intro first turn rest content cause splits brings broken
    exact take_of_malformed setup (heardLink first rest turn splits) brings broken
  · intro first turn rest packet splits forwards
    obtain ⟨content, brings, holds⟩ := Option.bind_eq_some_iff.mp forwards
    exact congrArg Controller.outbox
      (take_of_forwarded setup (heardLink first rest turn splits) brings holds)
  · intro answer first content packet client isFirst goesOn passes running holds
    have shown := Client.showsSession_of_passes passes
    have stands := (Client.runs_of_passes passes).controller_eq running
    have clientHeld : client.controller.link = some ⟨serial, token, true⟩ := by
      rw [stands]
      exact stays first isFirst goesOn
    have session := (conversed first isFirst).session_eq
    rw [← after_append, ← stands, ← shown.copy_eq] at session
    rw [← session]
    exact tell_of_forwarded running clientHeld holds
  · intro first turn rest splits goesOn refuses between late report told
    have isFirst : first <+: talk := ⟨turn :: rest, splits.symm⟩
    have heldThere := stays first isFirst goesOn
    have vacant :
        (after setup (before ++ first ++ [turn]) (.initial setup)).link = none := by
      rw [after_append]
      exact (silences_take setup heldThere rfl refuses).link_eq
    exact take_of_other setup told (not_held_again heldThere vacant between)

end Runs

def greeted : List (Turn String) :=
  [⟨.steady (some "key"), .command (.connect none)⟩,
    ⟨.steady (some "key"), .report 1 .opened⟩]

/-- A heartbeat, a text that is sent, a new session, a text that is no packet and a refusal, after
which the server goes on. -/
def refusedTalk : List (Turn String) :=
  [⟨.steady (some "key"), .report 1 (.text "\x7b\"type\":\"ping\"\x7d")⟩,
    ⟨.steady (some "key"), .command (.send "hello")⟩,
    ⟨.steady (some "key"),
      .report 1 (.text "\x7b\"type\":\"session_created\",\"sessionId\":\"second\"\x7d")⟩,
    ⟨.steady (some "key"), .report 1 (.text "no packet")⟩,
    ⟨.steady (some "key"),
      .report 1 (.text "\x7b\"type\":\"Error\",\"message\":\"Unauthorized\"\x7d")⟩,
    ⟨.steady (some "key"), .report 1 (.text "\x7b\"type\":\"ping\"\x7d")⟩]

theorem inbound_contract_of_refusedTalk :
    isTimely .standard (greeted ++ refusedTalk) (.initial .standard) = true ∧
      (after .standard greeted (.initial .standard)).link = some ⟨1, "key", true⟩ ∧
      (∀ turn ∈ refusedTalk, turn.letsTalk 1 = true) ∧
      InboundContract .standard greeted refusedTalk 1 :=
  ⟨by decide, by decide, by decide,
    inbound_contract .standard greeted refusedTalk 1 "key" (by decide) (by decide) (by decide)⟩

end Controller

end Parley.Connection
