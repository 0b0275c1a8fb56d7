import Parley.Proofs.Connection.Deeds
import Parley.Proofs.Connection.Halting

/-!
# Notices of refusals

As the server refuses the token everything halts at once, but observers hear of it after a while.
The main statement is which refusal they hear of, that they hear of each at most once, and that what
they hear is out of date exactly if the user has asked for a connection meanwhile without starting
over.
-/

namespace Parley.Connection

variable {Payload : Type}

/-! ## Refusals and what is told of them -/

/-- The refusal that the connection that is held brings in a turn. -/
def Turn.refusal? (turn : Turn Payload) (controller : Controller Payload) : Option String :=
  match turn.heard? controller with
  | some (.text content) => Wire.refusal? content
  | _ => none

/-- The turn leaves it to be told of the last refusal. -/
def Turn.sparesNotice (turn : Turn Payload) (controller : Controller Payload) : Bool :=
  match turn.stimulus with
  | .command .disconnect => false
  | .command .startOver => false
  | .timer .refusalNotice => false
  | _ => (turn.refusal? controller).isNone

def Effect.told? : Effect Payload → Option String
  | .refusal reason => some reason
  | _ => none

/-- The refusals that observers are told of, in order. -/
def toldOf (effects : List (Effect Payload)) : List String :=
  effects.filterMap Effect.told?

theorem mem_toldOf_iff {message : String} {effects : List (Effect Payload)} :
    message ∈ toldOf effects ↔ .refusal message ∈ effects := by
  constructor
  · intro member
    obtain ⟨effect, isDone, isTold⟩ := List.mem_filterMap.mp member
    cases effect with
    | refusal told =>
        cases isTold
        exact isDone
    | _ =>
        cases isTold
  · intro isDone
    exact List.mem_filterMap.mpr ⟨_, isDone, rfl⟩

theorem told?_of_isUpkeep (effect : Effect Payload) (upkeep : effect.isUpkeep = true) :
    effect.told? = none := by
  cases effect with
  | refusal message =>
      cases upkeep
  | _ =>
      rfl

namespace Controller

/-! ## One turn -/

section Turns

variable {setup : Setup} {turn : Turn Payload} {before after : Controller Payload}

/-- What a turn does about the refusal that is still to be told. -/
inductive Minds (setup : Setup) (turn : Turn Payload) (before after : Controller Payload) :
    Prop where
  | refuses (message : String) (refusal : turn.refusal? before = some message)
      (untold : after.untoldRefusal = some message)
      (notice : after.timers.refusalNotice = some (turn.around.now + setup.settings.noticeDelay))
      (silent : toldOf after.outbox = [])
  | tells (told : turn.stimulus = .timer .refusalNotice) (goesOn : turn.refusal? before = none)
      (notice : after.timers.refusalNotice = none)
      (tells : after.outbox = (before.untoldRefusal.map .refusal).toList)
  | forgets (unsparing : turn.sparesNotice before = false) (goesOn : turn.refusal? before = none)
      (notice : after.timers.refusalNotice = none)
      (silent : toldOf after.outbox = [])
  | spares (sparing : turn.sparesNotice before = true) (goesOn : turn.refusal? before = none)
      (untold : after.untoldRefusal = before.untoldRefusal)
      (notice : after.timers.refusalNotice = before.timers.refusalNotice)
      (silent : toldOf after.outbox = [])

theorem refusal?_of_unsaid
    (unsaid : ∀ content, turn.heard? before ≠ some (.text content)) :
    turn.refusal? before = none := by
  unfold Turn.refusal?
  split
  next content heard =>
    exact absurd heard (unsaid content)
  next =>
    rfl

theorem refusal?_of_text
    {content : String} (heard : turn.heard? before = some (.text content)) :
    turn.refusal? before = Wire.refusal? content := by
  simp [Turn.refusal?, heard]

theorem sparesNotice_of_report
    {serial : Nat} {report : Report} (told : turn.stimulus = .report serial report)
    (goesOn : turn.refusal? before = none) : turn.sparesNotice before = true := by
  simp [Turn.sparesNotice, told, goesOn]

theorem spares_of_text
    {content : String} {arrival : Wire.Arrival} (heard : turn.heard? before = some (.text content))
    (means : Wire.Arrival.ofText content = arrival)
    (other : ∀ message, arrival ≠ .refusal message) :
    turn.refusal? before = none ∧ turn.sparesNotice before = true := by
  obtain ⟨serial, link, told, _⟩ := heard?_eq_some_iff.mp heard
  have goesOn : turn.refusal? before = none := by
    rw [refusal?_of_text heard, Wire.refusal?_eq_none means other]
  exact ⟨goesOn, sparesNotice_of_report told goesOn⟩

theorem minds_of_account
    {account : Account Payload} (is : after.account = account)
    (goesOn : turn.refusal? before = none) (sparing : turn.sparesNotice before = true)
    (untold : account.untold = before.untoldRefusal)
    (notice : account.notice = before.timers.refusalNotice)
    (silent : account.deeds.filterMap Effect.told? = []) : Minds setup turn before after := by
  subst is
  exact .spares sparing goesOn untold notice
    ((filterMap_outbox told?_of_isUpkeep rfl).trans silent)

/-- What a turn with a dial does about a refusal it did before the dial. -/
theorem account_of_dials
    {answer : Option String} {held : Option Link} {start : Account Payload}
    (dials : Dials setup answer held start after)
    (silent : start.deeds.filterMap Effect.told? = []) :
    ∃ account, after.account = account ∧ account.untold = start.untold ∧
      account.notice = start.notice ∧ account.deeds.filterMap Effect.told? = [] := by
  obtain ⟨begun, is, redials⟩ := dials.account_eq
  refine ⟨start.does begun, is, rfl, rfl, ?_⟩
  rw [Account.does, List.filterMap_append, silent,
    filterMap_of_redials (fun _ _ _ => rfl) (fun _ _ _ => rfl) redials]
  rfl

/-- Every turn does one of these about the refusal that is still to be told. -/
theorem minds_take (setup : Setup) (turn : Turn Payload) (before : Controller Payload) :
    Minds setup turn before (before.take setup turn) := by
  have unrefused (untold : ∀ serial report, turn.stimulus ≠ .report serial report) :
      turn.refusal? before = none :=
    refusal?_of_unsaid fun content heard =>
      have ⟨serial, _, told, _⟩ := heard?_eq_some_iff.mp heard
      untold serial _ told
  cases dealing_take setup turn before with
  | connects session told dials =>
      have goesOn := unrefused (by simp [told])
      obtain ⟨account, is, untold, notice, silent⟩ :=
        account_of_dials dials (by cases session <;> rfl)
      exact minds_of_account is goesOn (by simp [Turn.sparesNotice, told, goesOn]) untold notice
        silent
  | startsOver told dials =>
      obtain ⟨account, is, untold, notice, silent⟩ := account_of_dials dials rfl
      have unsparing : turn.sparesNotice before = false := by
        simp [Turn.sparesNotice, told]
      exact .forgets unsparing (unrefused (by simp [told]))
        ((congrArg Account.notice is).trans notice)
        ((filterMap_outbox told?_of_isUpkeep is).trans silent)
  | disconnects told is =>
      have unsparing : turn.sparesNotice before = false := by
        simp [Turn.sparesNotice, told]
      exact .forgets unsparing (unrefused (by simp [told])) (congrArg Account.notice is)
        (filterMap_outbox told?_of_isUpkeep is)
  | sends payload moved told moves is =>
      have goesOn := unrefused (by simp [told])
      exact minds_of_account is goesOn (by simp [Turn.sparesNotice, told, goesOn]) rfl rfl
        (filterMap_of_moves (fun _ _ => rfl) (fun _ => rfl) moves)
  | opens moved heard moves is =>
      obtain ⟨serial, link, told, _⟩ := heard?_eq_some_iff.mp heard
      have goesOn : turn.refusal? before = none :=
        refusal?_of_unsaid (by simp [heard])
      exact minds_of_account is goesOn (sparesNotice_of_report told goesOn) rfl rfl
        (filterMap_of_moves (fun _ _ => rfl) (fun _ => rfl) moves)
  | drops content cause heard broken is =>
      have means := Wire.Arrival.ofText_eq_malformed_iff.mpr broken
      obtain ⟨goesOn, sparing⟩ := spares_of_text heard means (by simp)
      exact minds_of_account is goesOn sparing rfl rfl rfl
  | beats content link heard held asks is =>
      have means := Wire.Arrival.ofText_eq_heartbeat_iff.mpr asks
      obtain ⟨goesOn, sparing⟩ := spares_of_text heard means (by simp)
      refine minds_of_account is goesOn sparing rfl rfl ?_
      split <;> rfl
  | forwards content packet heard holds is =>
      have means := Wire.Arrival.ofText_eq_message_iff.mpr holds
      obtain ⟨goesOn, sparing⟩ := spares_of_text heard means (by simp)
      refine minds_of_account is goesOn sparing rfl rfl ?_
      cases packet.announced? <;> rfl
  | refuses content message heard holds is =>
      exact .refuses message ((refusal?_of_text heard).trans holds)
        (congrArg Account.untold is) (congrArg Account.notice is)
        (filterMap_outbox told?_of_isUpkeep is)
  | reconnects told dials =>
      have goesOn := unrefused (by simp [told])
      obtain ⟨account, is, untold, notice, silent⟩ := account_of_dials dials rfl
      exact minds_of_account is goesOn (by simp [Turn.sparesNotice, told, goesOn]) untold notice
        silent
  | looks told dials =>
      have goesOn := unrefused (by simp [told])
      obtain ⟨account, is, untold, notice, silent⟩ := account_of_dials dials rfl
      exact minds_of_account is goesOn (by simp [Turn.sparesNotice, told, goesOn]) untold notice
        silent
  | tells told is =>
      refine .tells told (unrefused (by simp [told])) (congrArg Account.notice is) ?_
      simp only [take, step, told, onTimer, onRefusalNotice_eq, List.nil_append]
  | rests unasked unsaid notDue is =>
      have goesOn := refusal?_of_unsaid unsaid
      have sparing : turn.sparesNotice before = true := by
        unfold Turn.sparesNotice
        split
        next told =>
          exact absurd told (unasked _)
        next told =>
          exact absurd told (unasked _)
        next told =>
          exact absurd told notDue
        next =>
          simp [goesOn]
      exact minds_of_account is goesOn sparing rfl rfl rfl

/-- A refusal leaves the controller at rest. -/
theorem resting_of_refusal?
    {message : String} (provisioned : before.Provisioned)
    (can : before.canTake turn.stimulus = true)
    (refuses : turn.refusal? before = some message) :
    (before.take setup turn).Resting .refused := by
  unfold Turn.refusal? at refuses
  split at refuses
  next content heard =>
    have means := Wire.Arrival.ofText_eq_refusal_iff.mpr refuses
    have enters : turn.Enters setup before .refused :=
      .refused content message heard means
    have next := (sound_take setup turn provisioned can).provisioned
    exact next.resting (halted_of_enters provisioned enters).1
  next =>
    cases refuses

/-- Without a refusal a controller does not come to halt for one. -/
theorem phase_ne_refused
    (provisioned : before.Provisioned) (can : before.canTake turn.stimulus = true)
    (goesOn : turn.refusal? before = none) (other : before.phase ≠ .halted .refused) :
    (before.take setup turn).phase ≠ .halted .refused := by
  intro halted
  have course := course_take setup turn provisioned can
  cases enters_of_phase course other halted with
  | refused content message heard means =>
      have holds := Wire.Arrival.ofText_eq_refusal_iff.mp means
      rw [refusal?_of_text heard, holds] at goesOn
      cases goesOn

/-- To ask for a connection ends a halt, with a dial or with the wait for a token. -/
theorem phase_of_asksAnew
    (setup : Setup) (vacant : before.link = none) (asks : turn.asksAnew = true) :
    (before.take setup turn).phase ≠ .halted .refused := by
  have connects {ready : Controller Payload} (now : Nat) (answer : Option String)
      (readyVacant : ready.link = none) :
      (connect setup now answer ready).phase ≠ .halted .refused := by
    cases answer with
    | none =>
        rw [connect]
        rcases waitForToken_cases setup now ready with ⟨waiting, stays⟩ | ⟨_, begins⟩
        · rw [stays, waiting]
          exact Phase.noConfusion
        · rw [begins]
          exact Phase.noConfusion
    | some token =>
        rw [connect_of_vacant setup now token readyVacant, dial_eq]
        exact Phase.noConfusion
  unfold Turn.asksAnew at asks
  split at asks
  next session told =>
    simp only [take, step, told, onCommand]
    cases session with
    | none =>
        exact connects _ _ vacant
    | some session =>
        exact connects _ _ vacant
  next told =>
    simp only [take, step, told, onCommand, startOver_eq]
    exact connects _ _ rfl
  next =>
    cases asks

end Turns

/-! ## Whole runs -/

section Runs

variable {setup : Setup} {controller : Controller Payload} {turns : List (Turn Payload)}

/-- The refusals that are heard in a run, in order. -/
def refusalsIn (setup : Setup) : List (Turn Payload) → Controller Payload → List String
  | [], _ => []
  | turn :: rest, controller =>
      (turn.refusal? controller).toList ++ refusalsIn setup rest (controller.take setup turn)

/-- No turn of a run refuses the token, tells of a refusal or makes it forgotten. -/
def sparesNotice (setup : Setup) : List (Turn Payload) → Controller Payload → Bool
  | [], _ => true
  | turn :: rest, controller =>
      turn.sparesNotice controller && sparesNotice setup rest (controller.take setup turn)

def pending (controller : Controller Payload) : List String :=
  if controller.timers.refusalNotice.isSome then controller.untoldRefusal.toList else []

/-- What a turn does not do that leaves it to be told of the last refusal. -/
structure SparesNotice (turn : Turn Payload) (controller : Controller Payload) : Prop where
  goesOn : turn.refusal? controller = none
  stays : turn.disconnects = false
  unrestarted : turn.stimulus ≠ .command .startOver
  untold : turn.stimulus ≠ .timer .refusalNotice

theorem spares_of_sparesNotice
    {turn : Turn Payload} (sparing : turn.sparesNotice controller = true) :
    SparesNotice turn controller := by
  unfold Turn.sparesNotice at sparing
  split at sparing
  · cases sparing
  · cases sparing
  · cases sparing
  next noDisconnect noRestart noNotice =>
    refine ⟨Option.isNone_iff_eq_none.mp sparing, ?_, noRestart, noNotice⟩
    unfold Turn.disconnects
    split
    next told =>
      exact absurd told noDisconnect
    next =>
      rfl

theorem spares_of_mem
    (spares : sparesNotice setup turns controller = true) {turn : Turn Payload}
    (member : turn ∈ turns) : ∃ before, SparesNotice turn before := by
  induction turns generalizing controller with
  | nil =>
      cases member
  | cons head rest inductionHypothesis =>
      obtain ⟨headSpares, restSpares⟩ := Bool.and_eq_true_iff.mp spares
      rcases List.mem_cons.mp member with same | later
      · rw [same]
        exact ⟨controller, spares_of_sparesNotice headSpares⟩
      · exact inductionHypothesis restSpares later

/-- In one turn no more is told than was still to be told, and no more is left to be told than is
refused. -/
theorem told_sublist_take
    {told heard : List String} (fewer : List.Sublist (told ++ controller.pending) heard)
    {turn : Turn Payload} (can : controller.canTake turn.stimulus = true) :
    List.Sublist
      (told ++ toldOf (controller.take setup turn).outbox ++ (controller.take setup turn).pending)
      (heard ++ (turn.refusal? controller).toList) := by
  have fewerTold : List.Sublist told heard :=
    (List.sublist_append_left told controller.pending).trans fewer
  cases minds_take setup turn controller with
  | refuses message refusal untold notice silent =>
      -- A refusal that was still to be told is replaced, so that it is never told.
      rw [refusal, silent, pending, notice, untold, List.append_nil]
      exact fewerTold.append_right [message]
  | tells isTold goesOn notice tells =>
      have armed : controller.timers.refusalNotice.isSome = true := by
        rw [isTold] at can
        exact can
      have isPending : toldOf (controller.take setup turn).outbox = controller.pending := by
        rw [tells, pending, if_pos armed]
        cases controller.untoldRefusal <;> rfl
      have nothing : (controller.take setup turn).pending = [] := by
        rw [pending, notice]
        rfl
      rw [isPending, nothing, goesOn]
      simpa using fewer
  | forgets unsparing goesOn notice silent =>
      rw [silent, pending, notice, goesOn]
      simpa using fewerTold
  | spares sparing goesOn untold notice silent =>
      have same : (controller.take setup turn).pending = controller.pending := by
        rw [pending, notice, untold]
        rfl
      rw [silent, same, goesOn]
      simpa using fewer

/-- What was told and what is still to be told were all refused, one for one. -/
theorem told_sublist
    {told heard : List String} (fewer : List.Sublist (told ++ controller.pending) heard)
    (timely : isTimely setup turns controller = true) :
    List.Sublist
      (told ++ toldOf (effects setup turns controller) ++ (after setup turns controller).pending)
      (heard ++ refusalsIn setup turns controller) := by
  induction turns generalizing controller told heard with
  | nil =>
      simpa [effects, toldOf, after, refusalsIn] using fewer
  | cons turn rest inductionHypothesis =>
      obtain ⟨can, restTimely⟩ := Bool.and_eq_true_iff.mp timely
      have later := inductionHypothesis (told_sublist_take fewer can) restTimely
      simpa [effects, toldOf, after, refusalsIn, List.append_assoc] using later

/-- The last refusal of a run is still to be told. -/
structure LastRefusal (setup : Setup) (turns earlier : List (Turn Payload))
    (refusing : Turn Payload) (since : List (Turn Payload)) (message : String) : Prop where
  splits : turns = earlier ++ refusing :: since
  refuses : refusing.refusal? (after setup earlier (.initial setup)) = some message
  spares : sparesNotice setup since (after setup (earlier ++ [refusing]) (.initial setup)) = true

/-- An armed notice is that of the last refusal. -/
def Pends (setup : Setup) (turns : List (Turn Payload)) : Prop :=
  ∀ due, (after setup turns (.initial setup)).timers.refusalNotice = some due →
    ∃ earlier refusing since message, LastRefusal setup turns earlier refusing since message ∧
      (after setup turns (.initial setup)).untoldRefusal = some message ∧
      due = refusing.around.now + setup.settings.noticeDelay

theorem sparesNotice_append {first second : List (Turn Payload)} :
    sparesNotice setup (first ++ second) controller = true ↔
      sparesNotice setup first controller = true ∧
        sparesNotice setup second (after setup first controller) = true := by
  induction first generalizing controller with
  | nil =>
      simp [sparesNotice, after]
  | cons turn rest inductionHypothesis =>
      simp only [List.cons_append, sparesNotice, after, Bool.and_eq_true, inductionHypothesis,
        and_assoc]

theorem pends_take (pends : Pends setup turns) (turn : Turn Payload) :
    Pends setup (turns ++ [turn]) := by
  intro due armed
  rw [after_append] at armed ⊢
  change ((after setup turns (.initial setup)).take setup turn).timers.refusalNotice = some due
    at armed
  cases minds_take setup turn (after setup turns (.initial setup)) with
  | refuses message refusal untold notice silent =>
      rw [notice] at armed
      exact ⟨turns, turn, [], message, ⟨rfl, refusal, rfl⟩, untold, (Option.some.inj armed).symm⟩
  | tells told goesOn notice tells =>
      rw [notice] at armed
      cases armed
  | forgets unsparing goesOn notice silent =>
      rw [notice] at armed
      cases armed
  | spares sparing goesOn untold notice silent =>
      rw [notice] at armed
      obtain ⟨earlier, refusing, since, message, last, same, isDue⟩ := pends due armed
      refine ⟨earlier, refusing, since ++ [turn], message, ⟨?_, last.refuses, ?_⟩,
        untold.trans same, isDue⟩
      · rw [last.splits, List.append_assoc]
        rfl
      · have whole : after setup since (after setup (earlier ++ [refusing]) (.initial setup)) =
            after setup turns (.initial setup) := by
          rw [last.splits, ← after_append, List.append_assoc]
          rfl
        refine sparesNotice_append.mpr ⟨last.spares, ?_⟩
        rw [whole, sparesNotice, sparing]
        rfl

/-- At any moment of any run an armed notice is that of the last refusal. -/
theorem pends_run (turns : List (Turn Payload)) : Pends setup turns := by
  have goesOn (later : List (Turn Payload)) {turns : List (Turn Payload)}
      (pends : Pends setup turns) : Pends setup (turns ++ later) := by
    induction later generalizing turns with
    | nil =>
        rw [List.append_nil]
        exact pends
    | cons turn rest inductionHypothesis =>
        have next := inductionHypothesis (pends_take pends turn)
        rw [List.append_assoc] at next
        exact next
  have atFirst : Pends setup ([] : List (Turn Payload)) := by
    intro due armed
    cases armed
  exact goesOn turns atFirst

/-! ## What is out of date -/

theorem phase_ne_refused_run
    (provisioned : controller.Provisioned) (timely : isTimely setup turns controller = true)
    (spares : sparesNotice setup turns controller = true)
    (other : controller.phase ≠ .halted .refused) :
    (after setup turns controller).phase ≠ .halted .refused := by
  induction turns generalizing controller with
  | nil =>
      exact other
  | cons turn rest inductionHypothesis =>
      obtain ⟨can, restTimely⟩ := Bool.and_eq_true_iff.mp timely
      obtain ⟨turnSpares, restSpares⟩ := Bool.and_eq_true_iff.mp spares
      have next := (sound_take setup turn provisioned can).provisioned
      have goesOn := (spares_of_sparesNotice turnSpares).goesOn
      exact inductionHypothesis next restTimely restSpares
        (phase_ne_refused provisioned can goesOn other)

/-- Once a connection is asked for, the halt is over for as long as the token is not refused
again. -/
theorem phase_ne_refused_of_asked
    (resting : controller.Resting .refused) (provisioned : controller.Provisioned)
    (timely : isTimely setup turns controller = true)
    (spares : sparesNotice setup turns controller = true)
    (asked : turns.any Turn.asksAnew = true) :
    (after setup turns controller).phase ≠ .halted .refused := by
  induction turns generalizing controller with
  | nil =>
      cases asked
  | cons turn rest inductionHypothesis =>
      obtain ⟨can, restTimely⟩ := Bool.and_eq_true_iff.mp timely
      obtain ⟨turnSpares, restSpares⟩ := Bool.and_eq_true_iff.mp spares
      have next := (sound_take setup turn provisioned can).provisioned
      cases asks : turn.asksAnew with
      | true =>
          have moves := phase_of_asksAnew setup resting.link_eq asks
          rw [after]
          exact phase_ne_refused_run next restTimely restSpares moves
      | false =>
          have stays := (rests_take setup resting asks can).resting
          have goesOn := (spares_of_sparesNotice turnSpares).stays
          have restAsked : rest.any Turn.asksAnew = true := by
            rw [List.any_cons, asks] at asked
            exact asked
          simp only [List.any_cons, goesOn, List.any_nil, Bool.or_self, Bool.false_eq_true,
            if_false] at stays
          exact inductionHypothesis stays next restTimely restSpares restAsked

/-- The controller is halted by the last refusal as it was, and has dialled nothing since. -/
structure IsFresh (setup : Setup) (earlier : List (Turn Payload)) (refusing : Turn Payload)
    (since : List (Turn Payload)) : Prop where
  phase_eq :
    (after setup (earlier ++ [refusing] ++ since) (.initial setup)).phase = .halted .refused
  link_eq : (after setup (earlier ++ [refusing] ++ since) (.initial setup)).link = none
  undialled :
    dialled (livesOf
      (effects setup since (after setup (earlier ++ [refusing]) (.initial setup)))) = []

/-- Only to ask for a connection makes a refusal out of date that is still to be told. -/
theorem isFresh_iff
    {earlier since : List (Turn Payload)} {refusing : Turn Payload} {message : String}
    (last : LastRefusal setup turns earlier refusing since message)
    (timely : isTimely setup turns (.initial setup) = true) :
    IsFresh setup earlier refusing since ↔
      ∀ asked ∈ since, ∀ session, asked.stimulus ≠ .command (.connect session) := by
  have split : turns = earlier ++ [refusing] ++ since := by
    rw [last.splits, List.append_assoc]
    rfl
  rw [split] at timely
  obtain ⟨refusedTimely, sinceTimely⟩ := isTimely_append.mp timely
  obtain ⟨earlierTimely, refusingTimely⟩ := isTimely_append.mp refusedTimely
  have provisioned := provisioned_after (initial_provisioned setup) earlierTimely
  have can := (Bool.and_eq_true_iff.mp refusingTimely).1
  have resting :
      (after setup (earlier ++ [refusing]) (.initial setup)).Resting .refused := by
    rw [after_append]
    exact resting_of_refusal? provisioned can last.refuses
  have next := provisioned_after (initial_provisioned setup) refusedTimely
  constructor
  · intro fresh asked member session told
    have asks : since.any Turn.asksAnew = true :=
      List.any_eq_true.mpr ⟨asked, member, by simp [Turn.asksAnew, told]⟩
    have moved := phase_ne_refused_of_asked resting next sinceTimely last.spares asks
    rw [← after_append] at moved
    exact moved fresh.phase_eq
  · intro unasked
    have quiet : ∀ turn ∈ since, turn.asksAnew = false := by
      intro turn member
      obtain ⟨_, spares⟩ := spares_of_mem last.spares member
      unfold Turn.asksAnew
      split
      next session told =>
        exact absurd told (unasked turn member session)
      next told =>
        exact absurd told spares.unrestarted
      next =>
        rfl
    have stays : since.any Turn.disconnects = false := by
      rw [List.any_eq_false]
      intro turn member
      obtain ⟨_, spares⟩ := spares_of_mem last.spares member
      rw [spares.stays]
      exact Bool.false_ne_true
    have rests := rests_run resting quiet sinceTimely
    have ends := rests.resting
    rw [stays, ← after_append] at ends
    refine ⟨ends.phase_eq, ends.link_eq, ?_⟩
    rw [rests.lives_eq]
    rfl

/-! ## What observers hear -/

/-- A call of the observers of refusals, and what has gone before. -/
structure Tells (setup : Setup) (before : List (Turn Payload)) (turn : Turn Payload)
    (message : String) : Prop where
  told : turn.stimulus = .timer .refusalNotice
  /-- Nothing else is done in the turn. -/
  alone : ((after setup before (.initial setup)).take setup turn).outbox = [.refusal message]
  /-- The message is that of the last refusal, of which nothing was told yet. The controller is
  still halted by it unless the user has asked to connect meanwhile. -/
  last :
    ∃ earlier refusing since, LastRefusal setup before earlier refusing since message ∧
      (IsFresh setup earlier refusing since ↔
        ∀ asked ∈ since, ∀ session, asked.stimulus ≠ .command (.connect session))

/-- What observers hear of refusals in a run. -/
structure NoticesTell (setup : Setup) (turns : List (Turn Payload)) : Prop where
  tells :
    ∀ before turn rest message, turns = before ++ turn :: rest →
      .refusal message ∈ ((after setup before (.initial setup)).take setup turn).outbox →
        Tells setup before turn message
  /-- Each refusal is told of at most once, and in order. -/
  sublist :
    List.Sublist (toldOf (effects setup turns (.initial setup)))
      (refusalsIn setup turns (.initial setup))
  /-- Nothing is told as the client ends, and nothing is left to be told. -/
  wound :
    (windDown { after setup turns (.initial setup) with outbox := [] }).timers.refusalNotice =
        none ∧
      toldOf (windDown { after setup turns (.initial setup) with outbox := [] }).outbox = []

/-- In every timely run observers hear of the last refusal, once. It is out of date exactly if the
user has asked to connect since. -/
theorem notices_tell
    (setup : Setup) (turns : List (Turn Payload))
    (timely : isTimely setup turns (.initial setup) = true) :
    NoticesTell setup turns := by
  constructor
  · intro before turn rest message splits member
    rw [splits] at timely
    obtain ⟨beforeTimely, restTimely⟩ := isTimely_append.mp timely
    have can := (Bool.and_eq_true_iff.mp restTimely).1
    have isTold :
        message ∈ toldOf ((after setup before (.initial setup)).take setup turn).outbox :=
      mem_toldOf_iff.mpr member
    have elsewhere
        (silent : toldOf ((after setup before (.initial setup)).take setup turn).outbox = []) :
        Tells setup before turn message := by
      rw [silent] at isTold
      cases isTold
    cases minds_take setup turn (after setup before (.initial setup)) with
    | refuses other refusal untold notice silent =>
        exact elsewhere silent
    | forgets unsparing goesOn notice silent =>
        exact elsewhere silent
    | spares sparing goesOn untold notice silent =>
        exact elsewhere silent
    | tells told goesOn notice tells =>
        rw [told] at can
        obtain ⟨due, armed⟩ := Option.isSome_iff_exists.mp can
        obtain ⟨earlier, refusing, since, known, last, untold, _⟩ := pends_run before due armed
        rw [untold] at tells
        have same : message = known := by
          rw [tells] at isTold
          exact List.mem_singleton.mp isTold
        subst same
        exact ⟨told, tells, earlier, refusing, since, last, isFresh_iff last beforeTimely⟩
  · have nothingYet :
        List.Sublist ([] ++ (initial setup : Controller Payload).pending) [] :=
      List.Sublist.slnil
    have fewer := told_sublist nothingYet timely
    exact (List.sublist_append_left _ _).trans fewer
  · have account := account_windDown (after setup turns (.initial setup))
    exact ⟨congrArg Account.notice account, filterMap_outbox told?_of_isUpkeep account⟩

end Runs

/-- The token is refused, and the user asks to connect again before anyone has heard of it. -/
def lateNotice : List (Turn String) :=
  [⟨.steady (some "key"), .command (.connect none)⟩,
    ⟨.steady (some "key"), .report 1 .opened⟩,
    ⟨.steady (some "key"),
      .report 1 (.text "\x7b\"type\":\"Error\",\"message\":\"unauthorized\"\x7d")⟩,
    ⟨.steady (some "key"), .command (.connect none)⟩,
    ⟨.steady (some "key"), .timer .refusalNotice⟩]

theorem notices_tell_of_lateNotice :
    isTimely .standard lateNotice (.initial .standard) = true ∧
      NoticesTell .standard lateNotice :=
  have timely : isTimely .standard lateNotice (.initial .standard) = true := by
    decide +kernel
  ⟨timely, notices_tell .standard lateNotice timely⟩

/-- As the observers hear of that refusal, the next connection is already dialled. -/
theorem stale_of_lateNotice :
    isTimely .standard lateNotice (.initial .standard) = true ∧
      ¬ ∀ before turn rest message, lateNotice = before ++ turn :: rest →
        .refusal message ∈
            ((after .standard before (.initial .standard)).take .standard turn).outbox →
          (after .standard before (.initial .standard)).phase = .halted .refused ∧
            (after .standard before (.initial .standard)).link = none := by
  have timely : isTimely .standard lateNotice (.initial .standard) = true := by
    decide +kernel
  have dialling :
      (after .standard (lateNotice.take 4) (.initial .standard)).link =
        some ⟨2, "key", false⟩ := by
    decide +kernel
  have told :
      toldOf ((after .standard (lateNotice.take 4) (.initial .standard)).take .standard
        ⟨.steady (some "key"), .timer .refusalNotice⟩).outbox = ["unauthorized"] := by
    decide +kernel
  refine ⟨timely, ?_⟩
  intro neverStale
  have isTold := mem_toldOf_iff.mp (told ▸ List.mem_singleton_self "unauthorized")
  have fresh := neverStale (lateNotice.take 4) _ [] "unauthorized" rfl isTold
  rw [dialling] at fresh
  cases fresh.2

end Controller

end Parley.Connection
