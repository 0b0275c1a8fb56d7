import Parley.Proofs.Client.Moments
import Parley.Proofs.Connection.Moves
import Parley.Proofs.Connection.Schedules
import Parley.Proofs.Settings.Delays

/-!
# Deadlines

An instant holds a bounded number of seconds, so a deadline may lie too far ahead to be computed.
No timer of a controller is ever set further ahead than the settings say, and those numbers are too
small to matter. What is too far ahead in the end is the silence that a connection waits for, which
no setting bounds: the main statement says when exactly a connection goes deaf over it.
-/

namespace Parley.Connection

variable {Payload : Type}

/-- An instant can hold the time. -/
def Holds (moment : Nat) : Prop :=
  moment / 1000 < greatestSecond

instance (moment : Nat) : Decidable (Holds moment) :=
  inferInstanceAs (Decidable (moment / 1000 < greatestSecond))

theorem Holds.of_le {early late : Nat} (holds : Holds late) (notLater : early ≤ late) :
    Holds early :=
  Nat.lt_of_le_of_lt (Nat.div_le_div_right notLater) holds

/-- Whole seconds from now on fit if and only if an instant can hold the deadline. -/
theorem fits_iff_holds {idleSeconds now : Nat} :
    Fits idleSeconds now ↔ Holds (now + idleSeconds * 1000) := by
  rw [Fits, Holds, Nat.add_mul_div_right _ _ (by decide : 0 < 1000)]

/-! ## Timers -/

/-- How long a timer waits at most. -/
def Timer.period (settings : Settings.Client) : Timer → Nat
  | .reconnect => settings.backoff.maxDelay
  | .countdown => 1000
  | .tokenLook => settings.tokenLook
  | .refusalNotice => settings.noticeDelay

/-- No armed timer is due later than it waits at most. -/
def Schedule.InReach (settings : Settings.Client) (now : Nat) (timers : Schedule) : Prop :=
  ∀ timer due, timers.due? timer = some due → due ≤ now + timer.period settings

namespace Schedule

variable {settings : Settings.Client} {now later : Nat} {timers : Schedule}

theorem inReach_none : InReach settings now .none := by
  intro timer due armed
  cases timer <;> cases armed

theorem InReach.mono (inReach : timers.InReach settings now) (notBack : now ≤ later) :
    timers.InReach settings later :=
  fun timer due armed =>
    Nat.le_trans (inReach timer due armed) (Nat.add_le_add_right notBack _)

theorem InReach.forgetRetry (inReach : timers.InReach settings now) :
    timers.forgetRetry.InReach settings now := by
  intro timer due armed
  cases timer with
  | reconnect | countdown =>
      cases armed
  | tokenLook | refusalNotice =>
      exact inReach _ due armed

theorem InReach.forgetLook (inReach : timers.InReach settings now) :
    timers.forgetLook.InReach settings now := by
  intro timer due armed
  cases timer with
  | tokenLook =>
      cases armed
  | reconnect | countdown | refusalNotice =>
      exact inReach _ due armed

/-- A timer that fires is set again from the time at which it was due, which has come. -/
theorem InReach.rearm {after : Schedule} {timer : Timer} {due : Nat}
    (inReach : timers.InReach settings now) (armed : timers.due? timer = some due)
    (isTime : due ≤ now)
    (again : after.due? timer = (timers.due? timer).map (· + timer.period settings))
    (others : ∀ other ≠ timer, after.due? other = timers.due? other) :
    after.InReach settings now := by
  intro other next armedNext
  by_cases same : other = timer
  · rw [same, again, armed] at armedNext
    cases armedNext
    rw [same]
    exact Nat.add_le_add_right isTime _
  · rw [others other same] at armedNext
    exact inReach other next armedNext

end Schedule

theorem Phase.delay_le_of_nextAttempt {phase : Phase} {backoff : Settings.Backoff}
    {attempt delay : Nat} (asked : phase.nextAttempt backoff = .after attempt delay) :
    delay ≤ backoff.maxDelay := by
  unfold nextAttempt at asked
  split at asked
  · cases asked
  · split at asked
    · cases asked
    · cases asked
      exact backoff.delay_le_maxDelay _

namespace Controller

variable {setup : Setup} {now : Nat} {controller : Controller Payload}

section Moves

variable (inReach : controller.timers.InReach setup.settings now)

include inReach

theorem inReach_waitForAttempt (immediate : Bool) :
    (waitForAttempt setup now immediate controller).timers.InReach setup.settings now := by
  cases asked : controller.phase.nextAttempt setup.settings.backoff with
  | suppressed =>
      rw [waitForAttempt_of_suppressed now immediate asked]
      exact inReach
  | exhausted =>
      rw [waitForAttempt_of_exhausted now immediate asked]
      exact inReach.forgetRetry
  | after attempt delay =>
      have capped : (if immediate then 0 else delay) ≤ setup.settings.backoff.maxDelay := by
        split
        · exact Nat.zero_le _
        · exact Phase.delay_le_of_nextAttempt asked
      rw [waitForAttempt_of_after now immediate asked rfl rfl]
      intro timer due armed
      cases timer with
      | reconnect =>
          cases armed
          exact Nat.add_le_add_left capped now
      | countdown =>
          obtain ⟨-, same⟩ := Option.ite_none_right_eq_some.mp armed
          cases same
          exact Nat.le_refl _
      | tokenLook | refusalNotice =>
          exact inReach _ due armed

theorem inReach_onClosed (code : Nat) (wasOpen : Bool) :
    (onClosed setup now code wasOpen controller).timers.InReach setup.settings now := by
  cases ended : Aftermath.ofCode code with
  | halt why =>
      rw [onClosed_of_halt setup now wasOpen controller ended]
      exact inReach.forgetRetry
  | retry immediate =>
      rw [onClosed_of_retry setup now wasOpen controller ended]
      refine inReach_waitForAttempt ?_ immediate
      exact inReach

theorem inReach_waitForToken :
    (waitForToken setup now controller).timers.InReach setup.settings now := by
  rcases waitForToken_cases setup now controller with ⟨-, goesOn⟩ | ⟨-, begins⟩
  · rw [goesOn]
    exact inReach
  · rw [begins]
    intro timer due armed
    cases timer with
    | tokenLook =>
        cases armed
        exact Nat.le_refl _
    | reconnect | countdown =>
        cases armed
    | refusalNotice =>
        exact inReach _ due armed

theorem inReach_connect (answer : Option String) :
    (connect setup now answer controller).timers.InReach setup.settings now := by
  have forgotten := inReach.forgetLook
  rcases connect_cases setup now answer controller with
    ⟨-, waits⟩ | ⟨token, -, ⟨-, -, dials⟩ | ⟨link, -, -, stays⟩ | ⟨link, -, -, -, cycles⟩⟩
  · rw [waits]
    exact inReach_waitForToken inReach
  · rw [dials, dial_eq]
    exact forgotten
  · rw [stays]
    exact forgotten
  · rw [cycles, retireWith_eq]
    exact inReach_onClosed forgotten _ _

theorem inReach_onText (around : Surroundings) (sameTime : around.now = now) (content : String) :
    (onText setup around content controller).timers.InReach setup.settings now := by
  rcases onText_cases setup around content controller with
    ⟨message, -, refuses⟩ | ⟨session, spoken, converses, -⟩
  · rw [refuses, onRefusal, halt_eq]
    intro timer due armed
    cases timer with
    | refusalNotice =>
        cases armed
        rw [sameTime]
        exact Nat.le_refl _
    | reconnect | countdown | tokenLook =>
        cases armed
  · rw [converses]
    exact inReach

theorem inReach_onReport (around : Surroundings) (sameTime : around.now = now) (serial : Nat)
    (report : Report) :
    (onReport setup around serial report controller).timers.InReach setup.settings now := by
  unfold onReport
  split
  · exact inReach
  · split
    · exact inReach
    · cases report with
      | opened =>
          obtain ⟨backlog, moved, opens, -⟩ := onOpened_frame around.accepts controller
          rw [opens]
          exact inReach.forgetRetry
      | text content =>
          exact inReach_onText inReach around sameTime content
      | failed cause =>
          rw [publishState_eq]
          exact inReach
      | closed code reason =>
          rw [sameTime]
          refine inReach_onClosed ?_ code _
          exact inReach

theorem inReach_onCommand (around : Surroundings) (sameTime : around.now = now)
    (order : Order Payload) :
    (onCommand setup around order controller).timers.InReach setup.settings now := by
  subst sameTime
  cases order with
  | connect session =>
      cases session with
      | none =>
          exact inReach_connect inReach _
      | some session =>
          refine inReach_connect ?_ _
          exact inReach
  | send payload =>
      obtain ⟨backlog, moved, sends, -⟩ := send_frame around.accepts payload controller
      rw [onCommand, sends]
      exact inReach
  | disconnect =>
      rw [onCommand, halt_eq]
      exact Schedule.inReach_none
  | startOver =>
      rw [onCommand, startOver_eq]
      exact inReach_connect Schedule.inReach_none _

/-- A timer that fires once it is due leaves all timers within reach. -/
theorem inReach_onTimer (around : Surroundings) (sameTime : around.now = now) {timer : Timer}
    {due : Nat} (armed : controller.timers.due? timer = some due) (isTime : due ≤ now) :
    (onTimer setup around timer controller).timers.InReach setup.settings now := by
  subst sameTime
  cases timer with
  | reconnect =>
      refine inReach_connect ?_ _
      exact inReach.forgetRetry
  | countdown =>
      rcases onCountdown_cases controller with ⟨attempt, seconds, -, counts⟩ | ⟨-, stops⟩
      · rw [onTimer, counts, publishState_eq]
        refine inReach.rearm armed isTime rfl ?_
        intro other another
        cases other with
        | countdown =>
            exact absurd rfl another
        | reconnect | tokenLook | refusalNotice =>
            rfl
      · rw [onTimer, stops]
        intro timer next armedNext
        cases timer with
        | countdown =>
            cases armedNext
        | reconnect | tokenLook | refusalNotice =>
            exact inReach _ next armedNext
  | tokenLook =>
      rw [onTimer, onTokenLook]
      split
      · refine inReach_connect ?_ _
        exact inReach.forgetLook
      · refine inReach.rearm armed isTime rfl ?_
        intro other another
        cases other with
        | tokenLook =>
            exact absurd rfl another
        | reconnect | countdown | refusalNotice =>
            rfl
  | refusalNotice =>
      rw [onTimer, onRefusalNotice_eq]
      intro timer next armedNext
      cases timer with
      | refusalNotice =>
          cases armedNext
      | reconnect | countdown | tokenLook =>
          exact inReach _ next armedNext

end Moves

/-- Whatever happens at its time leaves the timers in reach. -/
theorem inReach_take {turn : Turn Payload} (inReach : controller.timers.InReach setup.settings now)
    (notBack : now ≤ turn.around.now) (isTime : controller.isTimeFor turn = true) :
    (controller.take setup turn).timers.InReach setup.settings turn.around.now := by
  have cleared : ({ controller with outbox := [] } : Controller Payload).timers.InReach
      setup.settings turn.around.now := inReach.mono notBack
  unfold take step
  cases told : turn.stimulus with
  | command order =>
      exact inReach_onCommand cleared turn.around rfl order
  | report serial report =>
      exact inReach_onReport cleared turn.around rfl serial report
  | timer timer =>
      rw [isTimeFor, told] at isTime
      obtain ⟨due, armed, hasCome⟩ := (Option.any_eq_true _ _).mp isTime
      exact inReach_onTimer cleared turn.around rfl armed (of_decide_eq_true hasCome)

/-- After any punctual run, no timer is set further ahead than the settings say. -/
theorem inReach_after {turns : List (Turn Payload)}
    (inReach : controller.timers.InReach setup.settings now)
    (punctual : isPunctual setup now turns controller = true) :
    (after setup turns controller).timers.InReach setup.settings (clockAfter now turns) := by
  induction turns generalizing now controller with
  | nil =>
      exact inReach
  | cons turn rest inductionHypothesis =>
      obtain ⟨notBack, isTime, restPunctual⟩ := isPunctual_cons.mp punctual
      exact inductionHypothesis (inReach_take inReach notBack isTime) restPunctual

end Controller

/-! ## Silence -/

/-- A deadline that no instant can hold is not computed in the beginning. -/
theorem holds_firstDue {settings : Settings.Client} {now : Nat} (early : Holds (now + farFuture)) :
    Holds (firstDue settings now) := by
  rw [firstDue, deadline?]
  split
  next fits =>
    exact fits_iff_holds.mp fits
  · exact early

namespace Strands

variable {settings : Settings.Client} {strands last : Strands} {moves : List Move}

theorem now_le_of_run (run : strands.run settings moves = some last) : strands.now ≤ last.now := by
  refine run_keeps (fun later => strands.now ≤ later.now) ?_ (fun _ _ => trivial)
    (Nat.le_refl _) run
  intro earlier move next _ passes notBack
  cases passes with
  | wait milliseconds =>
      exact Nat.le_trans notBack (Nat.le_add_right _ _)
  | _ =>
      exact notBack

/-- Strands that listen read a frame at a time in a run. -/
inductive ReadsFrameAt (settings : Settings.Client) (now : Nat) : Strands → List Move → Prop
  | here {strands : Strands} {deadline : Nat} {incoming : Incoming} {waiting : List Incoming}
      {rest : List Move} (listens : strands.reading = .listening deadline)
      (came : strands.inbox = incoming :: waiting) (isFrame : Watch.isFrame incoming = true)
      (isNow : strands.now = now) : ReadsFrameAt settings now strands (.read :: rest)
  | later {strands next : Strands} {move : Move} {rest : List Move}
      (step : strands.step settings move = some next)
      (reads : ReadsFrameAt settings now next rest) :
      ReadsFrameAt settings now strands (move :: rest)

theorem le_of_readsFrameAt {now : Nat} (reads : ReadsFrameAt settings now strands moves)
    (run : strands.run settings moves = some last) : now ≤ last.now := by
  induction reads with
  | here listens came isFrame isNow =>
      rw [← isNow]
      exact now_le_of_run run
  | later step reads inductionHypothesis =>
      rw [Strands.run, step] at run
      exact inductionHypothesis run

/-- The reading strand dies over what it reads if that is a frame after which no instant can hold
the next deadline. -/
theorem stalled_read_iff (deadline : Nat) (incoming : Incoming) (strands : Strands) :
    (strands.read settings deadline incoming).reading = .stalled ↔
      Watch.isFrame incoming = true ∧ ¬ Holds (strands.now + settings.idleSeconds * 1000) := by
  rw [read_reading, ← fits_iff_holds]
  rcases heard_receive settings deadline strands.now incoming with
    ⟨receives, isFrame, unfit⟩ | ⟨receives, -, fits⟩ | ⟨ending, receives, -, fits⟩
  · rw [receives]
    exact ⟨fun _ => ⟨isFrame, unfit⟩, fun _ => rfl⟩
  · rw [receives]
    exact ⟨nofun, fun stalls => absurd fits stalls.2⟩
  · rw [receives]
    exact ⟨nofun, fun stalls => absurd (fits stalls.1) stalls.2⟩

theorem step_read {deadline : Nat} {incoming : Incoming} {rest : List Incoming}
    (listens : strands.reading = .listening deadline) (came : strands.inbox = incoming :: rest) :
    strands.step settings .read =
      some (read settings deadline incoming { strands with inbox := rest }) := by
  simp only [Strands.step, listens, came]

/-- The reading strand dies over nothing but what it reads. -/
theorem alive_of_passes {move : Move} {next : Strands} (passes : Passes settings strands move next)
    (alive : strands.reading ≠ .stalled) (another : move ≠ .read) : next.reading ≠ .stalled := by
  cases passes with
  | read =>
      exact absurd rfl another
  | accept | desert | refuse | hangUp | leave | fail | tire | wind | conclude =>
      exact nofun
  | _ =>
      exact alive

/-- The reading strand dies in a run exactly if it reads a frame in it after which no instant can
hold the next deadline. -/
theorem stalled_iff_of_run (alive : strands.reading ≠ .stalled)
    (run : strands.run settings moves = some last) :
    last.reading = .stalled ↔ ∃ now, ReadsFrameAt settings now strands moves ∧
      ¬ Holds (now + settings.idleSeconds * 1000) := by
  induction moves generalizing strands with
  | nil =>
      cases run
      exact ⟨fun stalled => absurd stalled alive, nofun⟩
  | cons move rest inductionHypothesis =>
      obtain ⟨next, step, further⟩ := Option.bind_eq_some_iff.mp run
      have passes := passes_of_step step
      by_cases stalled : next.reading = .stalled
      · have isRead : move = .read := by
          by_contra another
          exact alive_of_passes passes alive another stalled
        subst isRead
        cases passes with
        | read listens came =>
            obtain ⟨isFrame, unfit⟩ := (stalled_read_iff _ _ _).mp stalled
            have lastStalled := (stalled_of_run stalled further).1
            exact ⟨fun _ => ⟨strands.now, .here listens came isFrame rfl, unfit⟩,
              fun _ => lastStalled⟩
      · rw [inductionHypothesis stalled further]
        constructor
        · rintro ⟨now, reads, unfit⟩
          exact ⟨now, .later step reads, unfit⟩
        · rintro ⟨now, reads, unfit⟩
          cases reads with
          | here listens came isFrame isNow =>
              subst isNow
              rw [step_read listens came] at step
              cases step
              exact absurd ((stalled_read_iff _ _ _).mpr ⟨isFrame, unfit⟩) stalled
          | later sameStep reads =>
              rw [step] at sameStep
              cases sameStep
              exact ⟨now, reads, unfit⟩

/-- The handshake succeeds at once, and a ping comes with it. -/
def greeted : List Move :=
  [.accept, .arrive .ping, .read]

theorem run_greeted (settings : Settings.Client) (clock : Nat) :
    ∃ last, (dialed 0 clock).run settings greeted = some last ∧ last.now = clock ∧
      (last.reading = .stalled ↔ ¬ Holds (clock + settings.idleSeconds * 1000)) := by
  refine ⟨_, rfl, rfl, ?_⟩
  exact (stalled_read_iff _ _ _).trans (and_iff_right rfl)

/-- Wherever strands listen, an instant can hold the deadline, also one that was put far ahead in
place of one that no instant can hold. -/
theorem holds_of_listening {clock serial dialled due : Nat} (early : Holds (clock + farFuture))
    (run : (dialed serial dialled).run settings moves = some last) (notLater : last.now ≤ clock)
    (listens : last.reading = .listening due) : Holds due := by
  have kept : last.now ≤ clock → ∀ due, last.reading = .listening due → Holds due := by
    refine run_keeps
      (fun later => later.now ≤ clock → ∀ due, later.reading = .listening due → Holds due) ?_
      (fun _ _ => trivial) (fun _ due listens => Reading.noConfusion listens) run
    intro middle move next _ passes holds inTime due listens
    cases passes with
    | accept =>
        cases listens
        exact holds_firstDue (early.of_le (Nat.add_le_add_right inTime _))
    | @read deadline incoming rest =>
        rw [read_reading] at listens
        rcases heard_receive settings deadline middle.now incoming with
          ⟨receives, -⟩ | ⟨receives, -, fits⟩ | ⟨ending, receives, -⟩
        · rw [receives] at listens
          cases listens
        · rw [receives] at listens
          cases listens
          exact fits_iff_holds.mp fits
        · rw [receives] at listens
          cases listens
    | wait milliseconds =>
        exact holds (Nat.le_trans (Nat.le_add_right _ _) inTime) due listens
    | desert | refuse | hangUp | leave | fail | tire | wind | conclude =>
        cases listens
    | _ =>
        exact holds inTime due listens
  exact kept notLater due listens

end Strands

/-- The settings keep their delays in the words of the program. -/
structure FitsWords (settings : Settings.Client) : Prop where
  backoff : settings.backoff.FitsWords
  tokenLook_le : settings.tokenLook ≤ greatestWord
  noticeDelay_le : settings.noticeDelay ≤ greatestWord

/-- Delays that fit words never make a timer wait longer than a word of milliseconds. -/
theorem period_le (words : FitsWords settings) (timer : Timer) :
    timer.period settings ≤ greatestWord := by
  cases timer with
  | reconnect =>
      exact words.backoff.maxDelay_le
  | countdown =>
      exact (by decide : 1000 ≤ greatestWord)
  | tokenLook =>
      exact words.tokenLook_le
  | refusalNotice =>
      exact words.noticeDelay_le

/-- As long as an instant can hold the time a longest delay after the clock, an instant can hold
whatever time a timer of a controller is due at, and whatever time a connection listens until. No
connection dies over the deadline of a silence, in whatever order its strands go on, exactly if an
instant can hold the time at which a silence that begins now has lasted too long. -/
theorem deadlines_hold_iff {setup : Setup} (words : FitsWords setup.settings) {clock : Nat}
    (early : Holds (clock + greatestWord)) :
    (∀ turns : List (Turn Payload), Controller.isPunctual setup 0 turns (.initial setup) = true →
      Controller.clockAfter 0 turns ≤ clock → ∀ timer due,
        (Controller.after setup turns (.initial setup)).timers.due? timer = some due →
          Holds due) ∧
      (∀ serial dialled moves strands,
        (Strands.dialed serial dialled).run setup.settings moves = some strands →
          strands.now ≤ clock → ∀ due, strands.reading = .listening due → Holds due) ∧
      ((∀ serial dialled moves strands,
          (Strands.dialed serial dialled).run setup.settings moves = some strands →
            strands.now ≤ clock → strands.reading ≠ .stalled) ↔
        Holds (clock + setup.settings.idleSeconds * 1000)) := by
  refine ⟨?_, ?_, ?_, ?_⟩
  · intro turns punctual notLater timer due armed
    have inReach := Controller.inReach_after Schedule.inReach_none punctual timer due armed
    have longest := period_le words timer
    exact early.of_le (by omega)
  · intro serial dialled moves strands run notLater due listens
    have soon : farFuture ≤ greatestWord := by decide
    exact Strands.holds_of_listening (early.of_le (Nat.add_le_add_left soon clock)) run notLater
      listens
  · intro alive
    obtain ⟨last, run, isNow, dies⟩ := Strands.run_greeted setup.settings clock
    by_contra unfit
    exact alive 0 clock _ last run (Nat.le_of_eq isNow) (dies.mpr unfit)
  · intro holds serial dialled moves strands run notLater stalled
    obtain ⟨now, reads, unfit⟩ := (Strands.stalled_iff_of_run Reading.noConfusion run).mp stalled
    have inTime := Nat.le_trans (Strands.le_of_readsFrameAt reads run) notLater
    exact unfit (holds.of_le (Nat.add_le_add_right inTime _))

theorem deadlines_hold_of_standard :
    (∀ turns : List (Turn String),
      Controller.isPunctual .standard 0 turns (.initial .standard) = true →
        Controller.clockAfter 0 turns ≤ 3600000 → ∀ timer due,
          (Controller.after .standard turns (.initial .standard)).timers.due? timer = some due →
            Holds due) ∧
      (∀ serial dialled moves strands,
        (Strands.dialed serial dialled).run .standard moves = some strands →
          strands.now ≤ 3600000 → strands.reading ≠ .stalled) := by
  have words : FitsWords Setup.standard.settings :=
    ⟨⟨by decide, by decide⟩, by decide, by decide⟩
  have early : Holds (3600000 + greatestWord) := by decide
  have holds : Holds (3600000 + Setup.standard.settings.idleSeconds * 1000) := by decide
  obtain ⟨timers, -, silence⟩ := @deadlines_hold_iff String .standard words _ early
  exact ⟨timers, silence.mpr holds⟩

/-- With these settings, which are accepted, a connection dies over the first ping. -/
theorem overflows_of_endless :
    endless.check.isOk = true ∧ endless.idleSeconds ≤ greatestWord ∧ FitsWords endless ∧
      ((Strands.dialed 7 0).run endless Strands.greeted).map (·.reading) = some .stalled := by
  refine ⟨?_, ?_, ⟨⟨?_, ?_⟩, ?_, ?_⟩, ?_⟩ <;> decide

end Parley.Connection
