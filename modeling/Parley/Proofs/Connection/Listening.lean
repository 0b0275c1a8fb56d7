import Parley.Proofs.Connection.Endings

/-!
# What a connection hears

A connection that is left alone passes on the texts that come, one after the other, until something
ends it: a close frame, an error, the end of the stream, or a silence that lasts too long. Every
frame ends a silence, also one that is not passed on. This holds in whatever order the strands go
on. A connection goes deaf exactly over a frame after which no instant can hold the next deadline.
-/

namespace Parley.Connection

namespace Incoming

def admitted? (limit : Nat) : Incoming → Option String
  | .text content => if Text.Utf8.size content.toList ≤ limit then some content else none
  | _ => none

def ending? : Incoming → Option Ending
  | .close (some (code, reason)) => some ⟨code, reason⟩
  | .close none => some ⟨1005, ""⟩
  | .error cause => some ⟨1006, cause⟩
  | .ended => some ⟨1006, "stream ended"⟩
  | _ => none

/-- What is reported of it when it ends the connection. -/
def failures : Incoming → List Report
  | .error cause => [.failed cause]
  | _ => []

end Incoming

/-! ## Timed arrivals -/

/-- Something from the socket, and when it comes. -/
abbrev Timed := Nat × Incoming

/-- An instant can hold the time so many seconds after now. -/
def Fits (idleSeconds now : Nat) : Prop :=
  now / 1000 + idleSeconds < greatestSecond

/-- When a silence since the opening has lasted too long. A time that no instant can hold is put far
into the future. -/
def firstDue (settings : Settings.Client) (now : Nat) : Nat :=
  (deadline? now settings.idleSeconds).getD (now + farFuture)

theorem le_firstDue (settings : Settings.Client) (now : Nat) : now ≤ firstDue settings now := by
  rw [firstDue, deadline?]
  split
  · exact Nat.le_add_right _ _
  · exact Nat.le_add_right _ _

/-- None of these ends a connection, and none comes later than it is due. -/
def Follow (idleSeconds : Nat) : Nat → List Timed → Prop
  | _, [] => True
  | due, (now, incoming) :: rest =>
      now ≤ due ∧ incoming.ending? = none ∧ Fits idleSeconds now ∧
        Follow idleSeconds (now + idleSeconds * 1000) rest

/-- When something is due after these, if it was due at some time before them. -/
def dueAfter (idleSeconds due : Nat) (frames : List Timed) : Nat :=
  (frames.getLast?.map fun frame => frame.1 + idleSeconds * 1000).getD due

def textsOf (limit : Nat) (frames : List Timed) : List Report :=
  frames.filterMap fun frame => (frame.2.admitted? limit).map .text

/-- How it stands with a connection. -/
inductive Verdict where
  | listening (due : Nat)
  /-- It reads no more and says nothing. -/
  | deaf
  | ended (now : Nat) (ending : Ending)
deriving DecidableEq, Repr

/-- What is reported of arrivals on a connection where something is due, and how it stands then. -/
inductive Heard (settings : Settings.Client) (due : Nat) (arrivals : List Timed) :
    List Report → Verdict → Prop where
  | listens (follow : Follow settings.idleSeconds due arrivals) :
      Heard settings due arrivals (textsOf settings.messageLimit arrivals)
        (.listening (dueAfter settings.idleSeconds due arrivals))
  | ends {frames later : List Timed} {now : Nat} {incoming : Incoming} {ending : Ending}
      (splits : arrivals = frames ++ (now, incoming) :: later)
      (follow : Follow settings.idleSeconds due frames)
      (inTime : now ≤ dueAfter settings.idleSeconds due frames)
      (fits : Watch.isFrame incoming = true → Fits settings.idleSeconds now)
      (ends : incoming.ending? = some ending) :
      Heard settings due arrivals (textsOf settings.messageLimit frames ++ incoming.failures)
        (.ended now ending)
  | tires {frames later : List Timed} (splits : arrivals = frames ++ later)
      (follow : Follow settings.idleSeconds due frames)
      (late : ∀ item ∈ later, dueAfter settings.idleSeconds due frames ≤ item.1) :
      Heard settings due arrivals (textsOf settings.messageLimit frames)
        (.ended (dueAfter settings.idleSeconds due frames) ⟨1006, "idle timeout"⟩)
  | stalls {frames later : List Timed} {now : Nat} {incoming : Incoming}
      (splits : arrivals = frames ++ (now, incoming) :: later)
      (follow : Follow settings.idleSeconds due frames)
      (inTime : now ≤ dueAfter settings.idleSeconds due frames)
      (isFrame : Watch.isFrame incoming = true) (unfit : ¬ Fits settings.idleSeconds now) :
      Heard settings due arrivals (textsOf settings.messageLimit frames) .deaf

theorem Watch.react_eq (limit : Nat) (incoming : Incoming) :
    Watch.react limit incoming = (incoming.admitted? limit, incoming.ending?) := by
  cases incoming with
  | close cause =>
      rcases cause with _ | ⟨code, reason⟩ <;> rfl
  | _ =>
      rfl

theorem deadline?_of_fits {idleSeconds now : Nat} (fits : Fits idleSeconds now) :
    deadline? now idleSeconds = some (now + idleSeconds * 1000) :=
  if_pos fits

theorem deadline?_eq_none_iff {idleSeconds now : Nat} :
    deadline? now idleSeconds = none ↔ ¬ Fits idleSeconds now := by
  simp [deadline?, Fits]

theorem Incoming.isFrame_of_ending?_eq_none {incoming : Incoming}
    (goesOn : incoming.ending? = none) : Watch.isFrame incoming = true := by
  cases incoming with
  | error cause | ended =>
      cases goesOn
  | _ =>
      rfl

/-! ### One frame more -/

section Frames

variable {settings : Settings.Client} {due now limit idleSeconds : Nat} {incoming : Incoming}
  {frames arrivals : List Timed} {reports : List Report} {verdict : Verdict}

theorem dueAfter_cons (idleSeconds due now : Nat) (incoming : Incoming) (frames : List Timed) :
    dueAfter idleSeconds due ((now, incoming) :: frames) =
      dueAfter idleSeconds (now + idleSeconds * 1000) frames := by
  rw [dueAfter, dueAfter, List.getLast?_cons]
  cases frames.getLast? <;> rfl

theorem textsOf_cons :
    textsOf limit ((now, incoming) :: frames) =
      ((incoming.admitted? limit).map Report.text).toList ++ textsOf limit frames := by
  rw [textsOf, List.filterMap_cons]
  cases (incoming.admitted? limit) <;> rfl

/-- What comes after a frame in time is heard as it is after the frame. -/
theorem Heard.cons (inTime : now ≤ due) (goesOn : incoming.ending? = none)
    (fits : Fits settings.idleSeconds now)
    (heard : Heard settings (now + settings.idleSeconds * 1000) arrivals reports verdict) :
    Heard settings due ((now, incoming) :: arrivals)
      (((incoming.admitted? settings.messageLimit).map Report.text).toList ++ reports) verdict := by
  have longer {frames : List Timed}
      (follow : Follow settings.idleSeconds (now + settings.idleSeconds * 1000) frames) :
      Follow settings.idleSeconds due ((now, incoming) :: frames) :=
    ⟨inTime, goesOn, fits, follow⟩
  have sameDue (frames : List Timed) :=
    dueAfter_cons settings.idleSeconds due now incoming frames
  cases heard with
  | listens follow =>
      rw [← sameDue, ← textsOf_cons]
      exact .listens (longer follow)
  | @ends frames later _ _ _ splits follow onTime fitsThen ends =>
      rw [← sameDue] at onTime
      rw [← List.append_assoc, ← textsOf_cons, splits]
      exact .ends rfl (longer follow) onTime fitsThen ends
  | @tires frames later splits follow late =>
      rw [← sameDue] at late
      rw [← textsOf_cons, ← sameDue, splits]
      exact .tires rfl (longer follow) late
  | @stalls frames later _ _ splits follow onTime isFrame unfit =>
      rw [← sameDue] at onTime
      rw [← textsOf_cons, splits]
      exact .stalls rfl (longer follow) onTime isFrame unfit

/-- Nothing comes before the silence has lasted too long. -/
theorem Heard.of_silence (late : ∀ item ∈ arrivals, due ≤ item.1) :
    Heard settings due arrivals [] (.ended due ⟨1006, "idle timeout"⟩) := by
  have heard : Heard settings due arrivals (textsOf settings.messageLimit [])
      (.ended due ⟨1006, "idle timeout"⟩) := .tires rfl trivial late
  exact heard

theorem Heard.of_ending {ending : Ending} (inTime : now ≤ due)
    (ends : incoming.ending? = some ending)
    (fits : Watch.isFrame incoming = true → Fits settings.idleSeconds now) :
    Heard settings due ((now, incoming) :: arrivals) incoming.failures (.ended now ending) := by
  have heard : Heard settings due ((now, incoming) :: arrivals)
      (textsOf settings.messageLimit [] ++ incoming.failures) (.ended now ending) :=
    .ends rfl trivial inTime fits ends
  exact heard

theorem Heard.of_unfit (inTime : now ≤ due) (isFrame : Watch.isFrame incoming = true)
    (unfit : ¬ Fits settings.idleSeconds now) :
    Heard settings due ((now, incoming) :: arrivals) [] .deaf := by
  have heard : Heard settings due ((now, incoming) :: arrivals)
      (textsOf settings.messageLimit []) .deaf := .stalls rfl trivial inTime isFrame unfit
  exact heard

theorem Heard.ne_deaf (heard : Heard settings due arrivals reports verdict)
    (fits : ∀ item ∈ arrivals, Fits settings.idleSeconds item.1) : verdict ≠ .deaf := by
  intro isDeaf
  cases isDeaf
  cases heard with
  | stalls splits follow inTime isFrame unfit =>
      have member : (_, _) ∈ arrivals := splits ▸ List.mem_append_right _ List.mem_cons_self
      exact unfit (fits _ member)

/-- What the watch makes of something that comes in time, and what is heard of it. -/
theorem heard_receive (settings : Settings.Client) (due now : Nat) (incoming : Incoming) :
    (Watch.receive settings now incoming (.listening due) = (.stalled, none) ∧
        Watch.isFrame incoming = true ∧ ¬ Fits settings.idleSeconds now) ∨
      (Watch.receive settings now incoming (.listening due) =
          (.listening (now + settings.idleSeconds * 1000),
            incoming.admitted? settings.messageLimit) ∧
        incoming.ending? = none ∧ Fits settings.idleSeconds now) ∨
      ∃ ending, Watch.receive settings now incoming (.listening due) =
          (.ended ending, incoming.admitted? settings.messageLimit) ∧
        incoming.ending? = some ending ∧
        (Watch.isFrame incoming = true → Fits settings.idleSeconds now) := by
  rw [Watch.receive, Watch.react_eq]
  cases isFrame : Watch.isFrame incoming with
  | false =>
      cases ends : incoming.ending? with
      | none =>
          rw [Incoming.isFrame_of_ending?_eq_none ends] at isFrame
          cases isFrame
      | some ending =>
          refine Or.inr (Or.inr ⟨ending, rfl, rfl, ?_⟩)
          intro never
          cases never
  | true =>
      by_cases fits : Fits settings.idleSeconds now
      · rw [if_pos rfl, deadline?_of_fits fits]
        cases ends : incoming.ending? with
        | none =>
            exact Or.inr (Or.inl ⟨rfl, rfl, fits⟩)
        | some ending =>
            exact Or.inr (Or.inr ⟨ending, rfl, rfl, fun _ => fits⟩)
      · rw [if_pos rfl, deadline?_eq_none_iff.mpr fits]
        exact Or.inl ⟨rfl, rfl, fits⟩

theorem reports_eq_failures {ending : Ending} (ends : incoming.ending? = some ending) :
    incoming.reports (incoming.admitted? limit) = incoming.failures := by
  cases incoming with
  | text content =>
      cases ends
  | close cause =>
      rfl
  | _ =>
      rfl

theorem reports_eq_text (goesOn : incoming.ending? = none) :
    incoming.reports (incoming.admitted? limit) =
      ((incoming.admitted? limit).map Report.text).toList := by
  cases incoming with
  | error cause =>
      cases goesOn
  | _ =>
      rfl

end Frames

/-! ## Strands that are left alone -/

/-- What comes from the socket in a run, and when. -/
def arrivalsIn : Nat → List Move → List Timed
  | _, [] => []
  | now, .wait milliseconds :: rest => arrivalsIn (now + milliseconds) rest
  | now, .arrive incoming :: rest => (now, incoming) :: arrivalsIn now rest
  | now, _ :: rest => arrivalsIn now rest

namespace Strands

/-- Nobody gives the connection up, no write fails, and no time passes while the reading strand has
something to do. -/
def permits (strands : Strands) : Move → Bool
  | .cancel => false
  | .ignore => false
  | .broken => false
  | .wait milliseconds =>
      match strands.reading with
      | .listening deadline =>
          strands.inbox.isEmpty && decide (strands.now + milliseconds ≤ deadline)
      | _ => true
  | _ => true

/-- Every move of a run is one of a connection that is left alone. -/
def isPrompt (settings : Settings.Client) : Strands → List Move → Bool
  | _, [] => true
  | strands, move :: rest =>
      strands.permits move &&
        match strands.step settings move with
        | some next => isPrompt settings next rest
        | none => true

structure IsFresh (settings : Settings.Client) (strands : Strands) : Prop where
  reading : strands.reading = .ofWatch (.start strands.now settings.idleSeconds)
  inbox : strands.inbox = []
  heeded : strands.isHeeded = true
  kept : strands.cancelled = false
  sound : strands.signalled = false

/-- The reading strand has found an end, and has reported it if it is gone. -/
inductive Closes (ending : Ending) (reading : Reading) : List Report → Prop where
  | leaves (leaves : reading = .leaving (some ending)) : Closes ending reading []
  | joins (joins : reading = .joining (some ending)) : Closes ending reading []
  | gone (gone : reading = .gone) : Closes ending reading [.closed ending.code ending.reason]

/-- It is at this time that the reading strand finds the end. -/
def EndsAt (settings : Settings.Client) (opened : Strands) (moves : List Move) (now : Nat)
    (ending : Ending) : Prop :=
  ∃ before move after middle next deadline, moves = before ++ move :: after ∧
    opened.run settings before = some middle ∧ middle.step settings move = some next ∧
    middle.now = now ∧ middle.reading = .listening deadline ∧
    next.reading = .leaving (some ending)

/-- The strands stand after a run as the verdict says, with this unread and with this reported in
the end. -/
def Bears (settings : Settings.Client) (opened : Strands) (moves : List Move) (last : Strands)
    (unread : List Timed) (tail : List Report) : Verdict → Prop
  | .listening due =>
      last.reading = .listening due ∧ last.now ≤ due ∧
        unread = last.inbox.map (last.now, ·) ∧ tail = []
  | .deaf => last.reading = .stalled ∧ unread = [] ∧ tail = []
  | .ended now ending =>
      Closes ending last.reading tail ∧ unread = [] ∧ EndsAt settings opened moves now ending

/-- What has come is heard but for what is unread, and nothing else is reported. -/
def Hears (settings : Settings.Client) (due : Nat) (opened : Strands) (moves : List Move)
    (last : Strands) : Prop :=
  ∃ heard unread reports verdict tail,
    opened.inbox.map (opened.now, ·) ++ arrivalsIn opened.now moves = heard ++ unread ∧
      Heard settings due heard reports verdict ∧
      last.reports = opened.reports ++ (reports ++ tail).map (opened.serial, ·) ∧
      Bears settings opened moves last unread tail verdict

section Alone

variable {settings : Settings.Client} {strands next last : Strands} {move : Move}
  {rest moves : List Move} {due now : Nat} {ending : Ending}

theorem isPrompt_cons (step : strands.step settings move = some next) :
    strands.isPrompt settings (move :: rest) = true ↔
      strands.permits move = true ∧ next.isPrompt settings rest = true := by
  rw [isPrompt, step, Bool.and_eq_true]

theorem givesUp_of_permits (permitted : strands.permits move = true) : move.givesUp = false := by
  cases move <;> first | rfl | cases permitted

theorem givesUp_of_isPrompt (prompt : strands.isPrompt settings moves = true)
    (run : strands.run settings moves = some last) : ∀ move ∈ moves, move.givesUp = false := by
  induction moves generalizing strands with
  | nil =>
      intro move member
      cases member
  | cons first rest inductionHypothesis =>
      obtain ⟨next, step, further⟩ := Option.bind_eq_some_iff.mp run
      obtain ⟨permitted, restPrompt⟩ := (isPrompt_cons step).mp prompt
      exact List.forall_mem_cons.mpr
        ⟨givesUp_of_permits permitted, inductionHypothesis restPrompt further⟩

theorem le_of_mem_arrivalsIn {item : Timed} (member : item ∈ arrivalsIn now moves) :
    now ≤ item.1 := by
  induction moves generalizing now with
  | nil =>
      cases member
  | cons move rest inductionHypothesis =>
      cases move with
      | wait milliseconds =>
          exact Nat.le_trans (Nat.le_add_right _ _) (inductionHypothesis member)
      | arrive incoming =>
          rcases List.mem_cons.mp member with rfl | later
          · exact Nat.le_refl now
          · exact inductionHypothesis later
      | _ =>
          exact inductionHypothesis member

/-! ### After the end -/

theorem Closes.reading_ne {reading : Reading} {tail : List Report}
    (closes : Closes ending reading tail) :
    reading ≠ .dialing ∧ ∀ deadline, reading ≠ .listening deadline := by
  cases closes with
  | leaves is | joins is | gone is =>
      rw [is]
      exact ⟨nofun, nofun⟩

theorem Closes.wind {outcome : Option Ending} {tail : List Report}
    (closes : Closes ending (.leaving outcome) tail) :
    Closes ending (.joining outcome) tail := by
  cases closes with
  | leaves is =>
      cases is
      exact .joins rfl
  | joins is | gone is =>
      cases is

theorem Closes.conclude {outcome : Option Ending} {tail : List Report}
    (closes : Closes ending (.joining outcome) tail) :
    Closes ending .gone (tail ++ endReports outcome) := by
  cases closes with
  | joins is =>
      cases is
      exact .gone rfl
  | leaves is | gone is =>
      cases is

/-- Once the reading strand has found an end, nothing but the end is reported. -/
theorem closes_of_run (leaves : strands.reading = .leaving (some ending))
    (heeded : strands.isHeeded = true) (goesOn : ∀ move ∈ moves, move.givesUp = false)
    (run : strands.run settings moves = some last) :
    ∃ tail, Closes ending last.reading tail ∧
      last.reports = strands.reports ++ tail.map (strands.serial, ·) := by
  -- Only an owner who still listens gets the end, and nobody stops listening on the way.
  have kept : last.isHeeded = true ∧ last.serial = strands.serial ∧
      ∃ tail, Closes ending last.reading tail ∧
        last.reports = strands.reports ++ tail.map (strands.serial, ·) := by
    refine run_keeps (fun later => later.isHeeded = true ∧ later.serial = strands.serial ∧
      ∃ tail, Closes ending later.reading tail ∧
        later.reports = strands.reports ++ tail.map (strands.serial, ·)) ?_ goesOn
      ⟨heeded, rfl, [], .leaves leaves, by simp⟩ run
    rintro middle move next goesOn passes ⟨heeded, own, tail, closes, told⟩
    obtain ⟨notDialing, notListening⟩ := closes.reading_ne
    cases passes with
    | cancel | ignore =>
        cases goesOn
    | accept dials | desert dials | refuse cause dials | hangUp dials =>
        exact absurd dials notDialing
    | leave listens | fail listens | tire listens | read listens =>
        exact absurd listens (notListening _)
    | wind isLeaving =>
        rw [isLeaving] at closes
        exact ⟨heeded, own, tail, closes.wind, told⟩
    | @conclude outcome joins down =>
        rw [joins] at closes
        refine ⟨heeded, own, tail ++ endReports outcome, closes.conclude, ?_⟩
        simp only [say, heeded, if_true, told, own, List.map_append, List.append_assoc]
    | _ =>
        exact ⟨heeded, own, tail, closes, told⟩
  exact kept.2.2

/-- A strand that has died stays so, and reports nothing. -/
theorem stalled_of_run (stalled : strands.reading = .stalled)
    (run : strands.run settings moves = some last) :
    last.reading = .stalled ∧ last.reports = strands.reports := by
  refine run_keeps
    (fun later => later.reading = .stalled ∧ later.reports = strands.reports) ?_
    (fun _ _ => trivial) ⟨stalled, rfl⟩ run
  rintro middle move next _ passes ⟨stalled, told⟩
  cases passes with
  | accept is | desert is | refuse cause is | hangUp is | leave is | fail is | tire is | read is
  | wind is | conclude is =>
      rw [stalled] at is
      cases is
  | _ =>
      exact ⟨stalled, told⟩

/-! ### Move by move -/

theorem EndsAt.cons (step : strands.step settings move = some next)
    (ends : EndsAt settings next rest now ending) :
    EndsAt settings strands (move :: rest) now ending := by
  obtain ⟨before, last, after, middle, final, deadline, splits, run, lastStep, stands⟩ := ends
  refine ⟨move :: before, last, after, middle, final, deadline, by rw [splits]; rfl, ?_, lastStep,
    stands⟩
  rw [Strands.run, step]
  exact run

theorem Bears.cons {unread : List Timed} {tail : List Report} {verdict : Verdict}
    (step : strands.step settings move = some next)
    (bears : Bears settings next rest last unread tail verdict) :
    Bears settings strands (move :: rest) last unread tail verdict := by
  cases verdict with
  | listening due | deaf =>
      exact bears
  | ended now ending =>
      obtain ⟨closes, isRead, ends⟩ := bears
      exact ⟨closes, isRead, ends.cons step⟩

/-- A move with which nothing is read or reported. -/
theorem Hears.pass (step : strands.step settings move = some next)
    (same : strands.inbox.map (strands.now, ·) ++ arrivalsIn strands.now (move :: rest) =
      next.inbox.map (next.now, ·) ++ arrivalsIn next.now rest)
    (told : next.reports = strands.reports) (own : next.serial = strands.serial)
    (hears : Hears settings due next rest last) :
    Hears settings due strands (move :: rest) last := by
  obtain ⟨heard, unread, reports, verdict, tail, splits, isHeard, lastTold, bears⟩ := hears
  rw [told, own] at lastTold
  exact ⟨heard, unread, reports, verdict, tail, same.trans splits, isHeard, lastTold,
    bears.cons step⟩

/-- The reading strand has taken the first thing that has come, and has reported so much of it. -/
structure Reads (strands : Strands) (incoming : Incoming) (reports : List Report)
    (next : Strands) : Prop where
  came : strands.inbox = incoming :: next.inbox
  now_eq : next.now = strands.now
  serial_eq : next.serial = strands.serial
  told : next.reports = strands.reports ++ reports.map (strands.serial, ·)

theorem Reads.arrivals_eq {incoming : Incoming} {reports : List Report}
    (reads : Reads strands incoming reports next) :
    strands.inbox.map (strands.now, ·) ++ arrivalsIn strands.now (.read :: rest) =
      (strands.now, incoming) :: (next.inbox.map (next.now, ·) ++ arrivalsIn next.now rest) := by
  rw [reads.came, reads.now_eq]
  rfl

theorem Hears.read {incoming : Incoming} (step : strands.step settings .read = some next)
    (reads : Reads strands incoming
      ((incoming.admitted? settings.messageLimit).map Report.text).toList next)
    (inTime : strands.now ≤ due) (goesOn : incoming.ending? = none)
    (fits : Fits settings.idleSeconds strands.now)
    (hears : Hears settings (strands.now + settings.idleSeconds * 1000) next rest last) :
    Hears settings due strands (.read :: rest) last := by
  obtain ⟨heard, unread, reports, verdict, tail, splits, isHeard, lastTold, bears⟩ := hears
  refine ⟨(strands.now, incoming) :: heard, unread, _, verdict, tail, ?_,
    isHeard.cons inTime goesOn fits, ?_, bears.cons step⟩
  · rw [reads.arrivals_eq, splits, List.cons_append]
  · rw [lastTold, reads.told, reads.serial_eq, List.append_assoc, List.append_assoc,
      ← List.map_append]

/-- What comes in time and ends the connection is the last thing that is heard. -/
theorem hears_of_ending {incoming : Incoming} (listens : strands.reading = .listening due)
    (step : strands.step settings .read = some next)
    (reads : Reads strands incoming incoming.failures next) (inTime : strands.now ≤ due)
    (ends : incoming.ending? = some ending)
    (fits : Watch.isFrame incoming = true → Fits settings.idleSeconds strands.now)
    (leaves : next.reading = .leaving (some ending)) (heeded : next.isHeeded = true)
    (goesOn : ∀ move ∈ rest, move.givesUp = false) (run : next.run settings rest = some last) :
    Hears settings due strands (.read :: rest) last := by
  obtain ⟨tail, closes, lastTold⟩ := closes_of_run leaves heeded goesOn run
  refine ⟨(strands.now, incoming) :: (next.inbox.map (next.now, ·) ++ arrivalsIn next.now rest),
    [], _, _, tail, ?_, .of_ending inTime ends fits, ?_, closes, rfl,
    ⟨[], .read, rest, strands, next, due, rfl, rfl, step, rfl, listens, leaves⟩⟩
  · rw [reads.arrivals_eq, List.append_nil]
  · rw [lastTold, reads.told, reads.serial_eq, List.append_assoc, ← List.map_append]

/-- A frame is read after which no instant can hold the next deadline. -/
theorem hears_of_stalling {incoming : Incoming} (reads : Reads strands incoming [] next)
    (inTime : strands.now ≤ due) (isFrame : Watch.isFrame incoming = true)
    (unfit : ¬ Fits settings.idleSeconds strands.now) (stalled : next.reading = .stalled)
    (run : next.run settings rest = some last) :
    Hears settings due strands (.read :: rest) last := by
  obtain ⟨lastStalled, lastTold⟩ := stalled_of_run stalled run
  refine ⟨(strands.now, incoming) :: (next.inbox.map (next.now, ·) ++ arrivalsIn next.now rest),
    [], _, _, [], ?_, .of_unfit inTime isFrame unfit, ?_, lastStalled, rfl, rfl⟩
  · rw [reads.arrivals_eq, List.append_nil]
  · rw [lastTold, reads.told]
    rfl

/-- The reading strand as it finds an end. -/
def leaves (ending : Ending) (strands : Strands) : Strands :=
  { strands with reading := .leaving (some ending) }

/-- A silence that has lasted too long is all that is heard in the end. -/
theorem hears_of_silence (listens : strands.reading = .listening due)
    (inTime : strands.now ≤ due) (silent : due ≤ strands.now)
    (step : strands.step settings .noticeSilence = some (strands.leaves ⟨1006, "idle timeout"⟩))
    (heeded : strands.isHeeded = true) (goesOn : ∀ move ∈ rest, move.givesUp = false)
    (run : (strands.leaves ⟨1006, "idle timeout"⟩).run settings rest = some last) :
    Hears settings due strands (.noticeSilence :: rest) last := by
  have stillHeeded : (strands.leaves ⟨1006, "idle timeout"⟩).isHeeded = true := heeded
  obtain ⟨tail, closes, lastTold⟩ := closes_of_run rfl stillHeeded goesOn run
  have isNow : strands.now = due := Nat.le_antisymm inTime silent
  have late : ∀ item ∈ strands.inbox.map (strands.now, ·) ++ arrivalsIn strands.now rest,
      due ≤ item.1 := by
    intro item member
    rcases List.mem_append.mp member with waits | comes
    · obtain ⟨incoming, _, rfl⟩ := List.mem_map.mp waits
      exact silent
    · exact Nat.le_trans silent (le_of_mem_arrivalsIn comes)
  refine ⟨_, [], [], _, tail, ?_, .of_silence late, lastTold, closes, rfl,
    ⟨[], .noticeSilence, rest, strands, _, due, rfl, rfl, step, isNow, listens, rfl⟩⟩
  rw [List.append_nil]
  rfl

/-- Whatever is read in time, the connection hears it and what comes later. -/
theorem hears_of_read {incoming : Incoming} {more : List Incoming}
    (listens : strands.reading = .listening due) (came : strands.inbox = incoming :: more)
    (isNext : next = Strands.read settings due incoming { strands with inbox := more })
    (step : strands.step settings .read = some next) (inTime : strands.now ≤ due)
    (heeded : strands.isHeeded = true) (goesOn : ∀ move ∈ rest, move.givesUp = false)
    (run : next.run settings rest = some last)
    (later : next.reading = .listening (strands.now + settings.idleSeconds * 1000) →
      Hears settings (strands.now + settings.idleSeconds * 1000) next rest last) :
    Hears settings due strands (.read :: rest) last := by
  have reads {watch : Watch} {text : Option String}
      (receives : Watch.receive settings strands.now incoming (.listening due) = (watch, text)) :
      next.reading = .ofWatch watch ∧ Reads strands incoming (incoming.reports text) next := by
    have isRead : next = say (incoming.reports text)
        { strands with inbox := more, reading := .ofWatch watch } := by
      simp only [isNext, Strands.read, receives]
    rw [isRead]
    refine ⟨rfl, came, rfl, rfl, ?_⟩
    simp only [say, heeded, if_true]
  have nextHeeded : next.isHeeded = true := by
    rw [isNext]
    exact heeded
  rcases heard_receive settings due strands.now incoming with
    ⟨receives, isFrame, unfit⟩ | ⟨receives, notEnd, fits⟩ | ⟨ending, receives, ends, fits⟩
  · obtain ⟨stalled, isRead⟩ := reads receives
    rw [reports_of_isFrame isFrame] at isRead
    exact hears_of_stalling isRead inTime isFrame unfit stalled run
  · obtain ⟨listensOn, isRead⟩ := reads receives
    rw [reports_eq_text notEnd] at isRead
    exact .read step isRead inTime notEnd fits (later listensOn)
  · obtain ⟨leaves, isRead⟩ := reads receives
    rw [reports_eq_failures ends] at isRead
    exact hears_of_ending listens step isRead inTime ends fits leaves nextHeeded goesOn run

/-- A connection that listens and is left alone hears what comes. -/
theorem hears_of_run (listens : strands.reading = .listening due) (inTime : strands.now ≤ due)
    (heeded : strands.isHeeded = true) (kept : strands.cancelled = false)
    (sound : strands.signalled = false) (run : strands.run settings moves = some last)
    (prompt : strands.isPrompt settings moves = true) : Hears settings due strands moves last := by
  induction moves generalizing strands due with
  | nil =>
      cases run
      have heard : Heard settings due [] [] (.listening due) := .listens trivial
      exact ⟨[], last.inbox.map (last.now, ·), [], _, [], List.append_nil _, heard,
        by simp, listens, inTime, rfl, rfl⟩
  | cons move rest inductionHypothesis =>
      obtain ⟨next, step, further⟩ := Option.bind_eq_some_iff.mp run
      obtain ⟨permitted, restPrompt⟩ := (isPrompt_cons step).mp prompt
      have goesOn := givesUp_of_isPrompt restPrompt further
      have passes := passes_of_step step
      -- The deadline moves with each frame that is read; all other moves keep it or end the wait.
      cases passes with
      | cancel | ignore | breakFrame | breakLast =>
          cases permitted
      | accept is | desert is | refuse cause is | hangUp is | wind is | conclude is =>
          rw [listens] at is
          cases is
      | leave _ cancelled =>
          rw [kept] at cancelled
          cases cancelled
      | fail _ signalled =>
          rw [sound] at signalled
          cases signalled
      | queue | lose | take | part | writeText | writeClose | writeLast =>
          exact .pass step rfl rfl rfl
            (inductionHypothesis listens inTime heeded kept sound further restPrompt)
      | wait milliseconds =>
          simp only [permits, listens, Bool.and_eq_true, List.isEmpty_iff, decide_eq_true_eq]
            at permitted
          obtain ⟨isRead, early⟩ := permitted
          refine .pass step ?_ rfl rfl
            (inductionHypothesis listens early heeded kept sound further restPrompt)
          rw [isRead]
          rfl
      | arrive incoming =>
          refine .pass step ?_ rfl rfl
            (inductionHypothesis listens inTime heeded kept sound further restPrompt)
          rw [List.map_append, List.append_assoc]
          rfl
      | @tire deadline isListening silent =>
          rw [listens] at isListening
          cases isListening
          exact hears_of_silence listens inTime silent step heeded goesOn further
      | @read deadline incoming more isListening came =>
          rw [listens] at isListening
          cases isListening
          refine hears_of_read listens came rfl step inTime heeded goesOn further
            fun listensOn => ?_
          exact inductionHypothesis listensOn (Nat.le_add_right _ _) heeded kept sound further
            restPrompt

/-- From the opening on, all that comes is heard up to the first end or the first silence. -/
theorem IsFresh.hears (fresh : strands.IsFresh settings)
    (run : strands.run settings moves = some last)
    (prompt : strands.isPrompt settings moves = true) :
    Hears settings (firstDue settings strands.now) strands moves last :=
  hears_of_run fresh.reading (le_firstDue settings strands.now) fresh.heeded fresh.kept fresh.sound
    run prompt

end Alone

end Strands

end Parley.Connection
