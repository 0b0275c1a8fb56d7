import Parley.Proofs.Connection.Frames

/-!
# Channels as strands

A channel makes all possible moves at once. Whatever happens to it is a run of its strands, in one
of the orders that they allow, with the same reports and the same frames on the socket. So whatever
holds of all runs of strands holds of channels.
-/

namespace Parley.Connection

def NetEvent.frame? : NetEvent → Option Written
  | .written frame => some frame
  | _ => none

namespace Writer

variable {fails : Bool} {cancelled : Bool} {writer : Writer}

/-- A writer that is still open has nothing left to write. -/
theorem writeWaiting_eq_idle {waiting : List Frame}
    (accepts : (writeWaiting fails waiting).1.accepts = true) :
    (writeWaiting fails waiting).1 = idle := by
  induction waiting with
  | nil => rfl
  | cons frame rest inductionHypothesis =>
      cases fails with
      | true => cases accepts
      | false =>
          cases frame with
          | close code reason => cases accepts
          | text content => exact inductionHypothesis accepts

theorem run_of_closed (closed : writer.accepts = false) :
    writer.run fails cancelled = (writer, []) := by
  simp only [run, closed, Bool.not_false, if_true]

theorem run_of_open (accepts : writer.accepts = true)
    (stays : ((writeWaiting fails writer.waiting).1.accepts && cancelled) = false) :
    writer.run fails cancelled = writeWaiting fails writer.waiting := by
  simp only [run, accepts, stays, Bool.not_true, Bool.false_eq_true, if_false]

theorem run_of_last (accepts : writer.accepts = true)
    (idle : (writeWaiting fails writer.waiting).1.accepts = true) :
    writer.run fails true =
      (⟨[], .finished⟩,
        (writeWaiting fails writer.waiting).2 ++ if fails then [] else [.close none]) := by
  simp only [run, accepts, idle, Bool.not_true, Bool.false_eq_true, if_false, Bool.and_true,
    if_true]
  cases fails <;> simp

/-- A cancelled writer does not stay open. -/
theorem accepts_run_cancelled (fails : Bool) (writer : Writer) :
    (writer.run fails true).1.accepts = false := by
  cases accepts : writer.accepts with
  | false =>
      rw [run_of_closed accepts]
      exact accepts
  | true =>
      cases idle : (writeWaiting fails writer.waiting).1.accepts with
      | false =>
          rw [run_of_open accepts (by rw [idle, Bool.false_and])]
          exact idle
      | true =>
          rw [run_of_last accepts idle]
          rfl

end Writer

namespace Channel

/-- What can happen to a channel. -/
inductive Touch where
  | queue (frame : Frame)
  | cancel
  | breakWrites
  | wait (milliseconds : Nat)
  | accept
  | refuse (cause : String)
  | receive (incoming : Incoming)
  | expire
  | settle
deriving DecidableEq, Repr

/-- A channel, its clock, and what has come of it so far. -/
structure Course where
  now : Nat
  channel : Channel
  net : List NetEvent
  reports : List Report
deriving DecidableEq, Repr

namespace Course

def dialed (now : Nat) : Course :=
  ⟨now, .dialed, [], []⟩

def adopt (turn : Turn) (course : Course) : Course :=
  ⟨course.now, turn.channel, course.net ++ turn.net, course.reports ++ turn.reports⟩

def touch (settings : Settings.Client) (course : Course) : Touch → Course
  | .queue frame => { course with channel := course.channel.queue frame }
  | .cancel => { course with channel := course.channel.cancel }
  | .breakWrites => { course with channel := course.channel.breakWrites }
  | .wait milliseconds => { course with now := course.now + milliseconds }
  | .accept => course.adopt (course.channel.accept settings course.now)
  | .refuse cause => course.adopt (course.channel.refuse cause)
  | .receive incoming => course.adopt (course.channel.receive settings course.now incoming)
  | .expire => course.adopt (course.channel.expire course.now)
  | .settle => course.adopt course.channel.settle

end Course

end Channel

namespace Strands

variable {settings : Settings.Client} {strands middle next : Strands}

/-- By some moves the strands get from one state to the next, while these frames go out and these
reports are made. -/
structure Yields (settings : Settings.Client) (strands : Strands) (frames : List Written)
    (reports : List Report) (next : Strands) : Prop where
  reached : ∃ moves, strands.run settings moves = some next
  serial : next.serial = strands.serial
  now : next.now = strands.now
  heeded : next.isHeeded = strands.isHeeded
  written : next.written = strands.written ++ frames
  reports : next.reports = strands.reports ++ reports.map (strands.serial, ·)

theorem Yields.refl (strands : Strands) : Yields settings strands [] [] strands :=
  ⟨⟨[], rfl⟩, rfl, rfl, rfl, (List.append_nil _).symm, (List.append_nil _).symm⟩

theorem Yields.trans {frames frames' : List Written} {reports reports' : List Report}
    (first : Yields settings strands frames reports middle)
    (second : Yields settings middle frames' reports' next) :
    Yields settings strands (frames ++ frames') (reports ++ reports') next := by
  obtain ⟨before, run⟩ := first.reached
  obtain ⟨after, further⟩ := second.reached
  refine ⟨⟨before ++ after, by rw [run_append, run, Option.bind_some, further]⟩,
    second.serial.trans first.serial, second.now.trans first.now,
    second.heeded.trans first.heeded, ?_, ?_⟩
  · rw [second.written, first.written, List.append_assoc]
  · rw [second.reports, first.reports, first.serial, List.map_append, List.append_assoc]

/-- The frames go out first, and the reports are made later. -/
theorem Yields.telling {frames : List Written} {reports : List Report}
    (first : Yields settings strands frames [] middle)
    (second : Yields settings middle [] reports next) :
    Yields settings strands frames reports next := by
  simpa only [List.append_nil, List.nil_append] using first.trans second

section Moves

variable {frame : Written} {reports : List Report} (move : Move)
  (step : strands.step settings move = some next)
  (same : next.serial = strands.serial ∧ next.now = strands.now ∧
    next.isHeeded = strands.isHeeded)
include step same

/-- A move that nobody sees. -/
theorem Yields.quiet (unseen : next.written = strands.written ∧ next.reports = strands.reports) :
    Yields settings strands [] [] next :=
  ⟨⟨[move], by rw [run, step]; rfl⟩, same.1, same.2.1, same.2.2,
    unseen.1.trans (List.append_nil _).symm, unseen.2.trans (List.append_nil _).symm⟩

/-- A move with which a frame goes out. -/
theorem Yields.sent
    (written : next.written = strands.written ++ [frame] ∧ next.reports = strands.reports) :
    Yields settings strands [frame] [] next :=
  ⟨⟨[move], by rw [run, step]; rfl⟩, same.1, same.2.1, same.2.2, written.1,
    written.2.trans (List.append_nil _).symm⟩

/-- A move that is reported. -/
theorem Yields.told
    (told : next.written = strands.written ∧
      next.reports = strands.reports ++ reports.map (strands.serial, ·)) :
    Yields settings strands [] reports next :=
  ⟨⟨[move], by rw [run, step]; rfl⟩, same.1, same.2.1, same.2.2,
    told.1.trans (List.append_nil _).symm, told.2⟩

end Moves

/-! ## Writing -/

/-- The writing strand stands as the writer does. -/
def Writes (writer : Writer) (strands : Strands) : Prop :=
  match writer.writing with
  | .running =>
      strands.pen = .choosing ∧ strands.waiting = writer.waiting ∧ strands.signalled = false
  | .finished => strands.pen = .closed ∨ strands.pen = .broken ∧ strands.signalled = false
  | .failed => strands.pen = .broken ∧ strands.signalled = true

/-- Nothing but the writing strand has moved. -/
structure SameReading (strands next : Strands) : Prop where
  reading : next.reading = strands.reading
  cancelled : next.cancelled = strands.cancelled
  inbox : next.inbox = strands.inbox

section Yields

variable (settings : Settings.Client)

theorem yields_take {frame : Frame} {rest : List Frame} (chooses : strands.pen = .choosing)
    (waits : strands.waiting = frame :: rest) :
    Yields settings strands [] [] { strands with pen := .writing frame, waiting := rest } :=
  .quiet .take (by simp only [step, chooses, waits]) ⟨rfl, rfl, rfl⟩ ⟨rfl, rfl⟩

theorem yields_text {content : String} (writes : strands.pen = .writing (.text content)) :
    Yields settings strands [.text content] []
      { strands with pen := .choosing, written := strands.written ++ [.text content] } :=
  .sent .written (by simp only [step, writes]) ⟨rfl, rfl, rfl⟩ ⟨rfl, rfl⟩

theorem yields_close {code : Nat} {reason : String}
    (writes : strands.pen = .writing (.close code reason)) :
    Yields settings strands [.close (some (code, reason))] []
      { strands with
        pen := .closed
        written := strands.written ++ [.close (some (code, reason))] } :=
  .sent .written (by simp only [step, writes]) ⟨rfl, rfl, rfl⟩ ⟨rfl, rfl⟩

theorem yields_break {frame : Frame} (writes : strands.pen = .writing frame) :
    Yields settings strands [] [] { strands with pen := .broken, signalled := true } :=
  .quiet .broken (by simp only [step, writes]) ⟨rfl, rfl, rfl⟩ ⟨rfl, rfl⟩

theorem yields_part (chooses : strands.pen = .choosing) (idle : strands.waiting = [])
    (cancelled : strands.cancelled = true) :
    Yields settings strands [] [] { strands with pen := .parting } :=
  .quiet .part (by simp only [step, chooses, idle, cancelled, if_true]) ⟨rfl, rfl, rfl⟩ ⟨rfl, rfl⟩

theorem yields_last (parts : strands.pen = .parting) :
    Yields settings strands [.close none] []
      { strands with pen := .closed, written := strands.written ++ [.close none] } :=
  .sent .written (by simp only [step, parts]) ⟨rfl, rfl, rfl⟩ ⟨rfl, rfl⟩

theorem yields_breakLast (parts : strands.pen = .parting) :
    Yields settings strands [] [] { strands with pen := .broken } :=
  .quiet .broken (by simp only [step, parts]) ⟨rfl, rfl, rfl⟩ ⟨rfl, rfl⟩

/-- The writing strand writes what waits. -/
theorem exists_writeWaiting (fails : Bool) (waiting : List Frame)
    (chooses : strands.pen = .choosing) (waits : strands.waiting = waiting)
    (sound : strands.signalled = false) :
    ∃ next, Yields settings strands (Writer.writeWaiting fails waiting).2 [] next ∧
      Writes (Writer.writeWaiting fails waiting).1 next ∧ SameReading strands next := by
  induction waiting generalizing strands with
  | nil =>
      exact ⟨strands, .refl strands, ⟨chooses, waits, sound⟩, rfl, rfl, rfl⟩
  | cons frame rest inductionHypothesis =>
      have took := yields_take settings chooses waits
      cases fails with
      | true =>
          exact ⟨_, took.trans (yields_break settings rfl), ⟨rfl, rfl⟩, rfl, rfl, rfl⟩
      | false =>
          cases frame with
          | close code reason =>
              exact ⟨_, took.trans (yields_close settings rfl), Or.inl rfl, rfl, rfl, rfl⟩
          | text content =>
              have wrote := took.trans (yields_text settings rfl)
              obtain ⟨next, yields, writes, same⟩ := inductionHypothesis
                (show Strands.pen { strands with
                  pen := .choosing
                  waiting := rest
                  written := strands.written ++ [.text content] } = .choosing from rfl) rfl sound
              exact ⟨next, wrote.trans yields, writes, same.reading, same.cancelled, same.inbox⟩

/-- The writing strand writes all that the writer writes. -/
theorem exists_write (fails : Bool) {writer : Writer} (writes : strands.Writes writer) :
    ∃ next, Yields settings strands (writer.run fails strands.cancelled).2 [] next ∧
      Writes (writer.run fails strands.cancelled).1 next ∧ SameReading strands next := by
  cases accepts : writer.accepts with
  | false =>
      rw [Writer.run_of_closed accepts]
      exact ⟨strands, .refl strands, writes, rfl, rfl, rfl⟩
  | true =>
      have running : writer.writing = .running := by simpa [Writer.accepts] using accepts
      simp only [Writes, running] at writes
      obtain ⟨next, yields, wrote, same⟩ :=
        exists_writeWaiting settings fails writer.waiting writes.1 writes.2.1 writes.2.2
      cases ends : (Writer.writeWaiting fails writer.waiting).1.accepts && strands.cancelled with
      | false =>
          rw [Writer.run_of_open accepts ends]
          exact ⟨next, yields, wrote, same⟩
      | true =>
          obtain ⟨stays, cancelled⟩ := Bool.and_eq_true_iff.mp ends
          rw [Writer.writeWaiting_eq_idle stays] at wrote
          have parted := yields.telling
            (yields_part settings wrote.1 wrote.2.1 (same.cancelled.trans cancelled))
          rw [cancelled, Writer.run_of_last accepts stays]
          cases fails with
          | true =>
              have broke := parted.trans (yields_breakLast settings rfl)
              exact ⟨_, broke, Or.inr ⟨rfl, wrote.2.2⟩, same.reading, same.cancelled, same.inbox⟩
          | false =>
              have signed := parted.trans (yields_last settings rfl)
              exact ⟨_, signed, Or.inl rfl, same.reading, same.cancelled, same.inbox⟩

theorem Writes.done {writer : Writer} (writes : strands.Writes writer)
    (closed : writer.accepts = false) : strands.pen = .closed ∨ strands.pen = .broken := by
  unfold Writes at writes
  split at writes
  next running => simp [Writer.accepts, running] at closed
  next => exact writes.imp_right And.left
  next => exact Or.inr writes.1

theorem Writes.isDown {writer : Writer} (writes : strands.Writes writer)
    (closed : writer.accepts = false) : strands.pen.isDown = true := by
  rcases writes.done closed with pen | pen <;> rw [pen] <;> rfl

theorem Writes.accepts_eq_false {writer : Writer} (writes : strands.Writes writer)
    (closed : writer.accepts = false) : strands.accepts = false := by
  unfold accepts
  rcases writes.done closed with pen | pen <;> rw [pen] <;> rfl

/-! ## Reading -/

theorem yields_accept (dials : strands.reading = .dialing) (heeded : strands.isHeeded = true) :
    Yields settings strands [] [.opened]
      (say [.opened] { strands with
        reading := .ofWatch (.start strands.now settings.idleSeconds)
        pen := .choosing }) :=
  .told .accept (by simp only [step, dials, heeded, if_true]) ⟨rfl, rfl, rfl⟩
    ⟨rfl, by simp only [say, heeded, if_true]⟩

theorem yields_refuse (cause : String) (dials : strands.reading = .dialing)
    (heeded : strands.isHeeded = true) :
    Yields settings strands [] [.failed cause]
      (say [.failed cause]
        { strands with reading := .joining (some (.abnormal cause)) }) :=
  .told (.refuse cause) (by simp only [step, dials]) ⟨rfl, rfl, rfl⟩
    ⟨rfl, by simp only [say, heeded, if_true]⟩

theorem yields_hangUp (dials : strands.reading = .dialing) (cancelled : strands.cancelled = true) :
    Yields settings strands [] [] { strands with reading := .gone } :=
  .quiet .noticeCancel (by simp only [step, cancelled, dials, if_true]) ⟨rfl, rfl, rfl⟩ ⟨rfl, rfl⟩

theorem yields_leave {deadline : Nat} (listens : strands.reading = .listening deadline)
    (cancelled : strands.cancelled = true) :
    Yields settings strands [] [] { strands with reading := .leaving none } :=
  .quiet .noticeCancel (by simp only [step, cancelled, listens, if_true]) ⟨rfl, rfl, rfl⟩ ⟨rfl, rfl⟩

theorem yields_fail {deadline : Nat} (listens : strands.reading = .listening deadline)
    (signalled : strands.signalled = true) :
    Yields settings strands [] []
      { strands with reading := .leaving (some (.abnormal "write failed")) } :=
  .quiet .noticeFailure (by simp only [step, listens, signalled, if_true])
    ⟨rfl, rfl, rfl⟩ ⟨rfl, rfl⟩

theorem yields_tire {deadline : Nat} (listens : strands.reading = .listening deadline)
    (silent : deadline ≤ strands.now) :
    Yields settings strands [] []
      { strands with reading := .leaving (some (.abnormal "idle timeout")) } :=
  .quiet .noticeSilence (by simp only [step, listens, Watch.expire, silent, if_true])
    ⟨rfl, rfl, rfl⟩ ⟨rfl, rfl⟩

theorem yields_wind {outcome : Option Ending} (leaves : strands.reading = .leaving outcome) :
    Yields settings strands [] []
      { strands with reading := .joining outcome, cancelled := true } :=
  .quiet .wind (by simp only [step, leaves]) ⟨rfl, rfl, rfl⟩ ⟨rfl, rfl⟩

theorem yields_conclude {outcome : Option Ending} (joins : strands.reading = .joining outcome)
    (down : strands.pen.isDown = true) (heeded : strands.isHeeded = true) :
    Yields settings strands [] (endReports outcome)
      (say (endReports outcome) { strands with reading := .gone }) :=
  .told .conclude (by simp only [step, joins, down, if_true]) ⟨rfl, rfl, rfl⟩
    ⟨rfl, by simp only [say, heeded, if_true]⟩

theorem yields_arrive (strands : Strands) (incoming : Incoming) :
    Yields settings strands [] [] { strands with inbox := strands.inbox ++ [incoming] } :=
  .quiet (.arrive incoming) rfl ⟨rfl, rfl, rfl⟩ ⟨rfl, rfl⟩

theorem yields_read {deadline : Nat} {incoming : Incoming} {rest : List Incoming}
    (listens : strands.reading = .listening deadline) (came : strands.inbox = incoming :: rest)
    (heeded : strands.isHeeded = true) :
    Yields settings strands []
      (incoming.reports (Watch.receive settings strands.now incoming (.listening deadline)).2)
      (read settings deadline incoming { strands with inbox := rest }) :=
  .told .read (by simp only [step, listens, came]) ⟨rfl, rfl, rfl⟩
    ⟨rfl, by simp only [read, say, heeded, if_true]⟩

theorem accepts_of_gone (gone : strands.reading = .gone) (down : strands.pen.isDown = true) :
    strands.accepts = false := by
  unfold accepts
  cases pen : strands.pen <;> simp_all [Pen.isDown]

/-- A reading strand that leaves cancels the connection, waits until the writing strand is done and
reports the end. -/
theorem exists_finish (fails : Bool) {writer : Writer} {outcome : Option Ending}
    (leaves : strands.reading = .leaving outcome) (heeded : strands.isHeeded = true)
    (writes : strands.Writes writer) :
    ∃ next, Yields settings strands (writer.run fails true).2 (endReports outcome) next ∧
      next.accepts = false := by
  have wound := yields_wind settings leaves
  have joined : Writes writer { strands with reading := .joining outcome, cancelled := true } :=
    writes
  obtain ⟨middle, wrote, done, same⟩ := exists_write settings fails joined
  have down := done.isDown (Writer.accepts_run_cancelled fails writer)
  have concluded := yields_conclude settings same.reading down (wrote.heeded.trans heeded)
  exact ⟨_, (wound.trans wrote).telling concluded, accepts_of_gone rfl down⟩

end Yields

/-! ## What happens to a channel -/

def StandsAt (channel : Channel) (strands : Strands) : Prop :=
  match channel.stage with
  | .dialing =>
      strands.reading = .dialing ∧ strands.pen = .absent ∧ strands.signalled = false ∧
        strands.cancelled = channel.cancelled ∧ strands.inbox = [] ∧
        channel.writer = ⟨strands.waiting, .running⟩
  | .streaming watch =>
      strands.reading = .ofWatch watch ∧ (∀ ending, watch ≠ .ended ending) ∧
        strands.cancelled = channel.cancelled ∧ strands.inbox = [] ∧ strands.Writes channel.writer
  | .ended => strands.accepts = false

/-- The strands are where the channel is, and the same has come of them. -/
structure Mirrors (serial : Nat) (course : Channel.Course) (strands : Strands) : Prop where
  own : strands.serial = serial
  now : strands.now = course.now
  heeded : strands.isHeeded = true
  written : strands.written = course.net.filterMap NetEvent.frame?
  reports : strands.reports = course.reports.map (serial, ·)
  stands : StandsAt course.channel strands

theorem filterMap_written (frames : List Written) :
    (frames.map NetEvent.written).filterMap NetEvent.frame? = frames := by
  rw [List.filterMap_map]
  exact List.filterMap_some

/-- What the strands yield is what the channel does. -/
theorem Mirrors.adopt {serial : Nat} {course : Channel.Course} {turn : Channel.Turn}
    (mirrors : Mirrors serial course strands)
    (yields : Yields settings strands (turn.net.filterMap NetEvent.frame?) turn.reports next)
    (stands : StandsAt turn.channel next) : Mirrors serial (course.adopt turn) next where
  own := yields.serial.trans mirrors.own
  now := yields.now.trans mirrors.now
  heeded := yields.heeded.trans mirrors.heeded
  written := by
    rw [yields.written, mirrors.written]
    exact List.filterMap_append.symm
  reports := by
    rw [yields.reports, mirrors.reports, mirrors.own]
    exact List.map_append.symm
  stands := stands

/-- Channel and strands start in the same place. -/
theorem mirrors_dialed (serial now : Nat) :
    Mirrors serial (.dialed now) (dialed serial now) :=
  ⟨rfl, rfl, rfl, rfl, rfl, rfl, rfl, rfl, rfl, rfl, rfl⟩

/-- The strands can do what the channel does in its turn. -/
def Follows (settings : Settings.Client) (strands : Strands) (turn : Channel.Turn) : Prop :=
  ∃ next, Yields settings strands (turn.net.filterMap NetEvent.frame?) turn.reports next ∧
    StandsAt turn.channel next

variable {channel : Channel}

theorem follows_rest (stands : StandsAt channel strands) : Follows settings strands channel.rest :=
  ⟨strands, .refl strands, stands⟩

theorem follows_accept (heeded : strands.isHeeded = true) (stands : StandsAt channel strands) :
    Follows settings strands (channel.accept settings strands.now) := by
  unfold Channel.accept
  split
  next pending =>
    have dials : channel.stage = .dialing := of_decide_eq_true (Bool.and_eq_true_iff.mp pending).1
    simp only [StandsAt, dials] at stands
    obtain ⟨reading, pen, sound, cancelled, inbox, writer⟩ := stands
    refine ⟨_, yields_accept settings reading heeded, rfl, nofun, cancelled, inbox, ?_⟩
    rw [writer]
    exact ⟨rfl, rfl, sound⟩
  next => exact follows_rest stands

theorem follows_refuse (cause : String) (heeded : strands.isHeeded = true)
    (stands : StandsAt channel strands) : Follows settings strands (channel.refuse cause) := by
  unfold Channel.refuse
  split
  next pending =>
    have dials : channel.stage = .dialing := of_decide_eq_true (Bool.and_eq_true_iff.mp pending).1
    simp only [StandsAt, dials] at stands
    obtain ⟨reading, pen, -⟩ := stands
    have down : strands.pen.isDown = true := by rw [pen]; rfl
    have refused := yields_refuse settings cause reading heeded
    have joins : (say [.failed cause] { strands with
        reading := .joining (some (.abnormal cause)) }).reading =
        .joining (some (.abnormal cause)) := rfl
    have concluded := yields_conclude settings joins down heeded
    exact ⟨_, refused.trans concluded, accepts_of_gone rfl down⟩
  next => exact follows_rest stands

/-- The reading strand has come to a watch, and the channel proceeds to it. -/
theorem follows_proceed {watch : Watch} {reports : List Report}
    (came : Yields settings strands [] reports middle) (reading : middle.reading = .ofWatch watch)
    (heeded : middle.isHeeded = true) (cancelled : middle.cancelled = channel.cancelled)
    (inbox : middle.inbox = []) (writes : middle.Writes channel.writer) :
    Follows settings strands (channel.proceed watch reports) := by
  cases watch with
  | ended ending =>
      obtain ⟨next, yields, closed⟩ := exists_finish settings channel.failing reading heeded writes
      refine ⟨next, ?_, closed⟩
      have frames := filterMap_written (channel.writer.run channel.failing true).2
      exact frames ▸ came.trans yields
  | listening deadline =>
      exact ⟨middle, came, reading, nofun, cancelled, inbox, writes⟩
  | stalled =>
      exact ⟨middle, came, reading, nofun, cancelled, inbox, writes⟩

theorem follows_receive (incoming : Incoming) (heeded : strands.isHeeded = true)
    (stands : StandsAt channel strands) :
    Follows settings strands (channel.receive settings strands.now incoming) := by
  unfold Channel.receive
  cases stage : channel.stage with
  | dialing | ended => exact follows_rest stands
  | streaming watch =>
      cases given : channel.cancelled with
      | true => exact follows_rest stands
      | false =>
          have streams := stands
          simp only [StandsAt, stage] at streams
          obtain ⟨reading, goesOn, cancelled, inbox, writes⟩ := streams
          cases watch with
          | ended ending => exact absurd rfl (goesOn ending)
          | stalled => exact follows_rest stands
          | listening deadline =>
              have one : strands.inbox ++ [incoming] = [incoming] := by rw [inbox, List.nil_append]
              have arrived := yields_arrive settings strands incoming
              have came := arrived.trans (yields_read settings reading one heeded)
              exact follows_proceed came rfl heeded cancelled rfl writes

theorem follows_expire (heeded : strands.isHeeded = true) (stands : StandsAt channel strands) :
    Follows settings strands (channel.expire strands.now) := by
  unfold Channel.expire
  cases stage : channel.stage with
  | dialing | ended => exact follows_rest stands
  | streaming watch =>
      cases watch with
      | ended | stalled => exact follows_rest stands
      | listening deadline =>
          cases given : channel.cancelled with
          | true => exact follows_rest stands
          | false =>
              simp only [StandsAt, stage] at stands
              obtain ⟨reading, -, cancelled, inbox, writes⟩ := stands
              change Follows settings strands
                (channel.proceed (Watch.expire strands.now (.listening deadline)) [])
              by_cases silent : deadline ≤ strands.now
              · rw [Watch.expire, if_pos silent]
                have tired := yields_tire settings reading silent
                exact follows_proceed tired rfl heeded cancelled inbox writes
              · rw [Watch.expire, if_neg silent]
                exact follows_proceed (.refl strands) reading heeded cancelled inbox writes

/-- The strands can do all that a channel does without the socket. -/
theorem follows_settle (heeded : strands.isHeeded = true) (stands : StandsAt channel strands) :
    Follows settings strands channel.settle := by
  obtain ⟨stage, writer, given, failing⟩ := channel
  cases stage with
  | ended => exact follows_rest stands
  | dialing =>
      obtain ⟨reading, pen, sound, cancelled, -⟩ := id stands
      cases given with
      | false => exact follows_rest stands
      | true =>
          have hung := yields_hangUp settings reading cancelled
          exact ⟨_, hung, accepts_of_gone rfl (by rw [pen]; rfl)⟩
  | streaming watch =>
      obtain ⟨reading, goesOn, cancelled, inbox, writes⟩ := stands
      obtain ⟨next, yields, wrote, same⟩ := exists_write settings failing writes
      rw [cancelled] at yields wrote
      have stays (fits : ∀ ending, watch ≠ .ended ending) :
          StandsAt ⟨.streaming watch, (writer.run failing given).1, given, failing⟩ next :=
        ⟨same.reading.trans reading, fits, same.cancelled.trans cancelled, same.inbox.trans inbox,
          wrote⟩
      cases watch with
      | ended ending => exact absurd rfl (goesOn ending)
      | stalled =>
          refine ⟨next, (filterMap_written _).symm ▸ yields, ?_⟩
          change StandsAt (if (writer.run failing given).1.accepts then _ else _) next
          by_cases opens : (writer.run failing given).1.accepts = true
          · rw [if_pos opens]
            exact stays nofun
          · rw [if_neg opens]
            exact wrote.accepts_eq_false (Bool.eq_false_iff.mpr opens)
      | listening deadline =>
          cases given with
          | true =>
              have left := yields_leave settings reading cancelled
              have leaves : Strands.reading { strands with reading := .leaving none } =
                  .leaving none := rfl
              obtain ⟨last, finished, closed⟩ :=
                exists_finish settings failing leaves heeded writes
              exact ⟨last, (filterMap_written _).symm ▸ left.trans finished, closed⟩
          | false =>
              change Follows settings strands
                (if (writer.run failing false).1.writing = .failed then _ else _)
              by_cases failed : (writer.run failing false).1.writing = .failed
              · rw [if_pos failed]
                have shut : (writer.run failing false).1.accepts = false := by
                  rw [Writer.accepts, failed]
                  rfl
                have broken := wrote
                simp only [Writes, failed] at broken
                have left := yields_fail settings (same.reading.trans reading) broken.2
                obtain ⟨last, finished, closed⟩ := exists_finish settings failing
                  (show Strands.reading { next with
                    reading := .leaving (some (.abnormal "write failed")) } = _ from rfl)
                  (yields.heeded.trans heeded) wrote
                rw [Writer.run_of_closed shut] at finished
                exact ⟨last, (filterMap_written _).symm ▸ (yields.telling left).telling finished,
                  closed⟩
              · rw [if_neg failed]
                exact ⟨next, (filterMap_written _).symm ▸ yields, stays nofun⟩

theorem standsAt_cancel (stands : StandsAt channel strands) :
    StandsAt channel.cancel { strands with cancelled := true } := by
  obtain ⟨stage, writer, given, failing⟩ := channel
  cases stage with
  | dialing =>
      obtain ⟨reading, pen, sound, -, inbox, same⟩ := stands
      exact ⟨reading, pen, sound, rfl, inbox, same⟩
  | streaming watch =>
      obtain ⟨reading, goesOn, -, inbox, writes⟩ := stands
      exact ⟨reading, goesOn, rfl, inbox, writes⟩
  | ended => exact stands

/-- The strands take a frame if the channel does. -/
theorem standsAt_queue (frame : Frame) (stands : StandsAt channel strands) :
    StandsAt (channel.queue frame) (strands.queue frame) := by
  obtain ⟨stage, writer, given, failing⟩ := channel
  cases stage with
  | dialing =>
      obtain ⟨reading, pen, sound, cancelled, inbox, same⟩ := stands
      have accepts : strands.accepts = true := by
        rw [Strands.accepts, pen, reading]
        rfl
      rw [Strands.queue, if_pos accepts]
      have same : writer = ⟨strands.waiting, .running⟩ := same
      exact ⟨reading, pen, sound, cancelled, inbox, by rw [same]; rfl⟩
  | streaming watch =>
      obtain ⟨reading, goesOn, cancelled, inbox, writes⟩ := stands
      have writes : strands.Writes writer := writes
      cases opens : writer.accepts with
      | true =>
          have running : writer.writing = .running := of_decide_eq_true opens
          simp only [Writes, running] at writes
          have accepts : strands.accepts = true := by
            rw [Strands.accepts, writes.1]
            rfl
          rw [Strands.queue, if_pos accepts]
          refine ⟨reading, goesOn, cancelled, inbox, ?_⟩
          simp only [Channel.queue, Writer.queue, opens, if_true, Writes, running]
          exact ⟨writes.1, congrArg (· ++ [frame]) writes.2.1, writes.2.2⟩
      | false =>
          rw [Strands.queue, if_neg (Bool.eq_false_iff.mp (writes.accepts_eq_false opens))]
          refine ⟨reading, goesOn, cancelled, inbox, ?_⟩
          simpa only [Channel.queue, Writer.queue, opens, Bool.false_eq_true, if_false] using writes
  | ended =>
      rw [Strands.queue, if_neg (Bool.eq_false_iff.mp stands)]
      exact stands

/-- Whatever happens to a channel, its strands can do the same. -/
theorem mirrors_touch (settings : Settings.Client) {serial : Nat} {course : Channel.Course}
    (mirrors : Mirrors serial course strands) (touch : Channel.Touch) :
    ∃ moves next, strands.run settings moves = some next ∧
      Mirrors serial (course.touch settings touch) next := by
  have follows {turn : Channel.Turn} (follows : Follows settings strands turn) :
      ∃ moves next, strands.run settings moves = some next ∧
        Mirrors serial (course.adopt turn) next := by
    obtain ⟨next, yields, stands⟩ := follows
    obtain ⟨moves, run⟩ := yields.reached
    exact ⟨moves, next, run, mirrors.adopt yields stands⟩
  cases touch with
  | queue frame =>
      have stands := standsAt_queue frame mirrors.stands
      refine ⟨[.queue frame], _, rfl, ?_⟩
      unfold Strands.queue at stands ⊢
      cases accepts : strands.accepts <;> rw [accepts] at stands <;>
        exact ⟨mirrors.own, mirrors.now, mirrors.heeded, mirrors.written, mirrors.reports, stands⟩
  | cancel =>
      exact ⟨[.cancel], _, rfl, mirrors.own, mirrors.now, mirrors.heeded, mirrors.written,
        mirrors.reports, standsAt_cancel mirrors.stands⟩
  | breakWrites =>
      exact ⟨[], strands, rfl, mirrors.own, mirrors.now, mirrors.heeded, mirrors.written,
        mirrors.reports, mirrors.stands⟩
  | wait milliseconds =>
      exact ⟨[.wait milliseconds], _, rfl, mirrors.own, congrArg (· + milliseconds) mirrors.now,
        mirrors.heeded, mirrors.written, mirrors.reports, mirrors.stands⟩
  | accept =>
      exact follows (mirrors.now ▸ follows_accept mirrors.heeded mirrors.stands)
  | refuse cause =>
      exact follows (follows_refuse cause mirrors.heeded mirrors.stands)
  | receive incoming =>
      exact follows (mirrors.now ▸ follows_receive incoming mirrors.heeded mirrors.stands)
  | expire =>
      exact follows (mirrors.now ▸ follows_expire mirrors.heeded mirrors.stands)
  | settle =>
      exact follows (follows_settle mirrors.heeded mirrors.stands)

/-- Every course of a channel is a run of its strands. -/
theorem mirrors_course (settings : Settings.Client) {serial : Nat} {course : Channel.Course}
    (mirrors : Mirrors serial course strands) (touches : List Channel.Touch) :
    ∃ moves next, strands.run settings moves = some next ∧
      Mirrors serial (touches.foldl (Channel.Course.touch settings) course) next := by
  induction touches generalizing course strands with
  | nil => exact ⟨[], strands, rfl, mirrors⟩
  | cons touch rest inductionHypothesis =>
      obtain ⟨before, middle, run, mirrors⟩ := mirrors_touch settings mirrors touch
      obtain ⟨after, next, further, mirrors⟩ := inductionHypothesis mirrors
      refine ⟨before ++ after, next, ?_, mirrors⟩
      rw [run_append, run, Option.bind_some, further]

end Strands

namespace Channel.Course

variable (settings : Settings.Client) (now : Nat) (touches : List Touch)

/-- Whatever happens to a channel, its reports begin a story. -/
theorem isOrderly_reports :
    IsOrderly (touches.foldl (touch settings) (dialed now)).reports := by
  obtain ⟨moves, next, run, mirrors⟩ :=
    Strands.mirrors_course settings (Strands.mirrors_dialed 0 now) touches
  have orderly := Strands.isOrderly_of_run run
  rw [mirrors.reports] at orderly
  simpa [Function.comp_def] using orderly

/-- Whatever happens to a channel, nothing goes out after a close frame. -/
theorem closesLast {before after : List Written} {cause : Option (Nat × String)}
    (same : (touches.foldl (touch settings) (dialed now)).net.filterMap NetEvent.frame? =
      before ++ .close cause :: after) : after = [] := by
  obtain ⟨moves, next, run, mirrors⟩ :=
    Strands.mirrors_course settings (Strands.mirrors_dialed 0 now) touches
  exact (Strands.accounts_of_dial run).closesLast (mirrors.written.trans same)

end Channel.Course

end Parley.Connection
