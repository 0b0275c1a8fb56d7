import Parley.Proofs.Connection.Listening
import Parley.Proofs.Connection.Mirrors

/-!
# Schedules

What a channel makes of all that its socket brings, at whatever times. A channel that is left alone
notices a silence at the instant at which it has lasted too long, so what becomes of it is settled
by the schedule alone.
-/

namespace Parley.Connection

/-- When everything comes, if each comes so many milliseconds after the last. -/
def timesFrom : Nat → List (Nat × Incoming) → List Timed
  | _, [] => []
  | now, (gap, incoming) :: rest => (now + gap, incoming) :: timesFrom (now + gap) rest

theorem le_of_mem_timesFrom {now : Nat} {schedule : List (Nat × Incoming)} {item : Timed}
    (member : item ∈ timesFrom now schedule) : now ≤ item.1 := by
  induction schedule generalizing now with
  | nil =>
      cases member
  | cons first rest inductionHypothesis =>
      have after : now ≤ now + first.1 := Nat.le_add_right now first.1
      rcases List.mem_cons.mp member with rfl | later
      · exact after
      · exact Nat.le_trans after (inductionHypothesis later)

def Verdict.farewell : Verdict → List Report
  | .ended _ ending => [.closed ending.code ending.reason]
  | _ => []

namespace Channel.Course

def opened (settings : Settings.Client) (now : Nat) : Course :=
  (dialed now).touch settings .accept

/-- The clock runs, and the channel notices when its silence has lasted too long. -/
def pass (settings : Settings.Client) (milliseconds : Nat) (course : Course) : Course :=
  match course.channel.deadline? with
  | some due =>
      if due ≤ course.now + milliseconds then
        [.wait (due - course.now), .expire, .wait (course.now + milliseconds - due)].foldl
          (touch settings) course
      else course.touch settings (.wait milliseconds)
  | none => course.touch settings (.wait milliseconds)

def hear (settings : Settings.Client) (course : Course) (item : Nat × Incoming) : Course :=
  (course.pass settings item.1).touch settings (.receive item.2)

/-- The course of a channel over a schedule and the time after it. -/
def through (settings : Settings.Client) (schedule : List (Nat × Incoming)) (gap : Nat)
    (course : Course) : Course :=
  (schedule.foldl (hear settings) course).pass settings gap

/-- A channel that is not given up and waits for frames. -/
structure Listens (due : Nat) (course : Course) : Prop where
  stage : course.channel.stage = .streaming (.listening due)
  kept : course.channel.cancelled = false
  inTime : course.now ≤ due

/-- Nothing that the socket brings makes a difference to the channel. -/
def IsDone (course : Course) : Prop :=
  course.channel.stage = .ended ∨ course.channel.stage = .streaming .stalled

def Bears (course : Course) : Verdict → Prop
  | .listening due => course.Listens due ∧ course.now < due
  | .deaf => course.channel.stage = .streaming .stalled
  | .ended now _ => course.channel.stage = .ended ∧ now ≤ course.now

section Alone

variable {settings : Settings.Client} {course : Course} {due milliseconds gap : Nat}
  {schedule : List (Nat × Incoming)} {incoming : Incoming}

theorem listens_opened (settings : Settings.Client) (now : Nat) :
    (opened settings now).Listens (firstDue settings now) :=
  ⟨rfl, rfl, le_firstDue settings now⟩

theorem through_cons :
    through settings ((milliseconds, incoming) :: schedule) gap course =
      through settings schedule gap (course.hear settings (milliseconds, incoming)) := rfl

/-! ### Once nothing makes a difference -/

theorem pass_of_isDone (done : course.IsDone) :
    course.pass settings milliseconds = { course with now := course.now + milliseconds } := by
  have noDeadline : course.channel.deadline? = none := by
    rcases done with ended | stalled
    · rw [deadline?, ended]
    · rw [deadline?, stalled]
      rfl
  rw [pass, noDeadline]
  rfl

theorem receive_of_isDone (done : course.IsDone) :
    course.touch settings (.receive incoming) = course := by
  have rests : course.channel.receive settings course.now incoming = course.channel.rest := by
    rcases done with ended | stalled
    · rw [receive, ended]
    · rw [receive, stalled]
      cases course.channel.cancelled <;> rfl
  rw [touch, rests, adopt, rest]
  simp only [List.append_nil]

theorem through_of_isDone (settings : Settings.Client) (schedule : List (Nat × Incoming))
    (gap : Nat) (done : course.IsDone) :
    ∃ later, course.now ≤ later ∧
      course.through settings schedule gap = { course with now := later } := by
  induction schedule generalizing course with
  | nil =>
      exact ⟨course.now + gap, Nat.le_add_right _ _, pass_of_isDone done⟩
  | cons item rest inductionHypothesis =>
      obtain ⟨wait, incoming⟩ := item
      have waited : ({ course with now := course.now + wait } : Course).IsDone := done
      have heard : course.hear settings (wait, incoming) =
          { course with now := course.now + wait } := by
        rw [hear, pass_of_isDone done]
        exact receive_of_isDone waited
      obtain ⟨later, after, same⟩ := inductionHypothesis waited
      refine ⟨later, Nat.le_trans (Nat.le_add_right _ _) after, ?_⟩
      rw [through_cons, heard, same]

/-! ### While it listens -/

theorem Listens.pass_of_early (listens : course.Listens due)
    (early : course.now + milliseconds < due) :
    course.pass settings milliseconds = { course with now := course.now + milliseconds } := by
  have hasDeadline : course.channel.deadline? = some due := by
    rw [deadline?, listens.stage]
    rfl
  rw [pass, hasDeadline]
  exact if_neg (Nat.not_le_of_lt early)

/-- The channel reports an end and is done. -/
structure Closes (course : Course) (reports : List Report) (next : Course) : Prop where
  stage : next.channel.stage = .ended
  told : next.reports = course.reports ++ reports

theorem Listens.pass_of_silence (settings : Settings.Client) (listens : course.Listens due)
    (silent : due ≤ course.now + milliseconds) :
    course.Closes [.closed 1006 "idle timeout"] (course.pass settings milliseconds) ∧
      (course.pass settings milliseconds).now = course.now + milliseconds := by
  have hasDeadline : course.channel.deadline? = some due := by
    rw [deadline?, listens.stage]
    rfl
  have isDue : course.now + (due - course.now) = due := Nat.add_sub_cancel' listens.inTime
  have expires : course.channel.expire due = course.channel.finish ⟨1006, "idle timeout"⟩ := by
    rw [expire, listens.stage]
    simp only [listens.kept, Watch.expire, Nat.le_refl, if_true]
    rfl
  rw [pass, hasDeadline]
  simp only [silent, if_true, List.foldl_cons, List.foldl_nil, touch, isDue, expires, adopt]
  exact ⟨⟨rfl, rfl⟩, Nat.add_sub_cancel' silent⟩

/-- The channel moves on to what the watch makes of something that comes. -/
theorem Listens.receive_eq {watch : Watch} {text : Option String}
    (listens : course.Listens due)
    (receives : Watch.receive settings course.now incoming (.listening due) = (watch, text)) :
    course.touch settings (.receive incoming) =
      course.adopt (course.channel.proceed watch (incoming.reports text)) := by
  have proceeds : course.channel.receive settings course.now incoming =
      course.channel.proceed watch (incoming.reports text) := by
    rw [receive, listens.stage]
    simp only [listens.kept, receives, reduceCtorEq, if_false, Bool.false_eq_true]
  rw [touch, proceeds]

theorem Listens.stalls (listens : course.Listens due)
    (receives : Watch.receive settings course.now incoming (.listening due) = (.stalled, none))
    (isFrame : Watch.isFrame incoming = true) :
    (course.touch settings (.receive incoming)).channel.stage = .streaming .stalled ∧
      (course.touch settings (.receive incoming)).reports = course.reports := by
  rw [listens.receive_eq receives, reports_of_isFrame isFrame]
  exact ⟨rfl, List.append_nil _⟩

theorem Listens.goesOn {text : Option String} {later : Nat} (listens : course.Listens due)
    (receives : Watch.receive settings course.now incoming (.listening due) =
      (.listening later, text)) (after : course.now ≤ later) :
    (course.touch settings (.receive incoming)).Listens later ∧
      (course.touch settings (.receive incoming)).now = course.now ∧
      (course.touch settings (.receive incoming)).reports =
        course.reports ++ incoming.reports text := by
  rw [listens.receive_eq receives]
  exact ⟨⟨rfl, listens.kept, after⟩, rfl, rfl⟩

theorem Listens.closes {text : Option String} {ending : Ending} (listens : course.Listens due)
    (receives : Watch.receive settings course.now incoming (.listening due) =
      (.ended ending, text)) :
    course.Closes (incoming.reports text ++ [.closed ending.code ending.reason])
        (course.touch settings (.receive incoming)) ∧
      (course.touch settings (.receive incoming)).now = course.now := by
  rw [listens.receive_eq receives]
  exact ⟨⟨rfl, rfl⟩, rfl⟩

/-- How a course goes on from one that listens. -/
structure Tells (settings : Settings.Client) (due : Nat) (arrivals : List Timed)
    (course last : Course) (reports : List Report) (verdict : Verdict) : Prop where
  heard : Heard settings due arrivals reports verdict
  told : last.reports = course.reports ++ reports ++ verdict.farewell
  bears : last.Bears verdict

theorem Tells.of_closes {arrivals : List Timed} {middle : Course} {reports : List Report}
    {now later : Nat} {ending : Ending}
    (closes : course.Closes (reports ++ [.closed ending.code ending.reason]) middle)
    (heard : Heard settings due arrivals reports (.ended now ending)) (after : now ≤ later) :
    Tells settings due arrivals course { middle with now := later } reports
      (.ended now ending) := by
  refine ⟨heard, ?_, closes.stage, after⟩
  rw [List.append_assoc]
  exact closes.told

theorem Listens.tells_of_silence (listens : course.Listens due)
    (silent : due ≤ course.now + milliseconds) :
    ∃ reports verdict, Tells settings due
      (timesFrom course.now ((milliseconds, incoming) :: schedule)) course
      (course.through settings ((milliseconds, incoming) :: schedule) gap) reports verdict := by
  obtain ⟨closes, isNow⟩ := listens.pass_of_silence settings silent
  have done : (course.pass settings milliseconds).IsDone := Or.inl closes.stage
  obtain ⟨later, after, same⟩ := through_of_isDone settings schedule gap done
  have late : ∀ item ∈ timesFrom course.now ((milliseconds, incoming) :: schedule),
      due ≤ item.1 := by
    intro item member
    rcases List.mem_cons.mp member with rfl | comes
    · exact silent
    · exact Nat.le_trans silent (le_of_mem_timesFrom comes)
  rw [isNow] at after
  refine ⟨[], .ended due ⟨1006, "idle timeout"⟩, ?_⟩
  rw [through_cons, hear, receive_of_isDone done, same]
  exact .of_closes closes (.of_silence late) (Nat.le_trans silent after)

/-- Something comes in time, and whatever comes after it is told. -/
theorem Listens.tells_of_arrival (listens : course.Listens due)
    (early : course.now + milliseconds < due)
    (goesOn : ∀ {middle : Course} {later : Nat}, middle.Listens later →
      ∃ reports verdict, Tells settings later (timesFrom middle.now schedule) middle
        (middle.through settings schedule gap) reports verdict) :
    ∃ reports verdict, Tells settings due
      (timesFrom course.now ((milliseconds, incoming) :: schedule)) course
      (course.through settings ((milliseconds, incoming) :: schedule) gap) reports verdict := by
  have inTime : course.now + milliseconds ≤ due := Nat.le_of_lt early
  have waited : Listens due { course with now := course.now + milliseconds } :=
    ⟨listens.stage, listens.kept, inTime⟩
  rw [through_cons, hear, listens.pass_of_early early]
  rcases heard_receive settings due (course.now + milliseconds) incoming with
    ⟨receives, isFrame, unfit⟩ | ⟨receives, notEnd, fits⟩ | ⟨ending, receives, ends, fits⟩
  · obtain ⟨stalled, told⟩ := waited.stalls receives isFrame
    obtain ⟨later, -, same⟩ := through_of_isDone settings schedule gap (Or.inr stalled)
    rw [same]
    refine ⟨[], .deaf, .of_unfit inTime isFrame unfit, ?_, stalled⟩
    simpa only [Verdict.farewell, List.append_nil] using told
  · obtain ⟨listensOn, isNow, told⟩ := waited.goesOn receives (Nat.le_add_right _ _)
    obtain ⟨reports, verdict, heard, lastTold, bears⟩ := goesOn listensOn
    rw [isNow] at heard
    refine ⟨_, verdict, heard.cons inTime notEnd fits, ?_, bears⟩
    rw [lastTold, told, reports_eq_text notEnd]
    simp only [List.append_assoc]
  · obtain ⟨closes, isNow⟩ := waited.closes receives
    rw [reports_eq_failures ends] at closes
    obtain ⟨later, after, same⟩ := through_of_isDone settings schedule gap (Or.inl closes.stage)
    rw [isNow] at after
    rw [same]
    exact ⟨_, _, Tells.of_closes ⟨closes.stage, closes.told⟩ (.of_ending inTime ends fits) after⟩

/-- Whatever a socket brings, and whenever it does, the channel tells what is heard of it. -/
theorem Listens.tells_through (listens : course.Listens due) :
    ∃ reports verdict, Tells settings due (timesFrom course.now schedule) course
      (course.through settings schedule gap) reports verdict := by
  induction schedule generalizing course due with
  | nil =>
      by_cases silent : due ≤ course.now + gap
      · obtain ⟨closes, isNow⟩ := listens.pass_of_silence settings silent
        refine ⟨[], .ended due ⟨1006, "idle timeout"⟩, .of_silence nofun, ?_, closes.stage,
          Nat.le_trans silent (Nat.le_of_eq isNow.symm)⟩
        rw [List.append_nil]
        exact closes.told
      · have early : course.now + gap < due := Nat.lt_of_not_le silent
        have heard : Heard settings due [] [] (.listening due) := .listens trivial
        have same : course.through settings [] gap = { course with now := course.now + gap } :=
          listens.pass_of_early early
        rw [same]
        exact ⟨_, _, heard, by simp [Verdict.farewell],
          ⟨listens.stage, listens.kept, Nat.le_of_lt early⟩, early⟩
  | cons item rest inductionHypothesis =>
      obtain ⟨wait, incoming⟩ := item
      by_cases silent : due ≤ course.now + wait
      · exact listens.tells_of_silence silent
      · have early : course.now + wait < due := Nat.lt_of_not_le silent
        exact listens.tells_of_arrival early inductionHypothesis

end Alone

end Channel.Course

/-! ## What is heard -/

/-- A connection that has opened and is left alone passes on the short texts among all that its
socket brings, in order, up to the first close frame, error or end of the stream, or up to the
instant at which no frame of any kind has come for too long, and then it reports that end and
nothing more. This holds in whatever order its strands go on, and all at once as a channel. Only a
frame that comes when no instant can hold the next deadline makes it go deaf. -/
theorem arrivals_are_heard (settings : Settings.Client) :
    (∀ (opened : Strands) (moves : List Move) (last : Strands), opened.IsFresh settings →
      opened.run settings moves = some last → opened.isPrompt settings moves = true →
      opened.Hears settings (firstDue settings opened.now) moves last) ∧
    (∀ now schedule gap, ∃ reports verdict,
      Channel.Course.Tells settings (firstDue settings now) (timesFrom now schedule)
        (.opened settings now) ((Channel.Course.opened settings now).through settings schedule gap)
        reports verdict) ∧
    ∀ due arrivals reports verdict, Heard settings due arrivals reports verdict →
      (∀ item ∈ arrivals, Fits settings.idleSeconds item.1) → verdict ≠ .deaf := by
  refine ⟨?_, ?_, ?_⟩
  · intro opened moves last fresh run prompt
    exact fresh.hears run prompt
  · intro now schedule gap
    exact (Channel.Course.listens_opened settings now).tells_through
  · intro due arrivals reports verdict heard fits
    exact heard.ne_deaf fits

/-- A ping, a text and a close frame come, and the end is reported. -/
def greeting : List Move :=
  [.arrive .ping, .read, .wait 74999, .arrive (.text "hello"), .read, .wait 75000,
    .arrive (.close none), .read, .wind, .part, .written, .conclude]

theorem arrivals_are_heard_of_greeting :
    ∃ opened last, (Strands.dialed 7 0).step .standard .accept = some opened ∧
      opened.run .standard greeting = some last ∧
      last.reports = [(7, .opened), (7, .text "hello"), (7, .closed 1005 "")] ∧
      opened.Hears .standard 75000 greeting last := by
  refine ⟨_, _, rfl, rfl, rfl, ?_⟩
  apply (arrivals_are_heard .standard).1
  · exact ⟨rfl, rfl, rfl, rfl, rfl⟩
  · rfl
  · decide

/-- Settings with the longest idle time that a setting can give. -/
def endless : Settings.Client :=
  { Settings.Client.standard with idleSeconds := Nat.pow 2 64 - 1 }

/-- With these settings, which are accepted, the first text is lost though it is short and comes at
once, and so is the close frame after it: nothing more is ever reported. -/
theorem deaf_of_endless :
    endless.check.isOk = true ∧
      (Incoming.text "hi").admitted? endless.messageLimit = some "hi" ∧
      ((Channel.Course.opened endless 0).through endless
        [(0, .text "hi"), (1000, .close none)] 75000).reports = [.opened] ∧
      ((Channel.Course.opened endless 0).through endless
        [(0, .text "hi"), (1000, .close none)] 75000).channel.stage = .streaming .stalled := by
  refine ⟨?_, ?_, ?_, ?_⟩ <;> decide

end Parley.Connection
