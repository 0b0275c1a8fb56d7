import Parley.Proofs.Connection.Stories

/-!
# Every end is told

As long as the owner neither gives a connection up nor stops listening, its reading strand is not
gone before it has told the whole story. Once the socket has come to an end, whatever the strands do
next takes a bounded number of moves, and when no more are possible the story is told.
-/

namespace Parley.Connection

/-- The strands make the move by themselves, or a write is answered. -/
def Move.isInner : Move → Bool
  | .written => true
  | .broken => true
  | .noticeCancel => true
  | .noticeFailure => true
  | .noticeSilence => true
  | .read => true
  | .wind => true
  | .conclude => true
  | .take => true
  | .part => true
  | _ => false

/-- The owner gives up the connection or its reports. -/
def Move.givesUp : Move → Bool
  | .cancel => true
  | .ignore => true
  | _ => false

def Move.arrives : Move → Bool
  | .arrive _ => true
  | _ => false

/-- How many moves are left to the reading strand, those that read apart. -/
def Reading.load : Reading → Nat
  | .dialing => 4
  | .listening _ => 3
  | .leaving _ => 2
  | .joining _ => 1
  | .stalled => 0
  | .gone => 0

/-- How many moves are left to the writing strand, without what waits. -/
def Pen.load : Pen → Nat
  | .writing _ => 3
  | .choosing => 2
  | .parting => 1
  | _ => 0

theorem Reading.load_ofWatch_le (watch : Watch) : (Reading.ofWatch watch).load ≤ 3 := by
  cases watch <;> simp [Reading.ofWatch, Reading.load]

theorem deadline?_eq_none_of_le {now later idleSeconds : Nat} (le : now ≤ later)
    (none : deadline? now idleSeconds = none) : deadline? later idleSeconds = .none := by
  simp only [deadline?, ite_eq_right_iff, reduceCtorEq, imp_false] at none ⊢
  have seconds := Nat.div_le_div_right (c := 1000) le
  omega

namespace Strands

variable {settings : Settings.Client} {strands next : Strands} {move : Move}

/-- A bound for the moves that the strands can make by themselves. -/
def load (strands : Strands) : Nat :=
  strands.reading.load + strands.pen.load + strands.inbox.length + 2 * strands.waiting.length

/-- No strand can make a move by itself. -/
def IsAtRest (settings : Settings.Client) (strands : Strands) : Prop :=
  ∀ move : Move, move.isInner = true → strands.step settings move = none

/-- Every move that strands make by themselves takes something from their load. -/
theorem load_lt_of_passes (passes : Passes settings strands move next)
    (inner : move.isInner = true) : next.load < strands.load := by
  cases passes with
  | queue | lose | cancel | ignore | wait | arrive | accept | desert | refuse => cases inner
  | hangUp dials | leave listens | fail listens | tire listens | wind leaves | conclude joins =>
      simp only [load, say, *, Reading.load]
      omega
  | @read deadline incoming rest listens came =>
      have fewer := Reading.load_ofWatch_le
        (Watch.receive settings strands.now incoming (.listening deadline)).1
      simp only [load, say, Strands.read, listens, came, Reading.load, List.length_cons] at fewer ⊢
      omega
  | take chooses waits | part chooses idle | writeText writes | writeClose writes
  | writeLast parts | breakFrame writes | breakLast parts =>
      simp only [load, *, Pen.load, List.length_cons, List.length_nil]
      omega

/-- Moves that the strands make by themselves come to an end. -/
theorem length_le_load {moves : List Move} (inner : ∀ move ∈ moves, move.isInner = true)
    (run : strands.run settings moves = some next) : moves.length + next.load ≤ strands.load := by
  induction moves generalizing strands with
  | nil =>
      cases run
      simp
  | cons move rest inductionHypothesis =>
      obtain ⟨middle, step, run⟩ := Option.bind_eq_some_iff.mp run
      obtain ⟨first, others⟩ := List.forall_mem_cons.mp inner
      have less := load_lt_of_passes (passes_of_step step) first
      have bound := inductionHypothesis others run
      rw [List.length_cons]
      omega

/-- The strands can always come to rest. -/
theorem exists_rest (settings : Settings.Client) (strands : Strands) :
    ∃ moves last, (∀ move ∈ moves, move.isInner = true) ∧
      strands.run settings moves = some last ∧ last.IsAtRest settings := by
  induction bound : strands.load using Nat.strongRecOn generalizing strands with
  | ind bound inductionHypothesis =>
      by_cases rests : strands.IsAtRest settings
      · exact ⟨[], strands, fun move member => absurd member List.not_mem_nil, rfl, rests⟩
      · simp only [IsAtRest, Classical.not_forall] at rests
        obtain ⟨move, inner, moves⟩ := rests
        obtain ⟨next, step⟩ := Option.ne_none_iff_exists'.mp moves
        have less := load_lt_of_passes (passes_of_step step) inner
        obtain ⟨rest, last, others, run, rests⟩ :=
          inductionHypothesis next.load (bound ▸ less) next rfl
        refine ⟨move :: rest, last, List.forall_mem_cons.mpr ⟨inner, others⟩, ?_, rests⟩
        rw [Strands.run, step, Option.bind_some, run]

/-! ## Connections that are not given up -/

/-- Where the reading strand stands if its owner has not given the connection up: it leaves with an
ending and is not gone before the story is told. -/
def KeptAt (settings : Settings.Client) (strands : Strands) : Reading → Prop
  | .dialing => strands.cancelled = false ∧ strands.pen = .absent
  | .listening _ => strands.cancelled = false
  | .leaving outcome => outcome.isSome = true
  | .joining outcome =>
      outcome.isSome = true ∧ (strands.cancelled = true ∨ strands.pen = .absent)
  | .stalled => deadline? strands.now settings.idleSeconds = none
  | .gone => Story (strands.reports.map Prod.snd)

/-- The owner has neither given the connection up nor stopped listening. -/
structure IsKept (settings : Settings.Client) (strands : Strands) : Prop where
  heeded : strands.isHeeded = true
  stands : strands.KeptAt settings strands.reading

/-- A step of the writing strand changes nothing that matters here. -/
theorem IsKept.write (kept : strands.IsKept settings) (present : strands.pen ≠ .absent)
    (pen : Pen) (waiting : List Frame) (signalled : Bool) (written : List Written) :
    IsKept settings { strands with pen, waiting, signalled, written } := by
  refine ⟨kept.heeded, ?_⟩
  have stands := kept.stands
  change KeptAt settings { strands with pen, waiting, signalled, written } strands.reading
  cases reading : strands.reading with
  | dialing =>
      rw [reading] at stands
      exact absurd stands.2 present
  | joining outcome =>
      rw [reading] at stands
      exact ⟨stands.1, Or.inl (stands.2.resolve_right present)⟩
  | listening | leaving | stalled | gone =>
      rw [reading] at stands
      exact stands

theorem IsKept.wait (kept : strands.IsKept settings) (milliseconds : Nat) :
    IsKept settings { strands with now := strands.now + milliseconds } := by
  refine ⟨kept.heeded, ?_⟩
  have stands := kept.stands
  change KeptAt settings { strands with now := strands.now + milliseconds } strands.reading
  cases reading : strands.reading with
  | stalled =>
      rw [reading] at stands
      exact deadline?_eq_none_of_le (Nat.le_add_right _ _) stands
  | dialing | listening | leaving | joining | gone =>
      rw [reading] at stands
      exact stands

theorem isKept_of_passes (passes : Passes settings strands move next)
    (faithful : strands.KeepsFaith) (goesOn : move.givesUp = false)
    (kept : strands.IsKept settings) : next.IsKept settings := by
  obtain ⟨heeded, stands⟩ := id kept
  cases passes with
  | queue | lose | arrive =>
      exact ⟨heeded, stands⟩
  | cancel | ignore =>
      cases goesOn
  | wait milliseconds =>
      exact kept.wait milliseconds
  | accept dials =>
      rw [dials] at stands
      exact ⟨heeded, stands.1⟩
  | desert dials unheeded =>
      rw [heeded] at unheeded
      cases unheeded
  | refuse cause dials =>
      rw [dials] at stands
      exact ⟨heeded, rfl, Or.inr stands.2⟩
  | hangUp dials cancelled =>
      rw [dials] at stands
      rw [stands.1] at cancelled
      cases cancelled
  | leave listens cancelled =>
      rw [listens] at stands
      rw [stands] at cancelled
      cases cancelled
  | fail | tire =>
      exact ⟨heeded, rfl⟩
  | @read deadline incoming rest listens came =>
      rw [listens] at stands
      refine ⟨heeded, ?_⟩
      rcases receive_listening settings strands.now deadline incoming with
        ⟨same, unknown, -⟩ | ⟨later, same, -⟩ | ⟨ending, same, -⟩
      · simp only [Strands.read, say, same, Reading.ofWatch]
        exact unknown
      · simp only [Strands.read, say, same, Reading.ofWatch]
        exact stands
      · simp only [Strands.read, say, same, Reading.ofWatch]
        rfl
  | wind leaves =>
      rw [leaves] at stands
      exact ⟨heeded, stands, Or.inl rfl⟩
  | @conclude outcome joins down =>
      rw [joins] at stands
      obtain ⟨ending, rfl⟩ := Option.isSome_iff_exists.mp stands.1
      have told := faithful.told heeded
      rw [joins] at told
      refine ⟨heeded, ?_⟩
      simp only [KeptAt, say, heeded, if_true, map_snd_append_map]
      exact told
  | take chooses waits =>
      exact kept.write (by rw [chooses]; decide) _ _ _ _
  | part chooses idle cancelled =>
      exact kept.write (by rw [chooses]; decide) _ _ _ _
  | writeText writes | writeClose writes | writeLast writes | breakFrame writes
  | breakLast writes =>
      exact kept.write (by rw [writes]; simp) _ _ _ _

/-- A connection that its owner does not give up is kept. -/
theorem isKept_of_run {serial now : Nat} {moves : List Move} {last : Strands}
    (goesOn : ∀ move ∈ moves, move.givesUp = false)
    (run : (dialed serial now).run settings moves = some last) : last.IsKept settings := by
  have both : last.KeepsFaith ∧ last.IsKept settings := by
    refine run_keeps (fun strands => strands.KeepsFaith ∧ strands.IsKept settings)
      ?_ goesOn ⟨keepsFaith_dialed serial now, rfl, rfl, rfl⟩ run
    rintro strands move next goesOn passes ⟨faithful, kept⟩
    exact ⟨keepsFaith_of_passes passes faithful, isKept_of_passes passes faithful goesOn kept⟩
  exact both.2

/-! ## Sockets that have come to an end -/

/-- The reading strand has an end to tell, or is bound to find one: a write has failed, or what has
come from the socket holds an end. -/
structure HasEnded (settings : Settings.Client) (strands : Strands) : Prop where
  answered : strands.reading ≠ .dialing
  found : ∀ deadline, strands.reading = .listening deadline →
    strands.signalled = true ∨
      ∃ incoming ∈ strands.inbox, (Watch.react settings.messageLimit incoming).2.isSome = true

/-- All that has come is read, and nothing has come for too long. -/
def IsSilent (strands : Strands) : Prop :=
  ∃ deadline, strands.reading = .listening deadline ∧ strands.inbox = [] ∧
    deadline ≤ strands.now

/-- A strand that reads no more has found an end. -/
theorem HasEnded.of_reading {reading : Reading} (stands : strands.reading = reading)
    (answered : reading ≠ .dialing) (reads : ∀ deadline, reading ≠ .listening deadline) :
    strands.HasEnded settings :=
  ⟨stands ▸ answered, fun deadline listens => absurd (stands ▸ listens) (reads deadline)⟩

/-- The end of a socket is never taken back. -/
theorem hasEnded_of_passes (passes : Passes settings strands move next)
    (ended : strands.HasEnded settings) : next.HasEnded settings := by
  cases passes with
  | queue | lose | cancel | ignore | wait | take | part | writeText | writeClose | writeLast
  | breakLast =>
      exact ⟨ended.answered, ended.found⟩
  | accept dials | desert dials | refuse cause dials | hangUp dials =>
      exact absurd dials ended.answered
  | leave | fail | tire | wind | conclude =>
      exact .of_reading rfl nofun nofun
  | arrive incoming =>
      refine ⟨ended.answered, fun deadline listens => ?_⟩
      exact (ended.found deadline listens).imp_right fun ⟨last, member, ends⟩ =>
        ⟨last, List.mem_append_left _ member, ends⟩
  | @read deadline incoming rest listens came =>
      rcases receive_listening settings strands.now deadline incoming with
        ⟨same, -, -⟩ | ⟨later, same, goesOn⟩ | ⟨ending, same, -⟩
      · exact .of_reading ((read_reading ..).trans (congrArg _ (congrArg Prod.fst same)))
          nofun nofun
      · refine ⟨by rw [read_reading, same]; nofun, fun _ _ => ?_⟩
        refine (ended.found deadline listens).imp_right fun ⟨last, member, ends⟩ => ?_
        rw [came] at member
        rcases List.mem_cons.mp member with rfl | remains
        · rw [goesOn] at ends
          cases ends
        · exact ⟨last, remains, ends⟩
      · exact .of_reading ((read_reading ..).trans (congrArg _ (congrArg Prod.fst same)))
          nofun nofun
  | breakFrame writes =>
      exact ⟨ended.answered, fun _ _ => Or.inl rfl⟩

theorem hasEnded_or_isSilent_of_passes (passes : Passes settings strands move next)
    (still : move.arrives = false) (ended : strands.HasEnded settings ∨ strands.IsSilent) :
    next.HasEnded settings ∨ next.IsSilent := by
  rcases ended with ended | ⟨deadline, listens, isRead, silent⟩
  · exact Or.inl (hasEnded_of_passes passes ended)
  · cases passes with
    | queue | lose | cancel | ignore | take | part | writeText | writeClose | writeLast
    | breakFrame | breakLast =>
        exact Or.inr ⟨deadline, listens, isRead, silent⟩
    | wait milliseconds =>
        exact Or.inr ⟨deadline, listens, isRead, Nat.le_add_right_of_le silent⟩
    | arrive =>
        cases still
    | accept dials | desert dials | refuse cause dials | hangUp dials =>
        rw [listens] at dials
        cases dials
    | leave | fail | tire | wind | conclude =>
        exact Or.inl (.of_reading rfl nofun nofun)
    | read _ came =>
        rw [isRead] at came
        cases came

/-! ## Strands at rest -/

/-- A writing strand at rest in a cancelled connection is done, or there never was one. -/
theorem isDown_of_isAtRest (rests : strands.IsAtRest settings)
    (cancelled : strands.cancelled = true ∨ strands.pen = .absent) :
    strands.pen.isDown = true := by
  have noWrite := rests .written rfl
  have noTake := rests .take rfl
  have noPart := rests .part rfl
  cases pen : strands.pen with
  | absent | closed | broken =>
      rfl
  | choosing =>
      cases waiting : strands.waiting with
      | nil => simp [step, pen, waiting, cancelled.resolve_right (by simp [pen])] at noPart
      | cons frame rest => simp [step, pen, waiting] at noTake
  | writing frame =>
      cases frame <;> simp [step, pen] at noWrite
  | parting =>
      simp [step, pen] at noWrite

/-- A connection that is not given up and whose strands rest waits for an answer to its handshake,
waits for something to come while nothing has gone wrong, or has told its story. -/
theorem reading_of_isAtRest (rests : strands.IsAtRest settings) (kept : strands.IsKept settings)
    (known : (deadline? strands.now settings.idleSeconds).isSome = true) :
    strands.reading = .dialing ∨
      (∃ deadline, strands.reading = .listening deadline ∧ strands.signalled = false ∧
        strands.inbox = [] ∧ strands.now < deadline) ∨
      (strands.reading = .gone ∧ Story (strands.reports.map Prod.snd)) := by
  obtain ⟨-, stands⟩ := kept
  cases reading : strands.reading with
  | dialing =>
      exact Or.inl rfl
  | listening deadline =>
      have noFailure := rests .noticeFailure rfl
      have noSilence := rests .noticeSilence rfl
      have noRead := rests .read rfl
      refine Or.inr (Or.inl ⟨deadline, rfl, ?_, ?_, ?_⟩)
      · simpa [step, reading] using noFailure
      · cases inbox : strands.inbox with
        | nil => rfl
        | cons incoming rest => simp [step, reading, inbox] at noRead
      · refine Nat.lt_of_not_le fun silent => ?_
        simp [step, reading, Watch.expire, silent] at noSilence
  | leaving outcome =>
      have noWind := rests .wind rfl
      simp [step, reading] at noWind
  | joining outcome =>
      rw [reading] at stands
      have noEnd := rests .conclude rfl
      simp [step, reading, isDown_of_isAtRest rests stands.2] at noEnd
  | stalled =>
      rw [reading] at stands
      rw [stands] at known
      cases known
  | gone =>
      rw [reading] at stands
      exact Or.inr (Or.inr ⟨rfl, stands⟩)

end Strands

/-! ## One end -/

def Report.isClosed : Report → Bool
  | .closed _ _ => true
  | _ => false

/-- A whole story has exactly one end. -/
theorem Story.countP_isClosed {reports : List Report} (story : Story reports) :
    reports.countP Report.isClosed = 1 := by
  have texts (contents : List String) :
      (contents.map Report.text).countP Report.isClosed = 0 := by
    simp [List.countP_eq_zero, Report.isClosed]
  cases story with
  | refused cause => rfl
  | closed contents code reason =>
      rw [List.countP_cons_of_neg (by decide), List.countP_append, texts]
      rfl
  | failed contents cause =>
      rw [List.countP_cons_of_neg (by decide), List.countP_append, texts]
      rfl

namespace Strands

variable {settings : Settings.Client} {strands next : Strands} {move : Move}

/-- The reading strand has told a whole story, with one end, and is gone. -/
structure HasTold (strands : Strands) : Prop where
  gone : strands.reading = .gone
  story : Story (strands.reports.map Prod.snd)
  endsOnce : (strands.reports.map Prod.snd).countP Report.isClosed = 1

structure TellsEnd (settings : Settings.Client) (strands : Strands) : Prop where
  /-- The strands do not go on by themselves forever. -/
  bounded : ∀ after last, (∀ move ∈ after, move.isInner = true) →
    strands.run settings after = some last → after.length ≤ strands.load
  /-- The strands can tell the end without any help. -/
  able : ∃ after last, (∀ move ∈ after, move.isInner = true) ∧
    strands.run settings after = some last ∧ last.HasTold
  /-- The end is told before the strands rest, whatever else happens meanwhile. Only a silence ends
  once something comes. -/
  told : ∀ after last, strands.run settings after = some last →
    (∀ move ∈ after, move.givesUp = false) →
    (strands.HasEnded settings ∨ ∀ move ∈ after, move.arrives = false) →
    (deadline? last.now settings.idleSeconds).isSome = true →
    last.IsAtRest settings → last.HasTold

theorem givesUp_of_isInner (inner : move.isInner = true) : move.givesUp = false := by
  cases move <;> first | rfl | cases inner

theorem arrives_of_isInner (inner : move.isInner = true) : move.arrives = false := by
  cases move <;> first | rfl | cases inner

theorem now_eq_of_passes (passes : Passes settings strands move next)
    (inner : move.isInner = true) : next.now = strands.now := by
  cases passes <;> first | rfl | cases inner

theorem now_eq_of_run {moves : List Move} (inner : ∀ move ∈ moves, move.isInner = true)
    (run : strands.run settings moves = some next) : next.now = strands.now :=
  run_keeps (fun later => later.now = strands.now)
    (fun _ _ _ inner passes same => (now_eq_of_passes passes inner).trans same) inner rfl run

section Ends

variable {serial now : Nat} {before after : List Move} {last : Strands}

theorem hasTold_of_isAtRest (kept : last.IsKept settings) (rests : last.IsAtRest settings)
    (known : (deadline? last.now settings.idleSeconds).isSome = true)
    (ended : last.HasEnded settings ∨ last.IsSilent) : last.HasTold := by
  rcases reading_of_isAtRest rests kept known with
    dials | ⟨deadline, listens, sound, isRead, early⟩ | ⟨gone, story⟩
  · rcases ended with ended | ⟨deadline, listens, -⟩
    · exact absurd dials ended.answered
    · rw [dials] at listens
      cases listens
  · rcases ended with ended | ⟨deadline, listens', -, silent⟩
    · rcases ended.found deadline listens with failed | ⟨incoming, member, -⟩
      · rw [sound] at failed
        cases failed
      · rw [isRead] at member
        cases member
    · rw [listens] at listens'
      cases listens'
      exact absurd silent (Nat.not_le_of_lt early)
  · exact ⟨gone, story, story.countP_isClosed⟩

/-- An end that is bound to be found stays so in every run, and so does a silence in which nothing
comes. -/
theorem hasEnded_or_isSilent_of_run (run : strands.run settings after = some last)
    (ended : strands.HasEnded settings ∨ strands.IsSilent)
    (still : strands.HasEnded settings ∨ ∀ move ∈ after, move.arrives = false) :
    last.HasEnded settings ∨ last.IsSilent := by
  rcases still with ended | still
  · exact Or.inl (run_keeps (HasEnded settings) (fun _ _ _ _ => hasEnded_of_passes)
      (fun _ _ => trivial) ended run)
  · exact run_keeps (fun later => later.HasEnded settings ∨ later.IsSilent)
      (fun _ _ _ still passes => hasEnded_or_isSilent_of_passes passes still) still ended run

/-- Once an end is bound to be found, strands that have come to rest have told the whole story. -/
theorem hasTold_of_run (run : (dialed serial now).run settings before = some strands)
    (goesOn : ∀ move ∈ before, move.givesUp = false)
    (ended : strands.HasEnded settings ∨ strands.IsSilent)
    (further : strands.run settings after = some last)
    (goesOnFurther : ∀ move ∈ after, move.givesUp = false)
    (still : strands.HasEnded settings ∨ ∀ move ∈ after, move.arrives = false)
    (known : (deadline? last.now settings.idleSeconds).isSome = true)
    (rests : last.IsAtRest settings) : last.HasTold := by
  have whole : (dialed serial now).run settings (before ++ after) = some last := by
    rw [run_append, run, Option.bind_some, further]
  have kept := isKept_of_run (List.forall_mem_append.mpr ⟨goesOn, goesOnFurther⟩) whole
  exact hasTold_of_isAtRest kept rests known (hasEnded_or_isSilent_of_run further ended still)

theorem tellsEnd (run : (dialed serial now).run settings before = some strands)
    (goesOn : ∀ move ∈ before, move.givesUp = false)
    (known : (deadline? strands.now settings.idleSeconds).isSome = true)
    (ended : strands.HasEnded settings ∨ strands.IsSilent) : strands.TellsEnd settings := by
  refine ⟨fun after last inner further => ?_, ?_, fun after last => hasTold_of_run run goesOn ended⟩
  · exact Nat.le_of_add_right_le (length_le_load inner further)
  · obtain ⟨after, last, inner, further, rests⟩ := exists_rest settings strands
    refine ⟨after, last, inner, further, hasTold_of_run run goesOn ended further ?_ ?_ ?_ rests⟩
    · exact fun move member => givesUp_of_isInner (inner move member)
    · exact Or.inr fun move member => arrives_of_isInner (inner move member)
    · rw [now_eq_of_run inner further]
      exact known

/-- Whatever happens, and in whatever order the strands of a connection go on, its reports carry the
number of the dial and begin a story: a failed handshake and its end, or the opening, texts, perhaps
an error, and the end. While the owner does not give the connection up it is never gone before its
whole story is told, and once the socket has come to an end the story is told. -/
theorem reports_tell_story (run : (dialed serial now).run settings before = some strands) :
    (∀ report ∈ strands.reports, report.1 = serial) ∧
      IsOrderly (strands.reports.map Prod.snd) ∧
      ((∀ move ∈ before, move.givesUp = false) →
        (strands.reading = .gone → strands.HasTold) ∧
        ((deadline? strands.now settings.idleSeconds).isSome = true →
          strands.reading ≠ .stalled ∧
          (strands.HasEnded settings ∨ strands.IsSilent → strands.TellsEnd settings))) := by
  have faithful := keepsFaith_of_run run
  have own : ∀ report ∈ strands.reports, report.1 = serial :=
    fun report member => (faithful.own report member).trans (serial_eq_of_run run)
  refine ⟨own, isOrderly_of_run run, fun goesOn => ⟨fun gone => ?_, ?_⟩⟩
  · obtain ⟨-, told⟩ := isKept_of_run goesOn run
    rw [gone] at told
    exact ⟨gone, told, told.countP_isClosed⟩
  · intro known
    refine ⟨fun stalls => ?_, tellsEnd run goesOn known⟩
    obtain ⟨-, unknown⟩ := isKept_of_run goesOn run
    rw [stalls] at unknown
    rw [unknown] at known
    cases known

end Ends

/-- A text comes, and then a write fails. -/
def failedWrite : List Move :=
  [.accept, .arrive (.text "hello"), .read, .queue (.text "hi"), .take, .broken]

/-- The failed write is told. -/
theorem reports_tell_story_of_failedWrite :
    ∃ strands, (dialed 7 0).run .standard failedWrite = some strands ∧
      strands.reports = [(7, .opened), (7, .text "hello")] ∧ strands.TellsEnd .standard := by
  refine ⟨_, rfl, rfl, ?_⟩
  obtain ⟨-, -, kept⟩ := reports_tell_story
    (show (dialed 7 0).run .standard failedWrite = some _ from rfl)
  exact ((kept (by decide)).2 (by decide)).2 (Or.inl ⟨by decide, fun _ _ => Or.inl rfl⟩)

end Strands

end Parley.Connection
