import Parley.Proofs.Connection.Strands

/-!
# What a connection reports

Whatever its owner, the socket and the clock do, a connection tells one story: that its handshake
failed, or that it opened, the texts, perhaps an error, and the end. The owner may stop it anywhere,
but nobody else: once the socket has come to its end, the end is reported.
-/

namespace Parley.Connection

inductive Story : List Report → Prop
  | refused (cause : String) : Story [.failed cause, .closed Wire.CloseCode.abnormal cause]
  | closed (texts : List String) (code : Nat) (reason : String) :
      Story (.opened :: (texts.map .text ++ [.closed code reason]))
  | failed (texts : List String) (cause : String) :
      Story (.opened :: (texts.map .text ++
        [.failed cause, .closed Wire.CloseCode.abnormal cause]))

/-- The connection has opened, and only texts have come since. -/
def IsOpening (reports : List Report) : Prop :=
  ∃ texts : List String, reports = .opened :: texts.map .text

/-- What reports are like: they begin a whole story, so that the opening comes first, the end
comes last, and nothing but the end without a close frame comes after an error. -/
structure IsOrderly (reports : List Report) : Prop where
  whole : ∃ whole, Story whole ∧ reports <+: whole
  opensFirst : ∀ before after, reports = before ++ .opened :: after → before = []
  closesLast : ∀ before code reason after,
    reports = before ++ .closed code reason :: after → after = []
  failsThenCloses : ∀ before cause after, reports = before ++ .failed cause :: after →
    after <+: [.closed Wire.CloseCode.abnormal cause]

/-- The second report may come at some time after the first one. -/
def MayFollow (earlier later : Report) : Prop :=
  later ≠ .opened ∧ (∀ code reason, earlier ≠ .closed code reason) ∧
    ∀ cause, earlier = .failed cause → later = .closed Wire.CloseCode.abnormal cause

theorem mayFollow_texts (texts : List String) :
    (texts.map Report.text).Pairwise MayFollow :=
  List.pairwise_map.mpr (List.pairwise_of_forall fun earlier later => by simp [MayFollow])

theorem Story.mayFollow {reports : List Report} (story : Story reports) :
    reports.Pairwise MayFollow := by
  cases story with
  | refused cause =>
      simp [MayFollow]
  | closed texts code reason =>
      rw [List.pairwise_cons, List.pairwise_append]
      refine ⟨?_, mayFollow_texts texts, ?_, ?_⟩ <;> simp [MayFollow, or_imp, forall_and]
  | failed texts cause =>
      rw [List.pairwise_cons, List.pairwise_append]
      refine ⟨?_, mayFollow_texts texts, ?_, ?_⟩ <;> simp [MayFollow, or_imp, forall_and]

theorem isOrderly_of_story {reports whole : List Report} (story : Story whole)
    (begins : reports <+: whole) : IsOrderly reports := by
  have follows := story.mayFollow.sublist begins.sublist
  refine ⟨⟨whole, story, begins⟩, ?_, ?_, ?_⟩
  · rintro before after rfl
    obtain ⟨-, -, between⟩ := List.pairwise_append.mp follows
    refine List.eq_nil_iff_forall_not_mem.mpr fun report member => ?_
    exact (between report member .opened List.mem_cons_self).1 rfl
  · rintro before code reason after rfl
    obtain ⟨-, later, -⟩ := List.pairwise_append.mp follows
    refine List.eq_nil_iff_forall_not_mem.mpr fun report member => ?_
    exact ((List.pairwise_cons.mp later).1 report member).2.1 code reason rfl
  · rintro before cause after rfl
    obtain ⟨-, later, -⟩ := List.pairwise_append.mp follows
    obtain ⟨afterFailure, afterwards⟩ := List.pairwise_cons.mp later
    cases after with
    | nil =>
        exact List.nil_prefix
    | cons report rest =>
        obtain rfl := (afterFailure report List.mem_cons_self).2.2 cause rfl
        obtain rfl : rest = [] := by
          refine List.eq_nil_iff_forall_not_mem.mpr fun report member => ?_
          exact ((List.pairwise_cons.mp afterwards).1 report member).2.1 _ _ rfl
        exact List.prefix_rfl

/-! ## What comes from the socket -/

/-- What the watch makes of something that comes: it stalls over a frame, or goes on listening, or
ends as the reaction says. -/
theorem receive_listening (settings : Settings.Client) (now deadline : Nat)
    (incoming : Incoming) :
    (Watch.receive settings now incoming (.listening deadline) = (.stalled, none) ∧
        deadline? now settings.idleSeconds = none ∧ Watch.isFrame incoming = true) ∨
      (∃ next, Watch.receive settings now incoming (.listening deadline) =
          (.listening next, (Watch.react settings.messageLimit incoming).1) ∧
        (Watch.react settings.messageLimit incoming).2 = none) ∨
      ∃ ending, Watch.receive settings now incoming (.listening deadline) =
          (.ended ending, (Watch.react settings.messageLimit incoming).1) ∧
        (Watch.react settings.messageLimit incoming).2 = some ending := by
  rw [Watch.receive]
  cases reaction : Watch.react settings.messageLimit incoming with
  | mk text ending =>
      cases isFrame : Watch.isFrame incoming with
      | false =>
          cases ending with
          | none => exact Or.inr (Or.inl ⟨deadline, rfl, rfl⟩)
          | some ending => exact Or.inr (Or.inr ⟨ending, rfl, rfl⟩)
      | true =>
          cases isNext : deadline? now settings.idleSeconds with
          | none => exact Or.inl ⟨rfl, rfl, rfl⟩
          | some next =>
              cases ending with
              | none => exact Or.inr (Or.inl ⟨next, rfl, rfl⟩)
              | some ending => exact Or.inr (Or.inr ⟨ending, rfl, rfl⟩)

theorem reports_of_isFrame {incoming : Incoming} (isFrame : Watch.isFrame incoming = true) :
    incoming.reports none = [] := by
  cases incoming <;> first | rfl | cases isFrame

/-- What goes on is reported as a text or not at all. -/
theorem reports_of_react_eq_none {limit : Nat} {incoming : Incoming}
    (goesOn : (Watch.react limit incoming).2 = none) :
    incoming.reports (Watch.react limit incoming).1 = [] ∨
      ∃ text, incoming.reports (Watch.react limit incoming).1 = [.text text] := by
  cases incoming with
  | text content =>
      simp only [Watch.react]
      split
      · exact Or.inr ⟨content, rfl⟩
      · exact Or.inl rfl
  | close cause => rcases cause with _ | ⟨code, reason⟩ <;> cases goesOn
  | ping => exact Or.inl rfl
  | pong => exact Or.inl rfl
  | binary => exact Or.inl rfl
  | error cause => cases goesOn
  | ended => cases goesOn

/-- What ends the connection is reported as an error or not at all. -/
theorem reports_of_react_eq_some {limit : Nat} {incoming : Incoming} {ending : Ending}
    (ends : (Watch.react limit incoming).2 = some ending) :
    incoming.reports (Watch.react limit incoming).1 = [] ∨
      ∃ cause, ending = .abnormal cause ∧
        incoming.reports (Watch.react limit incoming).1 = [.failed cause] := by
  cases incoming with
  | text content => cases ends
  | close cause => rcases cause with _ | ⟨code, reason⟩ <;> exact Or.inl rfl
  | ping => cases ends
  | pong => cases ends
  | binary => cases ends
  | error cause =>
      cases ends
      exact Or.inr ⟨cause, rfl, rfl⟩
  | ended => exact Or.inl rfl

/-! ## What has been told -/

/-- What has been reported where the reading strand stands. -/
def Told : Reading → List Report → Prop
  | .dialing, reports => reports = []
  | .listening _, reports => IsOpening reports
  | .leaving none, reports => IsOpening reports
  | .leaving (some ending), reports => Story (reports ++ [.closed ending.code ending.reason])
  | .joining none, reports => IsOpening reports
  | .joining (some ending), reports => Story (reports ++ [.closed ending.code ending.reason])
  | .stalled, reports => IsOpening reports
  | .gone, reports => reports = [] ∨ IsOpening reports ∨ Story reports

theorem IsOpening.story {reports : List Report} (opening : IsOpening reports) (ending : Ending) :
    Story (reports ++ [.closed ending.code ending.reason]) := by
  obtain ⟨texts, rfl⟩ := opening
  exact .closed texts ending.code ending.reason

theorem IsOpening.text {reports : List Report} (opening : IsOpening reports) (text : String) :
    IsOpening (reports ++ [.text text]) := by
  obtain ⟨texts, rfl⟩ := opening
  exact ⟨texts ++ [text], by simp⟩

theorem IsOpening.failed {reports : List Report} (opening : IsOpening reports) (cause : String) :
    Story (reports ++ [.failed cause] ++ [.closed Wire.CloseCode.abnormal cause]) := by
  obtain ⟨texts, rfl⟩ := opening
  simpa using Story.failed texts cause

theorem Told.whole {reading : Reading} {reports : List Report} (told : Told reading reports) :
    ∃ whole, Story whole ∧ reports <+: whole := by
  have opening : IsOpening reports → ∃ whole, Story whole ∧ reports <+: whole :=
    fun opening => ⟨_, opening.story ⟨0, ""⟩, List.prefix_append _ _⟩
  have nothing : reports = [] → ∃ whole, Story whole ∧ reports <+: whole :=
    fun isNil => ⟨_, .refused "", isNil ▸ List.nil_prefix⟩
  unfold Told at told
  split at told
  · exact nothing told
  · exact opening told
  · exact opening told
  · exact ⟨_, told, List.prefix_append _ _⟩
  · exact opening told
  · exact ⟨_, told, List.prefix_append _ _⟩
  · exact opening told
  · rcases told with isNil | isOpening | story
    · exact nothing isNil
    · exact opening isOpening
    · exact ⟨_, story, List.prefix_rfl⟩

/-- What has been told once something from the socket is read. -/
theorem told_read (settings : Settings.Client) (now deadline : Nat) (incoming : Incoming)
    {reports : List Report} (opening : IsOpening reports) :
    Told (.ofWatch (Watch.receive settings now incoming (.listening deadline)).1)
      (reports ++
        incoming.reports (Watch.receive settings now incoming (.listening deadline)).2) := by
  rcases receive_listening settings now deadline incoming with
    ⟨same, -, isFrame⟩ | ⟨next, same, goesOn⟩ | ⟨ending, same, ends⟩
  · rw [same]
    simp only [reports_of_isFrame isFrame, List.append_nil]
    exact opening
  · rw [same]
    rcases reports_of_react_eq_none goesOn with silent | ⟨text, told⟩
    · simp only [silent, List.append_nil]
      exact opening
    · simp only [told]
      exact opening.text text
  · rw [same]
    rcases reports_of_react_eq_some ends with silent | ⟨cause, rfl, told⟩
    · simp only [silent, List.append_nil]
      exact opening.story ending
    · simp only [told]
      exact opening.failed cause

/-! ## Every move keeps to the story -/

/-- The reports carry the number of the dial, begin a story, and have told so far what an owner who
listens is to be told where the reading strand stands. -/
structure IsFaithful (serial : Nat) (reading : Reading) (isHeeded : Bool)
    (reports : List (Nat × Report)) : Prop where
  own : ∀ report ∈ reports, report.1 = serial
  begins : ∃ whole, Story whole ∧ reports.map Prod.snd <+: whole
  told : isHeeded = true → Told reading (reports.map Prod.snd)

section Faithful

variable {serial : Nat} {reading next : Reading} {isHeeded : Bool}
  {reports : List (Nat × Report)}

theorem IsFaithful.move (faithful : IsFaithful serial reading isHeeded reports)
    (told : Told reading (reports.map Prod.snd) → Told next (reports.map Prod.snd)) :
    IsFaithful serial next isHeeded reports :=
  ⟨faithful.own, faithful.begins, fun heeded => told (faithful.told heeded)⟩

theorem map_snd_append_map (reports : List (Nat × Report)) (serial : Nat) (more : List Report) :
    (reports ++ more.map (serial, ·)).map Prod.snd = reports.map Prod.snd ++ more := by
  rw [List.map_append, List.map_map]
  exact congrArg _ (List.map_id more)

theorem IsFaithful.say (faithful : IsFaithful serial reading isHeeded reports)
    {more : List Report}
    (told : Told reading (reports.map Prod.snd) → Told next (reports.map Prod.snd ++ more)) :
    IsFaithful serial next isHeeded
      (reports ++ if isHeeded then more.map (serial, ·) else []) := by
  cases isHeeded with
  | false =>
      rw [if_neg Bool.false_ne_true, List.append_nil]
      exact ⟨faithful.own, faithful.begins, fun heeded => by cases heeded⟩
  | true =>
      have tale := told (faithful.told rfl)
      rw [if_pos rfl]
      have plain := map_snd_append_map reports serial more
      refine ⟨?_, plain ▸ tale.whole, fun _ => plain ▸ tale⟩
      intro report member
      rcases List.mem_append.mp member with old | new
      · exact faithful.own report old
      · obtain ⟨_, -, rfl⟩ := List.mem_map.mp new
        rfl

end Faithful

namespace Strands

variable {settings : Settings.Client} {strands next : Strands} {move : Move}

def KeepsFaith (strands : Strands) : Prop :=
  IsFaithful strands.serial strands.reading strands.isHeeded strands.reports

/-- Every move keeps to the story, one case for each. -/
theorem keepsFaith_of_passes (passes : Passes settings strands move next)
    (faithful : strands.KeepsFaith) : next.KeepsFaith := by
  cases passes with
  | queue | lose | cancel | wait | arrive | take | part | writeText | writeClose | writeLast
  | breakFrame | breakLast =>
      exact faithful
  | ignore =>
      exact ⟨faithful.own, faithful.begins, fun heeded => by cases heeded⟩
  | accept dials heeded =>
      refine faithful.say fun told => ?_
      rw [dials] at told
      rw [told]
      exact ⟨[], rfl⟩
  | desert dials unheeded =>
      exact ⟨faithful.own, faithful.begins, fun heeded => by rw [unheeded] at heeded; cases heeded⟩
  | refuse cause dials =>
      refine faithful.say fun told => ?_
      rw [dials] at told
      rw [told]
      exact .refused cause
  | hangUp dials cancelled =>
      refine faithful.move fun told => ?_
      rw [dials] at told
      exact Or.inl told
  | leave listens cancelled =>
      refine faithful.move fun told => ?_
      rw [listens] at told
      exact told
  | fail listens signalled =>
      refine faithful.move fun told => ?_
      rw [listens] at told
      exact told.story _
  | tire listens silent =>
      refine faithful.move fun told => ?_
      rw [listens] at told
      exact told.story _
  | read listens came =>
      refine faithful.say fun told => ?_
      rw [listens] at told
      exact told_read settings strands.now _ _ told
  | @wind outcome leaves =>
      refine faithful.move fun told => ?_
      rw [leaves] at told
      cases outcome <;> exact told
  | @conclude outcome joins down =>
      refine faithful.say fun told => ?_
      rw [joins] at told
      cases outcome with
      | none =>
          exact (List.append_nil _).symm ▸ Or.inr (Or.inl told)
      | some ending =>
          exact Or.inr (Or.inr told)

theorem keepsFaith_dialed (serial now : Nat) : (dialed serial now).KeepsFaith :=
  ⟨fun _ member => absurd member List.not_mem_nil, ⟨_, .refused "", List.nil_prefix⟩,
    fun _ => rfl⟩

theorem keepsFaith_of_run {serial now : Nat} {moves : List Move} {last : Strands}
    (run : (dialed serial now).run settings moves = some last) : last.KeepsFaith :=
  run_keeps KeepsFaith (fun _ _ _ _ => keepsFaith_of_passes) (fun _ _ => trivial)
    (keepsFaith_dialed serial now) run

/-- The reports of any run of strands are orderly. -/
theorem isOrderly_of_run {serial now : Nat} {moves : List Move} {last : Strands}
    (run : (dialed serial now).run settings moves = some last) :
    IsOrderly (last.reports.map Prod.snd) := by
  obtain ⟨whole, story, begins⟩ := (keepsFaith_of_run run).begins
  exact isOrderly_of_story story begins

end Strands

end Parley.Connection
