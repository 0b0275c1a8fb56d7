import Parley.Proofs.Connection.Endings

/-!
# What goes out on a connection

The writing strand keeps the order of the queue. It stops at the first close frame from the queue,
at the first write that fails, or with a close frame of its own once the connection is cancelled
and nothing waits any more, so that whatever was queued before the cancellation has gone out. A
close frame that the owner queues later than that does not go out any more.
-/

namespace Parley.Connection

def Frame.isClose : Frame → Bool
  | .text _ => false
  | .close _ _ => true

/-- The writing strand takes frames and writes them. -/
def Pen.isBusy : Pen → Bool
  | .choosing => true
  | .writing _ => true
  | _ => false

theorem map_written_texts (sent : List String) :
    (sent.map Frame.text).map Frame.written = sent.map Written.text := by
  rw [List.map_map]
  rfl

theorem any_isClose_texts (sent : List String) :
    (sent.map Frame.text).any Frame.isClose = false := by
  simp [Frame.isClose]

theorem close_notMem_texts {code : Nat} {reason : String} (sent : List String) :
    Frame.close code reason ∉ sent.map Frame.text := by
  intro member
  obtain ⟨_, -, isClose⟩ := List.mem_map.mp member
  cases isClose

namespace Strands

variable {settings : Settings.Client} {strands next : Strands} {move : Move}

/-- Where the writing strand stands, the texts that have gone out account for what was taken for
writing. The early frames were all taken before the connection was cancelled. -/
def Books (early : List Frame) (strands : Strands) (sent : List String) : Prop :=
  match strands.pen with
  | .absent => strands.written = [] ∧ strands.accepted = strands.waiting
  | .choosing =>
      strands.written = sent.map .text ∧
        strands.accepted = sent.map .text ++ strands.waiting
  | .writing frame =>
      strands.written = sent.map .text ∧
        strands.accepted = sent.map .text ++ frame :: strands.waiting
  | .parting =>
      strands.written = sent.map .text ∧ sent.map .text <+: strands.accepted ∧
        strands.cancelled = true ∧ early <+: sent.map .text
  | .closed =>
      (strands.written = sent.map .text ++ [.close none] ∧ sent.map .text <+: strands.accepted ∧
          strands.cancelled = true ∧ early <+: sent.map .text) ∨
        ∃ code reason, strands.written = sent.map .text ++ [.close (some (code, reason))] ∧
          sent.map .text ++ [.close code reason] <+: strands.accepted
  | .broken =>
      strands.written = sent.map .text ∧ sent.map .text <+: strands.accepted ∧
        (strands.signalled = true ∨ strands.cancelled = true ∧ early <+: sent.map .text)

/-- The early frames are accounted for. -/
structure Accounts (early : List Frame) (strands : Strands) : Prop where
  unopened : strands.reading = .dialing → strands.pen = .absent
  included : early <+: strands.accepted
  booked : ∃ sent, strands.Books early sent

variable {early : List Frame} {sent : List String}

theorem Books.cancel (books : strands.Books early sent) :
    Books early { strands with cancelled := true } sent := by
  unfold Books at books ⊢
  cases pen : strands.pen with
  | parting =>
      simp only [pen] at books ⊢
      exact ⟨books.1, books.2.1, trivial, books.2.2.2⟩
  | closed =>
      simp only [pen] at books ⊢
      exact books.imp_left fun ⟨written, begins, _, all⟩ => ⟨written, begins, trivial, all⟩
  | broken =>
      simp only [pen] at books ⊢
      exact ⟨books.1, books.2.1, books.2.2.imp_right fun late => ⟨trivial, late.2⟩⟩
  | absent | choosing | writing =>
      simp only [pen] at books ⊢
      exact books

theorem Books.queue (books : strands.Books early sent) (frame : Frame) :
    Books early
      { strands with
        waiting := strands.waiting ++ [frame]
        accepted := strands.accepted ++ [frame] } sent := by
  unfold Books at books ⊢
  have longer {frames : List Frame} (begins : frames <+: strands.accepted) :
      frames <+: strands.accepted ++ [frame] := begins.trans (List.prefix_append _ _)
  cases pen : strands.pen with
  | absent =>
      simp only [pen] at books ⊢
      exact ⟨books.1, by rw [books.2]⟩
  | choosing =>
      simp only [pen] at books ⊢
      exact ⟨books.1, by rw [books.2, List.append_assoc]⟩
  | writing written =>
      simp only [pen] at books ⊢
      exact ⟨books.1, by rw [books.2, List.append_assoc, List.cons_append]⟩
  | parting =>
      simp only [pen] at books ⊢
      exact ⟨books.1, longer books.2.1, books.2.2⟩
  | closed =>
      simp only [pen] at books ⊢
      rcases books with ⟨written, begins, all⟩ | ⟨code, reason, written, begins⟩
      · exact Or.inl ⟨written, longer begins, all⟩
      · exact Or.inr ⟨code, reason, written, longer begins⟩
  | broken =>
      simp only [pen] at books ⊢
      exact ⟨books.1, longer books.2.1, books.2.2⟩

/-- The accounts stay right through every move, one case for each. -/
theorem accounts_of_passes (passes : Passes settings strands move next)
    (accounts : strands.Accounts early) : next.Accounts early := by
  obtain ⟨unopened, included, sent, books⟩ := accounts
  have opened {pen now : Pen} (stands : strands.pen = pen) (present : pen ≠ .absent)
      (dials : strands.reading = .dialing) : now = .absent :=
    absurd (stands.symm.trans (unopened dials)) present
  cases passes with
  | queue frame =>
      exact ⟨unopened, included.trans (List.prefix_append _ _), sent, books.queue frame⟩
  | cancel =>
      exact ⟨unopened, included, sent, books.cancel⟩
  | wind =>
      exact ⟨nofun, included, sent, books.cancel⟩
  | lose | ignore | wait | arrive =>
      exact ⟨unopened, included, sent, books⟩
  | desert | refuse | hangUp | leave | fail | tire | conclude =>
      exact ⟨nofun, included, sent, books⟩
  | @read deadline incoming rest =>
      refine ⟨fun dials => ?_, included, sent, books⟩
      rw [read_reading] at dials
      generalize Watch.receive .. = received at dials
      rcases received with ⟨_ | _ | _, _⟩ <;> cases dials
  | accept dials =>
      simp only [Books, unopened dials] at books
      refine ⟨fun starts => ?_, included, [], books.1, books.2⟩
      cases starts
  | @take frame rest chooses waits =>
      simp only [Books, chooses, waits] at books
      exact ⟨opened chooses nofun, included, sent, books⟩
  | part chooses idle cancelled =>
      simp only [Books, chooses, idle, List.append_nil] at books
      refine ⟨opened chooses nofun, included, sent, ?_⟩
      exact ⟨books.1, books.2 ▸ List.prefix_rfl, cancelled, books.2 ▸ included⟩
  | @writeText content writes =>
      simp only [Books, writes] at books
      refine ⟨opened writes nofun, included,
        sent ++ [content], ?_⟩
      simp only [Books, List.map_append, List.append_assoc]
      exact ⟨by rw [books.1]; rfl, books.2⟩
  | @writeClose code reason writes =>
      simp only [Books, writes] at books
      refine ⟨opened writes nofun, included, sent, ?_⟩
      refine Or.inr ⟨code, reason, by rw [books.1], strands.waiting, ?_⟩
      rw [books.2, List.append_assoc]
      rfl
  | writeLast parts =>
      simp only [Books, parts] at books
      refine ⟨opened parts nofun, included, sent, ?_⟩
      exact Or.inl ⟨by rw [books.1], books.2⟩
  | breakFrame writes =>
      simp only [Books, writes] at books
      refine ⟨opened writes nofun, included, sent, ?_⟩
      exact ⟨books.1, books.2 ▸ List.prefix_append _ _, Or.inl rfl⟩
  | breakLast parts =>
      simp only [Books, parts] at books
      refine ⟨opened parts nofun, included, sent, ?_⟩
      exact ⟨books.1, books.2.1, Or.inr books.2.2⟩

theorem accounts_dialed (serial now : Nat) : (dialed serial now).Accounts [] :=
  ⟨fun _ => rfl, List.nil_prefix, [], rfl, rfl⟩

theorem accounts_of_run {moves : List Move} {last : Strands}
    (accounts : strands.Accounts early) (run : strands.run settings moves = some last) :
    last.Accounts early :=
  run_keeps (Accounts early) (fun _ _ _ _ => accounts_of_passes) (fun _ _ => trivial) accounts run

/-- What was taken while the connection was not cancelled, or while the writing strand was busy, is
accounted for from then on. -/
theorem Accounts.now (accounts : strands.Accounts early)
    (isEarly : strands.cancelled = false ∨ strands.pen.isBusy = true) :
    strands.Accounts strands.accepted := by
  obtain ⟨unopened, -, sent, books⟩ := accounts
  refine ⟨unopened, List.prefix_rfl, sent, ?_⟩
  unfold Books at books ⊢
  cases pen : strands.pen with
  | absent | choosing | writing =>
      simp only [pen] at books ⊢
      exact books
  | parting =>
      have live := isEarly.resolve_right (by rw [pen]; nofun)
      simp only [pen, live, Bool.false_eq_true, false_and, and_false] at books
  | closed =>
      have live := isEarly.resolve_right (by rw [pen]; nofun)
      simp only [pen, live, Bool.false_eq_true, false_and, and_false, false_or] at books ⊢
      exact books
  | broken =>
      have live := isEarly.resolve_right (by rw [pen]; nofun)
      simp only [pen, live, Bool.false_eq_true, false_and, or_false] at books ⊢
      exact books

/-! ## The frames on the socket -/

/-- The frames on the socket are the first ones of the queue. -/
theorem Accounts.inOrder (accounts : strands.Accounts early) :
    ∃ sent, sent <+: strands.accepted ∧
      (strands.written = sent.map Frame.written ∨
        strands.written = sent.map Frame.written ++ [.close none]) := by
  obtain ⟨-, -, sent, books⟩ := accounts
  have texts := map_written_texts sent
  unfold Books at books
  split at books
  · exact ⟨[], List.nil_prefix, Or.inl books.1⟩
  · exact ⟨sent.map .text, books.2 ▸ List.prefix_append _ _, Or.inl (books.1.trans texts.symm)⟩
  · exact ⟨sent.map .text, books.2 ▸ List.prefix_append _ _, Or.inl (books.1.trans texts.symm)⟩
  · exact ⟨sent.map .text, books.2.1, Or.inl (books.1.trans texts.symm)⟩
  · rcases books with ⟨written, begins, -⟩ | ⟨code, reason, written, begins⟩
    · exact ⟨sent.map .text, begins, Or.inr (by rw [written, texts])⟩
    · exact ⟨_, begins, Or.inl (by rw [written, List.map_append, texts]; rfl)⟩
  · exact ⟨sent.map .text, books.2.1, Or.inl (books.1.trans texts.symm)⟩

/-- Texts and at most one frame after them hold no close frame but the last one. -/
theorem eq_nil_of_texts_append {sent : List String} {last before after : List Written}
    {cause : Option (Nat × String)} (short : last.length ≤ 1)
    (same : sent.map Written.text ++ last = before ++ .close cause :: after) : after = [] := by
  have alone : last.Pairwise fun earlier _ => ∀ cause, earlier ≠ Written.close cause := by
    match last, short with
    | [], _ => exact List.Pairwise.nil
    | [frame], _ => exact List.pairwise_singleton _ _
  have texts : (sent.map Written.text).Pairwise fun earlier _ =>
      ∀ cause, earlier ≠ Written.close cause :=
    List.pairwise_map.mpr (List.pairwise_of_forall fun _ _ => nofun)
  have all := List.pairwise_append.mpr ⟨texts, alone, fun text member _ _ cause isClose => by
    obtain ⟨_, -, rfl⟩ := List.mem_map.mp member
    cases isClose⟩
  rw [same] at all
  obtain ⟨-, later, -⟩ := List.pairwise_append.mp all
  refine List.eq_nil_iff_forall_not_mem.mpr fun frame member => ?_
  exact (List.pairwise_cons.mp later).1 frame member cause rfl

theorem Accounts.texts_then_last (accounts : strands.Accounts early) :
    ∃ (sent : List String) (last : List Written),
      strands.written = sent.map .text ++ last ∧ last.length ≤ 1 := by
  obtain ⟨-, -, sent, books⟩ := accounts
  have plain (written : strands.written = sent.map .text) :
      ∃ (sent : List String) (last : List Written),
        strands.written = sent.map .text ++ last ∧ last.length ≤ 1 :=
    ⟨sent, [], by rw [written, List.append_nil], Nat.zero_le 1⟩
  unfold Books at books
  split at books
  · exact ⟨[], [], books.1, Nat.zero_le 1⟩
  · exact plain books.1
  · exact plain books.1
  · exact plain books.1
  · rcases books with ⟨written, -⟩ | ⟨code, reason, written, -⟩
    · exact ⟨sent, _, written, Nat.le_refl 1⟩
    · exact ⟨sent, _, written, Nat.le_refl 1⟩
  · exact plain books.1

theorem Accounts.staysSilent (accounts : strands.Accounts early) (absent : strands.pen = .absent) :
    strands.written = [] := by
  obtain ⟨-, -, sent, books⟩ := accounts
  simp only [Books, absent] at books
  exact books.1

/-- Nothing is written after a close frame. -/
theorem Accounts.closesLast (accounts : strands.Accounts early) {before after : List Written}
    {cause : Option (Nat × String)} (same : strands.written = before ++ .close cause :: after) :
    after = [] := by
  obtain ⟨sent, last, written, short⟩ := accounts.texts_then_last
  exact eq_nil_of_texts_append short (written.symm.trans same)

/-- A writing strand that is done has written a queued close frame last, or else one of its own. -/
theorem Accounts.signsOff (accounts : strands.Accounts early) (done : strands.pen = .closed) :
    ∃ sent, sent <+: strands.accepted ∧
      strands.written = sent.map Frame.written ++
        if sent.any Frame.isClose then [] else [.close none] := by
  obtain ⟨-, -, sent, books⟩ := accounts
  simp only [Books, done] at books
  rcases books with ⟨written, begins, -⟩ | ⟨code, reason, written, begins⟩
  · refine ⟨sent.map .text, begins, ?_⟩
    rw [written, map_written_texts, any_isClose_texts]
    rfl
  · refine ⟨_, begins, ?_⟩
    rw [written, List.map_append, map_written_texts, List.any_append, any_isClose_texts]
    exact (List.append_nil _).symm

/-- A writing strand that is done has written all that was taken early, unless a close frame came
before the rest. -/
theorem Accounts.early_written (accounts : strands.Accounts early) (done : strands.pen = .closed) :
    early.map Frame.written <+: strands.written ∨
      ∃ earlier code reason, earlier ++ [.close code reason] <+: early ∧
        strands.written = (earlier ++ [.close code reason]).map Frame.written := by
  obtain ⟨-, included, sent, books⟩ := accounts
  simp only [Books, done] at books
  rcases books with ⟨written, -, -, all⟩ | ⟨code, reason, written, begins⟩
  · have gone := all.map Frame.written
    rw [map_written_texts] at gone
    exact Or.inl (written ▸ gone.trans (List.prefix_append _ _))
  · have whole : strands.written =
        (sent.map Frame.text ++ [Frame.close code reason]).map Frame.written := by
      rw [written, List.map_append, map_written_texts]
      rfl
    rcases List.prefix_or_prefix_of_prefix included begins with all | part
    · exact Or.inl (whole ▸ all.map Frame.written)
    · exact Or.inr ⟨_, code, reason, part, whole⟩

/-! ## A writing strand that takes no more frames -/

/-- What every move keeps of strands whose accounts are right, every run keeps. -/
theorem keeps_of_run (Kept : Strands → Prop) {moves : List Move} {last : Strands}
    (keeps : ∀ strands move next, Passes settings strands move next → strands.Accounts early →
      Kept strands → Kept next)
    (accounts : strands.Accounts early) (kept : Kept strands)
    (run : strands.run settings moves = some last) : Kept last := by
  have both : last.Accounts early ∧ Kept last := by
    refine run_keeps (fun later => later.Accounts early ∧ Kept later) ?_ (fun _ _ => trivial)
      ⟨accounts, kept⟩ run
    rintro earlier move next - passes ⟨accounts, kept⟩
    exact ⟨accounts_of_passes passes accounts, keeps _ _ _ passes accounts kept⟩
  exact both.2

/-- All that is left to a writing strand that takes no more frames is its own close frame. -/
theorem passes_of_idle (passes : Passes settings strands move next)
    (accounts : strands.Accounts early) (opened : strands.pen ≠ .absent)
    (idle : strands.pen.isBusy = false) :
    (next.pen = strands.pen ∧ next.written = strands.written ∧
        (strands.signalled = true → next.signalled = true)) ∨
      (strands.pen = .parting ∧ next.pen = .closed ∧
        next.written = strands.written ++ [.close none]) ∨
      (strands.pen = .parting ∧ next.pen = .broken ∧ next.written = strands.written) := by
  have other {now : Pen} (isNow : strands.pen = now) (busy : now.isBusy = true) : False := by
    rw [isNow, busy] at idle
    cases idle
  cases passes with
  | queue | lose | cancel | ignore | wait | arrive | desert | refuse | hangUp | leave | fail | tire
  | read | wind | conclude =>
      exact Or.inl ⟨rfl, rfl, id⟩
  | accept dials =>
      exact absurd (accounts.unopened dials) opened
  | take chooses | part chooses =>
      exact (other chooses rfl).elim
  | writeText writes | writeClose writes | breakFrame writes =>
      exact (other writes rfl).elim
  | writeLast parts =>
      exact Or.inr (Or.inl ⟨parts, rfl, rfl⟩)
  | breakLast parts =>
      exact Or.inr (Or.inr ⟨parts, rfl, rfl⟩)

/-- A writing strand that is done stays so and writes nothing more, and a signal that was given
stays. -/
theorem done_of_run {moves : List Move} {last : Strands} (accounts : strands.Accounts early)
    {pen : Pen} (stands : strands.pen = pen) (done : pen = .closed ∨ pen = .broken)
    (run : strands.run settings moves = some last) :
    last.pen = pen ∧ last.written = strands.written ∧
      (strands.signalled = true → last.signalled = true) := by
  refine keeps_of_run (fun later => later.pen = pen ∧ later.written = strands.written ∧
    (strands.signalled = true → later.signalled = true)) ?_ accounts ⟨stands, rfl, id⟩ run
  rintro earlier move next passes accounts ⟨stands, written, signalled⟩
  have away : pen ≠ .absent ∧ pen.isBusy = false ∧ pen ≠ .parting := by
    rcases done with rfl | rfl <;> exact ⟨nofun, rfl, nofun⟩
  rw [← stands] at away
  rcases passes_of_idle passes accounts away.1 away.2.1 with
    ⟨stays, wrote, signals⟩ | ⟨parts, -⟩ | ⟨parts, -⟩
  · exact ⟨stays.trans stands, wrote.trans written, signals ∘ signalled⟩
  · exact absurd parts away.2.2
  · exact absurd parts away.2.2

/-- A writing strand whose writes do not fail does not break off. -/
theorem unbroken_of_run {moves : List Move} {last : Strands} (sound : .broken ∉ moves)
    (unbroken : strands.pen ≠ .broken) (run : strands.run settings moves = some last) :
    last.pen ≠ .broken := by
  refine run_keeps (fun later => later.pen ≠ .broken) ?_
    (fun move member => ne_of_mem_of_not_mem member sound) unbroken run
  intro earlier move next sound passes unbroken
  cases passes with
  | queue | lose | cancel | ignore | wait | arrive | desert | refuse | hangUp | leave | fail | tire
  | read | wind | conclude =>
      exact unbroken
  | accept | take | part | writeText | writeClose | writeLast => nofun
  | breakFrame | breakLast => exact absurd rfl sound

/-- The writing strand takes no more frames; it has come to its own close frame after the others,
or a write has failed. -/
def HasParted (others : List Written) (strands : Strands) : Prop :=
  match strands.pen with
  | .parting => strands.written = others
  | .closed => strands.written = others ++ [.close none]
  | .broken => strands.written = others
  | _ => False

theorem HasParted.idle {others : List Written} (parted : strands.HasParted others) :
    strands.pen ≠ .absent ∧ strands.pen.isBusy = false := by
  unfold HasParted at parted
  split at parted
  next parts => exact ⟨by rw [parts]; nofun, by rw [parts]; rfl⟩
  next done => exact ⟨by rw [done]; nofun, by rw [done]; rfl⟩
  next broken => exact ⟨by rw [broken]; nofun, by rw [broken]; rfl⟩
  next => exact parted.elim

/-- However a run goes on, at most the own close frame of the writing strand still goes out. -/
theorem hasParted_of_run {others : List Written} {moves : List Move} {last : Strands}
    (accounts : strands.Accounts early) (parted : strands.HasParted others)
    (run : strands.run settings moves = some last) : last.HasParted others := by
  refine keeps_of_run (HasParted others) ?_ accounts parted run
  intro earlier move next passes accounts parted
  obtain ⟨opened, idle⟩ := parted.idle
  rcases passes_of_idle passes accounts opened idle with
    ⟨stays, wrote, -⟩ | ⟨parts, closes, wrote⟩ | ⟨parts, breaks, wrote⟩
  · unfold HasParted at parted ⊢
    rw [stays, wrote]
    exact parted
  · simp only [HasParted, parts] at parted
    simp only [HasParted, closes]
    rw [wrote, parted]
  · simp only [HasParted, parts] at parted
    simp only [HasParted, breaks]
    rw [wrote, parted]

/-! ## A connection that its owner closes -/

/-- The first close frame of a queue is where it is. -/
theorem texts_close_eq_of_begins {texts sent : List String} {code code' : Nat}
    {reason reason' : String}
    (begins : texts.map Frame.text ++ [.close code reason] <+:
      sent.map Frame.text ++ [.close code' reason']) :
    texts.map Frame.text ++ [.close code reason] =
      sent.map Frame.text ++ [.close code' reason'] := by
  induction texts generalizing sent with
  | nil =>
      cases sent with
      | nil => exact begins.eq_of_length rfl
      | cons text rest => cases (List.cons_prefix_cons.mp begins).1
  | cons text rest inductionHypothesis =>
      cases sent with
      | nil => cases (List.cons_prefix_cons.mp begins).1
      | cons other others =>
          obtain ⟨same, begins⟩ := List.cons_prefix_cons.mp begins
          exact List.cons_eq_cons.mpr ⟨same, inductionHypothesis begins⟩

/-- If a close frame was queued early behind texts, the texts and that close frame are what has
gone out. -/
theorem Accounts.closed_written {texts : List String} {code : Nat} {reason : String}
    (accounts : strands.Accounts (texts.map .text ++ [.close code reason]))
    (done : strands.pen = .closed) :
    strands.written = texts.map .text ++ [.close (some (code, reason))] := by
  obtain ⟨-, included, sent, books⟩ := accounts
  simp only [Books, done] at books
  rcases books with ⟨-, -, -, all⟩ | ⟨code', reason', written, begins⟩
  · have member := all.subset (List.mem_append_right _ List.mem_cons_self)
    exact absurd member (close_notMem_texts sent)
  · have same : texts.map Frame.text ++ [.close code reason] =
        sent.map Frame.text ++ [.close code' reason'] := by
      rcases List.prefix_or_prefix_of_prefix included begins with all | part
      · exact texts_close_eq_of_begins all
      · exact (texts_close_eq_of_begins part).symm
    have frames := congrArg (List.map Frame.written) same
    rw [List.map_append, List.map_append, map_written_texts, map_written_texts] at frames
    exact written.trans frames.symm

/-- An open connection that has taken nothing but texts takes more of them, or never will again
after a cancellation or a failed write. -/
theorem Accounts.isBusy_or_hasParted (accounts : strands.Accounts early)
    (opened : strands.pen ≠ .absent) {texts : List String}
    (taken : strands.accepted = texts.map .text) :
    strands.pen.isBusy = true ∨
      (strands.cancelled = true ∨ strands.pen = .broken) ∧
        ∃ others, strands.HasParted others := by
  obtain ⟨-, -, sent, books⟩ := accounts
  unfold HasParted
  cases pen : strands.pen with
  | absent => exact absurd pen opened
  | choosing | writing => exact Or.inl rfl
  | parting =>
      simp only [Books, pen] at books
      exact Or.inr ⟨Or.inl books.2.2.1, _, rfl⟩
  | closed =>
      simp only [Books, pen] at books
      rcases books with ⟨written, -, cancelled, -⟩ | ⟨code, reason, -, begins⟩
      · exact Or.inr ⟨Or.inl cancelled, _, written⟩
      · have member := begins.subset (List.mem_append_right _ List.mem_cons_self)
        exact absurd (taken ▸ member) (close_notMem_texts texts)
  | broken => exact Or.inr ⟨Or.inr rfl, _, rfl⟩

/-! ## Whole runs -/

section Runs

variable {serial now : Nat} {before after : List Move} {middle last : Strands}

theorem accounts_of_dial (run : (dialed serial now).run settings before = some strands) :
    strands.Accounts [] :=
  accounts_of_run (accounts_dialed serial now) run

/-- An owner who closes an open connection gets its texts written and then its close frame. -/
theorem closed_of_run {texts : List String} {code : Nat} {reason : String}
    (accounts : middle.Accounts early) (busy : middle.pen.isBusy = true)
    (taken : middle.accepted = texts.map .text)
    (further : middle.run settings (.queue (.close code reason) :: after) = some last)
    (done : last.pen = .closed) :
    last.written = texts.map .text ++ [.close (some (code, reason))] := by
  obtain ⟨next, step, further⟩ := Option.bind_eq_some_iff.mp further
  have accepts : middle.accepts = true := by
    unfold accepts
    cases pen : middle.pen <;> rw [pen] at busy <;> first | rfl | cases busy
  have queued := accounts_of_passes (passes_of_step step) accounts
  simp only [Strands.step, Strands.queue, accepts, if_true, Option.some.injEq] at step
  subst step
  have later := accounts_of_run (queued.now (Or.inr busy)) further
  rw [taken] at later
  exact later.closed_written done

/-- The close frame of the owner goes out after its texts just if it is queued before the writing
strand has come to a close frame of its own. -/
theorem closed_of_run_iff {texts : List String} {code : Nat} {reason : String}
    (accounts : middle.Accounts early) (opened : middle.pen ≠ .absent)
    (taken : middle.accepted = texts.map .text)
    (further : middle.run settings (.queue (.close code reason) :: after) = some last)
    (done : last.pen = .closed) :
    last.written = texts.map .text ++ [.close (some (code, reason))] ↔
      middle.cancelled = false ∨ middle.pen.isBusy = true := by
  have states := accounts.isBusy_or_hasParted opened taken
  constructor
  · intro coded
    rcases states with busy | ⟨-, others, parted⟩
    · exact Or.inr busy
    · -- The last frame is the strand's own, which has no code.
      have uncoded := hasParted_of_run accounts parted further
      simp only [HasParted, done] at uncoded
      cases (List.append_inj' (coded.symm.trans uncoded) rfl).2
  · intro inTime
    rcases states with busy | ⟨cancelled | broken, -⟩
    · exact closed_of_run accounts busy taken further done
    · have busy := inTime.resolve_left (by rw [cancelled]; nofun)
      exact closed_of_run accounts busy taken further done
    · obtain ⟨stays, -⟩ := done_of_run accounts broken (Or.inr rfl) further
      rw [done] at stays
      cases stays

/-- A write that fails is the last one, and it is signalled unless it was a close frame that nobody
had queued. -/
theorem broken_of_run (accounts : middle.Accounts early)
    (further : middle.run settings (.broken :: after) = some last) :
    last.written = middle.written ∧
      (last.signalled = true ∨ middle.pen = .parting ∧ middle.cancelled = true) := by
  obtain ⟨next, step, further⟩ := Option.bind_eq_some_iff.mp further
  have passes := passes_of_step step
  have later := accounts_of_passes passes accounts
  cases passes with
  | breakFrame writes =>
      obtain ⟨-, written, signals⟩ := done_of_run later rfl (Or.inr rfl) further
      exact ⟨written, Or.inl (signals rfl)⟩
  | breakLast parts =>
      obtain ⟨-, written, -⟩ := done_of_run later rfl (Or.inr rfl) further
      obtain ⟨-, -, sent, books⟩ := accounts
      simp only [Books, parts] at books
      exact ⟨written, Or.inr ⟨parts, books.2.2.1⟩⟩

/-- What goes out on a connection, and what is left of it from a time on. -/
structure GoesOut (settings : Settings.Client) (middle : Strands) (after : List Move)
    (last : Strands) : Prop where
  /-- The first frames of the queue go out, in order, and perhaps one close frame without a code. -/
  inOrder : ∃ sent, sent <+: last.accepted ∧
    (last.written = sent.map Frame.written ∨
      last.written = sent.map Frame.written ++ [.close none])
  /-- Nothing goes out unless the handshake succeeds. -/
  staysSilent : last.pen = .absent → last.written = []
  /-- That close frame goes out before the end if no other one does and no write fails. -/
  signsOff : last.pen = .closed → ∃ sent, sent <+: last.accepted ∧
    last.written = sent.map Frame.written ++
      if sent.any Frame.isClose then [] else [.close none]
  closesLast : ∀ before cause after, last.written = before ++ .close cause :: after → after = []
  /-- What was taken before the cancellation goes out before the end if no write fails, up to the
  first close frame. -/
  flushes : middle.cancelled = false → last.pen = .closed →
    middle.accepted.map Frame.written <+: last.written ∨
      ∃ earlier code reason, earlier ++ [.close code reason] <+: middle.accepted ∧
        last.written = (earlier ++ [.close code reason]).map Frame.written
  /-- The end comes once the connection is cancelled. -/
  stops : last.cancelled = true → last.IsAtRest settings → last.pen.isDown = true
  /-- The owner closes the open connection. That close frame comes too late once the writing strand
  has come to one of its own, as it may after a cancellation. -/
  closes : ∀ (texts : List String) code reason rest, middle.pen ≠ .absent →
    middle.accepted = texts.map .text → after = .queue (.close code reason) :: rest →
    last.pen = .closed →
    (last.written = texts.map .text ++ [.close (some (code, reason))] ↔
      middle.cancelled = false ∨ middle.pen.isBusy = true)
  /-- Only a write that fails breaks the writing off. -/
  endures : .broken ∉ after → middle.pen ≠ .broken → last.pen ≠ .broken
  /-- A write fails. It is signalled, except perhaps for a close frame that nobody had queued. -/
  breaks : ∀ rest, after = .broken :: rest → last.written = middle.written ∧
    (last.signalled = true ∨ middle.pen = .parting ∧ middle.cancelled = true)

end Runs

/-- Two texts are handed over, and then the connection is closed. -/
def twoTexts : List Move :=
  [.accept, .queue (.text "one"), .queue (.text "two")]

def changedToken : List Move :=
  [.queue (.close 4000 "token changed"), .cancel, .take, .written, .noticeCancel, .take, .written,
    .wind, .take, .written, .conclude]

/-- A text is handed over during the handshake, and then the connection is given up. -/
def givenUp : List Move :=
  [.queue (.text "one"), .cancel, .noticeCancel]

/-- The connection is cancelled on a socket that takes no more frames. -/
def brokenOff : List Move :=
  [.accept, .cancel, .part, .broken, .noticeCancel, .wind, .conclude]

/-- The reading strand ends the connection, and its owner closes it before it hears of that. -/
def silenced : List Move :=
  [.accept, .wait 75000, .noticeSilence, .wind, .part]

end Strands

end Parley.Connection
