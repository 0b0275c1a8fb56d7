import Mathlib.Data.List.DropRight
import Parley.Terminal.Session

/-!
# The layout of a transcript

What a contribution adds to the transcript follows from what was printed before it: whether the last
thing written is a text, and whether the assistant has thought in this turn. The two flags of the
cursor say just that after everything printed, whatever it is and in whatever order it comes. What
a session writes is such a transcript.
-/

namespace Parley.Terminal

/-- Something that is printed, with the time of day at which it is. -/
structure Printing where
  time : String
  contribution : Contribution
deriving DecidableEq, Repr

/-- The transcript so far, and how it stands. -/
structure Page where
  cursor : Cursor
  text : List Char
deriving DecidableEq, Repr

namespace Page

def blank : Page :=
  ⟨.fresh, []⟩

/-- What pieces look like at a time of day. -/
def ink (time : String) (pieces : List Piece) : List Char :=
  pieces.flatMap fun piece => (piece.render time).toList

def print (page : Page) (printing : Printing) : Page :=
  let (cursor, pieces) := page.cursor.print printing.contribution
  ⟨cursor, page.text ++ ink printing.time pieces⟩

end Page

def pageOf (printed : List Printing) : Page :=
  printed.foldl Page.print .blank

def transcript (printed : List Printing) : List Char :=
  (pageOf printed).text

/-! ## What was printed before -/

/-- The assistant has thought since the last end of a turn. -/
def HasThought (printed : List Printing) : Prop :=
  ∃ printing ∈ printed.rtakeWhile (·.contribution ≠ .turnEnd), printing.contribution = .thinking

instance (printed : List Printing) : Decidable (HasThought printed) :=
  inferInstanceAs (Decidable (∃ printing ∈ printed.rtakeWhile (·.contribution ≠ .turnEnd),
    printing.contribution = .thinking))

/-- Nothing but thinking was printed after the rest, all of it in a turn in which the assistant had
thought already. -/
def IsSilent (before : List Printing) : List Printing → Prop
  | [] => True
  | printing :: rest =>
      printing.contribution = .thinking ∧ HasThought before ∧ IsSilent (before ++ [printing]) rest

/-- A text was printed last, apart from thinking that is not shown again. -/
def EndsInText (printed : List Printing) : Prop :=
  ∃ before time content between, printed = before ++ ⟨time, .text content⟩ :: between ∧
    IsSilent (before ++ [⟨time, .text content⟩]) between

/-- A turn of the assistant starts after what was printed. -/
def StartsTurn (printed : List Printing) : Prop :=
  printed = [] ∨ ∃ before time, printed = before ++ [⟨time, .turnEnd⟩]

theorem hasThought_concat (printed : List Printing) (printing : Printing) :
    HasThought (printed ++ [printing]) ↔ printing.contribution ≠ .turnEnd ∧
      (HasThought printed ∨ printing.contribution = .thinking) := by
  unfold HasThought
  rw [List.rtakeWhile_concat]
  by_cases isEnd : printing.contribution = .turnEnd
  · simp [isEnd]
  · simp only [isEnd, ne_eq, not_false_eq_true, decide_true, if_true, List.mem_append,
      List.mem_singleton, true_and, or_and_right, exists_or, exists_eq_left]

theorem not_hasThought_of_startsTurn {printed : List Printing} (starts : StartsTurn printed) :
    ¬ HasThought printed := by
  rcases starts with rfl | ⟨before, time, rfl⟩
  · simp [HasThought]
  · simp [hasThought_concat]

theorem isSilent_concat (before between : List Printing) (printing : Printing) :
    IsSilent before (between ++ [printing]) ↔
      IsSilent before between ∧ printing.contribution = .thinking ∧
        HasThought (before ++ between) := by
  induction between generalizing before with
  | nil => simp [IsSilent]
  | cons first rest inductionHypothesis =>
      simp only [List.cons_append, IsSilent, inductionHypothesis]
      simp [and_assoc]

theorem not_endsInText_nil : ¬ EndsInText [] := by
  rintro ⟨before, time, content, between, whole, -⟩
  simp at whole

theorem endsInText_concat (printed : List Printing) (printing : Printing) :
    EndsInText (printed ++ [printing]) ↔
      (∃ content, printing.contribution = .text content) ∨
        (printing.contribution = .thinking ∧ HasThought printed ∧ EndsInText printed) := by
  constructor
  · rintro ⟨before, time, content, between, whole, silent⟩
    rcases List.eq_nil_or_concat between with rfl | ⟨inner, last, rfl⟩
    · obtain ⟨-, same⟩ := List.append_inj' whole rfl
      cases same
      exact Or.inl ⟨content, rfl⟩
    · rw [List.concat_eq_append] at whole silent
      rw [← List.cons_append, ← List.append_assoc] at whole
      obtain ⟨rfl, same⟩ := List.append_inj' whole rfl
      cases same
      obtain ⟨quiet, isThinking, thought⟩ := (isSilent_concat _ _ _).mp silent
      refine Or.inr ⟨isThinking, ?_, before, time, content, inner, rfl, quiet⟩
      simpa using thought
  · rintro (⟨content, isText⟩ | ⟨isThinking, thought, before, time, content, between, rfl, silent⟩)
    · obtain ⟨time, _⟩ := printing
      cases isText
      exact ⟨printed, time, content, [], rfl, trivial⟩
    · refine ⟨before, time, content, between ++ [printing], by simp, ?_⟩
      exact (isSilent_concat _ _ _).mpr ⟨silent, isThinking, by simpa using thought⟩

/-! ## How a transcript is laid out -/

/-- The line that a contribution shows after what was printed before. -/
def shownLine? (before : List Printing) : Contribution → Option String
  | .note line => some line
  | .thinking => if HasThought before then none else some "thinking..."
  | .text _ => none
  | .turnEnd => none

theorem shownLine?_thinking {before : List Printing} (fresh : ¬ HasThought before) :
    shownLine? before .thinking = some "thinking..." := by
  rw [shownLine?, if_neg fresh]

/-- The text is empty or ends with the end of a line. -/
def StartsLine (text : List Char) : Prop :=
  text = [] ∨ text.getLast? = some '\n'

/-- The end of a line where a text was printed last, and nothing otherwise. -/
def IsSeparator (before : List Printing) (separator : List Char) : Prop :=
  (EndsInText before ∧ separator = ['\n']) ∨ (¬ EndsInText before ∧ separator = [])

/-- How often thinking makes a difference to what is written. -/
def timesShown (written : List Printing → List Char) (before : List Printing) :
    List Printing → Nat
  | [] => 0
  | printing :: rest =>
      (if printing.contribution = .thinking ∧ written (before ++ [printing]) ≠ written before
        then 1 else 0) + timesShown written (before ++ [printing]) rest

/-- What is written is laid out in lines: texts run on, everything else stands on lines of its
own. -/
structure IsLaidOut (written : List Printing → List Char) : Prop where
  blank : written [] = []
  /-- What was written stays, so texts keep their order. -/
  grows : ∀ before after, written before <+: written (before ++ after)
  /-- A text is written as it is. -/
  text : ∀ before time content,
    written (before ++ [⟨time, .text content⟩]) = written before ++ content.toList
  /-- Texts run on where nothing is shown between them. -/
  contiguous : ∀ before firstTime first between secondTime second,
    IsSilent (before ++ [⟨firstTime, .text first⟩]) between →
      written (before ++ ⟨firstTime, .text first⟩ :: between ++ [⟨secondTime, .text second⟩]) =
        written before ++ first.toList ++ second.toList
  /-- An annotation starts a line, and ends it. -/
  line : ∀ before time contribution line, shownLine? before contribution = some line →
    ∃ separator, IsSeparator before separator ∧ StartsLine (written before ++ separator) ∧
      written (before ++ [⟨time, contribution⟩]) =
        written before ++ separator ++ ("[" ++ time ++ "] " ++ line ++ "\n").toList
  /-- The end of a turn ends the line of a text. -/
  turnEnd : ∀ before time, ∃ separator, IsSeparator before separator ∧
    StartsLine (written before ++ separator) ∧
      written (before ++ [⟨time, .turnEnd⟩]) = written before ++ separator
  /-- Thinking is not shown again in its turn. -/
  suppressed : ∀ before time, HasThought before →
    written (before ++ [⟨time, .thinking⟩]) = written before
  /-- Thinking is shown once in a turn in which there is any. -/
  shownOnce : ∀ before turn, StartsTurn before →
    (∀ printing ∈ turn, printing.contribution ≠ .turnEnd) →
      timesShown written before turn =
        if ∃ printing ∈ turn, printing.contribution = .thinking then 1 else 0

/-! ## What the cursor knows -/

theorem pageOf_concat (printed : List Printing) (printing : Printing) :
    pageOf (printed ++ [printing]) = (pageOf printed).print printing := by
  rw [pageOf, List.foldl_concat]
  rfl

/-- The flags of the cursor say what was printed, and a line that is not open was ended. -/
structure Page.Reflects (page : Page) (printed : List Printing) : Prop where
  isMidLine : page.cursor.isMidLine = true ↔ EndsInText printed
  hasShownThinking : page.cursor.hasShownThinking = true ↔ HasThought printed
  startsLine : page.cursor.isMidLine = false → StartsLine page.text

theorem startsLine_concat (text : List Char) : StartsLine (text ++ ['\n']) :=
  Or.inr (by simp)

section Reflected

variable {page : Page} {printed : List Printing}

/-- Closing the line writes the separator, after which a line starts. -/
theorem Page.Reflects.closeLine (reflects : page.Reflects printed) (time : String) :
    IsSeparator printed (Page.ink time page.cursor.closeLine) ∧
      StartsLine (page.text ++ Page.ink time page.cursor.closeLine) := by
  cases isOpen : page.cursor.isMidLine with
  | true =>
      have newline : Page.ink time page.cursor.closeLine = ['\n'] := by
        simp [Page.ink, Cursor.closeLine, isOpen, Piece.render]
      rw [newline]
      exact ⟨Or.inl ⟨reflects.isMidLine.mp isOpen, rfl⟩, startsLine_concat _⟩
  | false =>
      have nothing : Page.ink time page.cursor.closeLine = [] := by
        simp [Page.ink, Cursor.closeLine, isOpen]
      rw [nothing, List.append_nil]
      refine ⟨Or.inr ⟨fun ends => ?_, rfl⟩, reflects.startsLine isOpen⟩
      rw [reflects.isMidLine.mpr ends] at isOpen
      exact Bool.noConfusion isOpen

/-- An annotation is a note after the line was closed. -/
theorem Page.Reflects.print_shown (reflects : page.Reflects printed)
    {contribution : Contribution} {line : String}
    (shown : shownLine? printed contribution = some line) :
    page.cursor.print contribution =
      (⟨false, page.cursor.hasShownThinking || contribution = .thinking⟩,
        page.cursor.closeLine ++ [.note line]) := by
  cases contribution with
  | text content => cases shown
  | turnEnd => cases shown
  | note text =>
      cases shown
      simp [Cursor.print, Cursor.note]
  | thinking =>
      by_cases thought : HasThought printed
      · simp [shownLine?, thought] at shown
      · obtain rfl : "thinking..." = line := by
          simpa [shownLine?_thinking thought] using shown
        have unseen : ¬ page.cursor.hasShownThinking = true :=
          fun seen => thought (reflects.hasShownThinking.mp seen)
        simp [Cursor.print, Cursor.note, Cursor.closeLine, unseen]

theorem Page.Reflects.text_print_shown (reflects : page.Reflects printed) (time : String)
    {contribution : Contribution} {line : String}
    (shown : shownLine? printed contribution = some line) :
    (page.print ⟨time, contribution⟩).text =
      page.text ++ Page.ink time page.cursor.closeLine ++
        ("[" ++ time ++ "] " ++ line ++ "\n").toList := by
  simp [Page.print, reflects.print_shown shown, Page.ink, Piece.render]

/-- Thinking that was shown in its turn leaves the page as it is. -/
theorem Page.Reflects.print_suppressed (reflects : page.Reflects printed) (time : String)
    (thought : HasThought printed) : page.print ⟨time, .thinking⟩ = page := by
  have seen : page.cursor.hasShownThinking = true := reflects.hasShownThinking.mpr thought
  simp [Page.print, Cursor.print, Page.ink, seen]

theorem Page.Reflects.print_of_shown (reflects : page.Reflects printed) (time : String)
    {contribution : Contribution} {line : String}
    (shown : shownLine? printed contribution = some line) :
    (page.print ⟨time, contribution⟩).Reflects (printed ++ [⟨time, contribution⟩]) := by
  have cursor : (page.print ⟨time, contribution⟩).cursor =
      ⟨false, page.cursor.hasShownThinking || contribution = .thinking⟩ := by
    simp [Page.print, reflects.print_shown shown]
  refine ⟨?_, ?_, fun _ => ?_⟩
  · rw [cursor, endsInText_concat]
    cases contribution <;> simp_all [shownLine?]
  · rw [cursor, hasThought_concat, ← reflects.hasShownThinking]
    cases contribution <;> simp_all [shownLine?]
  · rw [reflects.text_print_shown time shown, String.toList_append, ← List.append_assoc]
    exact startsLine_concat _

/-- The step: the flags go on saying what was printed. -/
theorem Page.Reflects.print (reflects : page.Reflects printed) (printing : Printing) :
    (page.print printing).Reflects (printed ++ [printing]) := by
  obtain ⟨time, contribution⟩ := printing
  cases contribution with
  | text content =>
      refine ⟨iff_of_true rfl ?_, ?_, fun closed => Bool.noConfusion closed⟩
      · exact (endsInText_concat _ _).mpr (Or.inl ⟨content, rfl⟩)
      · rw [hasThought_concat, ← reflects.hasShownThinking]
        simp [Page.print, Cursor.print]
  | turnEnd =>
      refine ⟨iff_of_false Bool.false_ne_true ?_, iff_of_false Bool.false_ne_true ?_, fun _ => ?_⟩
      · simp [endsInText_concat]
      · simp [hasThought_concat]
      · exact (reflects.closeLine time).2
  | note text => exact reflects.print_of_shown time rfl
  | thinking =>
      by_cases thought : HasThought printed
      · rw [reflects.print_suppressed time thought]
        refine ⟨?_, ?_, reflects.startsLine⟩
        · rw [reflects.isMidLine, endsInText_concat]
          simp [thought]
        · rw [reflects.hasShownThinking, hasThought_concat]
          simp [thought]
      · exact reflects.print_of_shown time (shownLine?_thinking thought)

end Reflected

/-- The cursor of a page reflects what was printed on it. -/
theorem reflects_pageOf (printed : List Printing) : (pageOf printed).Reflects printed := by
  -- The flags are about what was printed last, so the list is taken apart at its end.
  induction printed using List.reverseRecOn with
  | nil =>
      refine ⟨iff_of_false Bool.false_ne_true not_endsInText_nil, ?_, fun _ => Or.inl rfl⟩
      exact iff_of_false Bool.false_ne_true (not_hasThought_of_startsTurn (Or.inl rfl))
  | append_singleton printed printing inductionHypothesis =>
      rw [pageOf_concat]
      exact inductionHypothesis.print printing

/-! ## What is written -/

theorem transcript_concat (printed : List Printing) (printing : Printing) :
    transcript (printed ++ [printing]) = ((pageOf printed).print printing).text := by
  rw [transcript, pageOf_concat]

theorem transcript_text (before : List Printing) (time content : String) :
    transcript (before ++ [⟨time, .text content⟩]) = transcript before ++ content.toList := by
  rw [transcript_concat]
  simp [Page.print, Cursor.print, Page.ink, Piece.render, transcript]

theorem transcript_suppressed {before : List Printing} (time : String)
    (thought : HasThought before) :
    transcript (before ++ [⟨time, .thinking⟩]) = transcript before := by
  rw [transcript_concat, (reflects_pageOf before).print_suppressed time thought, transcript]

theorem transcript_append_silent (before between : List Printing)
    (silent : IsSilent before between) :
    transcript (before ++ between) = transcript before := by
  induction between generalizing before with
  | nil => rw [List.append_nil]
  | cons printing rest inductionHypothesis =>
      obtain ⟨time, contribution⟩ := printing
      obtain ⟨rfl, thought, quiet⟩ := silent
      rw [List.append_cons, inductionHypothesis _ quiet, transcript_suppressed time thought]

/-- What a printing adds, it adds at the end. -/
theorem transcript_isPrefix (before after : List Printing) :
    transcript before <+: transcript (before ++ after) := by
  induction after using List.reverseRecOn with
  | nil => simp
  | append_singleton after printing inductionHypothesis =>
      rw [← List.append_assoc, transcript_concat]
      exact inductionHypothesis.trans (List.prefix_append _ _)

/-- Thinking makes a difference just where the assistant has not thought in the turn. -/
theorem transcript_thinking_ne_iff (before : List Printing) (time : String) :
    transcript (before ++ [⟨time, .thinking⟩]) ≠ transcript before ↔ ¬ HasThought before := by
  constructor
  · intro differs thought
    exact differs (transcript_suppressed time thought)
  · intro fresh same
    rw [transcript_concat,
      (reflects_pageOf before).text_print_shown time (shownLine?_thinking fresh)] at same
    simpa [transcript] using congrArg List.length same

theorem timesShown_transcript (before turn : List Printing)
    (goesOn : ∀ printing ∈ turn, printing.contribution ≠ .turnEnd) :
    timesShown transcript before turn =
      if ¬ HasThought before ∧ ∃ printing ∈ turn, printing.contribution = .thinking
        then 1 else 0 := by
  induction turn generalizing before with
  | nil => simp [timesShown]
  | cons printing rest inductionHypothesis =>
      obtain ⟨time, contribution⟩ := printing
      rw [List.forall_mem_cons] at goesOn
      rw [timesShown, inductionHypothesis _ goesOn.2]
      simp only [hasThought_concat]
      by_cases isThinking : contribution = .thinking
      · subst isThinking
        simp only [transcript_thinking_ne_iff]
        by_cases thought : HasThought before <;> simp [thought]
      · have continues : contribution ≠ .turnEnd := goesOn.1
        simp [isThinking, continues]

/-! ## What a session writes -/

/-- The page is what was written, and then what the session has to write at the time of day. -/
structure Page.Continues (page : Page) (written : List Char) (time : String) (session : Session) :
    Prop where
  cursor : page.cursor = session.cursor
  text : page.text = written ++ Page.ink time session.pieces

theorem Page.Continues.print {page : Page} {written : List Char} {time : String}
    {session : Session} (continues : page.Continues written time session)
    (contribution : Contribution) :
    (page.print ⟨time, contribution⟩).Continues written time (session.print contribution) := by
  refine ⟨?_, ?_⟩
  · simp only [Page.print, Session.print, continues.cursor]
  · simp only [Page.print, Session.print, continues.cursor, continues.text, Page.ink,
      List.flatMap_append, List.append_assoc]

/-- A session that has written everything writes the transcript of what it prints next, and keeps
the cursor of the page for the time after. -/
theorem continues_foldl_print {session : Session} {printed : List Printing}
    (goesOn : (pageOf printed).cursor = session.cursor) (nothing : session.pieces = [])
    (time : String) (contributions : List Contribution) :
    (pageOf (printed ++ contributions.map (⟨time, ·⟩))).Continues (transcript printed) time
      (contributions.foldl (fun session contribution => session.print contribution) session) := by
  induction contributions using List.reverseRecOn with
  | nil => exact ⟨by simpa using goesOn, by simp [nothing, Page.ink, transcript]⟩
  | append_singleton contributions contribution inductionHypothesis =>
      rw [List.foldl_concat, List.map_append, ← List.append_assoc, List.map_singleton,
        pageOf_concat]
      exact inductionHypothesis.print contribution

/-! ## The layout -/

theorem transcript_isLaidOut : IsLaidOut transcript where
  blank := rfl
  grows := transcript_isPrefix
  text := transcript_text
  contiguous before firstTime first between secondTime second silent := by
    rw [transcript_text, List.append_cons, transcript_append_silent _ _ silent, transcript_text]
  line before time contribution line shown := by
    have reflects := reflects_pageOf before
    obtain ⟨separates, starts⟩ := reflects.closeLine time
    refine ⟨_, separates, starts, ?_⟩
    rw [transcript_concat, reflects.text_print_shown time shown, transcript]
  turnEnd before time := by
    obtain ⟨separates, starts⟩ := (reflects_pageOf before).closeLine time
    refine ⟨_, separates, starts, ?_⟩
    rw [transcript_concat]
    rfl
  suppressed _ time thought := transcript_suppressed time thought
  shownOnce before turn starts goesOn := by
    rw [timesShown_transcript before turn goesOn]
    simp only [not_hasThought_of_startsTurn starts, not_false_eq_true, true_and]

/-- Thinking is shown between two texts, and not again after the second. -/
example :
    transcript [⟨"12:00:01", .text "Hel"⟩, ⟨"12:00:02", .thinking⟩, ⟨"12:00:03", .text "lo"⟩,
        ⟨"12:00:04", .thinking⟩, ⟨"12:00:05", .turnEnd⟩, ⟨"12:00:06", .note "connected"⟩] =
      "Hel\n[12:00:02] thinking...\nlo\n[12:00:06] connected\n".toList := by
  decide

end Parley.Terminal
