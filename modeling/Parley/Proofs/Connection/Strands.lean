import Parley.Connection.Strands

/-!
# The moves of strands

What each move does and when it is possible, as one relation that later proofs go through case by
case, and runs put together from others.
-/

namespace Parley.Connection

namespace Strands

theorem read_reading (settings : Settings.Client) (deadline : Nat) (incoming : Incoming)
    (strands : Strands) :
    (strands.read settings deadline incoming).reading =
      .ofWatch (Watch.receive settings strands.now incoming (.listening deadline)).1 := rfl

/-- The move leads from one state of the strands to the next. -/
inductive Passes (settings : Settings.Client) (strands : Strands) : Move → Strands → Prop
  | queue (frame : Frame) (accepts : strands.accepts = true) :
      Passes settings strands (.queue frame)
        { strands with
          waiting := strands.waiting ++ [frame]
          accepted := strands.accepted ++ [frame] }
  | lose (frame : Frame) (refuses : strands.accepts = false) :
      Passes settings strands (.queue frame) strands
  | cancel : Passes settings strands .cancel { strands with cancelled := true }
  | ignore : Passes settings strands .ignore { strands with isHeeded := false }
  | wait (milliseconds : Nat) :
      Passes settings strands (.wait milliseconds)
        { strands with now := strands.now + milliseconds }
  | arrive (incoming : Incoming) :
      Passes settings strands (.arrive incoming)
        { strands with inbox := strands.inbox ++ [incoming] }
  | accept (dials : strands.reading = .dialing) (heeded : strands.isHeeded = true) :
      Passes settings strands .accept
        (say [.opened] { strands with
          reading := .ofWatch (.start strands.now settings.idleSeconds)
          pen := .choosing })
  | desert (dials : strands.reading = .dialing) (unheeded : strands.isHeeded = false) :
      Passes settings strands .accept { strands with reading := .gone }
  | refuse (cause : String) (dials : strands.reading = .dialing) :
      Passes settings strands (.refuse cause)
        (say [.failed cause]
          { strands with reading := .joining (some (.abnormal cause)) })
  | hangUp (dials : strands.reading = .dialing) (cancelled : strands.cancelled = true) :
      Passes settings strands .noticeCancel { strands with reading := .gone }
  | leave {deadline : Nat} (listens : strands.reading = .listening deadline)
      (cancelled : strands.cancelled = true) :
      Passes settings strands .noticeCancel { strands with reading := .leaving none }
  | fail {deadline : Nat} (listens : strands.reading = .listening deadline)
      (signalled : strands.signalled = true) :
      Passes settings strands .noticeFailure
        { strands with reading := .leaving (some (.abnormal "write failed")) }
  | tire {deadline : Nat} (listens : strands.reading = .listening deadline)
      (silent : deadline ≤ strands.now) :
      Passes settings strands .noticeSilence
        { strands with reading := .leaving (some (.abnormal "idle timeout")) }
  | read {deadline : Nat} {incoming : Incoming} {rest : List Incoming}
      (listens : strands.reading = .listening deadline)
      (came : strands.inbox = incoming :: rest) :
      Passes settings strands .read
        (Strands.read settings deadline incoming { strands with inbox := rest })
  | wind {outcome : Option Ending} (leaves : strands.reading = .leaving outcome) :
      Passes settings strands .wind
        { strands with reading := .joining outcome, cancelled := true }
  | conclude {outcome : Option Ending} (joins : strands.reading = .joining outcome)
      (down : strands.pen.isDown = true) :
      Passes settings strands .conclude
        (say (endReports outcome) { strands with reading := .gone })
  | take {frame : Frame} {rest : List Frame} (chooses : strands.pen = .choosing)
      (waits : strands.waiting = frame :: rest) :
      Passes settings strands .take { strands with pen := .writing frame, waiting := rest }
  | part (chooses : strands.pen = .choosing) (idle : strands.waiting = [])
      (cancelled : strands.cancelled = true) :
      Passes settings strands .part { strands with pen := .parting }
  | writeText {content : String} (writes : strands.pen = .writing (.text content)) :
      Passes settings strands .written
        { strands with pen := .choosing, written := strands.written ++ [.text content] }
  | writeClose {code : Nat} {reason : String}
      (writes : strands.pen = .writing (.close code reason)) :
      Passes settings strands .written
        { strands with
          pen := .closed
          written := strands.written ++ [.close (some (code, reason))] }
  | writeLast (parts : strands.pen = .parting) :
      Passes settings strands .written
        { strands with pen := .closed, written := strands.written ++ [.close none] }
  | breakFrame {frame : Frame} (writes : strands.pen = .writing frame) :
      Passes settings strands .broken { strands with pen := .broken, signalled := true }
  | breakLast (parts : strands.pen = .parting) :
      Passes settings strands .broken { strands with pen := .broken }

/-- Every step is one of the moves of the relation. -/
theorem passes_of_step {settings : Settings.Client} {strands next : Strands} {move : Move}
    (step : strands.step settings move = some next) : Passes settings strands move next := by
  cases move with
  | queue frame =>
      simp only [Strands.step, Strands.queue] at step
      split at step
      next accepts =>
        cases step
        exact .queue frame accepts
      next refuses =>
        cases step
        exact .lose frame (Bool.eq_false_iff.mpr refuses)
  | cancel =>
      cases step
      exact .cancel
  | ignore =>
      cases step
      exact .ignore
  | wait milliseconds =>
      cases step
      exact .wait milliseconds
  | accept =>
      simp only [Strands.step] at step
      split at step
      next dials =>
        split at step
        next heeded =>
          cases step
          exact .accept dials heeded
        next unheeded =>
          cases step
          exact .desert dials (Bool.eq_false_iff.mpr unheeded)
      · cases step
  | refuse cause =>
      simp only [Strands.step] at step
      split at step
      next dials =>
        cases step
        exact .refuse cause dials
      · cases step
  | arrive incoming =>
      cases step
      exact .arrive incoming
  | written =>
      simp only [Strands.step] at step
      split at step
      next writes =>
        cases step
        exact .writeText writes
      next writes =>
        cases step
        exact .writeClose writes
      next parts =>
        cases step
        exact .writeLast parts
      · cases step
  | broken =>
      simp only [Strands.step] at step
      split at step
      next writes =>
        cases step
        exact .breakFrame writes
      next parts =>
        cases step
        exact .breakLast parts
      · cases step
  | noticeCancel =>
      simp only [Strands.step] at step
      split at step
      next cancelled =>
        split at step
        next dials =>
          cases step
          exact .hangUp dials cancelled
        next listens =>
          cases step
          exact .leave listens cancelled
        · cases step
      · cases step
  | noticeFailure =>
      simp only [Strands.step] at step
      split at step
      next listens =>
        split at step
        next signalled =>
          cases step
          exact .fail listens signalled
        · cases step
      · cases step
  | noticeSilence =>
      simp only [Strands.step, Watch.expire] at step
      split at step
      next listens =>
        split at step
        next expires =>
          split at expires
          next silent =>
            cases expires
            cases step
            exact .tire listens silent
          · cases expires
        · cases step
      · cases step
  | read =>
      simp only [Strands.step] at step
      split at step
      next listens came =>
        cases step
        exact .read listens came
      · cases step
  | wind =>
      simp only [Strands.step] at step
      split at step
      next leaves =>
        cases step
        exact .wind leaves
      · cases step
  | conclude =>
      simp only [Strands.step] at step
      split at step
      next joins =>
        split at step
        next down =>
          cases step
          exact .conclude joins down
        · cases step
      · cases step
  | take =>
      simp only [Strands.step] at step
      split at step
      next chooses waits =>
        cases step
        exact .take chooses waits
      · cases step
  | part =>
      simp only [Strands.step] at step
      split at step
      next chooses idle =>
        split at step
        next cancelled =>
          cases step
          exact .part chooses idle cancelled
        · cases step
      · cases step

/-! ## Runs -/

variable {settings : Settings.Client}

theorem run_append {strands : Strands} (before after : List Move) :
    strands.run settings (before ++ after) =
      (strands.run settings before).bind fun next => next.run settings after := by
  induction before generalizing strands with
  | nil => rfl
  | cons move rest inductionHypothesis =>
      simp only [List.cons_append, run, Option.bind_assoc, inductionHypothesis]

/-- What every move of a kind keeps, every run of such moves keeps. -/
theorem run_keeps (Kept : Strands → Prop) {Allowed : Move → Prop} {strands last : Strands}
    {moves : List Move}
    (keeps : ∀ strands move next, Allowed move → Passes settings strands move next →
      Kept strands → Kept next)
    (allowed : ∀ move ∈ moves, Allowed move) (kept : Kept strands)
    (run : strands.run settings moves = some last) : Kept last := by
  induction moves generalizing strands with
  | nil =>
      cases run
      exact kept
  | cons move rest inductionHypothesis =>
      obtain ⟨next, step, run⟩ := Option.bind_eq_some_iff.mp run
      obtain ⟨first, others⟩ := List.forall_mem_cons.mp allowed
      exact inductionHypothesis others (keeps _ _ _ first (passes_of_step step) kept) run

theorem serial_eq_of_run {strands last : Strands} {moves : List Move}
    (run : strands.run settings moves = some last) : last.serial = strands.serial := by
  refine run_keeps (fun later => later.serial = strands.serial) ?_ (fun _ _ => trivial) rfl run
  intro earlier move next _ passes same
  exact Eq.trans (by cases passes <;> rfl) same

end Strands

end Parley.Connection
