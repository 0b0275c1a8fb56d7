import Parley.Connection.Controller

/-!
# Runs of a controller

A run is any list of turns. In each turn the controller is told one thing, in surroundings of its
own: the clock, the answers of the token provider and the channel of the connection may be anything
in any turn. What every single turn keeps, a whole run keeps.
-/

namespace Parley.Connection

variable {Payload : Type}

/-- A stimulus, with what the controller sees of the world while it answers it. -/
structure Turn (Payload : Type) where
  around : Surroundings
  stimulus : Stimulus Payload

/-- A command, and not a report or a timer. -/
def Stimulus.isCommand : Stimulus Payload → Bool
  | .command _ => true
  | _ => false

/-- The standard settings, for a server on the same machine. -/
def Setup.standard : Setup where
  settings := .standard
  base := ⟨.plain, [], [], .ipv4 0x7f000001, none, [[]], none, none⟩

/-- Surroundings at the start of the clock, with a provider that gives one answer and a channel that
takes everything. -/
def Surroundings.steady (answer : Option String) : Surroundings :=
  ⟨0, fun _ => answer, fun _ => true⟩

namespace Controller

def take (setup : Setup) (turn : Turn Payload) (controller : Controller Payload) :
    Controller Payload :=
  controller.step setup turn.around turn.stimulus

def after (setup : Setup) : List (Turn Payload) → Controller Payload → Controller Payload
  | [], controller => controller
  | turn :: rest, controller => after setup rest (controller.take setup turn)

def effects (setup : Setup) :
    List (Turn Payload) → Controller Payload → List (Effect Payload)
  | [], _ => []
  | turn :: rest, controller =>
      (controller.take setup turn).outbox ++ effects setup rest (controller.take setup turn)

/-- A timer can only fire while it is armed; everything else can happen at any time. -/
def canTake (controller : Controller Payload) : Stimulus Payload → Bool
  | .timer timer => (controller.timers.due? timer).isSome
  | _ => true

/-- No timer of a run fires unless it is armed at that moment. -/
def isTimely (setup : Setup) : List (Turn Payload) → Controller Payload → Bool
  | [], _ => true
  | turn :: rest, controller =>
      controller.canTake turn.stimulus && isTimely setup rest (controller.take setup turn)

theorem after_append
    (setup : Setup) (first second : List (Turn Payload)) (controller : Controller Payload) :
    after setup (first ++ second) controller =
      after setup second (after setup first controller) := by
  induction first generalizing controller with
  | nil =>
      rfl
  | cons turn rest inductionHypothesis =>
      rw [List.cons_append, after, after, inductionHypothesis]

theorem effects_append
    (setup : Setup) (first second : List (Turn Payload)) (controller : Controller Payload) :
    effects setup (first ++ second) controller =
      effects setup first controller ++ effects setup second (after setup first controller) := by
  induction first generalizing controller with
  | nil =>
      rfl
  | cons turn rest inductionHypothesis =>
      rw [List.cons_append, effects, effects, after, inductionHypothesis, List.append_assoc]

theorem isTimely_append
    {setup : Setup} {first second : List (Turn Payload)} {controller : Controller Payload} :
    isTimely setup (first ++ second) controller = true ↔
      isTimely setup first controller = true ∧
        isTimely setup second (after setup first controller) = true := by
  induction first generalizing controller with
  | nil =>
      simp [isTimely, after]
  | cons turn rest inductionHypothesis =>
      simp only [List.cons_append, isTimely, after, Bool.and_eq_true, inductionHypothesis,
        and_assoc]

/-- What every timely turn keeps holds after every timely run, and what every timely turn does is
all that a timely run does. -/
theorem timely_run_keeps
    {setup : Setup} (Kept : Controller Payload → Prop) (Allowed : Effect Payload → Prop)
    (turnKeeps :
      ∀ (turn : Turn Payload) (controller : Controller Payload),
        Kept controller → controller.canTake turn.stimulus = true →
          Kept (controller.take setup turn) ∧
            ∀ effect ∈ (controller.take setup turn).outbox, Allowed effect)
    (turns : List (Turn Payload)) {controller : Controller Payload}
    (kept : Kept controller) (timely : isTimely setup turns controller = true) :
    Kept (after setup turns controller) ∧
      ∀ effect ∈ effects setup turns controller, Allowed effect := by
  induction turns generalizing controller with
  | nil =>
      exact ⟨kept, fun effect member => absurd member List.not_mem_nil⟩
  | cons turn rest inductionHypothesis =>
      obtain ⟨can, restTimely⟩ := Bool.and_eq_true_iff.mp timely
      obtain ⟨keptNext, allowedNow⟩ := turnKeeps turn controller kept can
      obtain ⟨keptLast, allowedLater⟩ := inductionHypothesis keptNext restTimely
      exact ⟨keptLast, List.forall_mem_append.mpr ⟨allowedNow, allowedLater⟩⟩

end Controller

end Parley.Connection
