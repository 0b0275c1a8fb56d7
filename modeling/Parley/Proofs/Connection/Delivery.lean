import Parley.Proofs.Connection.Fates
import Parley.Proofs.Connection.Renaming

/-!
# Delivery

Every payload that is to be sent meets its fate in the order in which it was to be sent, whatever
connections come and go. The main statement numbers the payloads of a run and says so of the
numbers: what was handed over and what waits is in order, and all else was evicted or discarded. All
that it takes is that a channel which does not take a payload takes none later.
-/

namespace Parley.Connection

variable {Payload Name : Type}

namespace Controller

/-! ## Channels that stay closed -/

/-- The channel of a connection takes nothing, as long as the connection is held. -/
def StaysShut (setup : Setup) (serial : Nat) :
    List (Turn Payload) → Controller Payload → Prop
  | [], _ => True
  | turn :: rest, controller =>
      ((∃ link, controller.link = some link ∧ link.serial = serial) →
          ∀ place, turn.around.accepts place = false) ∧
        StaysShut setup serial rest (controller.take setup turn)

/-- The channel of a connection that once does not take a payload takes none later. -/
def ClosesForGood (setup : Setup) : List (Turn Payload) → Controller Payload → Prop
  | [], _ => True
  | turn :: rest, controller =>
      (∀ link place, controller.link = some link → turn.around.accepts place = false →
          StaysShut setup link.serial rest (controller.take setup turn)) ∧
        ClosesForGood setup rest (controller.take setup turn)

/-! ## Whole runs -/

/-- What a run needs to keep payloads in order: the backlog is within its bounds, and payloads only
wait under an open connection whose channel has closed. -/
structure InOrder (setup : Setup) (rest : List (Turn Payload)) (controller : Controller Payload) :
    Prop where
  fits : controller.backlog.items.length ≤ controller.backlog.capacity
  hasRoom : 0 < controller.backlog.capacity
  closes : ClosesForGood setup rest controller
  shut :
    ∀ link, controller.link = some link → link.isOpen = true → controller.backlog.items ≠ [] →
      StaysShut setup link.serial rest controller

namespace InOrder

variable {setup : Setup} {turn : Turn Payload} {rest : List (Turn Payload)}
  {controller : Controller Payload}

theorem deals (inOrder : InOrder setup (turn :: rest) controller) :
    Deals turn controller (controller.take setup turn) :=
  deals_take setup turn inOrder.fits

/-- No payload overtakes those that wait. -/
theorem conserves (inOrder : InOrder setup (turn :: rest) controller) :
    (fatesOf (controller.take setup turn).outbox).map (·.1) ++
        (controller.take setup turn).backlog.items =
      controller.backlog.items ++ turn.payloads := by
  refine inOrder.deals.conserves fun isOpen accepted => ?_
  obtain ⟨link, held, linkOpen⟩ : ∃ link, controller.link = some link ∧ link.isOpen = true := by
    simpa [Controller.isOpen, Option.any_eq_true] using isOpen
  by_cases empty : controller.backlog.items = []
  · exact empty
  · -- A payload waits under an open connection, so its channel has closed and cannot accept.
    have refused := (inOrder.shut link held linkOpen empty).1 ⟨link, held, rfl⟩ 0
    rw [accepted] at refused
    cases refused

theorem take (inOrder : InOrder setup (turn :: rest) controller) :
    InOrder setup rest (controller.take setup turn) where
  fits := inOrder.deals.fits inOrder.fits inOrder.hasRoom
  hasRoom := by
    rw [inOrder.deals.capacity_eq]
    exact inOrder.hasRoom
  closes := inOrder.closes.2
  shut link held isOpen waits := by
    obtain ⟨heldBefore, wasHeld, sameSerial, ⟨wasOpen, waited⟩ | ⟨place, refused⟩⟩ :=
      inOrder.deals.waits_open held isOpen waits
    · rw [← sameSerial]
      exact (inOrder.shut heldBefore wasHeld wasOpen waited).2
    · rw [← sameSerial]
      exact inOrder.closes.1 heldBefore place wasHeld refused

/-- All that was to be sent has met its fate or waits, in the order in which it was to be sent. -/
theorem conserves_run
    {turns : List (Turn Payload)} {controller : Controller Payload}
    (inOrder : InOrder setup turns controller) :
    (fatesOf (effects setup turns controller)).map (·.1) ++
        (after setup turns controller).backlog.items =
      controller.backlog.items ++ sentIn turns := by
  induction turns generalizing controller with
  | nil =>
      simp [effects, after, sentIn]
  | cons turn rest inductionHypothesis =>
      rw [effects, after, fatesOf_append, List.map_append, List.append_assoc,
        inductionHypothesis inOrder.take, ← List.append_assoc, inOrder.conserves,
        List.append_assoc]
      rfl

theorem later
    {first second : List (Turn Payload)} {controller : Controller Payload}
    (inOrder : InOrder setup (first ++ second) controller) :
    InOrder setup second (after setup first controller) := by
  induction first generalizing controller with
  | nil =>
      exact inOrder
  | cons turn rest inductionHypothesis =>
      exact inductionHypothesis inOrder.take

end InOrder

/-! ## Numbers -/

/-- The run with the payloads that it asks to send numbered from a number on. -/
def enumerate : Nat → List (Turn Payload) → List (Turn (Payload × Nat))
  | _, [] => []
  | number, turn :: rest =>
      turn.map (·, number) :: enumerate (number + turn.payloads.length) rest

theorem map_fst_enumerate (number : Nat) (turns : List (Turn Payload)) :
    (enumerate number turns).map (Turn.map Prod.fst) = turns := by
  induction turns generalizing number with
  | nil =>
      rfl
  | cons turn rest inductionHypothesis =>
      have unnumbered : (turn.map (·, number)).map Prod.fst = turn := by
        obtain ⟨around, stimulus⟩ := turn
        cases stimulus with
        | command order =>
            cases order <;> rfl
        | report serial report =>
            rfl
        | timer timer =>
            rfl
      rw [enumerate, List.map_cons, unnumbered, inductionHypothesis]

theorem sentIn_enumerate (number : Nat) (turns : List (Turn Payload)) :
    sentIn (enumerate number turns) = (sentIn turns).zipIdx number := by
  induction turns generalizing number with
  | nil =>
      rfl
  | cons turn rest inductionHypothesis =>
      have numberedPayloads :
          (turn.map (·, number)).payloads = turn.payloads.zipIdx number := by
        obtain ⟨around, stimulus⟩ := turn
        cases stimulus with
        | command order =>
            cases order <;> rfl
        | report serial report =>
            rfl
        | timer timer =>
            rfl
      have later := inductionHypothesis (number + turn.payloads.length)
      simp only [sentIn] at later ⊢
      rw [enumerate, List.flatMap_cons, List.flatMap_cons, numberedPayloads, later,
        List.zipIdx_append]

theorem zipIdx_increases (number : Nat) (payloads : List Payload) :
    (payloads.zipIdx number).Pairwise (·.2 < ·.2) := by
  have indices := List.pairwise_lt_range' (s := number) (n := payloads.length)
  rw [← List.zipIdx_map_snd, List.pairwise_map] at indices
  exact indices

theorem staysShut_map
    (rename : Payload → Name) (setup : Setup) (serial : Nat) (turns : List (Turn Payload))
    (controller : Controller Payload) :
    StaysShut setup serial (turns.map (Turn.map rename)) (controller.map rename) ↔
      StaysShut setup serial turns controller := by
  induction turns generalizing controller with
  | nil =>
      rfl
  | cons turn rest inductionHypothesis =>
      rw [List.map_cons, StaysShut, StaysShut, ← map_take, inductionHypothesis]
      rfl

theorem closesForGood_map
    (rename : Payload → Name) (setup : Setup) (turns : List (Turn Payload))
    (controller : Controller Payload) :
    ClosesForGood setup (turns.map (Turn.map rename)) (controller.map rename) ↔
      ClosesForGood setup turns controller := by
  induction turns generalizing controller with
  | nil =>
      rfl
  | cons turn rest inductionHypothesis =>
      rw [List.map_cons, ClosesForGood, ClosesForGood, ← map_take, inductionHypothesis]
      simp only [staysShut_map]
      rfl

/-- The controller after a run whose payloads are numbered. -/
def numbered (setup : Setup) (turns : List (Turn Payload)) : Controller (Payload × Nat) :=
  after setup (enumerate 0 turns) (.initial setup)

def numberedEffects (setup : Setup) (turns : List (Turn Payload)) :
    List (Effect (Payload × Nat)) :=
  effects setup (enumerate 0 turns) (.initial setup)

/-- All payloads that a run asks to send are accounted for by their numbers. -/
structure Accounts (setup : Setup) (turns : List (Turn Payload)) : Prop where
  /-- Without the numbers the controller is the one after the run itself. -/
  controller_fst :
    (numbered setup turns).map Prod.fst = after setup turns (.initial setup)
  /-- Without the numbers the effects are those of the run itself. -/
  effects_fst :
    (numberedEffects setup turns).map (Effect.map Prod.fst) =
      effects setup turns (.initial setup)
  /-- The numbers of what was handed over, in that order, and then of what waits go up. -/
  increasing :
    (met .handedOver (numberedEffects setup turns) ++
      (numbered setup turns).backlog.items).Pairwise (·.2 < ·.2)
  /-- What is missing there was evicted or discarded. -/
  missing :
    ∀ payload ∈ (sentIn turns).zipIdx,
      payload ∉ met .handedOver (numberedEffects setup turns) ++
        (numbered setup turns).backlog.items →
      payload ∈ met .evicted (numberedEffects setup turns) ∨
        payload ∈ met .discarded (numberedEffects setup turns)
  /-- Payloads meet one fate each, in order, and wait for it in order. -/
  conserved :
    (fatesOf (numberedEffects setup turns)).map (·.1) ++ (numbered setup turns).backlog.items =
      (sentIn turns).zipIdx
  /-- Only a full backlog evicts, and only its oldest payload, for a newer one. -/
  evicts_oldest :
    ∀ before turn rest, enumerate 0 turns = before ++ turn :: rest →
      ∀ payload,
        (payload, .evicted) ∈
            fatesOf ((after setup before (.initial setup)).take setup turn).outbox →
          (∃ newest, turn.stimulus = .command (.send newest)) ∧
            (after setup before (.initial setup)).backlog.capacity ≤
              (after setup before (.initial setup)).backlog.items.length ∧
            (after setup before (.initial setup)).backlog.items.head? = some payload
  /-- Only a halt discards, and only what waits. -/
  discards_with_halt :
    ∀ before turn rest, enumerate 0 turns = before ++ turn :: rest →
      ∀ payload,
        (payload, .discarded) ∈
            fatesOf ((after setup before (.initial setup)).take setup turn).outbox →
          payload ∈ (after setup before (.initial setup)).backlog.items ∧
            ∃ why, turn.Halts why ∧
              ((after setup before (.initial setup)).take setup turn).phase = .halted why
  /-- A client that goes hands nothing over, and what waits goes on waiting. -/
  windDown_keeps :
    fatesOf (windDown { numbered setup turns with outbox := [] }).outbox = [] ∧
      (windDown { numbered setup turns with outbox := [] }).backlog =
        (numbered setup turns).backlog

theorem mem_met_iff (fate : Fate) (effects : List (Effect Payload)) (payload : Payload) :
    payload ∈ met fate effects ↔ (payload, fate) ∈ fatesOf effects := by
  simp [met]

section Numbered

variable {setup : Setup} {turns : List (Turn Payload)}

/-- To number payloads does not touch channels, so that the numbered run keeps order as well. -/
theorem numbered_inOrder (closes : ClosesForGood setup turns (.initial setup)) :
    InOrder setup (enumerate 0 turns) (.initial setup) where
  fits := Nat.zero_le _
  hasRoom := Nat.lt_of_lt_of_le Nat.zero_lt_one (Nat.le_max_right _ _)
  closes := by
    rw [← closesForGood_map Prod.fst, map_fst_enumerate]
    exact closes
  shut := by
    rintro link ⟨⟩

/-- What has become of payloads, and then what waits, is all that was sent, in order. -/
theorem numbered_conserves (closes : ClosesForGood setup turns (.initial setup)) :
    (fatesOf (numberedEffects setup turns)).map (·.1) ++ (numbered setup turns).backlog.items =
      (sentIn turns).zipIdx := by
  rw [← sentIn_enumerate]
  exact (numbered_inOrder closes).conserves_run

/-- What is handed over or waits is a part of all that was sent, in the same order. -/
theorem numbered_increases (closes : ClosesForGood setup turns (.initial setup)) :
    (met .handedOver (numberedEffects setup turns) ++
      (numbered setup turns).backlog.items).Pairwise (·.2 < ·.2) := by
  have part :
      (met .handedOver (numberedEffects setup turns) ++
        (numbered setup turns).backlog.items).Sublist (sentIn turns).zipIdx := by
    rw [← numbered_conserves closes]
    exact (List.filter_sublist.map _).append_right _
  exact (zipIdx_increases 0 (sentIn turns)).sublist part

/-- A payload that is neither handed over nor waits was evicted or discarded. -/
theorem numbered_missing
    (closes : ClosesForGood setup turns (.initial setup)) {payload : Payload × Nat}
    (sent : payload ∈ (sentIn turns).zipIdx)
    (missing : payload ∉ met .handedOver (numberedEffects setup turns) ++
      (numbered setup turns).backlog.items) :
    payload ∈ met .evicted (numberedEffects setup turns) ∨
      payload ∈ met .discarded (numberedEffects setup turns) := by
  rw [← numbered_conserves closes, List.mem_append] at sent
  rw [List.mem_append, not_or, mem_met_iff] at missing
  obtain ⟨notHandedOver, waitsNot⟩ := missing
  rcases sent with fated | waits
  · obtain ⟨⟨_, fate⟩, met, rfl⟩ := List.mem_map.mp fated
    cases fate with
    | handedOver =>
        exact absurd met notHandedOver
    | evicted =>
        exact Or.inl ((mem_met_iff _ _ _).mpr met)
    | discarded =>
        exact Or.inr ((mem_met_iff _ _ _).mpr met)
  · exact absurd waits waitsNot

theorem numbered_deals
    (closes : ClosesForGood setup turns (.initial setup))
    {before rest : List (Turn (Payload × Nat))} {turn : Turn (Payload × Nat)}
    (splits : enumerate 0 turns = before ++ turn :: rest) :
    Deals turn (after setup before (.initial setup))
      ((after setup before (.initial setup)).take setup turn) := by
  have inOrder := numbered_inOrder closes
  rw [splits] at inOrder
  exact inOrder.later.deals

end Numbered

/-- If no channel opens again once it has closed, payloads are handed over in the order in which
they were to be sent, none of them twice, and those that are neither handed over nor wait were the
oldest of a full backlog or were discarded with a halt. -/
theorem payloads_in_order
    (setup : Setup) (turns : List (Turn Payload))
    (closes : ClosesForGood setup turns (.initial setup)) :
    Accounts setup turns where
  controller_fst := by
    rw [numbered, map_after, map_fst_enumerate]
    rfl
  effects_fst := by
    rw [numberedEffects, map_effects, map_fst_enumerate]
    rfl
  increasing := numbered_increases closes
  missing _ := numbered_missing closes
  conserved := numbered_conserves closes
  evicts_oldest _ _ _ splits _ := (numbered_deals closes splits).evicts_oldest
  discards_with_halt _ _ _ splits _ := (numbered_deals closes splits).discards_with_halt
  windDown_keeps := by
    rw [windDown_eq]
    refine ⟨?_, rfl⟩
    cases isOpen { numbered setup turns with outbox := [] } <;> simp

/-- Two texts wait for a connection, whose channel closes between them in the flush. -/
def cutFlush : List (Turn String) :=
  [⟨.steady (some "key"), .command (.connect none)⟩,
    ⟨.steady (some "key"), .command (.send "first")⟩,
    ⟨.steady (some "key"), .command (.send "second")⟩,
    ⟨⟨0, fun _ => some "key", fun place => place < 1⟩, .report 1 .opened⟩,
    ⟨⟨0, fun _ => some "key", fun _ => false⟩, .report 1 (.closed 1006 "stream ended")⟩]

theorem closesForGood_cutFlush :
    ClosesForGood .standard cutFlush (.initial .standard) := by
  refine ⟨?_, ?_, ?_, ?_, ?_, trivial⟩
  · rintro link place held ⟨⟩
  · rintro link place held ⟨⟩
  · rintro link place held ⟨⟩
  · intro link place held refused
    exact ⟨fun _ _ => rfl, trivial⟩
  · intro link place held refused
    exact trivial

theorem payloads_in_order_of_cutFlush :
    ClosesForGood .standard cutFlush (.initial .standard) ∧ Accounts .standard cutFlush :=
  ⟨closesForGood_cutFlush, payloads_in_order .standard cutFlush closesForGood_cutFlush⟩

/-- The first text is handed over, and the second one waits for another connection. -/
example :
    met .handedOver (numberedEffects .standard cutFlush) = [("first", 0)] ∧
      (numbered .standard cutFlush).backlog.items = [("second", 1)] := by
  decide

end Controller

end Parley.Connection
