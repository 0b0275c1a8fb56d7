import Parley.Wire.Arrival

/-!
# What a text from the server says

A text is read off the packet that it holds, without regard to the order in which the client looks
for a meaning. The main statements are that the client finds exactly these meanings.
-/

namespace Parley.Wire

/-- The text is a packet that asks for a sign of life. -/
def isHeartbeat (text : String) : Bool :=
  match Packet.parse text with
  | .ok packet => packet.kind = "ping"
  | .error _ => false

/-- The refusal of the token that a text holds. -/
def refusal? (text : String) : Option String :=
  match Packet.parse text with
  | .ok packet => packet.refusal?
  | .error _ => none

/-- The packet that a text holds, if it is neither a heartbeat nor a refusal. -/
def forwarded? (text : String) : Option Packet :=
  match Packet.parse text with
  | .ok packet => if packet.kind = "ping" ∨ packet.refusal?.isSome then none else some packet
  | .error _ => none

def announced? (text : String) : Option String :=
  match Packet.parse text with
  | .ok packet => packet.announced?
  | .error _ => none

theorem Packet.announced?_eq_some_iff {packet : Packet} {session : String} :
    packet.announced? = some session ↔
      (packet.kind = "session_created" ∨ packet.kind = "session_switched") ∧
        packet.session = some session ∧ session ≠ "" := by
  unfold announced?
  split
  next announces =>
    simp [announces, Option.filter_eq_some_iff]
  next silent =>
    simp [silent]

theorem Packet.refusal?_eq_some_iff {packet : Packet} {message : String} :
    packet.refusal? = some message ↔
      packet.kind = "Error" ∧ packet.text? "message" = some message ∧
        isRefusal message = true := by
  unfold refusal?
  split
  next isError =>
    simp [isError, Option.filter_eq_some_iff]
  next notError =>
    simp [notError]

/-- A heartbeat refuses nothing, so it does not matter which of the two is looked for first. -/
theorem Packet.refusal?_of_heartbeat {packet : Packet} (beats : packet.kind = "ping") :
    packet.refusal? = none := by
  rw [Option.eq_none_iff_forall_ne_some]
  intro message refuses
  have isError : packet.kind = "Error" := (Packet.refusal?_eq_some_iff.mp refuses).1
  rw [beats] at isError
  exact absurd isError (by decide)

/-- A packet that announces a session is for whoever listens. -/
theorem Packet.forwarded_of_announced
    {packet : Packet} {session : String} (announces : packet.announced? = some session) :
    packet.kind ≠ "ping" ∧ packet.refusal? = none := by
  obtain ⟨kind, _, _⟩ := Packet.announced?_eq_some_iff.mp announces
  constructor
  · intro beats
    rw [beats] at kind
    exact absurd kind (by decide)
  · rw [Option.eq_none_iff_forall_ne_some]
    intro message refuses
    have isError : packet.kind = "Error" := (Packet.refusal?_eq_some_iff.mp refuses).1
    rw [isError] at kind
    exact absurd kind (by decide)

/-! ## What the client makes of a text -/

variable {text : String}

/-- What the client takes a text for depends on its packet alone. -/
theorem Arrival.ofText_cases (text : String) :
    (∃ cause, Packet.parse text = .error cause ∧ Arrival.ofText text = .malformed cause) ∨
      ∃ packet, Packet.parse text = .ok packet ∧
        ((packet.kind = "ping" ∧ packet.refusal? = none ∧ Arrival.ofText text = .heartbeat) ∨
          (packet.kind ≠ "ping" ∧ ∃ message, packet.refusal? = some message ∧
            Arrival.ofText text = .refusal message) ∨
          (packet.kind ≠ "ping" ∧ packet.refusal? = none ∧
            Arrival.ofText text = .message packet)) := by
  unfold Arrival.ofText
  cases parsed : Packet.parse text with
  | error cause =>
      exact Or.inl ⟨cause, rfl, rfl⟩
  | ok packet =>
      refine Or.inr ⟨packet, rfl, ?_⟩
      by_cases beats : packet.kind = "ping"
      · exact Or.inl ⟨beats, Packet.refusal?_of_heartbeat beats, by simp [beats]⟩
      · cases refuses : packet.refusal? with
        | none =>
            exact Or.inr (Or.inr ⟨beats, rfl, by simp [beats, refuses]⟩)
        | some message =>
            exact Or.inr (Or.inl ⟨beats, message, rfl, by simp [beats, refuses]⟩)

theorem Arrival.ofText_eq_malformed_iff {cause : Packet.Defect} :
    Arrival.ofText text = .malformed cause ↔ Packet.parse text = .error cause := by
  rcases Arrival.ofText_cases text with
    ⟨other, parsed, is⟩ | ⟨packet, parsed, ⟨_, _, is⟩ | ⟨_, message, _, is⟩ | ⟨_, _, is⟩⟩
  · simp [parsed, is]
  · simp [parsed, is]
  · simp [parsed, is]
  · simp [parsed, is]

theorem Arrival.ofText_eq_heartbeat_iff :
    Arrival.ofText text = .heartbeat ↔ isHeartbeat text = true := by
  unfold isHeartbeat
  rcases Arrival.ofText_cases text with
    ⟨other, parsed, is⟩ | ⟨packet, parsed, ⟨beats, _, is⟩ | ⟨beats, _, _, is⟩ | ⟨beats, _, is⟩⟩
  · simp [parsed, is]
  · simp [parsed, is, beats]
  · simp [parsed, is, beats]
  · simp [parsed, is, beats]

/-- The client takes a text for a refusal exactly if it holds one. -/
theorem Arrival.ofText_eq_refusal_iff {message : String} :
    Arrival.ofText text = .refusal message ↔ refusal? text = some message := by
  unfold refusal?
  rcases Arrival.ofText_cases text with
    ⟨other, parsed, is⟩ |
      ⟨packet, parsed, ⟨_, refuses, is⟩ | ⟨_, reason, refuses, is⟩ | ⟨_, refuses, is⟩⟩
  · simp [parsed, is]
  · simp [parsed, is, refuses]
  · simp [parsed, is, refuses]
  · simp [parsed, is, refuses]

theorem Arrival.ofText_eq_message_iff {packet : Packet} :
    Arrival.ofText text = .message packet ↔ forwarded? text = some packet := by
  unfold forwarded?
  rcases Arrival.ofText_cases text with
    ⟨other, parsed, is⟩ |
      ⟨held, parsed, ⟨beats, _, is⟩ | ⟨beats, _, refuses, is⟩ | ⟨beats, refuses, is⟩⟩
  · simp [parsed, is]
  · simp [parsed, is, beats]
  · simp [parsed, is, refuses]
  · simp [parsed, is, beats, refuses]

/-- Only texts that are forwarded announce sessions. -/
theorem announced?_eq (text : String) :
    announced? text = (forwarded? text).bind Packet.announced? := by
  unfold announced? forwarded?
  cases parsed : Packet.parse text with
  | error cause =>
      rfl
  | ok packet =>
      by_cases other : packet.kind = "ping" ∨ packet.refusal?.isSome
      · simp only [if_pos other, Option.bind_none]
        rw [Option.eq_none_iff_forall_ne_some]
        intro session announces
        obtain ⟨notHeartbeat, notRefusal⟩ := Packet.forwarded_of_announced announces
        rcases other with beats | refuses
        · exact notHeartbeat beats
        · rw [notRefusal] at refuses
          cases refuses
      · simp only [if_neg other, Option.bind_some]

variable {arrival : Arrival}

theorem forwarded?_eq_none
    (means : Arrival.ofText text = arrival) (other : ∀ packet, arrival ≠ .message packet) :
    forwarded? text = none := by
  rw [Option.eq_none_iff_forall_ne_some]
  intro packet holds
  have isMessage := Arrival.ofText_eq_message_iff.mpr holds
  rw [means] at isMessage
  exact other packet isMessage

theorem announced?_eq_none
    (means : Arrival.ofText text = arrival) (other : ∀ packet, arrival ≠ .message packet) :
    announced? text = none := by
  rw [announced?_eq, forwarded?_eq_none means other, Option.bind_none]

theorem refusal?_eq_none
    (means : Arrival.ofText text = arrival) (other : ∀ message, arrival ≠ .refusal message) :
    refusal? text = none := by
  rw [Option.eq_none_iff_forall_ne_some]
  intro message holds
  have refuses := Arrival.ofText_eq_refusal_iff.mpr holds
  rw [means] at refuses
  exact other message refuses

theorem isHeartbeat_eq_false
    (means : Arrival.ofText text = arrival) (other : arrival ≠ .heartbeat) :
    isHeartbeat text = false := by
  rw [← Bool.not_eq_true]
  intro beats
  have asks := Arrival.ofText_eq_heartbeat_iff.mpr beats
  rw [means] at asks
  exact other asks

end Parley.Wire
