import Parley.Observer.Roster

/-!
# Dispatch to observers that react

An observer may subscribe, unsubscribe, emit and publish from inside its own call, to any depth.
A hub keeps the work that is still to be done as an agenda: what an observer does in reaction to a
value comes before the observers that wait behind it. Whom a dispatch reaches is fixed as it
starts.
-/

namespace Parley.Observer

/-- Something done to a hub, from outside or by an observer. -/
inductive Action where
  /-- Registers an observer of a name that reacts once to each of some values. -/
  | subscribe (name : String) (reactions : List (String × Action))
  /-- Removes the observer whose handle is kept under a name. -/
  | unsubscribe (name : String)
  /-- Lets go of a handle; the observer stays. -/
  | forget (name : String)
  /-- Calls all observers with a value. -/
  | emit (value : String)
  /-- Calls all observers with a value, which becomes the current one. -/
  | publish (value : String)

/-- What an observer still has to do when it is called with certain values. -/
abbrev Reaction := String × Action

mutual

/-- The number of actions inside an action, itself included. -/
def Action.size : Action → Nat
  | .subscribe _ reactions => sizeOfReactions reactions + 1
  | .unsubscribe _ => 1
  | .forget _ => 1
  | .emit _ => 1
  | .publish _ => 1

def sizeOfReactions : List (String × Action) → Nat
  | [] => 0
  | (_, action) :: rest => action.size + sizeOfReactions rest

end

/-- An observer of a hub, under the number that its registration has. -/
structure Listener where
  number : Nat
  name : String
  reactions : List Reaction

inductive Task where
  | act (action : Action)
  /-- Calls the observer of a number with a value. -/
  | call (number : Nat) (value : String)
  /-- Keeps the handle of an observer under its name. -/
  | keep (name : String) (number : Nat)

/-- A roster of numbered observers, their reactions, and the handles kept by name. -/
structure Hub where
  roster : Roster String String
  listeners : List Listener
  handles : List (String × Nat)
  /-- The calls made so far, each with the observer and the value. -/
  calls : List (String × String)

namespace Hub

def ofCurrent (current : Option String) : Hub :=
  ⟨.ofCurrent current, [], [], []⟩

/-- One call for each observer that is registered now. -/
def dispatch (value : String) (hub : Hub) : List Task :=
  hub.roster.entries.map fun entry => .call entry.1 value

def dropHandle (name : String) (hub : Hub) : Hub :=
  { hub with handles := hub.handles.filter (·.1 ≠ name) }

/-- Carries out an action; the tasks are what follows from it at once. -/
def act (action : Action) (hub : Hub) : Hub × List Task :=
  match action with
  | .subscribe name reactions =>
      let (roster, number) := hub.roster.subscribe name
      ({ hub with roster, listeners := ⟨number, name, reactions⟩ :: hub.listeners },
        (roster.current.toList.map fun value => Task.call number value) ++
          [.keep name number])
  | .unsubscribe name =>
      match hub.handles.find? (·.1 = name) with
      | some (_, number) =>
          ({ hub.dropHandle name with roster := hub.roster.unsubscribe number }, [])
      | none => (hub, [])
  | .forget name => (hub.dropHandle name, [])
  | .emit value => (hub, hub.dispatch value)
  | .publish value =>
      ({ hub with roster := hub.roster.retain value }, hub.dispatch value)

/-- The reactions to a value, and those that stay. -/
def partReactions (value : String) (reactions : List Reaction) :
    List Reaction × List Reaction :=
  reactions.partition (·.1 = value)

/-- Calls the observer of a number among observers: the observers after the call, the call if the
observer exists, and its reactions. -/
def callAmong (number : Nat) (value : String) :
    List Listener → List Listener × Option (String × String) × List Reaction
  | [] => ([], none, [])
  | listener :: rest =>
      if listener.number = number then
        let (due, kept) := partReactions value listener.reactions
        ({ listener with reactions := kept } :: rest, some (listener.name, value), due)
      else
        let called := callAmong number value rest
        (listener :: called.1, called.2)

/-- Carries out a task; the tasks are what follows from it at once. -/
def perform (task : Task) (hub : Hub) : Hub × List Task :=
  match task with
  | .act action => hub.act action
  | .call number value =>
      let (listeners, call, due) := callAmong number value hub.listeners
      ({ hub with listeners, calls := hub.calls ++ call.toList },
        due.map fun reaction => .act reaction.2)
  | .keep name number =>
      ({ hub with handles := (name, number) :: (hub.dropHandle name).handles }, [])

/-! ## The agenda comes to an end -/

/-- The number of actions that observers may still take. -/
def latent : List Listener → Nat
  | [] => 0
  | listener :: rest => sizeOfReactions listener.reactions + latent rest

def actionsOf : List Task → Nat
  | [] => 0
  | .act action :: rest => action.size + actionsOf rest
  | _ :: rest => actionsOf rest

/-- The number of tasks that are no actions. -/
def callsOf : List Task → Nat
  | [] => 0
  | .act _ :: rest => callsOf rest
  | _ :: rest => callsOf rest + 1

theorem actionsOf_append (left right : List Task) :
    actionsOf (left ++ right) = actionsOf left + actionsOf right := by
  induction left with
  | nil => simp [actionsOf]
  | cons task rest inductionHypothesis =>
      cases task <;> simp [actionsOf, inductionHypothesis, Nat.add_assoc]

theorem callsOf_append (left right : List Task) :
    callsOf (left ++ right) = callsOf left + callsOf right := by
  induction left with
  | nil => simp [callsOf]
  | cons task rest inductionHypothesis =>
      cases task <;> simp [callsOf, inductionHypothesis] <;> omega

/-- Calls alone hold no actions. -/
theorem actionsOf_dispatch (value : String) (hub : Hub) :
    actionsOf (hub.dispatch value) = 0 := by
  unfold dispatch
  induction hub.roster.entries with
  | nil => rfl
  | cons entry rest inductionHypothesis => simpa [actionsOf] using inductionHypothesis

/-- Reactions alone hold no calls. -/
theorem callsOf_reactions (reactions : List Reaction) :
    callsOf (reactions.map fun reaction => Task.act reaction.2) = 0 := by
  induction reactions with
  | nil => rfl
  | cons reaction rest inductionHypothesis => simpa [callsOf] using inductionHypothesis

theorem actionsOf_reactions (reactions : List Reaction) :
    actionsOf (reactions.map fun reaction => Task.act reaction.2) =
      sizeOfReactions reactions := by
  induction reactions with
  | nil => rfl
  | cons reaction rest inductionHypothesis =>
      simp [actionsOf, sizeOfReactions, inductionHypothesis]

/-- Parting reactions loses none of them. -/
theorem sizeOfReactions_partReactions (value : String) (reactions : List Reaction) :
    sizeOfReactions (partReactions value reactions).1 +
      sizeOfReactions (partReactions value reactions).2 = sizeOfReactions reactions := by
  simp only [partReactions, List.partition_eq_filter_filter]
  induction reactions with
  | nil => rfl
  | cons reaction rest inductionHypothesis =>
      by_cases same : reaction.1 = value
      · simp [same, sizeOfReactions] at inductionHypothesis ⊢
        omega
      · simp [same, sizeOfReactions] at inductionHypothesis ⊢
        omega

/-- A call moves reactions out of a observer and changes nothing else. -/
theorem latent_callAmong (number : Nat) (value : String) (listeners : List Listener) :
    latent (callAmong number value listeners).1 +
      sizeOfReactions (callAmong number value listeners).2.2 = latent listeners := by
  induction listeners with
  | nil => rfl
  | cons listener rest inductionHypothesis =>
      by_cases same : listener.number = number
      · have parted := sizeOfReactions_partReactions value listener.reactions
        simp [callAmong, same, latent] at parted ⊢
        omega
      · simp [callAmong, same, latent] at inductionHypothesis ⊢
        omega

/-- Every task either uses up an action, or is a call or the keeping of a handle and leads to
actions only. -/
theorem perform_decreases (task : Task) (rest : List Task) (hub : Hub) :
    let after := hub.perform task
    Prod.Lex (· < ·) (· < ·)
      (latent after.1.listeners + actionsOf (after.2 ++ rest), callsOf (after.2 ++ rest))
      (latent hub.listeners + actionsOf (task :: rest), callsOf (task :: rest)) := by
  cases task with
  | act action =>
      apply Prod.Lex.left
      cases action with
      | subscribe name reactions =>
          have noAction : ∀ (current : Option String) (number : Nat),
              actionsOf ((current.toList.map fun value => Task.call number value) ++
                [.keep name number]) = 0 := by
            intro current number
            cases current <;> rfl
          simp only [perform, act, Roster.subscribe, actionsOf_append, noAction, latent,
            actionsOf, Action.size]
          omega
      | unsubscribe name =>
          simp only [perform, act]
          split <;> simp [dropHandle, actionsOf, Action.size]
      | forget name => simp [perform, act, dropHandle, actionsOf, Action.size]
      | emit value =>
          simp [perform, act, actionsOf_append, actionsOf_dispatch, actionsOf, Action.size]
      | publish value =>
          simp [perform, act, actionsOf_append, actionsOf_dispatch, actionsOf, Action.size]
  | call number value =>
      have moved := latent_callAmong number value hub.listeners
      simp only [perform, actionsOf_append, callsOf_append, actionsOf_reactions,
        callsOf_reactions, actionsOf, callsOf]
      rw [← Nat.add_assoc, moved]
      exact Prod.Lex.right _ (by omega)
  | keep name number =>
      simp only [perform, List.nil_append, actionsOf, callsOf]
      exact Prod.Lex.right _ (by omega)

/-- Carries out the tasks of an agenda and all that follows from them. -/
def run (agenda : List Task) (hub : Hub) : Hub :=
  match agenda with
  | [] => hub
  | task :: rest => run ((hub.perform task).2 ++ rest) (hub.perform task).1
termination_by (latent hub.listeners + actionsOf agenda, callsOf agenda)
decreasing_by exact perform_decreases task rest hub

def handle (action : Action) (hub : Hub) : Hub :=
  run [.act action] hub

end Hub

end Parley.Observer
