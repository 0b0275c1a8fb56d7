import Parley.Observer.Dispatch
import Parley.Proofs.Observer.Rounds

/-!
# A hub goes through its rounds

A hub keeps its work in one agenda. The agenda stands for the rounds under way: what the observer
that is being called still does, then the calls left to its round, then what the observer does that
called the round in, and so on outwards. Carrying out a task is a move, once the calls and the
rounds that have ended are left.
-/

namespace Parley.Observer

/-! ## Observers under their numbers -/

def nameOf? (number : Nat) (listeners : List Listener) : Option String :=
  (listeners.find? (·.number = number)).map (·.name)

section Names

variable {number other : Nat} {value : String} {listeners : List Listener}

theorem nameOf_cons_self (listener : Listener) (rest : List Listener) :
    nameOf? listener.number (listener :: rest) = some listener.name := by
  simp [nameOf?]

theorem nameOf_cons_of_ne {listener : Listener} (rest : List Listener)
    (different : listener.number ≠ number) :
    nameOf? number (listener :: rest) = nameOf? number rest := by
  simp [nameOf?, different]

theorem call_of_callAmong :
    (Hub.callAmong number value listeners).2.1 =
      (nameOf? number listeners).map fun name => (name, value) := by
  induction listeners with
  | nil => rfl
  | cons listener rest inductionHypothesis =>
      by_cases same : listener.number = number
      · subst same
        simp [Hub.callAmong, nameOf_cons_self]
      · simp [Hub.callAmong, same, nameOf_cons_of_ne rest same, inductionHypothesis]

/-- A call leaves all names as they are. -/
theorem nameOf_callAmong :
    nameOf? other (Hub.callAmong number value listeners).1 = nameOf? other listeners := by
  induction listeners with
  | nil => rfl
  | cons listener rest inductionHypothesis =>
      by_cases same : listener.number = number
      · by_cases found : listener.number = other
        · simp [Hub.callAmong, ← same, ← found, nameOf?]
        · rw [nameOf_cons_of_ne rest found]
          simp [Hub.callAmong, same, nameOf?, same ▸ found]
      · by_cases found : listener.number = other
        · simp [Hub.callAmong, found ▸ same, found, nameOf?]
        · rw [nameOf_cons_of_ne rest found, ← inductionHypothesis]
          simp [Hub.callAmong, same, nameOf_cons_of_ne _ found]

theorem numbers_callAmong :
    (Hub.callAmong number value listeners).1.map (·.number) = listeners.map (·.number) := by
  induction listeners with
  | nil => rfl
  | cons listener rest inductionHypothesis =>
      by_cases same : listener.number = number
      · simp [Hub.callAmong, same]
      · simp [Hub.callAmong, same, inductionHypothesis]

theorem number_mem_of_nameOf {name : String} (known : nameOf? number listeners = some name) :
    number ∈ listeners.map (·.number) := by
  obtain ⟨listener, found, _⟩ := Option.map_eq_some_iff.mp known
  have same := List.find?_some found
  exact List.mem_map.mpr ⟨listener, List.mem_of_find?_eq_some found, of_decide_eq_true same⟩

end Names

/-! ## Tasks as moves -/

def Task.isCall : Task → Bool
  | .call _ _ => true
  | _ => false

/-- The move that a task is, if it has to do with observers at all. -/
def Task.move? (hub : Hub) : Task → Option (Move String String)
  | .act (.subscribe name _) => some (.subscribe name)
  | .act (.unsubscribe name) =>
      (hub.handles.find? (·.1 = name)).map fun handle => .unsubscribe handle.2
  | .act (.forget _) => none
  | .act (.emit value) => some (.emit value)
  | .act (.publish value) => some (.publish value)
  | .call _ _ => some .call
  | .keep _ _ => none

/-- The move ends a call or a round. -/
def Move.isReturn {κ α : Type} : Move κ α → Bool
  | .comeBack => true
  | .finish => true
  | _ => false

theorem Task.move_isReturn {hub : Hub} {task : Task} {move : Move String String}
    (is : task.move? hub = some move) : move.isReturn = false := by
  cases task with
  | act action =>
      cases action with
      | unsubscribe name =>
          obtain ⟨handle, _, rfl⟩ := Option.map_eq_some_iff.mp is
          rfl
      | forget name => cases is
      | subscribe | emit | publish =>
          cases is
          rfl
  | call number value =>
      cases is
      rfl
  | keep name number => cases is

namespace Hub

/-- The moves that the tasks of an agenda are, and all that follows from them. -/
def movesOf (agenda : List Task) (hub : Hub) : List (Move String String) :=
  match agenda with
  | [] => []
  | task :: rest =>
      (task.move? hub).toList ++ movesOf ((hub.perform task).2 ++ rest) (hub.perform task).1
termination_by (latent hub.listeners + actionsOf agenda, callsOf agenda)
decreasing_by exact perform_decreases task rest hub

theorem run_append (before after : List Task) (hub : Hub) :
    run (before ++ after) hub = run after (run before hub) := by
  induction before, hub using Hub.run.induct with
  | case1 hub => rw [List.nil_append, run]
  | case2 hub task rest inductionHypothesis =>
      rw [run, List.cons_append, run, ← inductionHypothesis, List.append_assoc]

def handleAll (actions : List Action) (hub : Hub) : Hub :=
  actions.foldl (fun hub action => hub.handle action) hub

theorem handleAll_eq_run (actions : List Action) (hub : Hub) :
    hub.handleAll actions = run (actions.map .act) hub := by
  induction actions generalizing hub with
  | nil =>
      rw [List.map_nil, run]
      rfl
  | cons action rest inductionHypothesis =>
      exact (inductionHypothesis (hub.handle action)).trans
        (run_append [.act action] (rest.map .act) hub).symm

end Hub

/-! ## The agenda stands for the rounds -/

/-- An agenda with the rounds under way that it stands for. -/
inductive Holds : List Task → List (Round String String) → Prop
  | outside (tasks : List Task) (noCall : ∀ task ∈ tasks, task.isCall = false) :
      Holds tasks []
  | inside (tasks rest : List Task) (round : Round String String)
      (outer : List (Round String String))
      (noCall : ∀ task ∈ tasks, task.isCall = false)
      (idle : round.isCalling = false → tasks = []) (below : Holds rest outer) :
      Holds
        (tasks ++ (round.waiting.map fun entry => Task.call entry.1 round.value) ++ rest)
        (round :: outer)

/-- An agenda with rounds that allow its first task. -/
inductive Stands : List Task → List (Round String String) → Prop
  | idle : Stands [] []
  | free (task : Task) (rest : List Task) (stack : List (Round String String))
      (noCall : task.isCall = false)
      (calling : stack.head?.all (·.isCalling) = true) (holds : Holds rest stack) :
      Stands (task :: rest) stack
  | call (number serial : Nat) (value observer : String) (waiting : List (Nat × String))
      (rest : List Task) (outer : List (Round String String)) (below : Holds rest outer) :
      Stands
        (.call number value :: ((waiting.map fun entry => Task.call entry.1 value) ++ rest))
        (⟨serial, value, (number, observer) :: waiting, false⟩ :: outer)

/-- More to do for whoever is free to do it. -/
theorem Holds.more {rest : List Task} {stack : List (Round String String)}
    (holds : Holds rest stack) (calling : stack.head?.all (·.isCalling) = true)
    (tasks : List Task) (noCall : ∀ task ∈ tasks, task.isCall = false) :
    Holds (tasks ++ rest) stack := by
  cases holds with
  | outside _ others =>
      exact .outside _ (List.forall_mem_append.mpr ⟨noCall, others⟩)
  | inside others rest round outer silent idle below =>
      rw [← List.append_assoc, ← List.append_assoc]
      refine .inside _ _ _ _ (List.forall_mem_append.mpr ⟨noCall, silent⟩) ?_ below
      intro waits
      rw [List.head?_cons, Option.all_some, waits] at calling
      cases calling

/-- The observer that the innermost round has called last, if any, comes back. -/
theorem comesBack (rounds : Rounds String String) (round : Round String String)
    (outer : List (Round String String)) (inside : rounds.underWay = round :: outer) :
    ∃ returns, (∀ move ∈ returns, Move.isReturn move = true) ∧
      rounds.run returns =
        some { rounds with
          underWay := ⟨round.serial, round.value, round.waiting, false⟩ :: outer } := by
  obtain ⟨serial, value, waiting, isCalling⟩ := round
  cases isCalling with
  | false =>
      refine ⟨[], fun _ member => absurd member List.not_mem_nil, ?_⟩
      rw [← inside]
      rfl
  | true =>
      refine ⟨[.comeBack], List.forall_mem_singleton.mpr rfl, ?_⟩
      rw [Rounds.run_singleton, Rounds.step, inside]

/-- Calls and rounds that have ended are left until the first task can be done. -/
theorem Holds.settles {agenda : List Task} {stack : List (Round String String)}
    (holds : Holds agenda stack) (rounds : Rounds String String)
    (same : rounds.underWay = stack) :
    ∃ returns left, (∀ move ∈ returns, Move.isReturn move = true) ∧
      rounds.run returns = some { rounds with underWay := left } ∧
      (∀ round ∈ left, ∃ old ∈ stack, round.waiting = old.waiting) ∧ Stands agenda left := by
  have stays : rounds.run [] = some { rounds with underWay := stack } := by
    rw [← same]
    rfl
  induction holds generalizing rounds with
  | outside tasks noCall =>
      refine ⟨[], [], fun _ member => absurd member List.not_mem_nil, stays,
        fun _ member => absurd member List.not_mem_nil, ?_⟩
      cases tasks with
      | nil => exact .idle
      | cons task rest =>
          obtain ⟨first, others⟩ := List.forall_mem_cons.mp noCall
          exact .free task rest [] first rfl (.outside rest others)
  | inside tasks rest round outer noCall idle below inductionHypothesis =>
      cases tasks with
      | cons task tasks =>
          obtain ⟨first, others⟩ := List.forall_mem_cons.mp noCall
          have calling : round.isCalling = true := by
            by_contra waits
            cases idle (eq_false_of_ne_true waits)
          refine ⟨[], round :: outer, fun _ member => absurd member List.not_mem_nil, stays,
            fun round member => ⟨round, member, rfl⟩, ?_⟩
          refine .free task _ _ first calling (.inside tasks rest round outer others ?_ below)
          intro waits
          rw [calling] at waits
          cases waits
      | nil =>
          obtain ⟨returns, areReturns, run⟩ := comesBack rounds round outer same
          obtain ⟨serial, value, waiting, isCalling⟩ := round
          cases waiting with
          | cons entry waiting =>
              refine ⟨returns, _, areReturns, run, ?_,
                .call entry.1 serial value entry.2 waiting rest outer below⟩
              rintro round (_ | ⟨_, member⟩)
              · exact ⟨_, List.mem_cons_self, rfl⟩
              · exact ⟨round, List.mem_cons_of_mem _ member, rfl⟩
          | nil =>
              obtain ⟨others, left, alsoReturns, goesOn, sameWaiting, stands⟩ :=
                inductionHypothesis { rounds with underWay := outer } rfl rfl
              refine ⟨returns ++ .finish :: others, left, ?_, ?_, ?_, stands⟩
              · exact List.forall_mem_append.mpr
                  ⟨areReturns, List.forall_mem_cons.mpr ⟨rfl, alsoReturns⟩⟩
              · rw [Rounds.run_append, run]
                exact goesOn
              · intro round member
                obtain ⟨old, inside, same⟩ := sameWaiting round member
                exact ⟨old, List.mem_cons_of_mem _ inside, same⟩

/-! ## A hub next to its rounds -/

/-- The hub knows the observers of the rounds by their names. -/
structure Agrees (hub : Hub) (rounds : Rounds String String) : Prop where
  roster_eq : rounds.roster = hub.roster
  calls_eq : (rounds.calls.map fun call => (call.observer, call.value)) = hub.calls
  known : ∀ entry ∈ hub.roster.entries, nameOf? entry.1 hub.listeners = some entry.2
  awaited :
    ∀ round ∈ rounds.underWay, ∀ entry ∈ round.waiting,
      nameOf? entry.1 hub.listeners = some entry.2
  numbered : ∀ number ∈ hub.listeners.map (·.number), number < hub.roster.next
  handled : ∀ handle ∈ hub.handles, handle.2 < hub.roster.next

/-- The numbers that an agenda is to keep were given out. -/
def Keeps (next : Nat) (agenda : List Task) : Prop :=
  ∀ name number, Task.keep name number ∈ agenda → number < next

/-- A task done with what is left of the agenda. -/
structure Done (hub : Hub) (agenda : List Task) (rounds : Rounds String String) : Prop where
  agrees : Agrees hub rounds
  keeps : Keeps hub.roster.next agenda
  holds : Holds agenda rounds.underWay

section Perform

variable {hub : Hub} {rounds : Rounds String String} {rest : List Task}

theorem Agrees.ne_next (agrees : Agrees hub rounds) {number : Nat} {name : String}
    (known : nameOf? number hub.listeners = some name) : hub.roster.next ≠ number :=
  Nat.ne_of_gt (agrees.numbered number (number_mem_of_nameOf known))

/-- A new observer gets a number that no other one has. -/
theorem Agrees.register (agrees : Agrees hub rounds) (name : String)
    (reactions : List Reaction) :
    Agrees (hub.act (.subscribe name reactions)).1
      { rounds with roster := (hub.roster.subscribe name).1 } := by
  refine ⟨rfl, agrees.calls_eq, ?_, ?_, ?_, ?_⟩
  · refine List.forall_mem_append.mpr ⟨?_, List.forall_mem_singleton.mpr ?_⟩
    · intro entry member
      have known := agrees.known entry member
      rw [← known]
      exact nameOf_cons_of_ne hub.listeners (agrees.ne_next known)
    · exact nameOf_cons_self ⟨hub.roster.next, name, reactions⟩ hub.listeners
  · intro round inside entry member
    have known := agrees.awaited round inside entry member
    rw [← known]
    exact nameOf_cons_of_ne hub.listeners (agrees.ne_next known)
  · refine List.forall_mem_cons.mpr ⟨Nat.lt_succ_self _, ?_⟩
    intro number member
    exact Nat.lt_succ_of_lt (agrees.numbered number member)
  · intro handle member
    exact Nat.lt_succ_of_lt (agrees.handled handle member)

/-- A round begins with observers that the hub knows. -/
theorem Agrees.launch (agrees : Agrees hub rounds) (value : String)
    (audience : List (Nat × String))
    (known : ∀ entry ∈ audience, nameOf? entry.1 hub.listeners = some entry.2) :
    Agrees hub (rounds.launch value audience) :=
  ⟨agrees.roster_eq, agrees.calls_eq, agrees.known,
    List.forall_mem_cons.mpr ⟨known, agrees.awaited⟩, agrees.numbered, agrees.handled⟩

/-- The calls of the round that begins come first. -/
theorem Holds.launch (holds : Holds rest rounds.underWay) (value : String)
    (audience : List (Nat × String)) :
    Holds ((audience.map fun entry => Task.call entry.1 value) ++ rest)
      (rounds.launch value audience).underWay :=
  .inside [] rest ⟨rounds.begun, value, audience, false⟩ rounds.underWay
    (fun _ member => absurd member List.not_mem_nil) (fun _ => rfl) holds

theorem Keeps.append {next : Nat} {tasks : List Task} (keeps : Keeps next rest)
    (news : Keeps next tasks) : Keeps next (tasks ++ rest) := by
  intro name number member
  rcases List.mem_append.mp member with new | old
  · exact news name number new
  · exact keeps name number old

theorem keeps_calls (next : Nat) (value : String) (audience : List (Nat × String)) :
    Keeps next (audience.map fun entry => Task.call entry.1 value) := by
  intro name number member
  obtain ⟨entry, _, same⟩ := List.mem_map.mp member
  cases same

/-- An observer subscribes: a round to it alone begins if there is a value, and its handle is kept
after that. -/
theorem Agrees.subscribe (agrees : Agrees hub rounds) (keeps : Keeps hub.roster.next rest)
    (free : rounds.isFree = true) (holds : Holds rest rounds.underWay) (name : String)
    (reactions : List Reaction) :
    ∃ next, rounds.step (.subscribe name) = some next ∧
      Done (hub.act (.subscribe name reactions)).1
        ((hub.act (.subscribe name reactions)).2 ++ rest) next := by
  have registered := agrees.register name reactions
  have handle : Keeps (hub.roster.next + 1) [.keep name hub.roster.next] := by
    intro name number member
    cases List.mem_singleton.mp member
    exact Nat.lt_succ_self _
  have others : Keeps (hub.roster.next + 1) rest := by
    intro name number member
    exact Nat.lt_succ_of_lt (keeps name number member)
  have keeping : Holds ([.keep name hub.roster.next] ++ rest) rounds.underWay :=
    holds.more free _ (List.forall_mem_singleton.mpr rfl)
  cases current : hub.roster.current with
  | none =>
      refine ⟨{ rounds with roster := (hub.roster.subscribe name).1 }, ?_, registered, ?_, ?_⟩
      · simp [Rounds.step, free, agrees.roster_eq, Roster.subscribe, current]
      · simp only [Hub.act, Roster.subscribe, current]
        exact others.append handle
      · simp only [Hub.act, Roster.subscribe, current]
        exact keeping
  | some value =>
      have known : ∀ entry ∈ [(hub.roster.next, name)],
          nameOf? entry.1 (hub.act (.subscribe name reactions)).1.listeners = some entry.2 :=
        List.forall_mem_singleton.mpr
          (nameOf_cons_self ⟨hub.roster.next, name, reactions⟩ hub.listeners)
      refine ⟨_, ?_, registered.launch value [(hub.roster.next, name)] known, ?_, ?_⟩
      · simp [Rounds.step, free, agrees.roster_eq, Roster.subscribe, current]
      · simp only [Hub.act, Roster.subscribe, current]
        exact others.append (handle.append (keeps_calls _ value [(hub.roster.next, name)]))
      · simp only [Hub.act, Roster.subscribe, current]
        have around : Holds ([.keep name hub.roster.next] ++ rest)
            { rounds with roster := (hub.roster.subscribe name).1 }.underWay := keeping
        exact around.launch value [(hub.roster.next, name)]

/-- A round to all begins. -/
theorem Agrees.dispatch (agrees : Agrees hub rounds) (keeps : Keeps hub.roster.next rest)
    (holds : Holds rest rounds.underWay) (value : String) :
    Done hub (hub.dispatch value ++ rest) (rounds.launch value hub.roster.entries) :=
  ⟨agrees.launch value hub.roster.entries agrees.known,
    keeps.append (keeps_calls _ value hub.roster.entries),
    holds.launch value hub.roster.entries⟩

theorem Agrees.act (agrees : Agrees hub rounds) (keeps : Keeps hub.roster.next rest)
    (free : rounds.isFree = true) (holds : Holds rest rounds.underWay) (action : Action) :
    ∃ next, rounds.run (Task.move? hub (.act action)).toList = some next ∧
      Done (hub.act action).1 ((hub.act action).2 ++ rest) next := by
  cases action with
  | subscribe name reactions =>
      obtain ⟨next, step, done⟩ := agrees.subscribe keeps free holds name reactions
      exact ⟨next, (Rounds.run_singleton _).trans step, done⟩
  | unsubscribe name =>
      cases found : hub.handles.find? (·.1 = name) with
      | none =>
          refine ⟨rounds, ?_, ?_⟩
          · rw [Task.move?, found]
            rfl
          · rw [Hub.act, found]
            exact ⟨agrees, keeps, holds⟩
      | some handle =>
          have given := agrees.handled handle (List.mem_of_find?_eq_some found)
          refine ⟨{ rounds with roster := hub.roster.unsubscribe handle.2 }, ?_, ?_⟩
          · rw [Task.move?, found]
            refine (Rounds.run_singleton _).trans ?_
            rw [Rounds.step, agrees.roster_eq, if_pos ⟨free, given⟩]
          · rw [Hub.act, found]
            refine ⟨⟨rfl, agrees.calls_eq, ?_, agrees.awaited, agrees.numbered, ?_⟩, keeps, holds⟩
            · intro entry member
              exact agrees.known entry (List.mem_filter.mp member).1
            · intro other member
              exact agrees.handled other (List.mem_filter.mp member).1
  | forget name =>
      refine ⟨rounds, rfl, ⟨agrees.roster_eq, agrees.calls_eq, agrees.known, agrees.awaited,
        agrees.numbered, ?_⟩, keeps, holds⟩
      intro handle member
      exact agrees.handled handle (List.mem_filter.mp member).1
  | emit value =>
      refine ⟨_, (Rounds.run_singleton _).trans ?_, agrees.dispatch keeps holds value⟩
      rw [Rounds.step, if_pos free, agrees.roster_eq]
  | publish value =>
      have agrees' : Agrees { hub with roster := hub.roster.retain value }
          { rounds with roster := hub.roster.retain value } :=
        ⟨rfl, agrees.calls_eq, agrees.known, agrees.awaited, agrees.numbered, agrees.handled⟩
      refine ⟨_, (Rounds.run_singleton _).trans ?_, agrees'.dispatch keeps holds value⟩
      rw [Rounds.step, if_pos free, agrees.roster_eq]
      rfl

theorem Agrees.perform (agrees : Agrees hub rounds) {task : Task}
    (keeps : Keeps hub.roster.next (task :: rest))
    (stands : Stands (task :: rest) rounds.underWay) :
    ∃ next, rounds.run (task.move? hub).toList = some next ∧
      Done (hub.perform task).1 ((hub.perform task).2 ++ rest) next := by
  have others : Keeps hub.roster.next rest :=
    fun name number member => keeps name number (List.mem_cons_of_mem _ member)
  generalize inside : rounds.underWay = stack at stands
  cases stands with
  | free _ _ _ noCall calling holds =>
      subst inside
      cases task with
      | act action => exact agrees.act others calling holds action
      | call number value => cases noCall
      | keep name number =>
          refine ⟨rounds, rfl, ⟨agrees.roster_eq, agrees.calls_eq, agrees.known, agrees.awaited,
            agrees.numbered, ?_⟩, others, holds⟩
          refine List.forall_mem_cons.mpr ⟨keeps name number List.mem_cons_self, ?_⟩
          intro handle member
          exact agrees.handled handle (List.mem_filter.mp member).1
  | call number serial value observer waiting rest outer below =>
      have awaited := agrees.awaited
      rw [inside] at awaited
      obtain ⟨ofRound, ofOthers⟩ := List.forall_mem_cons.mp awaited
      obtain ⟨known, left⟩ := List.forall_mem_cons.mp ofRound
      have called : (Hub.callAmong number value hub.listeners).2.1 = some (observer, value) := by
        rw [call_of_callAmong, known]
        rfl
      refine ⟨_, (Rounds.run_singleton _).trans (by rw [Rounds.step, inside]), ⟨?_, ?_, ?_, ?_, ?_,
        agrees.handled⟩, ?_, ?_⟩
      · exact agrees.roster_eq
      · simp only [Hub.perform, called, List.map_append, agrees.calls_eq]
        rfl
      · intro entry member
        exact nameOf_callAmong.trans (agrees.known entry member)
      · refine List.forall_mem_cons.mpr ⟨?_, ?_⟩
        · intro entry member
          exact nameOf_callAmong.trans (left entry member)
        · intro round member entry waits
          exact nameOf_callAmong.trans (ofOthers round member entry waits)
      · simp only [Hub.perform, numbers_callAmong]
        exact agrees.numbered
      · refine others.append ?_
        intro name number member
        obtain ⟨reaction, _, same⟩ := List.mem_map.mp member
        cases same
      · rw [← List.append_assoc]
        refine .inside _ rest ⟨serial, value, waiting, true⟩ outer ?_ ?_ below
        · intro task member
          obtain ⟨reaction, _, rfl⟩ := List.mem_map.mp member
          rfl
        · intro waits
          cases waits

end Perform

/-! ## Whole agendas -/

/-- Returns lead to where the first task of the agenda can be done. -/
theorem Agrees.settles {agenda : List Task} {hub : Hub} {rounds : Rounds String String}
    (agrees : Agrees hub rounds) (holds : Holds agenda rounds.underWay) :
    ∃ returns next, (∀ move ∈ returns, Move.isReturn move = true) ∧
      rounds.run returns = some next ∧ Agrees hub next ∧ Stands agenda next.underWay := by
  obtain ⟨returns, left, areReturns, run, sameWaiting, stands⟩ := holds.settles rounds rfl
  refine ⟨returns, _, areReturns, run, ⟨agrees.roster_eq, agrees.calls_eq, agrees.known, ?_,
    agrees.numbered, agrees.handled⟩, stands⟩
  intro round member entry waits
  obtain ⟨old, inside, same⟩ := sameWaiting round member
  exact agrees.awaited old inside entry (same ▸ waits)

theorem filter_returns {returns : List (Move String String)}
    (areReturns : ∀ move ∈ returns, move.isReturn = true) :
    returns.filter (fun move => !move.isReturn) = [] := by
  apply List.filter_eq_nil_iff.mpr
  intro move member
  simp [areReturns move member]

theorem filter_move (hub : Hub) (task : Task) :
    (task.move? hub).toList.filter (fun move => !move.isReturn) = (task.move? hub).toList := by
  apply List.filter_eq_self.mpr
  intro move member
  rw [Task.move_isReturn (Option.mem_toList.mp member)]
  rfl

/-- A hub that carries out an agenda makes the moves that its tasks are, with returns between them,
until no round is under way. -/
theorem Agrees.run {agenda : List Task} {hub : Hub} {rounds : Rounds String String}
    (agrees : Agrees hub rounds) (keeps : Keeps hub.roster.next agenda)
    (holds : Holds agenda rounds.underWay) :
    ∃ moves last, rounds.run moves = some last ∧
      moves.filter (fun move => !move.isReturn) = hub.movesOf agenda ∧
      last.underWay = [] ∧ Agrees (Hub.run agenda hub) last := by
  induction agenda, hub using Hub.run.induct generalizing rounds with
  | case1 hub =>
      obtain ⟨returns, next, areReturns, run, agrees, stands⟩ := agrees.settles holds
      refine ⟨returns, next, run, ?_, ?_, ?_⟩
      · rw [filter_returns areReturns, Hub.movesOf]
      · generalize next.underWay = stack at stands
        cases stands
        rfl
      · rwa [Hub.run]
  | case2 hub task rest inductionHypothesis =>
      obtain ⟨returns, ready, areReturns, settle, agrees, stands⟩ := agrees.settles holds
      obtain ⟨next, step, done⟩ := agrees.perform keeps stands
      obtain ⟨moves, last, goesOn, sameMoves, idle, agrees⟩ :=
        inductionHypothesis done.agrees done.keeps done.holds
      refine ⟨returns ++ ((task.move? hub).toList ++ moves), last, ?_, ?_, idle, ?_⟩
      · simp only [Rounds.run_append, settle, step, Option.bind_some, goesOn]
      · rw [List.filter_append, List.filter_append, filter_returns areReturns, filter_move,
          sameMoves, Hub.movesOf]
        rfl
      · rwa [Hub.run]

theorem agrees_ofCurrent (current : Option String) :
    Agrees (.ofCurrent current) (.ofCurrent current) :=
  ⟨rfl, rfl, fun _ member => absurd member List.not_mem_nil,
    fun _ member => absurd member List.not_mem_nil, fun _ member => absurd member List.not_mem_nil,
    fun _ member => absurd member List.not_mem_nil⟩

/-- All that is done to a hub from outside, with all that observers do, is a run of its rounds. -/
theorem moves_of_handleAll (current : Option String) (actions : List Action) :
    ∃ moves last, (Rounds.ofCurrent current).run moves = some last ∧
      moves.filter (fun move => !move.isReturn) =
        (Hub.ofCurrent current).movesOf (actions.map .act) ∧
      last.underWay = [] ∧ Agrees ((Hub.ofCurrent current).handleAll actions) last := by
  have noCall : ∀ task ∈ actions.map Task.act, task.isCall = false := by
    intro task member
    obtain ⟨action, _, rfl⟩ := List.mem_map.mp member
    rfl
  have keeps : Keeps (Hub.ofCurrent current).roster.next (actions.map .act) := by
    intro name number member
    obtain ⟨action, _, same⟩ := List.mem_map.mp member
    cases same
  rw [Hub.handleAll_eq_run]
  exact (agrees_ofCurrent current).run keeps (.outside _ noCall)

/-- Whatever observers do while they are called, a dispatch calls those that are registered as it
begins, each once and in order, and the roster is what subscriptions and publications make it. A
hub does nothing but that. -/
theorem dispatch_calls_registered :
    (∀ (κ α : Type) (current : Option α) (before : List (Move κ α)) (rounds : Rounds κ α),
      (Rounds.ofCurrent current).run before = some rounds → Rounds.Orderly current before rounds) ∧
    ∀ (current : Option String) (actions : List Action), ∃ moves last,
      (Rounds.ofCurrent current).run moves = some last ∧
        moves.filter (fun move => !move.isReturn) =
          (Hub.ofCurrent current).movesOf (actions.map .act) ∧
        last.underWay = [] ∧
        last.roster = ((Hub.ofCurrent current).handleAll actions).roster ∧
        (last.calls.map fun call => (call.observer, call.value)) =
          ((Hub.ofCurrent current).handleAll actions).calls := by
  refine ⟨?_, ?_⟩
  · intro κ α current before rounds run
    exact (Rounds.recorded_of_run run).orderly
  · intro current actions
    obtain ⟨moves, last, run, same, idle, agrees⟩ := moves_of_handleAll current actions
    exact ⟨moves, last, run, same, idle, agrees.roster_eq, agrees.calls_eq⟩

/-- The first of two observers unsubscribes the second and subscribes a third while it is called:
the second is still called, and the third is not. -/
theorem unsubscribed_within_is_called :
    ∃ rounds next last : Rounds Nat Nat,
      (Rounds.ofCurrent none).run [.subscribe 10, .subscribe 20] = some rounds ∧
        rounds.step (.emit 7) = some next ∧
        next.run [.call, .unsubscribe 1, .subscribe 30, .comeBack, .call, .comeBack, .finish] =
          some last ∧
        last.roster.observers = [10, 30] ∧ last.callsOf 0 = [⟨0, 0, 10, 7⟩, ⟨0, 1, 20, 7⟩] := by
  have run :
      (Rounds.ofCurrent none).run [.subscribe 10, .subscribe 20] =
        some (⟨⟨2, [(0, 10), (1, 20)], none⟩, [], 0, []⟩ : Rounds Nat Nat) := by
    decide
  have within :
      (⟨⟨2, [(0, 10), (1, 20)], none⟩, [⟨0, 7, [(0, 10), (1, 20)], false⟩], 1, []⟩ :
          Rounds Nat Nat).run
        [.call, .unsubscribe 1, .subscribe 30, .comeBack, .call, .comeBack, .finish] =
        some ⟨⟨3, [(0, 10), (2, 30)], none⟩, [], 1, [⟨0, 0, 10, 7⟩, ⟨0, 1, 20, 7⟩]⟩ := by
    decide
  have orderly := dispatch_calls_registered.1 Nat Nat none _ _ run
  have reached := orderly.reaches (.emit 7) _ 7 [(0, 10), (1, 20)] rfl (by decide) _ _ within
  exact ⟨_, _, _, run, rfl, within, by decide, reached.2.1 (by decide)⟩

end Parley.Observer
