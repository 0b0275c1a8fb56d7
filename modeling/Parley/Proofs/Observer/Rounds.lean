import Mathlib.Data.List.Pairwise
import Parley.Observer.Rounds

/-!
# Whom rounds reach

Whatever observers do while they are called, a round calls those that were registered as it began,
each once and in the order of registration. The roster is known from what was done to it, and a
round is tracked from its beginning to its end through all that happens inside it.
-/

namespace Parley.Observer

variable {κ α : Type}

/-! ## Histories -/

section History

variable {current : Option α} {before : List (Move κ α)} {move : Move κ α}

theorem subscribed_append (before after : List (Move κ α)) :
    subscribed (before ++ after) = subscribed before ++ subscribed after :=
  List.filterMap_append

theorem unsubscribed_append (before after : List (Move κ α)) :
    unsubscribed (before ++ after) = unsubscribed before ++ unsubscribed after :=
  List.filterMap_append

/-- The numbers that are given out count the subscriptions. -/
theorem map_fst_numbered (observers : List κ) :
    (observers.zipIdx.map Prod.swap).map Prod.fst = List.range observers.length := by
  rw [List.map_map, List.range_eq_range']
  exact List.zipIdx_map_snd 0 observers

theorem numbered_append_singleton (observers : List κ) (observer : κ) :
    (observers ++ [observer]).zipIdx.map Prod.swap =
      observers.zipIdx.map Prod.swap ++ [(observers.length, observer)] := by
  simp [List.zipIdx_append]

theorem registered_of_unchanged (sameObservers : move.subscribed? = none)
    (sameNumbers : move.unsubscribed? = none) :
    registered (before ++ [move]) = registered before := by
  have observers : subscribed [move] = [] := by simp [subscribed, sameObservers]
  have numbers : unsubscribed [move] = [] := by simp [unsubscribed, sameNumbers]
  rw [registered, subscribed_append, unsubscribed_append, observers, numbers, List.append_nil,
    List.append_nil]
  rfl

theorem registered_subscribe (observer : κ)
    (given : ∀ number ∈ unsubscribed before, number < (subscribed before).length) :
    registered (before ++ [.subscribe observer]) =
      registered before ++ [((subscribed before).length, observer)] := by
  have fresh : (subscribed before).length ∉ unsubscribed before := by
    intro member
    exact Nat.lt_irrefl _ (given _ member)
  have numbers : unsubscribed (before ++ [Move.subscribe observer]) = unsubscribed before := by
    rw [unsubscribed_append]
    exact List.append_nil _
  have observers :
      subscribed (before ++ [Move.subscribe observer]) = subscribed before ++ [observer] :=
    subscribed_append before _
  rw [registered, numbers, observers, numbered_append_singleton, List.filter_append]
  have kept : [((subscribed before).length, observer)].filter
      (fun entry => decide (entry.1 ∉ unsubscribed before)) =
        [((subscribed before).length, observer)] := by
    simp [fresh]
  rw [kept]
  rfl

theorem registered_unsubscribe (number : Nat) :
    registered (before ++ [.unsubscribe number]) =
      (registered before).filter (·.1 ≠ number) := by
  have numbers :
      unsubscribed (before ++ [Move.unsubscribe number]) = unsubscribed before ++ [number] :=
    unsubscribed_append before _
  have observers :
      subscribed (before ++ [Move.unsubscribe number]) = subscribed before := by
    rw [subscribed_append]
    exact List.append_nil _
  rw [registered, registered, numbers, observers, List.filter_filter]
  refine List.filter_congr fun entry _ => ?_
  simp [and_comm, not_or]

/-- The observers stand in the order of their numbers, which all differ. -/
theorem registered_inOrder (before : List (Move κ α)) :
    (registered before).Pairwise (·.1 < ·.1) := by
  have numbers : ((subscribed before).zipIdx.map Prod.swap).Pairwise (·.1 < ·.1) := by
    rw [← List.pairwise_map (f := Prod.fst) (R := (· < ·)), map_fst_numbered]
    exact List.pairwise_lt_range
  exact numbers.filter _

theorem lt_of_registered {entry : Nat × κ} (member : entry ∈ registered before) :
    entry.1 < (subscribed before).length := by
  have numbered := (List.mem_filter.mp member).1
  have given := List.mem_map_of_mem (f := Prod.fst) numbered
  rw [map_fst_numbered] at given
  exact List.mem_range.mp given

theorem notMem_unsubscribed {entry : Nat × κ} (member : entry ∈ registered before) :
    entry.1 ∉ unsubscribed before :=
  of_decide_eq_true (List.mem_filter.mp member).2

theorem retained_append_singleton :
    retained current (before ++ [move]) = move.published?.or (retained current before) := by
  cases published : move.published? with
  | none =>
      rw [retained, List.filterMap_append]
      simp [published, retained]
  | some value =>
      rw [retained, List.filterMap_append]
      simp [published]

end History

namespace Rounds

/-! ## What moves do -/

/-- The move leads from the rounds to the next ones. -/
inductive Passes (rounds : Rounds κ α) : Move κ α → Rounds κ α → Prop
  | subscribe (observer : κ) (free : rounds.isFree = true)
      (silent : rounds.roster.current = none) :
      Passes rounds (.subscribe observer)
        { rounds with roster := (rounds.roster.subscribe observer).1 }
  | welcome (observer : κ) (value : α) (free : rounds.isFree = true)
      (holds : rounds.roster.current = some value) :
      Passes rounds (.subscribe observer)
        (launch value [(rounds.roster.next, observer)]
          { rounds with roster := (rounds.roster.subscribe observer).1 })
  | unsubscribe (number : Nat) (free : rounds.isFree = true)
      (given : number < rounds.roster.next) :
      Passes rounds (.unsubscribe number)
        { rounds with roster := rounds.roster.unsubscribe number }
  | emit (value : α) (free : rounds.isFree = true) :
      Passes rounds (.emit value) (launch value rounds.roster.entries rounds)
  | publish (value : α) (free : rounds.isFree = true) :
      Passes rounds (.publish value)
        (launch value rounds.roster.entries
          { rounds with roster := rounds.roster.retain value })
  | call {serial number : Nat} {value : α} {observer : κ} {waiting : List (Nat × κ)}
      {outer : List (Round κ α)}
      (inside : rounds.underWay = ⟨serial, value, (number, observer) :: waiting, false⟩ :: outer) :
      Passes rounds .call
        { rounds with
          underWay := ⟨serial, value, waiting, true⟩ :: outer
          calls := rounds.calls ++ [⟨serial, number, observer, value⟩] }
  | comeBack {serial : Nat} {value : α} {waiting : List (Nat × κ)} {outer : List (Round κ α)}
      (inside : rounds.underWay = ⟨serial, value, waiting, true⟩ :: outer) :
      Passes rounds .comeBack
        { rounds with underWay := ⟨serial, value, waiting, false⟩ :: outer }
  | finish {serial : Nat} {value : α} {outer : List (Round κ α)}
      (inside : rounds.underWay = ⟨serial, value, [], false⟩ :: outer) :
      Passes rounds .finish { rounds with underWay := outer }

theorem passes_of_step {rounds next : Rounds κ α} {move : Move κ α}
    (step : rounds.step move = some next) : Passes rounds move next := by
  cases move with
  | subscribe observer =>
      simp only [Rounds.step] at step
      split at step
      next free =>
        split at step
        next value holds =>
          cases step
          exact .welcome observer value free holds
        next silent =>
          cases step
          exact .subscribe observer free silent
      · cases step
  | unsubscribe number =>
      simp only [Rounds.step] at step
      split at step
      next allowed =>
        cases step
        exact .unsubscribe number allowed.1 allowed.2
      · cases step
  | emit value =>
      simp only [Rounds.step] at step
      split at step
      next free =>
        cases step
        exact .emit value free
      · cases step
  | publish value =>
      simp only [Rounds.step] at step
      split at step
      next free =>
        cases step
        exact .publish value free
      · cases step
  | call =>
      simp only [Rounds.step] at step
      split at step
      next inside =>
        cases step
        exact .call inside
      · cases step
  | comeBack =>
      simp only [Rounds.step] at step
      split at step
      next inside =>
        cases step
        exact .comeBack inside
      · cases step
  | finish =>
      simp only [Rounds.step] at step
      split at step
      next inside =>
        cases step
        exact .finish inside
      · cases step

theorem run_append {rounds : Rounds κ α} (before after : List (Move κ α)) :
    rounds.run (before ++ after) = (rounds.run before).bind fun next => next.run after := by
  induction before generalizing rounds with
  | nil => rfl
  | cons move rest inductionHypothesis =>
      simp only [List.cons_append, run, Option.bind_assoc, inductionHypothesis]

theorem run_singleton {rounds : Rounds κ α} (move : Move κ α) :
    rounds.run [move] = rounds.step move := by
  rw [run]
  exact Option.bind_fun_some _

/-- What every move keeps, every run keeps. -/
theorem run_keeps (Kept : Rounds κ α → Prop) {rounds last : Rounds κ α} {moves : List (Move κ α)}
    (keeps : ∀ rounds move next, Passes rounds move next → Kept rounds → Kept next)
    (kept : Kept rounds) (run : rounds.run moves = some last) : Kept last := by
  induction moves generalizing rounds with
  | nil =>
      cases run
      exact kept
  | cons move rest inductionHypothesis =>
      obtain ⟨next, step, run⟩ := Option.bind_eq_some_iff.mp run
      exact inductionHypothesis (keeps _ _ _ (passes_of_step step) kept) run

/-! ## The roster and its history -/

/-- The rounds agree with the moves that led to them. -/
structure Recorded (current : Option α) (before : List (Move κ α)) (rounds : Rounds κ α) :
    Prop where
  next_eq : rounds.roster.next = (subscribed before).length
  entries_eq : rounds.roster.entries = registered before
  current_eq : rounds.roster.current = retained current before
  given : ∀ number ∈ unsubscribed before, number < (subscribed before).length
  underWay_lt : ∀ round ∈ rounds.underWay, round.serial < rounds.begun
  called_lt : ∀ call ∈ rounds.calls, call.round < rounds.begun

section Recorded

variable {current : Option α} {before : List (Move κ α)} {rounds next : Rounds κ α}
  {move : Move κ α}

/-- A move that does nothing to the roster. -/
theorem Recorded.aside (recorded : Recorded current before rounds)
    (sameRoster : next.roster = rounds.roster) (sameObservers : move.subscribed? = none)
    (sameNumbers : move.unsubscribed? = none) (sameValue : move.published? = none)
    (underWay_lt : ∀ round ∈ next.underWay, round.serial < next.begun)
    (called_lt : ∀ call ∈ next.calls, call.round < next.begun) :
    Recorded current (before ++ [move]) next := by
  have observers : subscribed (before ++ [move]) = subscribed before := by
    simp [subscribed, sameObservers]
  have numbers : unsubscribed (before ++ [move]) = unsubscribed before := by
    simp [unsubscribed, sameNumbers]
  refine ⟨?_, ?_, ?_, ?_, underWay_lt, called_lt⟩
  · rw [sameRoster, observers, recorded.next_eq]
  · rw [sameRoster, registered_of_unchanged sameObservers sameNumbers, recorded.entries_eq]
  · rw [sameRoster, retained_append_singleton, sameValue, recorded.current_eq]
    rfl
  · rw [numbers, observers]
    exact recorded.given

/-- The round that begins has the greatest serial number. -/
theorem Recorded.launched (recorded : Recorded current before rounds) (value : α)
    (audience : List (Nat × κ)) (roster : Roster κ α) :
    (∀ round ∈ (launch value audience { rounds with roster }).underWay,
        round.serial < rounds.begun + 1) ∧
      ∀ call ∈ (launch value audience { rounds with roster }).calls,
        call.round < rounds.begun + 1 := by
  constructor
  · intro round member
    rcases List.mem_cons.mp member with rfl | inside
    · exact Nat.lt_succ_self _
    · exact Nat.lt_succ_of_lt (recorded.underWay_lt round inside)
  · intro call member
    exact Nat.lt_succ_of_lt (recorded.called_lt call member)

theorem Recorded.subscribe (recorded : Recorded current before rounds) (observer : κ)
    (same : next.roster = (rounds.roster.subscribe observer).1)
    (underWay_lt : ∀ round ∈ next.underWay, round.serial < next.begun)
    (called_lt : ∀ call ∈ next.calls, call.round < next.begun) :
    Recorded current (before ++ [.subscribe observer]) next := by
  have observers :
      subscribed (before ++ [Move.subscribe observer]) = subscribed before ++ [observer] :=
    subscribed_append before _
  have numbers : unsubscribed (before ++ [Move.subscribe observer]) = unsubscribed before := by
    rw [unsubscribed_append]
    exact List.append_nil _
  refine ⟨?_, ?_, ?_, ?_, underWay_lt, called_lt⟩
  · rw [same, observers, List.length_append]
    exact congrArg (· + 1) recorded.next_eq
  · rw [same, registered_subscribe observer recorded.given, ← recorded.entries_eq,
      ← recorded.next_eq]
    rfl
  · rw [same, retained_append_singleton]
    exact recorded.current_eq
  · rw [numbers, observers, List.length_append]
    intro number member
    exact Nat.lt_add_right _ (recorded.given number member)

theorem Recorded.passes (recorded : Recorded current before rounds)
    (passes : Passes rounds move next) : Recorded current (before ++ [move]) next := by
  cases passes with
  | subscribe observer free silent =>
      exact recorded.subscribe observer rfl recorded.underWay_lt recorded.called_lt
  | welcome observer value free holds =>
      obtain ⟨underWay_lt, called_lt⟩ := recorded.launched value
        [(rounds.roster.next, observer)] (rounds.roster.subscribe observer).1
      exact recorded.subscribe observer rfl underWay_lt called_lt
  | unsubscribe number free given =>
      have numbers :
          unsubscribed (before ++ [Move.unsubscribe number]) = unsubscribed before ++ [number] :=
        unsubscribed_append before _
      have observers :
          subscribed (before ++ [Move.unsubscribe number]) = subscribed before := by
        rw [subscribed_append]
        exact List.append_nil _
      refine ⟨?_, ?_, ?_, ?_, recorded.underWay_lt, recorded.called_lt⟩
      · rw [observers]
        exact recorded.next_eq
      · rw [registered_unsubscribe, ← recorded.entries_eq]
        rfl
      · rw [retained_append_singleton]
        exact recorded.current_eq
      · rw [numbers, observers]
        intro other member
        rcases List.mem_append.mp member with old | new
        · exact recorded.given other old
        · rw [List.mem_singleton.mp new, ← recorded.next_eq]
          exact given
  | emit value free =>
      obtain ⟨underWay_lt, called_lt⟩ := recorded.launched value rounds.roster.entries
        rounds.roster
      exact recorded.aside rfl rfl rfl rfl underWay_lt called_lt
  | publish value free =>
      obtain ⟨underWay_lt, called_lt⟩ := recorded.launched value rounds.roster.entries
        (rounds.roster.retain value)
      have observers : subscribed (before ++ [Move.publish value]) = subscribed before := by
        rw [subscribed_append]
        exact List.append_nil _
      have numbers : unsubscribed (before ++ [Move.publish value]) = unsubscribed before := by
        rw [unsubscribed_append]
        exact List.append_nil _
      refine ⟨?_, ?_, ?_, ?_, underWay_lt, called_lt⟩
      · rw [observers]
        exact recorded.next_eq
      · rw [registered_of_unchanged rfl rfl]
        exact recorded.entries_eq
      · rw [retained_append_singleton]
        rfl
      · rw [numbers, observers]
        exact recorded.given
  | call inside =>
      have earlier := recorded.underWay_lt
      rw [inside] at earlier
      obtain ⟨first, others⟩ := List.forall_mem_cons.mp earlier
      refine recorded.aside rfl rfl rfl rfl (List.forall_mem_cons.mpr ⟨first, others⟩) ?_
      exact List.forall_mem_append.mpr ⟨recorded.called_lt, List.forall_mem_singleton.mpr first⟩
  | comeBack inside =>
      have earlier := recorded.underWay_lt
      rw [inside] at earlier
      obtain ⟨first, others⟩ := List.forall_mem_cons.mp earlier
      exact recorded.aside rfl rfl rfl rfl (List.forall_mem_cons.mpr ⟨first, others⟩)
        recorded.called_lt
  | finish inside =>
      have earlier := recorded.underWay_lt
      rw [inside] at earlier
      exact recorded.aside rfl rfl rfl rfl (List.forall_mem_cons.mp earlier).2
        recorded.called_lt

theorem recorded_ofCurrent (current : Option α) :
    Recorded current [] (ofCurrent current : Rounds κ α) :=
  ⟨rfl, rfl, rfl, fun _ member => absurd member List.not_mem_nil,
    fun _ member => absurd member List.not_mem_nil,
    fun _ member => absurd member List.not_mem_nil⟩

/-- The rounds agree with their moves after every run. -/
theorem recorded_of_run (run : (ofCurrent current).run before = some rounds) :
    Recorded current before rounds := by
  have goesOn (after : List (Move κ α)) {before : List (Move κ α)} {rounds last : Rounds κ α}
      (recorded : Recorded current before rounds) (run : rounds.run after = some last) :
      Recorded current (before ++ after) last := by
    induction after generalizing before rounds with
    | nil =>
        cases run
        rwa [List.append_nil]
    | cons move rest inductionHypothesis =>
        obtain ⟨next, step, run⟩ := Option.bind_eq_some_iff.mp run
        rw [List.append_cons]
        exact inductionHypothesis (recorded.passes (passes_of_step step)) run
  exact goesOn before (recorded_ofCurrent current) run

end Recorded

/-! ## One round from its beginning to its end -/

def callsTo (serial : Nat) (value : α) (audience : List (Nat × κ)) : List (Call κ α) :=
  audience.map fun entry => ⟨serial, entry.1, entry.2, value⟩

/-- How far a round has come: it is under way inside the outer ones, with calls left to make, or it
has made them all. -/
structure Tracks (serial : Nat) (value : α) (audience : List (Nat × κ))
    (outer : List (Round κ α)) (rounds : Rounds κ α) : Prop where
  begun : serial < rounds.begun
  outside : ∀ round ∈ outer, round.serial < serial
  stands :
    (∃ inner waiting isCalling,
        rounds.underWay = inner ++ ⟨serial, value, waiting, isCalling⟩ :: outer ∧
          (∀ round ∈ inner, serial < round.serial) ∧
          rounds.callsOf serial ++ callsTo serial value waiting =
            callsTo serial value audience) ∨
      (∀ round ∈ rounds.underWay, round.serial ≠ serial) ∧
        rounds.callsOf serial = callsTo serial value audience

section Tracks

variable {serial : Nat} {value : α} {audience : List (Nat × κ)} {outer : List (Round κ α)}
  {rounds next : Rounds κ α} {move : Move κ α}

/-- A round that begins later leaves the tracked one as it is. -/
theorem Tracks.launch (tracks : Tracks serial value audience outer rounds) (news : α)
    (others : List (Nat × κ)) (roster : Roster κ α) :
    Tracks serial value audience outer (launch news others { rounds with roster }) := by
  refine ⟨Nat.lt_succ_of_lt tracks.begun, tracks.outside, ?_⟩
  rcases tracks.stands with ⟨inner, waiting, isCalling, stack, later, calls⟩ | ⟨ended, calls⟩
  · refine Or.inl ⟨⟨rounds.begun, news, others, false⟩ :: inner, waiting, isCalling, ?_, ?_, calls⟩
    · exact congrArg (_ :: ·) stack
    · exact List.forall_mem_cons.mpr ⟨tracks.begun, later⟩
  · exact Or.inr ⟨List.forall_mem_cons.mpr ⟨Nat.ne_of_gt tracks.begun, ended⟩, calls⟩

theorem callsOf_append (roster : Roster κ α) (underWay : List (Round κ α)) (begun : Nat)
    (calls : List (Call κ α)) (call : Call κ α) :
    callsOf serial ⟨roster, underWay, begun, calls ++ [call]⟩ =
      callsOf serial ⟨roster, underWay, begun, calls⟩ ++
        if call.round = serial then [call] else [] := by
  by_cases own : call.round = serial
  · simp [callsOf, List.filter_append, own]
  · simp [callsOf, List.filter_append, own]

/-- The round on top is the tracked one, or one that began inside it, or the tracked one is over. -/
theorem Tracks.top_cases (tracks : Tracks serial value audience outer rounds)
    {top : Round κ α} {below : List (Round κ α)} (inside : rounds.underWay = top :: below) :
    (∃ waiting isCalling, top = ⟨serial, value, waiting, isCalling⟩ ∧ below = outer ∧
        rounds.callsOf serial ++ callsTo serial value waiting = callsTo serial value audience) ∨
      (∃ inner waiting isCalling, below = inner ++ ⟨serial, value, waiting, isCalling⟩ :: outer ∧
        serial < top.serial ∧ (∀ round ∈ inner, serial < round.serial) ∧
        rounds.callsOf serial ++ callsTo serial value waiting = callsTo serial value audience) ∨
      top.serial ≠ serial ∧ (∀ round ∈ below, round.serial ≠ serial) ∧
        rounds.callsOf serial = callsTo serial value audience := by
  rcases tracks.stands with ⟨inner, waiting, isCalling, stack, later, calls⟩ | ⟨ended, calls⟩
  · rw [inside] at stack
    cases inner with
    | nil =>
        obtain ⟨isTop, isBelow⟩ := List.cons.inj stack
        exact Or.inl ⟨waiting, isCalling, isTop, isBelow, calls⟩
    | cons round rest =>
        obtain ⟨rfl, isBelow⟩ := List.cons.inj stack
        obtain ⟨first, others⟩ := List.forall_mem_cons.mp later
        exact Or.inr (Or.inl ⟨rest, waiting, isCalling, isBelow, first, others, calls⟩)
  · rw [inside] at ended
    obtain ⟨first, others⟩ := List.forall_mem_cons.mp ended
    exact Or.inr (Or.inr ⟨first, others, calls⟩)

theorem Tracks.passes (tracks : Tracks serial value audience outer rounds)
    (passes : Passes rounds move next) : Tracks serial value audience outer next := by
  have begun := tracks.begun
  have outside := tracks.outside
  cases passes with
  | subscribe | unsubscribe =>
      exact ⟨begun, outside, tracks.stands⟩
  | welcome observer news free holds =>
      exact tracks.launch news _ _
  | emit news free =>
      exact tracks.launch news _ _
  | publish news free =>
      exact tracks.launch news _ _
  | @call top number news observer left below inside =>
      refine ⟨begun, outside, ?_⟩
      rcases tracks.top_cases inside with ⟨waiting, isCalling, isTop, rfl, calls⟩ |
        ⟨inner, waiting, isCalling, rfl, first, others, calls⟩ | ⟨first, others, calls⟩
      · cases isTop
        refine Or.inl ⟨[], left, true, rfl, fun _ member => absurd member List.not_mem_nil, ?_⟩
        rw [callsOf_append, if_pos rfl, List.append_assoc]
        exact calls
      · refine Or.inl ⟨⟨top, news, left, true⟩ :: inner, waiting, isCalling, rfl,
          List.forall_mem_cons.mpr ⟨first, others⟩, ?_⟩
        rw [callsOf_append, if_neg (Nat.ne_of_gt first), List.append_nil]
        exact calls
      · refine Or.inr ⟨List.forall_mem_cons.mpr ⟨first, others⟩, ?_⟩
        rw [callsOf_append, if_neg first, List.append_nil]
        exact calls
  | @comeBack top news left below inside =>
      refine ⟨begun, outside, ?_⟩
      rcases tracks.top_cases inside with ⟨waiting, isCalling, isTop, rfl, calls⟩ |
        ⟨inner, waiting, isCalling, rfl, first, others, calls⟩ | ⟨first, others, calls⟩
      · cases isTop
        exact Or.inl ⟨[], left, false, rfl, fun _ member => absurd member List.not_mem_nil, calls⟩
      · exact Or.inl ⟨⟨top, news, left, false⟩ :: inner, waiting, isCalling, rfl,
          List.forall_mem_cons.mpr ⟨first, others⟩, calls⟩
      · exact Or.inr ⟨List.forall_mem_cons.mpr ⟨first, others⟩, calls⟩
  | @finish top news below inside =>
      refine ⟨begun, outside, ?_⟩
      rcases tracks.top_cases inside with ⟨waiting, isCalling, isTop, rfl, calls⟩ |
        ⟨inner, waiting, isCalling, rfl, first, others, calls⟩ | ⟨first, others, calls⟩
      · cases isTop
        have ended : ∀ round ∈ below, round.serial ≠ serial := by
          intro round member
          exact Nat.ne_of_lt (outside round member)
        have all : rounds.callsOf serial = callsTo serial value audience := by
          rw [← calls]
          exact (List.append_nil _).symm
        exact Or.inr ⟨ended, all⟩
      · exact Or.inl ⟨inner, waiting, isCalling, rfl, others, calls⟩
      · exact Or.inr ⟨others, calls⟩

/-- A round that begins is tracked from then on. -/
theorem tracks_launch (known : ∀ round ∈ rounds.underWay, round.serial < rounds.begun)
    (silent : ∀ call ∈ rounds.calls, call.round < rounds.begun) (roster : Roster κ α) :
    Tracks rounds.begun value audience rounds.underWay
      (launch value audience { rounds with roster }) := by
  have noCall : callsOf rounds.begun rounds = [] := by
    apply List.filter_eq_nil_iff.mpr
    intro call member own
    exact Nat.ne_of_lt (silent call member) (of_decide_eq_true own)
  refine ⟨Nat.lt_succ_self _, known, Or.inl ⟨[], audience, false, rfl, ?_, ?_⟩⟩
  · exact fun _ member => absurd member List.not_mem_nil
  · exact (congrArg (· ++ _) noCall).trans (List.nil_append _)

/-- Nothing that was under way before a round has a turn until the round has made all its calls. -/
theorem Tracks.all_of_length (tracks : Tracks serial value audience outer rounds)
    (ended : rounds.underWay.length ≤ outer.length) :
    rounds.callsOf serial = callsTo serial value audience := by
  rcases tracks.stands with ⟨inner, waiting, isCalling, stack, _, _⟩ | ⟨_, calls⟩
  · rw [stack, List.length_append, List.length_cons] at ended
    omega
  · exact calls

theorem Tracks.callsOf_prefix (tracks : Tracks serial value audience outer rounds) :
    rounds.callsOf serial <+: callsTo serial value audience := by
  rcases tracks.stands with ⟨_, waiting, _, _, _, calls⟩ | ⟨_, calls⟩
  · exact ⟨callsTo serial value waiting, calls⟩
  · exact calls ▸ List.prefix_rfl

end Tracks

/-! ## What can be relied on -/

/-- The rounds after some moves, with all that may follow. -/
structure Orderly (current : Option α) (before : List (Move κ α)) (rounds : Rounds κ α) :
    Prop where
  /-- Observers are numbered as they subscribe. -/
  next_eq : rounds.roster.next = (subscribed before).length
  entries_eq : rounds.roster.entries = registered before
  inOrder : (registered before).Pairwise (·.1 < ·.1)
  current_eq : rounds.roster.current = retained current before
  /-- A round whose observer has come back can go on. -/
  goesOn :
    rounds.isFree = false → (rounds.step .call).isSome = true ∨ (rounds.step .finish).isSome = true
  /-- An observer that is being called may do anything, and so may anybody while none is. -/
  allows :
    rounds.isFree = true → ∀ observer value number, number < rounds.roster.next →
      (rounds.step (.subscribe observer)).isSome = true ∧
        (rounds.step (.unsubscribe number)).isSome = true ∧
        (rounds.step (.emit value)).isSome = true ∧ (rounds.step (.publish value)).isSome = true
  /-- The other observers stay, in their order. -/
  removes :
    ∀ number next left observer right, rounds.step (.unsubscribe number) = some next →
      registered before = left ++ (number, observer) :: right →
        next.roster.entries = left ++ right
  /-- No calls are made but those of rounds, and rounds begin with certain moves only. -/
  begins :
    ∀ move next, rounds.step move = some next →
      next.begun = rounds.begun + (audience? current before move).toList.length ∧
        (move ≠ .call → next.calls = rounds.calls)
  /-- Whatever happens once a round has begun, it calls its observers in order, and it has called
  them all before anything goes on that was under way. -/
  reaches :
    ∀ move next value audience, rounds.step move = some next →
      audience? current before move = some (value, audience) →
        ∀ after last, next.run after = some last →
          last.callsOf rounds.begun <+: callsTo rounds.begun value audience ∧
            (last.underWay.length ≤ rounds.underWay.length →
              last.callsOf rounds.begun = callsTo rounds.begun value audience) ∧
            ((∃ inner waiting isCalling,
                last.underWay =
                  inner ++ ⟨rounds.begun, value, waiting, isCalling⟩ :: rounds.underWay) ∨
              last.callsOf rounds.begun = callsTo rounds.begun value audience)
  /-- Who was unsubscribed before a round for all is not called, nor who subscribes later. -/
  spares :
    ∀ move next value, move = .emit value ∨ move = .publish value →
      rounds.step move = some next →
        ∀ after last, next.run after = some last →
          ∀ call ∈ last.callsOf rounds.begun,
            call.number ∉ unsubscribed before ∧ call.number < (subscribed before).length

section Orderly

variable {current : Option α} {before : List (Move κ α)} {rounds next last : Rounds κ α}
  {move : Move κ α} {value : α} {audience : List (Nat × κ)}

theorem goesOn_of_waits (waits : rounds.isFree = false) :
    (rounds.step .call).isSome = true ∨ (rounds.step .finish).isSome = true := by
  cases stack : rounds.underWay with
  | nil =>
      rw [isFree, stack] at waits
      cases waits
  | cons round outer =>
      obtain ⟨serial, value, waiting, isCalling⟩ := round
      rw [isFree, stack] at waits
      change isCalling = false at waits
      subst waits
      cases waiting with
      | nil =>
          apply Or.inr
          rw [step, stack]
          rfl
      | cons entry waiting =>
          apply Or.inl
          rw [step, stack]
          rfl

theorem allows_of_free (free : rounds.isFree = true) (observer : κ) (value : α) (number : Nat)
    (given : number < rounds.roster.next) :
    (rounds.step (.subscribe observer)).isSome = true ∧
      (rounds.step (.unsubscribe number)).isSome = true ∧
      (rounds.step (.emit value)).isSome = true ∧ (rounds.step (.publish value)).isSome = true := by
  refine ⟨?_, ?_, ?_, ?_⟩
  · cases holds : rounds.roster.current with
    | none => simp [step, free, Roster.subscribe, holds]
    | some current => simp [step, free, Roster.subscribe, holds]
  · rw [step, if_pos ⟨free, given⟩]
    rfl
  · rw [step, if_pos free]
    rfl
  · rw [step, if_pos free]
    rfl

/-- In a list in the order of its numbers, a number stands for one place. -/
theorem filter_ne_of_inOrder {number : Nat} {observer : κ} {left right : List (Nat × κ)}
    (inOrder : (left ++ (number, observer) :: right).Pairwise (·.1 < ·.1)) :
    (left ++ (number, observer) :: right).filter (·.1 ≠ number) = left ++ right := by
  obtain ⟨_, inRight, across⟩ := List.pairwise_append.mp inOrder
  have less : ∀ entry ∈ left, entry.1 < number :=
    fun entry member => across entry member _ List.mem_cons_self
  have more : ∀ entry ∈ right, number < entry.1 := (List.pairwise_cons.mp inRight).1
  have keptLeft : left.filter (·.1 ≠ number) = left := by
    apply List.filter_eq_self.mpr
    intro entry member
    exact decide_eq_true (Nat.ne_of_lt (less entry member))
  have keptRight : right.filter (·.1 ≠ number) = right := by
    apply List.filter_eq_self.mpr
    intro entry member
    exact decide_eq_true (Nat.ne_of_gt (more entry member))
  rw [List.filter_append, List.filter_cons_of_neg (by simp), keptLeft, keptRight]

theorem Recorded.removes (recorded : Recorded current before rounds) {number : Nat}
    {observer : κ} {left right : List (Nat × κ)}
    (step : rounds.step (.unsubscribe number) = some next)
    (split : registered before = left ++ (number, observer) :: right) :
    next.roster.entries = left ++ right := by
  have passes := passes_of_step step
  cases passes with
  | unsubscribe _ free given =>
      change rounds.roster.entries.filter (·.1 ≠ number) = left ++ right
      rw [recorded.entries_eq, split]
      exact filter_ne_of_inOrder (split ▸ registered_inOrder before)

theorem Recorded.begins (recorded : Recorded current before rounds)
    (step : rounds.step move = some next) :
    next.begun = rounds.begun + (audience? current before move).toList.length ∧
      (move ≠ .call → next.calls = rounds.calls) := by
  have passes := passes_of_step step
  cases passes with
  | subscribe observer free silent =>
      rw [audience?, ← recorded.current_eq, silent]
      exact ⟨rfl, fun _ => rfl⟩
  | welcome observer value free holds =>
      rw [audience?, ← recorded.current_eq, holds]
      exact ⟨rfl, fun _ => rfl⟩
  | unsubscribe | emit | publish | comeBack | finish =>
      exact ⟨rfl, fun _ => rfl⟩
  | call inside =>
      exact ⟨rfl, fun other => absurd rfl other⟩

theorem Recorded.launches (recorded : Recorded current before rounds)
    (step : rounds.step move = some next)
    (begins : audience? current before move = some (value, audience)) :
    ∃ roster, next = launch value audience { rounds with roster } := by
  have passes := passes_of_step step
  cases passes with
  | subscribe observer free silent =>
      rw [audience?, ← recorded.current_eq, silent] at begins
      cases begins
  | welcome observer news free holds =>
      rw [audience?, ← recorded.current_eq, holds, ← recorded.next_eq] at begins
      cases begins
      exact ⟨_, rfl⟩
  | emit news free =>
      cases begins
      exact ⟨rounds.roster, by rw [← recorded.entries_eq]⟩
  | publish news free =>
      cases begins
      exact ⟨_, by rw [← recorded.entries_eq]⟩
  | unsubscribe | call | comeBack | finish => cases begins

theorem Recorded.tracks (recorded : Recorded current before rounds)
    (step : rounds.step move = some next)
    (begins : audience? current before move = some (value, audience))
    {after : List (Move κ α)} (run : next.run after = some last) :
    Tracks rounds.begun value audience rounds.underWay last := by
  obtain ⟨roster, rfl⟩ := recorded.launches step begins
  have tracks : Tracks rounds.begun value audience rounds.underWay
      (launch value audience { rounds with roster }) :=
    tracks_launch recorded.underWay_lt recorded.called_lt roster
  exact run_keeps _ (fun _ _ _ passes tracks => Tracks.passes tracks passes) tracks run

theorem Recorded.orderly (recorded : Recorded current before rounds) :
    Orderly current before rounds where
  next_eq := recorded.next_eq
  entries_eq := recorded.entries_eq
  inOrder := registered_inOrder before
  current_eq := recorded.current_eq
  goesOn := goesOn_of_waits
  allows := allows_of_free
  removes := by
    intro number next left observer right step split
    exact recorded.removes step split
  begins := by
    intro move next step
    exact recorded.begins step
  reaches := by
    intro move next value audience step begins after last run
    have tracks := recorded.tracks step begins run
    refine ⟨tracks.callsOf_prefix, tracks.all_of_length, ?_⟩
    rcases tracks.stands with ⟨inner, waiting, isCalling, stack, _, _⟩ | ⟨_, calls⟩
    · exact Or.inl ⟨inner, waiting, isCalling, stack⟩
    · exact Or.inr calls
  spares := by
    intro move next value isForAll step after last run call member
    have begins : audience? current before move = some (value, registered before) := by
      rcases isForAll with rfl | rfl <;> rfl
    have tracks := recorded.tracks step begins run
    obtain ⟨entry, listed, rfl⟩ := List.mem_map.mp (tracks.callsOf_prefix.subset member)
    exact ⟨notMem_unsubscribed listed, lt_of_registered listed⟩

end Orderly

end Rounds

end Parley.Observer
