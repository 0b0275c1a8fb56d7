import Parley.Proofs.Connection.Fates

/-!
# The ledger of a backlog

Whatever is done to a backlog, nothing that was pushed is lost unnoticed. The main statement is that
the items evicted since the backlog was last emptied, followed by those that it holds, are the items
pushed since then in their order, and that no item is evicted before the backlog is full.
-/

namespace Parley.Connection.Backlog

variable {Item : Type}

inductive Use (Item : Type) where
  | push (item : Item)
  | drain
  /-- A drain that is given up after so many items. -/
  | drainSome (count : Nat)
  | clear

/-- A backlog, with the items that were pushed and those that were evicted since it was last
emptied. -/
structure Ledger (Item : Type) where
  backlog : Backlog Item
  pushed : List Item
  evicted : List Item

namespace Ledger

def ofEmptied (backlog : Backlog Item) : Ledger Item :=
  ⟨backlog, [], []⟩

def enter (ledger : Ledger Item) : Use Item → Ledger Item
  | .push item =>
      { backlog := (ledger.backlog.push item).1
        pushed := ledger.pushed ++ [item]
        evicted := ledger.evicted ++ (ledger.backlog.push item).2.toList }
  | .drain => ofEmptied ledger.backlog.drain.1
  | .drainSome count => ofEmptied (ledger.backlog.drainSome count).1
  | .clear => ofEmptied ledger.backlog.clear

/-- The ledger of a backlog of the requested capacity after several uses. -/
def ofUses (capacity : Nat) (uses : List (Use Item)) : Ledger Item :=
  uses.foldl enter (ofEmptied (.ofCapacity capacity))

/-! ## What every use keeps -/

/-- What was pushed was evicted or is held, and nothing is evicted before the backlog is full. -/
structure Balanced (capacity : Nat) (ledger : Ledger Item) : Prop where
  capacity_eq : ledger.backlog.capacity = max capacity 1
  pushed_eq : ledger.evicted ++ ledger.backlog.items = ledger.pushed
  length_eq : ledger.backlog.items.length = min (max capacity 1) ledger.pushed.length

theorem balanced_ofEmptied
    {capacity : Nat} {backlog : Backlog Item} (capacity_eq : backlog.capacity = max capacity 1)
    (emptied : backlog.items = []) : (ofEmptied backlog).Balanced capacity where
  capacity_eq := capacity_eq
  pushed_eq := emptied
  length_eq := by
    simp [ofEmptied, emptied]

theorem Balanced.push
    {capacity : Nat} {ledger : Ledger Item} (balanced : ledger.Balanced capacity) (item : Item) :
    (ledger.enter (.push item)).Balanced capacity where
  capacity_eq := (push_capacity ledger.backlog item).trans balanced.capacity_eq
  pushed_eq := by
    simp only [enter]
    rw [List.append_assoc, push_conserves, ← List.append_assoc, balanced.pushed_eq]
  length_eq := by
    have capacity_eq := balanced.capacity_eq
    have length_eq := balanced.length_eq
    simp only [enter, Backlog.push, List.length_append, List.length_singleton]
    split
    next hasRoom =>
      simp only [List.length_append, List.length_singleton]
      omega
    next isFull =>
      simp only [List.length_append, List.length_drop, List.length_singleton]
      omega

theorem Balanced.enter
    {capacity : Nat} {ledger : Ledger Item} (balanced : ledger.Balanced capacity)
    (use : Use Item) : (ledger.enter use).Balanced capacity := by
  cases use with
  | push item =>
      exact balanced.push item
  | drain =>
      exact balanced_ofEmptied balanced.capacity_eq rfl
  | drainSome count =>
      exact balanced_ofEmptied balanced.capacity_eq rfl
  | clear =>
      exact balanced_ofEmptied balanced.capacity_eq rfl

/-- The ledger is balanced after any uses of the backlog. -/
theorem balanced_ofUses (capacity : Nat) (uses : List (Use Item)) :
    (ofUses capacity uses).Balanced capacity := by
  -- Any balanced ledger may be the first one, since the uses after the first start from another.
  have goesOn (uses : List (Use Item)) {ledger : Ledger Item}
      (balanced : ledger.Balanced capacity) :
      (uses.foldl Ledger.enter ledger).Balanced capacity := by
    induction uses generalizing ledger with
    | nil =>
        exact balanced
    | cons use rest inductionHypothesis =>
        exact inductionHypothesis (balanced.enter use)
  exact goesOn uses (balanced_ofEmptied rfl rfl)

theorem Balanced.items_eq
    {capacity : Nat} {ledger : Ledger Item} (balanced : ledger.Balanced capacity) :
    ledger.backlog.items = ledger.pushed.drop (ledger.pushed.length - max capacity 1) := by
  have evicted : ledger.evicted.length = ledger.pushed.length - max capacity 1 := by
    have total := congrArg List.length balanced.pushed_eq
    have held := balanced.length_eq
    rw [List.length_append] at total
    omega
  rw [← evicted, ← balanced.pushed_eq, List.drop_left]

end Ledger

/-! ## Conservation -/

/-- Only a full backlog evicts for a new item, and it always does. -/
theorem push_evicts_iff
    {backlog : Backlog Item} (fits : backlog.items.length ≤ backlog.capacity)
    (hasRoom : 0 < backlog.capacity) (item : Item) :
    (backlog.push item).2.isSome = true ↔ backlog.items.length = backlog.capacity := by
  unfold push
  split
  next isShort =>
    simp [Nat.ne_of_lt isShort]
  next isFull =>
    cases items : backlog.items with
    | nil =>
        rw [items] at isFull
        exact absurd hasRoom isFull
    | cons oldest rest =>
        rw [items] at fits isFull
        simp [Nat.le_antisymm fits (Nat.not_lt.mp isFull)]

/-- What a backlog of a requested capacity holds and gives. -/
structure Conserves (capacity : Nat) (ledger : Ledger Item) : Prop where
  pushed_eq : ledger.evicted ++ ledger.backlog.items = ledger.pushed
  /-- The items that are held are the last ones pushed, as many as there is room for. -/
  items_eq :
    ledger.backlog.items = ledger.pushed.drop (ledger.pushed.length - max capacity 1)
  length_eq : ledger.backlog.items.length = min (max capacity 1) ledger.pushed.length
  evicts_iff :
    ∀ item, (ledger.backlog.push item).2.isSome = true ↔
      ledger.backlog.items.length = max capacity 1
  /-- The item that is evicted is the oldest one, and it alone is missing afterwards. -/
  evicts_oldest :
    ∀ item oldest, (ledger.backlog.push item).2 = some oldest →
      ∃ rest, ledger.backlog.items = oldest :: rest ∧
        (ledger.backlog.push item).1.items = rest ++ [item]
  keeps_others :
    ∀ item, (ledger.backlog.push item).2 = none →
      (ledger.backlog.push item).1.items = ledger.backlog.items ++ [item]
  drains :
    ledger.backlog.drain =
      (.ofCapacity capacity, ledger.pushed.drop (ledger.pushed.length - max capacity 1))
  /-- However many items are taken, they are the oldest ones, and none is left. -/
  drainsSome :
    ∀ count, ledger.backlog.drainSome count =
      (.ofCapacity capacity,
        (ledger.pushed.drop (ledger.pushed.length - max capacity 1)).take count)
  clears : ledger.backlog.clear = .ofCapacity capacity

/-- Nothing that is pushed is lost unnoticed, for every capacity and every sequence of uses. -/
theorem uses_conserve (capacity : Nat) (uses : List (Use Item)) :
    Conserves capacity (.ofUses capacity uses) := by
  have balanced := Ledger.balanced_ofUses capacity uses
  obtain ⟨ledger, is⟩ : ∃ ledger : Ledger Item, ledger = .ofUses capacity uses := ⟨_, rfl⟩
  rw [← is] at balanced ⊢
  obtain ⟨capacity_eq, pushed_eq, length_eq⟩ := balanced
  have items_eq := Ledger.Balanced.items_eq ⟨capacity_eq, pushed_eq, length_eq⟩
  have emptied : ledger.backlog.clear = .ofCapacity capacity := by
    rw [clear, capacity_eq]
    rfl
  refine ⟨pushed_eq, items_eq, length_eq, ?_, ?_, ?_, ?_, ?_, emptied⟩
  · intro item
    rw [push_evicts_iff (by omega) (by omega), capacity_eq]
  · intro item oldest evicts
    obtain ⟨_, isOldest⟩ := push_evicts ledger.backlog item evicts
    obtain ⟨rest, items⟩ := List.head?_eq_some_iff.mp isOldest
    have conserved := push_conserves ledger.backlog item
    rw [evicts, items] at conserved
    exact ⟨rest, items, (List.cons.inj conserved).2⟩
  · intro item evictsNone
    have conserved := push_conserves ledger.backlog item
    rw [evictsNone] at conserved
    exact conserved
  · rw [drain, emptied, items_eq]
  · intro count
    rw [drainSome, emptied, items_eq]

/-- A capacity of zero counts as one, and a drain that is given up leaves nothing behind. -/
example :
    let ledger := Ledger.ofUses 0 [.push 1, .push 2, .drainSome 0, .push 3, .push 4, .push 5]
    ledger.pushed = [3, 4, 5] ∧ ledger.evicted = [3, 4] ∧ ledger.backlog.items = [5] := by
  decide

end Parley.Connection.Backlog
