import Parley.Files.Tree

/-!
# Files written and removed

What a path leads to depends on the directories along it alone. Writing or removing a file changes
no directory, so the path still leads to the same place afterwards. Creating directories takes
nothing away, also if it fails halfway.
-/

namespace Parley.Files.Tree

/-! ## Places -/

section Places

variable {tree after : Tree} {place other : Place} {node : Node}

theorem node_nil : tree.node? [] = some .directory :=
  rfl

theorem node_put (inside : place ≠ []) : (tree.put place node).node? place = some node := by
  have notRoot : place.isEmpty = false := by simpa using inside
  simp [node?, put, notRoot]

/-- What stands elsewhere is found among the other entries. -/
theorem find_filter_of_ne (entries : List (Place × Node)) (different : other ≠ place) :
    (entries.filter (·.1 != place)).find? (·.1 == other) = entries.find? (·.1 == other) := by
  rw [List.find?_filter]
  congr 1
  funext entry
  by_cases same : entry.1 = other
  · simp [same, different]
  · simp [same]

theorem node_put_of_ne (different : other ≠ place) :
    (tree.put place node).node? other = tree.node? other := by
  have notHere : (place == other) = false := by simpa using Ne.symm different
  rw [node?, node?, put, List.find?_cons, notHere, find_filter_of_ne tree.nodes different]

theorem node_erase (inside : place ≠ []) : (tree.erase place).node? place = none := by
  have notRoot : place.isEmpty = false := by simpa using inside
  simp [node?, erase, notRoot]

theorem node_erase_of_ne (different : other ≠ place) :
    (tree.erase place).node? other = tree.node? other := by
  rw [node?, node?, erase, find_filter_of_ne tree.nodes different]

theorem ne_nil_of_file {bytes : List UInt8} {mode : Nat}
    (isFile : tree.node? place = some (.file bytes mode)) : place ≠ [] := by
  rintro rfl
  cases isFile

end Places

/-! ## Paths -/

/-- The directories of a tree are directories of another one. -/
def KeepsDirectories (tree after : Tree) : Prop :=
  after.current = tree.current ∧
    ∀ place, tree.node? place = some .directory → after.node? place = some .directory

section Paths

variable {tree after : Tree} {place : Place} {node : Node}

theorem keepsDirectories_put (notDirectory : tree.node? place ≠ some .directory) :
    KeepsDirectories tree (tree.put place node) := by
  refine ⟨rfl, ?_⟩
  intro other isDirectory
  have different : other ≠ place := by
    rintro rfl
    exact notDirectory isDirectory
  rw [node_put_of_ne different]
  exact isDirectory

theorem keepsDirectories_erase (notDirectory : tree.node? place ≠ some .directory) :
    KeepsDirectories tree (tree.erase place) := by
  refine ⟨rfl, ?_⟩
  intro other isDirectory
  have different : other ≠ place := by
    rintro rfl
    exact notDirectory isDirectory
  rw [node_erase_of_ne different]
  exact isDirectory

/-- Names are followed through directories alone. -/
theorem follow_of_keepsDirectories (keeps : KeepsDirectories tree after) {start : Place}
    {names : List String} (followed : tree.follow start names = .ok place) :
    after.follow start names = .ok place := by
  induction names generalizing start with
  | nil => exact followed
  | cons name rest inductionHypothesis =>
      rw [follow] at followed
      split at followed
      · cases followed
      · cases followed
      next isDirectory =>
        rw [follow, keeps.2 start isDirectory]
        split at followed
        next stays =>
          rw [if_pos stays]
          exact inductionHypothesis followed
        next notStays =>
          rw [if_neg notStays]
          split at followed
          next up =>
            rw [if_pos up]
            exact inductionHypothesis followed
          next notUp =>
            rw [if_neg notUp]
            split at followed
            · cases followed
            next short =>
              rw [if_neg short]
              exact inductionHypothesis followed

theorem resolve_of_keepsDirectories (keeps : KeepsDirectories tree after) {path : String}
    (resolved : tree.resolve path = .ok place) : after.resolve path = .ok place := by
  unfold resolve at resolved ⊢
  split at resolved
  · cases resolved
  next noNul =>
    rw [if_neg noNul]
    split at resolved
    · cases resolved
    next notEmpty =>
      rw [if_neg notEmpty]
      split at resolved
      · cases resolved
      next short =>
        rw [if_neg short]
        split at resolved
        next absolute =>
          rw [if_pos absolute]
          exact follow_of_keepsDirectories keeps resolved
        next relative =>
          rw [if_neg relative, keeps.1]
          exact follow_of_keepsDirectories keeps resolved

end Paths

/-! ## Directories -/

/-- What stands in a tree stands in another one. -/
structure Keeps (tree after : Tree) : Prop where
  current : after.current = tree.current
  nodes : ∀ place node, tree.node? place = some node → after.node? place = some node

section Directories

variable {tree between after : Tree} {place : Place} {node : Node}

theorem Keeps.refl (tree : Tree) : Keeps tree tree :=
  ⟨rfl, fun _ _ stands => stands⟩

theorem Keeps.trans (first : Keeps tree between) (second : Keeps between after) :
    Keeps tree after where
  current := second.current.trans first.current
  nodes place node stands := second.nodes place node (first.nodes place node stands)

theorem Keeps.keepsDirectories (keeps : Keeps tree after) : KeepsDirectories tree after :=
  ⟨keeps.current, fun place isDirectory => keeps.nodes place .directory isDirectory⟩

theorem keeps_put (absent : tree.node? place = none) : Keeps tree (tree.put place node) := by
  refine ⟨rfl, ?_⟩
  intro other held stands
  have different : other ≠ place := by
    rintro rfl
    rw [absent] at stands
    cases stands
  rw [node_put_of_ne different]
  exact stands

theorem keeps_createAlong (tree : Tree) (place : Place) (names : List String) :
    Keeps tree (tree.createAlong place names).2 := by
  induction names generalizing tree place with
  | nil => exact Keeps.refl tree
  | cons name rest inductionHypothesis =>
      rw [createAlong]
      split
      · exact inductionHypothesis tree place
      · split
        · exact inductionHypothesis tree place.dropLast
        · split
          · exact Keeps.refl tree
          · cases stands : tree.node? (place ++ [name]) with
            | none =>
                simp only [stands]
                exact (keeps_put stands).trans (inductionHypothesis _ (place ++ [name]))
            | some node =>
                cases node with
                | file bytes mode =>
                    simp only [stands]
                    exact Keeps.refl tree
                | directory =>
                    simp only [stands]
                    exact inductionHypothesis tree (place ++ [name])

/-- Directories are added, also if this fails halfway, and nothing is lost. -/
theorem keeps_layDirectories (tree : Tree) (path : String) :
    Keeps tree (tree.layDirectories path).2 := by
  unfold layDirectories
  split
  · exact Keeps.refl tree
  · split
    · exact Keeps.refl tree
    · split
      · exact keeps_createAlong tree [] (splitPath path)
      · exact keeps_createAlong tree tree.current (splitPath path)

theorem keeps_layAbove (tree : Tree) (path : String) : Keeps tree (tree.layAbove path).2 := by
  unfold layAbove
  split
  next parent _ => exact keeps_layDirectories tree parent
  · exact Keeps.refl tree

end Directories

/-! ## Files -/

/-- The path leads to a file with certain bytes and a certain mode. -/
def HoldsFile (tree : Tree) (path : String) (bytes : List UInt8) (mode : Nat) : Prop :=
  ∃ place, tree.resolve path = .ok place ∧ tree.node? place = some (.file bytes mode)

/-- A private file can be written where the path leads. -/
def Accepts (tree : Tree) (path : String) : Prop :=
  ∃ after, tree.writePrivate path [] = .ok after

section Files

variable {tree after : Tree} {path : String} {bytes : List UInt8} {place : Place} {mode : Nat}

theorem holdsFile_put (resolved : tree.resolve path = .ok place)
    (notDirectory : tree.node? place ≠ some .directory) :
    HoldsFile (tree.put place (.file bytes mode)) path bytes mode := by
  have inside : place ≠ [] := by
    rintro rfl
    exact notDirectory node_nil
  exact ⟨place, resolve_of_keepsDirectories (keepsDirectories_put notDirectory) resolved,
    node_put inside⟩

/-- A file that was written is there with its bytes. -/
theorem holdsFile_write (written : tree.write path bytes = .ok after) :
    ∃ mode, HoldsFile after path bytes mode := by
  cases resolved : tree.resolve path with
  | error refusal => simp [write, resolved, Bind.bind, Except.bind] at written
  | ok place =>
      simp only [write, resolved, Bind.bind, Except.bind] at written
      split at written
      next mode isFile =>
        cases written
        exact ⟨mode, holdsFile_put resolved (by simp [isFile])⟩
      · cases written
      next isNothing =>
        split at written
        · cases written
          exact ⟨createdMode, holdsFile_put resolved (by simp [isNothing])⟩
        · cases written
        · cases written

theorem holdsFile_makePrivate (holds : HoldsFile tree path bytes mode)
    (made : tree.makePrivate path = .ok after) : HoldsFile after path bytes privateMode := by
  obtain ⟨place, resolved, isFile⟩ := holds
  simp only [makePrivate, resolved, Bind.bind, Except.bind, isFile] at made
  cases made
  exact holdsFile_put resolved (by simp [isFile])

theorem HoldsFile.kept (holds : HoldsFile tree path bytes mode) (keeps : Keeps tree after) :
    HoldsFile after path bytes mode := by
  obtain ⟨place, resolved, isFile⟩ := holds
  exact ⟨place, resolve_of_keepsDirectories keeps.keepsDirectories resolved,
    keeps.nodes place _ isFile⟩

theorem HoldsFile.exists_makePrivate (holds : HoldsFile tree path bytes mode) :
    ∃ after, tree.makePrivate path = .ok after := by
  obtain ⟨place, resolved, isFile⟩ := holds
  simp only [makePrivate, resolved, Bind.bind, Except.bind, isFile]
  exact ⟨_, rfl⟩

/-- Whether a file can be written does not depend on its bytes. -/
theorem exists_write (written : tree.write path bytes = .ok after) (others : List UInt8) :
    ∃ filled, tree.write path others = .ok filled := by
  cases resolved : tree.resolve path with
  | error refusal => simp [write, resolved, Bind.bind, Except.bind] at written
  | ok place =>
      simp only [write, resolved, Bind.bind, Except.bind] at written ⊢
      split at written
      · exact ⟨_, rfl⟩
      · cases written
      · split at written
        · exact ⟨_, rfl⟩
        · cases written
        · cases written

theorem writePrivate_eq_ok :
    tree.writePrivate path bytes = .ok after ↔
      ∃ above filled, tree.layAbove path = (.ok (), above) ∧
        above.write path bytes = .ok filled ∧ filled.makePrivate path = .ok after := by
  rcases laid : tree.layAbove path with ⟨outcome, above⟩
  cases outcome with
  | error refusal => simp [writePrivate, laid, ifDone, Except.map, Bind.bind, Except.bind]
  | ok _ =>
      cases written : above.write path bytes with
      | error refusal =>
          simp [writePrivate, laid, written, ifDone, Except.map, Bind.bind, Except.bind]
      | ok filled =>
          simp [writePrivate, laid, written, ifDone, Except.map, Bind.bind, Except.bind]

/-- A file that is written privately holds what was written, and only its owner may read it. -/
theorem holdsFile_writePrivate (written : tree.writePrivate path bytes = .ok after) :
    HoldsFile after path bytes privateMode := by
  obtain ⟨above, filled, -, written, made⟩ := writePrivate_eq_ok.mp written
  obtain ⟨mode, holds⟩ := holdsFile_write written
  exact holdsFile_makePrivate holds made

/-- Where a private file can be written, any bytes can. -/
theorem Accepts.exists_steps (accepts : Accepts tree path) (bytes : List UInt8) :
    ∃ above filled after, tree.layAbove path = (.ok (), above) ∧
      above.write path bytes = .ok filled ∧ filled.makePrivate path = .ok after := by
  obtain ⟨_, written⟩ := accepts
  obtain ⟨above, _, laid, written, -⟩ := writePrivate_eq_ok.mp written
  obtain ⟨filled, written⟩ := exists_write written bytes
  obtain ⟨mode, holds⟩ := holdsFile_write written
  obtain ⟨after, made⟩ := holds.exists_makePrivate
  exact ⟨above, filled, after, laid, written, made⟩

theorem HoldsFile.read (holds : HoldsFile tree path bytes mode) : tree.read path = .ok bytes := by
  obtain ⟨place, resolved, isFile⟩ := holds
  simp only [Tree.read, resolved, Bind.bind, Except.bind, isFile]

theorem HoldsFile.mode_eq (holds : HoldsFile tree path bytes mode) :
    tree.mode? path = some mode := by
  obtain ⟨place, resolved, isFile⟩ := holds
  simp only [mode?, resolved, isFile]

theorem pathExists_of_read (reads : tree.read path = .ok bytes) : tree.pathExists path = true := by
  cases resolved : tree.resolve path with
  | error refusal => simp [read, resolved, Bind.bind, Except.bind] at reads
  | ok place =>
      simp only [read, resolved, Bind.bind, Except.bind] at reads
      split at reads
      next isFile => simp [pathExists, resolved, isFile]
      · cases reads
      · cases reads

theorem readText_of_read {text : List Char} (reads : tree.read path = .ok bytes)
    (decoded : Text.Utf8.decode bytes = .ok text) :
    tree.readText path = .ok (String.ofList text) := by
  simp only [readText, reads, Bind.bind, Except.bind, decoded]

/-- A file that was removed is not there any more. -/
theorem pathExists_of_remove (removed : tree.remove path = .ok after) :
    after.pathExists path = false := by
  cases resolved : tree.resolve path with
  | error refusal => simp [remove, resolved, Bind.bind, Except.bind] at removed
  | ok place =>
      simp only [remove, resolved, Bind.bind, Except.bind] at removed
      split at removed
      next isFile =>
        cases removed
        have notDirectory : tree.node? place ≠ some .directory := by simp [isFile]
        have still := resolve_of_keepsDirectories (keepsDirectories_erase notDirectory) resolved
        simp [pathExists, still, node_erase (ne_nil_of_file isFile)]
      · cases removed
      · cases removed

/-- A file that could not be found is not there. -/
theorem pathExists_of_notFound (missing : tree.remove path = .error .notFound) :
    tree.pathExists path = false := by
  cases resolved : tree.resolve path with
  | error refusal => simp [pathExists, resolved]
  | ok place =>
      simp only [remove, resolved, Bind.bind, Except.bind] at missing
      split at missing
      · cases missing
      · cases missing
      next isNothing => simp [pathExists, resolved, isNothing]

end Files

end Parley.Files.Tree
