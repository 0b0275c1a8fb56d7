import Parley.Proofs.Files.Tree
import Parley.Proofs.Token.Deposit
import Parley.Token.Shelf

/-!
# What stores for one file can be relied on for

A token that a store has saved is what every store finds in the file until the file is changed,
however many stores there are and whatever else is done to the files. What a store holds changes by
what is done to that store alone, and not by what fails.
-/

namespace Parley.Token

/-! ## Loading -/

theorem load_of_read {tree : Files.Tree} {path : String} {deposit : Deposit}
    (proper : deposit.savedAt.IsProper)
    (reads : tree.read path = .ok (Text.Utf8.encode deposit.render.toList)) :
    load tree path = .ok (some deposit) := by
  have isThere := Files.Tree.pathExists_of_read reads
  have text := Files.Tree.readText_of_read reads (Text.Utf8.decode_encode deposit.render.toList)
  rw [String.ofList_toList] at text
  simp [load, isThere, text, Deposit.parse_render proper]

/-- A file that is loaded is absent or holds a deposit. -/
theorem load_eq_ok {tree : Files.Tree} {path : String} {held : Option Deposit}
    (loads : load tree path = .ok held) :
    tree.pathExists path = false ∧ held = none ∨
      ∃ text deposit, tree.readText path = .ok text ∧ Deposit.parse text = .ok deposit ∧
        held = some deposit := by
  unfold load at loads
  split at loads
  next absent =>
    cases loads
    exact Or.inl ⟨by simpa using absent, rfl⟩
  · split at loads
    · cases loads
    next text reads =>
      split at loads
      · cases loads
      next deposit parses =>
        cases loads
        exact Or.inr ⟨text, deposit, reads, parses, rfl⟩

namespace Shelf

variable {shelf next last : Shelf} {deed : Deed} {answer : Except StoreFault Unit}

/-! ## What deeds do -/

/-- The deed leads from the shelf to the next one with an answer. -/
inductive Passes (shelf : Shelf) : Deed → Shelf → Except StoreFault Unit → Prop
  | opened {held : Option Deposit} (loads : load shelf.tree shelf.path = .ok held) :
      Passes shelf .openStore { shelf with stores := shelf.stores ++ [⟨shelf.path, held⟩] } (.ok ())
  | notOpened (fault : StoreFault) : Passes shelf .openStore shelf (.error fault)
  | saved {index : Nat} {store : Store} {tree : Files.Tree} (now : Moment) (token : String)
      (spoiled : Files.Tree) (is : shelf.stores[index]? = some store)
      (written :
        shelf.tree.writePrivate store.path
          (Text.Utf8.encode (Deposit.render ⟨token, now⟩).toList) = .ok tree) :
      Passes shelf (.save index now token spoiled)
        { shelf with
          tree
          stores := shelf.stores.set index { store with held := some ⟨token, now⟩ } }
        (.ok ())
  | notSaved (index : Nat) (now : Moment) (token : String) (spoiled : Files.Tree)
      (fault : StoreFault) :
      Passes shelf (.save index now token spoiled) { shelf with tree := spoiled } (.error fault)
  | cleared {index : Nat} {store : Store} {tree : Files.Tree}
      (is : shelf.stores[index]? = some store)
      (gone :
        shelf.tree.remove store.path = .ok tree ∨
          shelf.tree.remove store.path = .error .notFound ∧ tree = shelf.tree) :
      Passes shelf (.clear index)
        { shelf with tree, stores := shelf.stores.set index { store with held := none } } (.ok ())
  | notCleared {index : Nat} {store : Store} (fault : StoreFault)
      (is : shelf.stores[index]? = some store) :
      Passes shelf (.clear index)
        { shelf with stores := shelf.stores.set index { store with held := none } }
        (.error fault)
  | reloaded {index : Nat} {store : Store} {held : Option Deposit}
      (is : shelf.stores[index]? = some store) (loads : load shelf.tree store.path = .ok held) :
      Passes shelf (.reload index)
        { shelf with stores := shelf.stores.set index { store with held } } (.ok ())
  | notReloaded (index : Nat) (fault : StoreFault) :
      Passes shelf (.reload index) shelf (.error fault)
  | changed (tree : Files.Tree) : Passes shelf (.change tree) { shelf with tree } (.ok ())

theorem passes_of_step (step : shelf.step deed = some (next, answer)) :
    Passes shelf deed next answer := by
  cases deed with
  | openStore =>
      cases loads : load shelf.tree shelf.path with
      | error fault =>
          simp only [Shelf.step, Store.ofPath, loads, Bind.bind, Except.bind] at step
          cases step
          exact .notOpened fault
      | ok held =>
          simp only [Shelf.step, Store.ofPath, loads, Bind.bind, Except.bind] at step
          cases step
          exact .opened loads
  | save index now token spoiled =>
      obtain ⟨store, is, same⟩ := Option.map_eq_some_iff.mp step
      cases written : shelf.tree.writePrivate store.path
          (Text.Utf8.encode (Deposit.render ⟨token, now⟩).toList) with
      | error refusal =>
          simp only [Store.save, written, Bind.bind, Except.bind] at same
          cases same
          exact .notSaved index now token spoiled (.file refusal)
      | ok tree =>
          simp only [Store.save, written, Bind.bind, Except.bind] at same
          cases same
          exact .saved now token spoiled is written
  | clear index =>
      obtain ⟨store, is, same⟩ := Option.map_eq_some_iff.mp step
      cases removed : shelf.tree.remove store.path with
      | ok tree =>
          simp only [Store.clear, removed] at same
          cases same
          exact .cleared is (Or.inl removed)
      | error refusal =>
          simp only [Store.clear, removed] at same
          cases refusal with
          | notFound =>
              cases same
              exact .cleared is (Or.inr ⟨removed, rfl⟩)
          | notDirectory | isDirectory | «exists» | nameTooLong | nulByte | notUtf8 =>
              cases same
              exact .notCleared _ is
  | reload index =>
      obtain ⟨store, is, same⟩ := Option.map_eq_some_iff.mp step
      cases loads : load shelf.tree store.path with
      | error fault =>
          simp only [Store.reload, loads, Bind.bind, Except.bind] at same
          cases same
          exact .notReloaded index fault
      | ok held =>
          simp only [Store.reload, loads, Bind.bind, Except.bind] at same
          cases same
          exact .reloaded is loads
  | change tree =>
      cases step
      exact .changed tree

/-- Only the store to which something is done can come to hold something else. -/
theorem held_of_other (passes : Passes shelf deed next answer) {other : Nat}
    (different : deed.index? ≠ some other) (inside : other < shelf.stores.length) :
    next.held other = shelf.held other ∧ shelf.stores.length ≤ next.stores.length := by
  have elsewhere : ∀ {index : Nat} (store : Store), index ≠ other →
      (shelf.stores.set index store)[other]?.bind (·.held) = shelf.held other := by
    intro index store distinct
    rw [List.getElem?_set_ne distinct]
    rfl
  cases passes with
  | opened loads =>
      refine ⟨?_, by simp⟩
      exact congrArg (Option.bind · _) (List.getElem?_append_left inside)
  | notOpened | notSaved | notReloaded | changed => exact ⟨rfl, Nat.le_refl _⟩
  | saved | cleared | notCleared | reloaded =>
      have distinct := fun same => different (congrArg some same)
      exact ⟨elsewhere _ distinct, by simp⟩

/-- What every deed keeps, any number of them keeps. -/
theorem run_keeps (Kept : Shelf → Prop) {deeds : List Deed}
    (keeps : ∀ shelf, ∀ deed ∈ deeds, ∀ next answer, Passes shelf deed next answer →
      Kept shelf → Kept next)
    (kept : Kept shelf) (run : shelf.run deeds = some last) : Kept last := by
  induction deeds generalizing shelf with
  | nil =>
      cases run
      exact kept
  | cons deed rest inductionHypothesis =>
      obtain ⟨⟨next, answer⟩, step, run⟩ := Option.bind_eq_some_iff.mp run
      obtain ⟨first, others⟩ :=
        List.forall_mem_cons.mp (fun deed member shelf => keeps shelf deed member)
      exact inductionHypothesis (fun shelf deed member => others deed member shelf)
        (first shelf next answer (passes_of_step step) kept) run

/-- Through deeds to other stores, a store holds what it held. -/
theorem held_of_run {deeds : List Deed} {other : Nat}
    (different : ∀ deed ∈ deeds, deed.index? ≠ some other) (inside : other < shelf.stores.length)
    (run : shelf.run deeds = some last) : last.held other = shelf.held other := by
  have kept := run_keeps
    (fun now => now.held other = shelf.held other ∧ other < now.stores.length)
    (fun now deed member next answer passes kept => by
      obtain ⟨same, longer⟩ := held_of_other passes (different deed member) kept.2
      exact ⟨same.trans kept.1, Nat.lt_of_lt_of_le kept.2 longer⟩)
    ⟨rfl, inside⟩ run
  exact kept.1

/-! ## The path of the stores -/

/-- All stores are for the path of the shelf. -/
structure Aligned (path : String) (shelf : Shelf) : Prop where
  path_eq : shelf.path = path
  storePath_eq : ∀ store ∈ shelf.stores, store.path = path

section Aligned

variable {path : String}

theorem Aligned.set (aligned : Aligned path shelf) {index : Nat} {store : Store}
    (is : shelf.stores[index]? = some store) (held : Option Deposit) (tree : Files.Tree) :
    Aligned path { shelf with tree, stores := shelf.stores.set index { store with held } } := by
  refine ⟨aligned.path_eq, ?_⟩
  intro other member
  rcases List.mem_or_eq_of_mem_set member with old | rfl
  · exact aligned.storePath_eq other old
  · exact aligned.storePath_eq store (List.mem_of_getElem? is)

theorem Aligned.passes (aligned : Aligned path shelf) (passes : Passes shelf deed next answer) :
    Aligned path next := by
  cases passes with
  | opened loads =>
      refine ⟨aligned.path_eq, List.forall_mem_append.mpr ⟨aligned.storePath_eq, ?_⟩⟩
      exact List.forall_mem_singleton.mpr aligned.path_eq
  | notOpened | notReloaded => exact aligned
  | notSaved | changed => exact ⟨aligned.path_eq, aligned.storePath_eq⟩
  | saved now token spoiled is written => exact aligned.set is _ _
  | cleared is gone => exact aligned.set is _ _
  | notCleared fault is => exact aligned.set is _ _
  | reloaded is loads => exact aligned.set is _ _

/-- All stores stay those of the path through any deeds. -/
theorem Aligned.run (aligned : Aligned path shelf) {deeds : List Deed}
    (run : shelf.run deeds = some last) : Aligned path last :=
  run_keeps _ (fun _ _ _ _ _ passes aligned => Aligned.passes aligned passes) aligned run

end Aligned

/-! ## What can be relied on -/

/-- A shelf of stores for a path, with all that may be done next. -/
structure Reliable (path : String) (shelf : Shelf) : Prop where
  /-- A token that was saved is handed out and is in the file, which is private. As long as the file
  reads the same, whatever else was done, every store that loads it holds the token with its
  moment. -/
  saves :
    ∀ index now token spoiled next, now.IsProper →
      shelf.step (.save index now token spoiled) = some (next, .ok ()) →
        next.held index = some ⟨token, now⟩ ∧
        next.current index = (if token = "" then none else some token) ∧
        next.tree.mode? path = some Files.privateMode ∧
        (∃ text, next.tree.readText path = .ok text ∧ Deposit.parse text = .ok ⟨token, now⟩) ∧
        ∀ deeds last, next.run deeds = some last → last.tree.read path = next.tree.read path →
          (∃ final, last.step .openStore = some (final, .ok ()) ∧
            final.held last.stores.length = some ⟨token, now⟩ ∧
            final.current last.stores.length = next.current index) ∧
          ∀ other < last.stores.length, ∃ final, last.step (.reload other) = some (final, .ok ()) ∧
            final.held other = some ⟨token, now⟩ ∧ final.current other = next.current index
  /-- A save or a reload that fails changes no store, nor does opening one. -/
  fails :
    ∀ deed next fault, (∀ index, deed ≠ .clear index) →
      shelf.step deed = some (next, .error fault) → next.stores = shelf.stores
  /-- Nothing is held after clearing in any case, and no file is left if it went well. -/
  clears :
    ∀ index next answer, shelf.step (.clear index) = some (next, answer) →
      next.held index = none ∧ (answer = .ok () → next.tree.pathExists path = false)
  /-- A reload that goes well holds what the file decodes to, or nothing if there is no file. -/
  reloads :
    ∀ index next, shelf.step (.reload index) = some (next, .ok ()) →
      shelf.tree.pathExists path = false ∧ next.held index = none ∨
        ∃ text deposit, shelf.tree.readText path = .ok text ∧ Deposit.parse text = .ok deposit ∧
          next.held index = some deposit
  /-- Opening and reloading leave the files alone. -/
  reads :
    ∀ deed next answer, deed = .openStore ∨ (∃ index, deed = .reload index) →
      shelf.step deed = some (next, answer) → next.tree = shelf.tree
  /-- Whatever is done to other stores and to the files, a store holds what it held. -/
  spares :
    ∀ deeds last other, (∀ deed ∈ deeds, deed.index? ≠ some other) → other < shelf.stores.length →
      shelf.run deeds = some last → last.held other = shelf.held other

section Reliable

variable {path : String}

theorem held_set {index : Nat} {store : Store} (is : shelf.stores[index]? = some store)
    (held : Option Deposit) (tree : Files.Tree) :
    Shelf.held { shelf with tree, stores := shelf.stores.set index { store with held } } index =
      held := by
  have inside : index < shelf.stores.length := (List.getElem?_eq_some_iff.mp is).1
  rw [Shelf.held, List.getElem?_set_self inside]
  rfl

theorem current_eq (index : Nat) :
    shelf.current index = present ((shelf.held index).map (·.token)) := by
  rw [current, Shelf.held]
  cases shelf.stores[index]? with
  | none => rfl
  | some store => rfl

theorem step_openStore {held : Option Deposit} (loads : load shelf.tree shelf.path = .ok held) :
    shelf.step .openStore =
      some ({ shelf with stores := shelf.stores ++ [⟨shelf.path, held⟩] }, .ok ()) := by
  simp only [step, Store.ofPath, loads, Bind.bind, Except.bind]

theorem step_reload {index : Nat} {store : Store} {held : Option Deposit}
    (is : shelf.stores[index]? = some store) (loads : load shelf.tree store.path = .ok held) :
    shelf.step (.reload index) =
      some ({ shelf with stores := shelf.stores.set index { store with held } }, .ok ()) := by
  simp only [step, is, Option.map_some, Store.reload, loads, Bind.bind, Except.bind]

/-- A store that loads a deposit hands out its token. -/
theorem Aligned.loads (aligned : Aligned path shelf) (deposit : Deposit)
    (proper : deposit.savedAt.IsProper)
    (reads : shelf.tree.read path = .ok (Text.Utf8.encode deposit.render.toList)) :
    (∃ final, shelf.step .openStore = some (final, .ok ()) ∧
      final.held shelf.stores.length = some deposit) ∧
    ∀ other < shelf.stores.length, ∃ final, shelf.step (.reload other) = some (final, .ok ()) ∧
      final.held other = some deposit := by
  have loads := load_of_read proper reads
  refine ⟨⟨_, step_openStore (by rw [aligned.path_eq]; exact loads), ?_⟩, ?_⟩
  · rw [Shelf.held, List.getElem?_concat_length]
    rfl
  · intro other inside
    have is : shelf.stores[other]? = some shelf.stores[other] := List.getElem?_eq_getElem inside
    have samePath := aligned.storePath_eq _ (List.mem_of_getElem? is)
    exact ⟨_, step_reload is (by rw [samePath]; exact loads), held_set is _ _⟩

theorem Aligned.reliable (aligned : Aligned path shelf) : Reliable path shelf where
  saves := by
    intro index now token spoiled next proper step
    have aligned' := aligned.passes (passes_of_step step)
    have passes := passes_of_step step
    cases passes with
    | @saved _ _ tree _ _ _ is written =>
        have samePath := aligned.storePath_eq _ (List.mem_of_getElem? is)
        rw [samePath] at written
        have holds := Files.Tree.holdsFile_writePrivate written
        have held := held_set is (some ⟨token, now⟩) tree
        have text := Files.Tree.readText_of_read holds.read (Text.Utf8.decode_encode _)
        refine ⟨held, ?_, holds.mode_eq, ⟨_, text, ?_⟩, ?_⟩
        · rw [current_eq, held]
          exact present_some token
        · rw [String.ofList_toList]
          exact Deposit.parse_render proper
        · intro deeds last run sameRead
          obtain ⟨opened, reloaded⟩ := (aligned'.run run).loads ⟨token, now⟩ proper
            (sameRead.trans holds.read)
          refine ⟨?_, ?_⟩
          · obtain ⟨final, step, holds⟩ := opened
            exact ⟨final, step, holds, by rw [current_eq, current_eq, holds, held]⟩
          · intro other inside
            obtain ⟨final, step, holds⟩ := reloaded other inside
            exact ⟨final, step, holds, by rw [current_eq, current_eq, holds, held]⟩
  fails := by
    intro deed next fault notClear step
    have passes := passes_of_step step
    cases passes with
    | notOpened | notSaved | notReloaded => rfl
    | notCleared => exact absurd rfl (notClear _)
  clears := by
    intro index next answer step
    have passes := passes_of_step step
    cases passes with
    | cleared is gone =>
        refine ⟨held_set is none _, fun _ => ?_⟩
        rw [aligned.storePath_eq _ (List.mem_of_getElem? is)] at gone
        rcases gone with removed | ⟨missing, rfl⟩
        · exact Files.Tree.pathExists_of_remove removed
        · exact Files.Tree.pathExists_of_notFound missing
    | notCleared fault is =>
        refine ⟨held_set is none _, ?_⟩
        intro good
        cases good
  reloads := by
    intro index next step
    have passes := passes_of_step step
    cases passes with
    | @reloaded _ _ loaded is loads =>
        rw [aligned.storePath_eq _ (List.mem_of_getElem? is)] at loads
        have held := held_set is loaded shelf.tree
        rcases load_eq_ok loads with ⟨absent, rfl⟩ | ⟨text, deposit, reads, parses, rfl⟩
        · exact Or.inl ⟨absent, held⟩
        · exact Or.inr ⟨text, deposit, reads, parses, held⟩
  reads := by
    intro deed next answer isReading step
    have passes := passes_of_step step
    rcases isReading with rfl | ⟨index, rfl⟩
    · cases passes <;> rfl
    · cases passes <;> rfl
  spares := by
    intro deeds last other different inside run
    exact held_of_run different inside run

end Reliable

/-- However many stores there are for a path, and whatever was done to them and to the files. -/
theorem stores_keep_tokens (path : String) (tree : Files.Tree) (deeds : List Deed)
    (run : (ofFiles path tree).run deeds = some shelf) : Reliable path shelf := by
  have aligned : Aligned path (ofFiles path tree) :=
    ⟨rfl, fun _ member => absurd member List.not_mem_nil⟩
  exact (aligned.run run).reliable

/-- A token with a quote in it, saved at a moment with nanoseconds, is what a store holds that is
opened after that. -/
theorem saved_token_is_reopened :
    ∃ shelf next final now,
      (ofFiles "t" ⟨[], []⟩).run [.openStore] = some shelf ∧
        shelf.step (.save 0 now "a\"b" ⟨[], []⟩) = some (next, .ok ()) ∧
        next.step .openStore = some (final, .ok ()) ∧ final.held 1 = some ⟨"a\"b", now⟩ ∧
        next.tree.mode? "t" = some 0o600 := by
  have opened :
      (ofFiles "t" ⟨[], []⟩).run [.openStore] = some ⟨"t", ⟨[], []⟩, [⟨"t", none⟩]⟩ := rfl
  have reliable := stores_keep_tokens "t" ⟨[], []⟩ [.openStore] opened
  have proper := Moment.isProper_ofNanoseconds 1700000000123456789 (by decide)
  obtain ⟨held, _, isPrivate, _, loads⟩ :=
    reliable.saves 0 (.ofNanoseconds 1700000000123456789) "a\"b" ⟨[], []⟩ _ proper rfl
  obtain ⟨⟨final, step, holds, _⟩, _⟩ := loads [] _ rfl rfl
  exact ⟨_, _, final, _, opened, rfl, step, holds, isPrivate⟩

end Shelf

end Parley.Token
