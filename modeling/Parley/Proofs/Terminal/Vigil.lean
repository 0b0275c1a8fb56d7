import Parley.Proofs.Connection.Halting
import Parley.Terminal.Vigil

/-!
# Vigils and refused tokens

A client that was refused dials again only when it takes a command to start over. Such a command is
posted for a line that asks for it, or as the token file has brought another token, and the latter
no more often than the file has come to hold one.
-/

namespace Parley.Terminal

open Connection (Command Controller Effect Setup Turn)

/-! ## Entries -/

theorem Entry.startOver_mem_commands_iff
    {backend session : Option String} {files : Files.Tree} {entry : Entry} :
    .startOver ∈ entry.commands backend session files ↔ entry = .reconnect := by
  cases entry with
  | image path text =>
      cases pictured : readImage files path <;> simp [commands, pictured]
  | _ =>
      simp [commands]

theorem Entry.connect_notMem_commands
    {backend session asked : Option String} {files : Files.Tree} {entry : Entry} :
    .connect asked ∉ entry.commands backend session files := by
  cases entry with
  | image path text =>
      cases pictured : readImage files path <;> simp [commands, pictured]
  | _ =>
      simp [commands]

namespace TokenSource

/-- A store that is chosen holds what is in its file. -/
theorem load_of_choose {files : Files.Tree} {given : List String} {path : String}
    {store : Token.Store} (chosen : choose files given path = .ok (.stored store)) :
    Token.load files store.path = .ok store.held := by
  unfold choose at chosen
  split at chosen
  · cases chosen
  · split at chosen
    next opened opens =>
      cases chosen
      cases loads : Token.load files path with
      | error fault =>
          simp [Token.Store.ofPath, loads, Bind.bind, Except.bind] at opens
      | ok held =>
          simp only [Token.Store.ofPath, loads, Bind.bind, Except.bind] at opens
          cases opens
          exact loads
    · cases chosen

theorem reread_of_error {store : Token.Store} {fault : Token.StoreFault} {files : Files.Tree}
    (fails : Token.load files store.path = .error fault) :
    (TokenSource.stored store).reread files = (.stored store, false) := by
  simp [reread, Token.Store.reload, fails, Bind.bind, Except.bind]

theorem reread_of_ok {store : Token.Store} {held : Option Token.Deposit} {files : Files.Tree}
    (loads : Token.load files store.path = .ok held) :
    (TokenSource.stored store).reread files =
      (.stored { store with held },
        (Token.present (held.map (·.token))).isSome &&
          Token.present (held.map (·.token)) != store.current) := by
  simp [reread, Token.Store.reload, loads, Bind.bind, Except.bind, Token.Store.current]

end TokenSource

namespace Vigil

variable {setup : Setup} {vigil middle next last : Vigil} {move : Move} {moves : List Move}

/-! ## Single moves -/

/-- The token file holds a token, and it is not the one at hand. -/
def BringsToken (vigil : Vigil) : Prop :=
  ∃ store deposit, vigil.tokenSource = .stored store ∧
    Token.load vigil.files store.path = .ok (some deposit) ∧
    deposit.token ≠ "" ∧ store.current ≠ some deposit.token

theorem reread_iff :
    (vigil.tokenSource.reread vigil.files).2 = true ↔ vigil.BringsToken := by
  unfold BringsToken
  cases source : vigil.tokenSource with
  | constant token =>
      simp [TokenSource.reread]
  | stored store =>
      cases loads : Token.load vigil.files store.path with
      | error fault =>
          rw [TokenSource.reread_of_error loads]
          constructor
          · intro is
            cases is
          · rintro ⟨other, deposit, ⟨⟩, found, _⟩
            rw [loads] at found
            cases found
      | ok held =>
          rw [TokenSource.reread_of_ok loads, Bool.and_eq_true, bne_iff_ne,
            Option.isSome_iff_exists]
          constructor
          · rintro ⟨⟨token, is⟩, other⟩
            rw [is] at other
            obtain ⟨kept, filled⟩ := Token.present_eq_some_iff.mp is
            obtain ⟨deposit, rfl, rfl⟩ := Option.map_eq_some_iff.mp kept
            exact ⟨store, deposit, rfl, loads, filled, other.symm⟩
          · rintro ⟨_, deposit, ⟨⟩, found, filled, other⟩
            rw [loads] at found
            cases found
            have is : Token.present ((some deposit).map (·.token)) = some deposit.token :=
              Token.present_eq_some_iff.mpr ⟨rfl, filled⟩
            rw [is]
            exact ⟨⟨_, rfl⟩, other.symm⟩

theorem mem_postings_iff {posting : Posting} :
    posting ∈ vigil.postings move ↔
      (∃ text session, move = .line text session ∧ posting.origin = .line ∧
        posting.command ∈ (Entry.ofLine text).commands vigil.backend session vigil.files) ∨
      (move = .notice ∧ vigil.BringsToken ∧ posting = ⟨.newToken, .startOver⟩) := by
  cases move with
  | line text session =>
      constructor
      · intro member
        obtain ⟨command, inCommands, rfl⟩ := List.mem_map.mp member
        exact Or.inl ⟨text, session, rfl, rfl, inCommands⟩
      · rintro (⟨_, _, ⟨⟩, origin, inCommands⟩ | ⟨⟨⟩, _⟩)
        exact List.mem_map.mpr ⟨posting.command, inCommands, by rw [← origin]⟩
  | notice =>
      rw [postings]
      by_cases brings : vigil.BringsToken
      · rw [if_pos (reread_iff.mpr brings)]
        simp [brings]
      · rw [if_neg (mt reread_iff.mp brings)]
        simp [brings]
  | _ =>
      simp [postings]

def sourceAfter (vigil : Vigil) : Move → TokenSource
  | .notice => (vigil.tokenSource.reread vigil.files).1
  | _ => vigil.tokenSource

structure Steps (setup : Setup) (vigil : Vigil) (move : Move) (next : Vigil) : Prop where
  queue_eq : vigil.posted ++ vigil.postings move = vigil.taken move ++ next.posted
  controller_eq :
    next.controller = Controller.after setup (vigil.turn? move).toList vigil.controller
  timely : Controller.isTimely setup (vigil.turn? move).toList vigil.controller = true
  heard : ∀ turn, vigil.turn? move = some turn →
    turn.stimulus.isCommand = false ∨
      ∃ posting ∈ vigil.taken move, turn.stimulus = .command posting.command
  files_eq : next.files = move.files?.getD vigil.files
  tokenSource_eq : next.tokenSource = vigil.sourceAfter move

theorem steps_of_step (step : vigil.step setup move = some next) : Steps setup vigil move next := by
  cases move with
  | change files =>
      cases step
      exact ⟨by simp [postings, taken], rfl, rfl, nofun, rfl, rfl⟩
  | line text session =>
      rw [Vigil.step] at step
      split at step
      · cases step
      · split at step
        next quits =>
          cases step
          exact ⟨by simp [postings, taken, quits, Entry.commands], rfl, rfl, nofun, rfl, rfl⟩
        · cases step
          exact ⟨rfl, rfl, rfl, nofun, rfl, rfl⟩
  | leave =>
      cases step
      exact ⟨by simp [postings, taken], rfl, rfl, nofun, rfl, rfl⟩
  | notice =>
      rw [Vigil.step] at step
      split at step
      · cases step
      · cases step
        exact ⟨rfl, rfl, rfl, nofun, rfl, rfl⟩
  | take around =>
      rw [Vigil.step] at step
      split at step
      · cases step
      next posting rest posted =>
        cases step
        exact {
          queue_eq := by
            simp [postings, taken, posted]
          controller_eq := by
            simp [turn?, posted, Controller.after]
          timely := by
            simp [turn?, posted, Controller.isTimely, Controller.canTake]
          heard := by
            intro turn is
            rw [turn?, posted] at is
            cases is
            exact Or.inr ⟨posting, by simp [taken, posted], rfl⟩
          files_eq := rfl
          tokenSource_eq := rfl }
  | hear turn =>
      rw [Vigil.step] at step
      split at step
      next possible =>
        cases step
        exact {
          queue_eq := by
            simp [postings, taken]
          controller_eq := rfl
          timely := by
            simp [turn?, Controller.isTimely, possible.2]
          heard := by
            rintro _ ⟨⟩
            exact Or.inl possible.1
          files_eq := rfl
          tokenSource_eq := rfl }
      · cases step

/-! ## Runs -/

theorem run_cons {rest : List Move} :
    vigil.run setup (move :: rest) = some last ↔
      ∃ next, vigil.step setup move = some next ∧ next.run setup rest = some last :=
  Option.bind_eq_some_iff

theorem run_append {first second : List Move} :
    vigil.run setup (first ++ second) = some last ↔
      ∃ middle, vigil.run setup first = some middle ∧ middle.run setup second = some last := by
  induction first generalizing vigil with
  | nil =>
      simp [run]
  | cons move rest inductionHypothesis =>
      rw [List.cons_append, run_cons]
      constructor
      · rintro ⟨next, step, ran⟩
        obtain ⟨middle, early, late⟩ := inductionHypothesis.mp ran
        exact ⟨middle, run_cons.mpr ⟨next, step, early⟩, late⟩
      · rintro ⟨middle, early, late⟩
        obtain ⟨next, step, ran⟩ := run_cons.mp early
        exact ⟨next, step, inductionHypothesis.mpr ⟨middle, ran, late⟩⟩

section ReadOff

variable {Item : Type} {look : Vigil → Move → List Item} {item : Item}

theorem readOff_cons {rest : List Move} (step : vigil.step setup move = some next) :
    vigil.readOff setup look (move :: rest) = look vigil move ++ next.readOff setup look rest := by
  rw [readOff, step]

theorem readOff_append {first second : List Move} (ran : vigil.run setup first = some middle) :
    vigil.readOff setup look (first ++ second) =
      vigil.readOff setup look first ++ middle.readOff setup look second := by
  induction first generalizing vigil with
  | nil =>
      cases ran
      rfl
  | cons move rest inductionHypothesis =>
      obtain ⟨next, step, restRan⟩ := run_cons.mp ran
      rw [List.cons_append, readOff_cons step, readOff_cons step, inductionHypothesis restRan,
        List.append_assoc]

/-- What is read off a run is read off one of its moves. -/
theorem mem_readOff (ran : vigil.run setup moves = some last)
    (member : item ∈ vigil.readOff setup look moves) :
    ∃ before move rest middle next, moves = before ++ move :: rest ∧
      vigil.run setup before = some middle ∧ middle.step setup move = some next ∧
      item ∈ look middle move := by
  induction moves generalizing vigil with
  | nil =>
      cases member
  | cons move rest inductionHypothesis =>
      obtain ⟨next, step, restRan⟩ := run_cons.mp ran
      rw [readOff_cons step] at member
      rcases List.mem_append.mp member with here | later
      · exact ⟨[], move, rest, vigil, next, rfl, rfl, step, here⟩
      · obtain ⟨before, other, after, middle, final, rfl, early, otherStep, inLook⟩ :=
          inductionHypothesis restRan later
        exact ⟨move :: before, other, after, middle, final, rfl,
          run_cons.mpr ⟨next, step, early⟩, otherStep, inLook⟩

/-- What is read off a move is read off every run with that move. -/
theorem mem_readOff_of_mem {before rest : List Move} (ran : vigil.run setup before = some middle)
    (member : item ∈ look middle move) :
    item ∈ vigil.readOff setup look (before ++ move :: rest) := by
  rw [readOff_append ran, readOff]
  exact List.mem_append_right _ (List.mem_append_left _ member)

end ReadOff

/-- What was posted is taken in order. -/
theorem queue_run (ran : vigil.run setup moves = some last) :
    vigil.posted ++ vigil.readOff setup postings moves =
      vigil.readOff setup taken moves ++ last.posted := by
  induction moves generalizing vigil with
  | nil =>
      cases ran
      simp [readOff]
  | cons move rest inductionHypothesis =>
      obtain ⟨next, step, restRan⟩ := run_cons.mp ran
      rw [readOff_cons step, readOff_cons step, ← List.append_assoc,
        (steps_of_step step).queue_eq, List.append_assoc, inductionHypothesis restRan,
        List.append_assoc]

theorem controller_run (ran : vigil.run setup moves = some last) :
    last.controller = Controller.after setup (vigil.turns setup moves) vigil.controller ∧
      Controller.isTimely setup (vigil.turns setup moves) vigil.controller = true := by
  induction moves generalizing vigil with
  | nil =>
      cases ran
      exact ⟨rfl, rfl⟩
  | cons move rest inductionHypothesis =>
      obtain ⟨next, step, restRan⟩ := run_cons.mp ran
      obtain ⟨lastIs, restTimely⟩ := inductionHypothesis restRan
      have steps := steps_of_step step
      rw [turns, readOff_cons step, Controller.after_append, Controller.isTimely_append,
        ← steps.controller_eq]
      exact ⟨lastIs, steps.timely, restTimely⟩

/-- Every turn of the client in a run is one that it hears, or one in which it takes a command. -/
theorem turns_run (ran : vigil.run setup moves = some last) {turn : Turn String}
    (member : turn ∈ vigil.turns setup moves) :
    turn.stimulus.isCommand = false ∨
      ∃ posting ∈ vigil.readOff setup taken moves, turn.stimulus = .command posting.command := by
  obtain ⟨before, move, rest, middle, next, rfl, early, step, is⟩ := mem_readOff ran member
  rcases (steps_of_step step).heard turn (Option.mem_toList.mp is) with unasked | asked
  · exact Or.inl unasked
  · obtain ⟨posting, inTaken, same⟩ := asked
    exact Or.inr ⟨posting, mem_readOff_of_mem early inTaken, same⟩

/-! ## Tokens -/

theorem news_self (token : Option String) : news token token = 0 := by
  simp [news]

/-- What is news to somebody is news to those who know better or was news to them before. -/
theorem news_le_add (token known other : Option String) :
    news token other ≤ news token known + news known other := by
  unfold news
  by_cases same : token = known
  · subst same
    exact Nat.le_add_left _ _
  · split
    next differs =>
      rw [if_pos ⟨differs.1, same⟩]
      exact Nat.le_add_right 1 _
    · exact Nat.zero_le _

theorem arrivals_of_error {path : String} {known : Option String} {files : Files.Tree}
    {rest : List Files.Tree} {fault : Token.StoreFault}
    (fails : Token.load files path = .error fault) :
    arrivals path known (files :: rest) = arrivals path known rest := by
  rw [arrivals, fails]

theorem arrivals_of_ok {path : String} {known : Option String} {files : Files.Tree}
    {rest : List Files.Tree} {held : Option Token.Deposit}
    (loads : Token.load files path = .ok held) :
    arrivals path known (files :: rest) =
      news (Token.present (held.map (·.token))) known +
        arrivals path (Token.present (held.map (·.token))) rest := by
  rw [arrivals, loads]

/-- The postings that are there because of a new token. -/
def countNew (postings : List Posting) : Nat :=
  postings.countP (·.origin = .newToken)

theorem countNew_append (first second : List Posting) :
    countNew (first ++ second) = countNew first + countNew second :=
  List.countP_append

theorem countNew_postings_of_ne (other : move ≠ .notice) : countNew (vigil.postings move) = 0 := by
  apply List.countP_eq_zero.mpr
  intro posting member
  rcases mem_postings_iff.mp member with ⟨text, session, _, origin, _⟩ | ⟨same, _⟩
  · simp [origin]
  · exact absurd same other

theorem postings_of_error {store : Token.Store} {fault : Token.StoreFault}
    (source : vigil.tokenSource = .stored store)
    (fails : Token.load vigil.files store.path = .error fault) : vigil.postings .notice = [] := by
  rw [postings, source, TokenSource.reread_of_error fails]
  rfl

theorem countNew_postings_of_error {store : Token.Store} {fault : Token.StoreFault}
    (source : vigil.tokenSource = .stored store)
    (fails : Token.load vigil.files store.path = .error fault) :
    countNew (vigil.postings .notice) = 0 := by
  rw [postings_of_error source fails]
  rfl

theorem countNew_postings_of_ok {store : Token.Store} {held : Option Token.Deposit}
    (source : vigil.tokenSource = .stored store)
    (loads : Token.load vigil.files store.path = .ok held) :
    countNew (vigil.postings .notice) =
      news (Token.present (held.map (·.token))) store.current := by
  rw [postings, source, TokenSource.reread_of_ok loads, news]
  by_cases isNew :
      (Token.present (held.map (·.token))).isSome = true ∧
        Token.present (held.map (·.token)) ≠ store.current
  · simp [isNew, countNew]
  · rw [if_neg isNew, if_neg (by simpa using isNew)]
    rfl

theorem constant_run {token : String} (constant : vigil.tokenSource = .constant token)
    (ran : vigil.run setup moves = some last) : last.tokenSource = .constant token := by
  induction moves generalizing vigil with
  | nil =>
      cases ran
      exact constant
  | cons move rest inductionHypothesis =>
      obtain ⟨next, step, restRan⟩ := run_cons.mp ran
      apply inductionHypothesis _ restRan
      rw [(steps_of_step step).tokenSource_eq]
      cases move with
      | notice =>
          rw [sourceAfter, constant]
          rfl
      | _ =>
          exact constant

/-- What is posted because of a new token was news to the store at the start, or came with the file
since then. -/
theorem countNew_run {store : Token.Store} {known : Option String}
    (source : vigil.tokenSource = .stored store)
    (reads : ∀ held, Token.load vigil.files store.path = .ok held →
      Token.present (held.map (·.token)) = known)
    (ran : vigil.run setup moves = some last) :
    countNew (vigil.readOff setup postings moves) ≤
      news known store.current + arrivals store.path known (moves.filterMap Move.files?) := by
  induction moves generalizing vigil store known with
  | nil =>
      exact Nat.zero_le _
  | cons move rest inductionHypothesis =>
      obtain ⟨next, step, restRan⟩ := run_cons.mp ran
      have nextFiles := (steps_of_step step).files_eq
      have nextSource := (steps_of_step step).tokenSource_eq
      rw [readOff_cons step, countNew_append]
      cases move with
      | change files =>
          have sameSource : next.tokenSource = .stored store := nextSource.trans source
          have changed : (Move.change files :: rest).filterMap Move.files? =
              files :: rest.filterMap Move.files? := rfl
          rw [countNew_postings_of_ne (by simp), Nat.zero_add]
          cases loads : Token.load files store.path with
          | error fault =>
              rw [changed, arrivals_of_error loads]
              apply inductionHypothesis sameSource _ restRan
              intro held found
              rw [nextFiles] at found
              cases loads.symm.trans found
          | ok held =>
              have reads : ∀ other, Token.load next.files store.path = .ok other →
                  Token.present (other.map (·.token)) =
                    Token.present (held.map (·.token)) := by
                intro other found
                rw [nextFiles] at found
                cases loads.symm.trans found
                rfl
              have later := inductionHypothesis sameSource reads restRan
              have triangle :=
                news_le_add (Token.present (held.map (·.token))) known store.current
              rw [changed, arrivals_of_ok loads]
              omega
      | notice =>
          have sameFiles : next.files = vigil.files := nextFiles
          rw [← sameFiles] at reads
          cases loads : Token.load vigil.files store.path with
          | error fault =>
              rw [sourceAfter, source, TokenSource.reread_of_error loads] at nextSource
              rw [countNew_postings_of_error source loads, Nat.zero_add]
              exact inductionHypothesis nextSource reads restRan
          | ok held =>
              rw [sourceAfter, source, TokenSource.reread_of_ok loads] at nextSource
              have isKnown := reads held (sameFiles ▸ loads)
              have current : ({ store with held } : Token.Store).current = known := isKnown
              have later := inductionHypothesis nextSource reads restRan
              rw [current, news_self, Nat.zero_add] at later
              rw [countNew_postings_of_ok source loads, isKnown]
              exact Nat.add_le_add_left later _
      | line text session | leave | take around | hear turn =>
          have sameSource : next.tokenSource = .stored store := nextSource.trans source
          have sameFiles : next.files = vigil.files := nextFiles
          rw [← sameFiles] at reads
          rw [countNew_postings_of_ne (by simp), Nat.zero_add]
          exact inductionHypothesis sameSource reads restRan

/-! ## Dials -/

section Dials

variable {backend session : Option String} {files : Files.Tree} {source : TokenSource}

/-- Until the client takes the command that was posted at the start, it is idle. -/
theorem idle_of_taken_eq_nil
    (ran : (ofSource setup backend files source session).run setup moves = some last)
    (silent : (ofSource setup backend files source session).readOff setup taken moves = []) :
    last.controller.phase = .idle := by
  obtain ⟨lastIs, timely⟩ := controller_run ran
  rw [lastIs]
  apply Controller.idle_after (Controller.initial_provisioned setup) rfl _ timely
  intro turn member
  rcases turns_run ran member with unasked | ⟨posting, inTaken, _⟩
  · exact unasked
  · rw [silent] at inTaken
    cases inTaken

/-- After the first of all commands the client takes only what moves have posted. -/
theorem mem_postings_of_taken {before rest : List Move} {posting : Posting}
    (early : (ofSource setup backend files source session).run setup before = some middle)
    (late : middle.run setup rest = some last) (begun : middle.controller.phase ≠ .idle)
    (member : posting ∈ middle.readOff setup taken rest) :
    posting ∈ (ofSource setup backend files source session).readOff setup postings
      (before ++ rest) := by
  have queue := queue_run (run_append.mpr ⟨middle, early, late⟩)
  have split : (ofSource setup backend files source session).readOff setup taken (before ++ rest) =
      (ofSource setup backend files source session).readOff setup taken before ++
        middle.readOff setup taken rest := readOff_append early
  rw [split] at queue
  cases takenBefore :
      (ofSource setup backend files source session).readOff setup taken before with
  | nil =>
      exact absurd (idle_of_taken_eq_nil early takenBefore) begun
  | cons first others =>
      rw [takenBefore] at queue
      have tail : (ofSource setup backend files source session).readOff setup postings
          (before ++ rest) = others ++ middle.readOff setup taken rest ++ last.posted :=
        (List.cons.inj queue).2
      rw [tail]
      exact List.mem_append_left _ (List.mem_append_right _ member)

theorem startOver_of_dial {before rest : List Move} {why : Connection.Halt}
    (early : (ofSource setup backend files source session).run setup before = some middle)
    (late : middle.run setup rest = some last) (halted : middle.controller.phase = .halted why)
    {dial : Nat} {token : String} {url : Url.Parts}
    (dials : .dial dial token url ∈ middle.deeds setup rest) :
    ∃ posting ∈ middle.readOff setup taken rest, posting.command = .startOver := by
  apply Classical.byContradiction
  intro never
  have begun : middle.controller.phase ≠ .idle := by
    simp [halted]
  have unasked : ∀ turn ∈ middle.turns setup rest, turn.asksAnew = false := by
    intro turn member
    unfold Turn.asksAnew
    rcases turns_run late member with heard | ⟨posting, inTaken, told⟩
    · split
      next told =>
        rw [told] at heard
        cases heard
      next told =>
        rw [told] at heard
        cases heard
      · rfl
    · rw [told]
      cases is : posting.command with
      | startOver =>
          exact absurd ⟨posting, inTaken, is⟩ never
      | connect asked =>
          have posted := mem_postings_of_taken early late begun inTaken
          obtain ⟨_, _, _, place, _, _, _, _, here⟩ :=
            mem_readOff (run_append.mpr ⟨middle, early, late⟩) posted
          rcases mem_postings_iff.mp here with ⟨_, _, _, _, inCommands⟩ | ⟨_, _, same⟩
          · rw [is] at inCommands
            exact absurd inCommands Entry.connect_notMem_commands
          · rw [same] at is
            cases is
      | _ =>
          rfl
  obtain ⟨middleIs, earlyTimely⟩ := controller_run early
  have provisioned : middle.controller.Provisioned := by
    rw [middleIs]
    exact Controller.provisioned_after (Controller.initial_provisioned setup) earlyTimely
  have rests :=
    Controller.rests_run (provisioned.resting halted) unasked (controller_run late).2
  cases rests.offline _ dials

end Dials

/-! ## Whole runs -/

/-- The client is not made to try a refused token again and again. -/
structure NeverLoops (setup : Setup) (opened : Vigil) (moves : List Move) : Prop where
  /-- A command to start over is posted for a line that asks for it, or as a refusal is dealt with
  and the token file turns out to hold another token. -/
  origins :
    ∀ posting ∈ opened.readOff setup postings moves, posting.command = .startOver →
      ∃ before move rest vigil, moves = before ++ move :: rest ∧
        opened.run setup before = some vigil ∧ posting ∈ vigil.postings move ∧
        ((∃ text session, move = .line text session ∧ Entry.ofLine text = .reconnect ∧
            posting.origin = .line) ∨
          (move = .notice ∧ vigil.BringsToken ∧ posting.origin = .newToken))
  /-- A token that was given is never replaced, and all commands come from lines. -/
  given :
    ∀ token, opened.tokenSource = .constant token →
      (∀ before rest vigil, moves = before ++ rest → opened.run setup before = some vigil →
        vigil.tokenSource = .constant token) ∧
      ∀ posting ∈ opened.readOff setup postings moves, posting.origin = .line
  /-- If the token file cannot be read, the token at hand stays and nothing is posted. -/
  unread :
    ∀ before rest vigil next store fault, moves = before ++ .notice :: rest →
      opened.run setup before = some vigil → vigil.step setup .notice = some next →
      vigil.tokenSource = .stored store → Token.load vigil.files store.path = .error fault →
        next = vigil
  /-- A client that was refused dials only after it has taken a command to start over, and that was
  posted for one of the two reasons. -/
  redials :
    ∀ before rest vigil dial token url, moves = before ++ rest →
      opened.run setup before = some vigil → vigil.controller.phase = .halted .refused →
      .dial dial token url ∈ vigil.deeds setup rest →
        ∃ posting ∈ vigil.readOff setup taken rest, posting.command = .startOver ∧
          posting ∈ opened.readOff setup postings moves
  /-- The file comes to hold another token at least as often as a command is posted, let alone
  taken, because of a new token. -/
  arrives :
    ∀ store, opened.tokenSource = .stored store →
      countNew (opened.readOff setup taken moves) ≤
          countNew (opened.readOff setup postings moves) ∧
        countNew (opened.readOff setup postings moves) ≤
          arrivals store.path store.current (moves.filterMap Move.files?)

section NeverLoops

variable {backend session : Option String} {files : Files.Tree} {source : TokenSource}

theorem constant_of_run {token : String} {opened : Vigil}
    (constant : opened.tokenSource = .constant token) (ran : opened.run setup moves = some last) :
    ∀ posting ∈ opened.readOff setup postings moves, posting.origin = .line := by
  intro posting member
  obtain ⟨before, move, rest, middle, next, rfl, early, step, here⟩ := mem_readOff ran member
  rcases mem_postings_iff.mp here with ⟨_, _, _, origin, _⟩ | ⟨_, brings, _⟩
  · exact origin
  · obtain ⟨store, _, stored, _⟩ := brings
    rw [constant_run constant early] at stored
    cases stored

theorem origin_of_startOver {opened : Vigil} (ran : opened.run setup moves = some last)
    {posting : Posting} (member : posting ∈ opened.readOff setup postings moves)
    (asks : posting.command = .startOver) :
    ∃ before move rest vigil, moves = before ++ move :: rest ∧
      opened.run setup before = some vigil ∧ posting ∈ vigil.postings move ∧
      ((∃ text session, move = .line text session ∧ Entry.ofLine text = .reconnect ∧
          posting.origin = .line) ∨
        (move = .notice ∧ vigil.BringsToken ∧ posting.origin = .newToken)) := by
  obtain ⟨before, move, rest, middle, next, rfl, early, step, here⟩ := mem_readOff ran member
  refine ⟨before, move, rest, middle, rfl, early, here, ?_⟩
  rcases mem_postings_iff.mp here with ⟨text, session, is, origin, inCommands⟩ | ⟨is, brings, same⟩
  · rw [asks] at inCommands
    exact Or.inl ⟨text, session, is, Entry.startOver_mem_commands_iff.mp inCommands, origin⟩
  · exact Or.inr ⟨is, brings, by rw [same]⟩

theorem step_hear {turn : Turn String} (unasked : turn.stimulus.isCommand = false)
    (can : vigil.controller.canTake turn.stimulus = true) :
    vigil.step setup (.hear turn) =
      some { vigil with controller := vigil.controller.take setup turn } :=
  if_pos ⟨unasked, can⟩

theorem step_notice_of_error {store : Token.Store} {fault : Token.StoreFault}
    (stored : vigil.tokenSource = .stored store)
    (fails : Token.load vigil.files store.path = .error fault)
    (step : vigil.step setup .notice = some next) : next = vigil := by
  rw [Vigil.step] at step
  split at step
  · cases step
  · rw [postings_of_error stored fails, stored, TokenSource.reread_of_error fails, ← stored] at step
    cases step
    simp [post]

theorem step_notice_of_brings {store : Token.Store} {deposit : Token.Deposit}
    (goesOn : vigil.isOver = false) (stored : vigil.tokenSource = .stored store)
    (loads : Token.load vigil.files store.path = .ok (some deposit))
    (filled : deposit.token ≠ "") (other : store.current ≠ some deposit.token) :
    vigil.step setup .notice =
      some ({ vigil with tokenSource := .stored { store with held := some deposit } }.post
        [⟨.newToken, .startOver⟩]) := by
  have posts : vigil.postings .notice = [⟨.newToken, .startOver⟩] :=
    if_pos (reread_iff.mpr ⟨store, deposit, stored, loads, filled, other⟩)
  rw [Vigil.step, if_neg (by simp [goesOn]), posts, stored, TokenSource.reread_of_ok loads]

/-- The client takes no more commands for a new token than were posted. -/
theorem countNew_taken_le
    (ran : (ofSource setup backend files source session).run setup moves = some last) :
    countNew ((ofSource setup backend files source session).readOff setup taken moves) ≤
      countNew ((ofSource setup backend files source session).readOff setup postings moves) := by
  have counted := congrArg countNew (queue_run ran)
  have first : countNew (ofSource setup backend files source session).posted = 0 := rfl
  rw [countNew_append, countNew_append, first] at counted
  omega

/-- In every run that starts with the token at hand, nothing loops. -/
theorem neverLoops_of_run {given : List String} {path : String}
    (chosen : TokenSource.choose files given path = .ok source)
    (ran : (ofSource setup backend files source session).run setup moves = some last) :
    NeverLoops setup (ofSource setup backend files source session) moves where
  origins := fun posting member asks => origin_of_startOver ran member asks
  given := by
    intro token constant
    refine ⟨?_, constant_of_run constant ran⟩
    rintro before rest vigil rfl early
    exact constant_run constant early
  unread := by
    rintro before rest vigil next store fault rfl early step stored fails
    exact step_notice_of_error stored fails step
  redials := by
    rintro before rest vigil dial token url rfl early halted dials
    obtain ⟨other, sameOther, late⟩ := run_append.mp ran
    rw [early] at sameOther
    cases sameOther
    obtain ⟨posting, inTaken, asks⟩ := startOver_of_dial early late halted dials
    have begun : vigil.controller.phase ≠ .idle := by
      simp [halted]
    exact ⟨posting, inTaken, asks, mem_postings_of_taken early late begun inTaken⟩
  arrives := by
    rintro store stored
    refine ⟨countNew_taken_le ran, ?_⟩
    have sameSource : source = .stored store := stored
    have reads : ∀ held, Token.load files store.path = .ok held →
        Token.present (held.map (·.token)) = store.current := by
      intro held found
      rw [TokenSource.load_of_choose (sameSource ▸ chosen)] at found
      cases found
      rfl
    have bound := countNew_run stored reads ran
    rw [news_self, Nat.zero_add] at bound
    exact bound

end NeverLoops

end Vigil

end Parley.Terminal
