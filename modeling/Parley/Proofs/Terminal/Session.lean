import Parley.Proofs.Client.Moments
import Parley.Proofs.Terminal.Vigil
import Parley.Proofs.Token.Shelf

/-!
# Sessions are vigils

In a session everything that can happen at once has happened before anything else is looked at. The
moves that a session makes are those of a vigil, so what holds of vigils holds of every session. The
main statement is that neither makes a client try a refused token again.
-/

namespace Parley.Terminal

open Connection (Client Command Controller Setup Stimulus Turn)

namespace Session

/-! ## Operations -/

/-- The lines that are dealt with, of those that were typed at once. -/
def heeded : List (List UInt8) → List String
  | [] => []
  | line :: rest =>
      match Text.Utf8.decode (dropReturn line) with
      | .error _ => []
      | .ok text =>
          if Entry.ofLine (String.ofList text) = .quit then []
          else String.ofList text :: heeded rest

/-- What a session comes to, with the files and the lines on its way and how it has ended. -/
inductive ComesTo (start : Session) :
    List Files.Tree → List String → Session → Option Ending → Prop where
  | starts : ComesTo start [] [] start none
  | enters {changes : List Files.Tree} {said : List String} {session : Session}
      (comes : ComesTo start changes said session none) (lines : List (List UInt8)) :
      ComesTo start changes (said ++ heeded lines) (session.enter lines).1 (session.enter lines).2
  | finishes {changes : List Files.Tree} {said : List String} {session : Session}
      (comes : ComesTo start changes said session none) :
      ComesTo start changes said session.shutdown (some .finished)
  | changes {changes : List Files.Tree} {said : List String} {session : Session}
      (comes : ComesTo start changes said session none) (files : Files.Tree) :
      ComesTo start (changes ++ [files]) said { session with files } none
  | advances {changes : List Files.Tree} {said : List String} {session : Session}
      (comes : ComesTo start changes said session none) (milliseconds : Nat) :
      ComesTo start changes said (session.advance milliseconds) none
  | accepts {changes : List Files.Tree} {said : List String} {session : Session}
      (comes : ComesTo start changes said session none) (dial : Nat) :
      ComesTo start changes said (session.onClient (·.accept dial)) none
  | refuses {changes : List Files.Tree} {said : List String} {session : Session}
      (comes : ComesTo start changes said session none) (dial : Nat) (cause : String) :
      ComesTo start changes said (session.onClient (·.refuse dial cause)) none
  | receives {changes : List Files.Tree} {said : List String} {session : Session}
      (comes : ComesTo start changes said session none) (dial : Nat)
      (incoming : Connection.Incoming) :
      ComesTo start changes said (session.onClient (·.receive dial incoming)) none
  | breaks {changes : List Files.Tree} {said : List String} {session : Session}
      (comes : ComesTo start changes said session none) (dial : Nat) :
      ComesTo start changes said (session.onClient (·.breakWrites dial)) none

/-! ## What only touches the transcript -/

/-- Apart from its transcript and what it has taken note of, two sessions are the same. -/
structure SetsAside (before after : Session) : Prop where
  backend_eq : after.backend = before.backend
  files_eq : after.files = before.files
  tokenSource_eq : after.tokenSource = before.tokenSource
  client : before.client.SetsAside after.client

namespace SetsAside

variable {before middle after : Session}

theorem refl (session : Session) : SetsAside session session :=
  ⟨rfl, rfl, rfl, .refl session.client⟩

theorem trans (first : SetsAside before middle) (second : SetsAside middle after) :
    SetsAside before after where
  backend_eq := second.backend_eq.trans first.backend_eq
  files_eq := second.files_eq.trans first.files_eq
  tokenSource_eq := second.tokenSource_eq.trans first.tokenSource_eq
  client := first.client.trans second.client

end SetsAside

theorem setsAside_note (text : String) (session : Session) :
    SetsAside session (session.note text) :=
  ⟨rfl, rfl, rfl, .refl session.client⟩

theorem setsAside_absorbOne (session : Session) (happening : Connection.Happening) :
    SetsAside session (session.absorbOne happening) := by
  cases happening with
  | message observer packet =>
      rw [absorbOne]
      split
      · exact ⟨rfl, rfl, rfl, .refl session.client⟩
      · exact .refl session
  | state observer state =>
      exact setsAside_note _ session
  | _ =>
      exact ⟨rfl, rfl, rfl, .refl session.client⟩

theorem setsAside_absorb (session : Session) : SetsAside session session.absorb := by
  have folds (happenings : List Connection.Happening) (session : Session) :
      SetsAside session (happenings.foldl absorbOne session) := by
    induction happenings generalizing session with
    | nil =>
        exact .refl session
    | cons happening rest inductionHypothesis =>
        exact (setsAside_absorbOne session happening).trans
          (inductionHypothesis (session.absorbOne happening))
  have taken : SetsAside session { session with client := session.client.takeLog.1 } :=
    ⟨rfl, rfl, rfl, ⟨rfl, rfl, rfl, rfl, rfl⟩⟩
  exact taken.trans (folds _ _)

end Session

/-! ## Vigils and sessions -/

namespace Vigil

/-- Moves lead from one vigil to another, and the files change and lines are read on the way. -/
def Leads (setup : Setup) (vigil : Vigil) (changes : List Files.Tree) (said : List String)
    (next : Vigil) : Prop :=
  ∃ moves, vigil.run setup moves = some next ∧
    moves.filterMap Move.files? = changes ∧ moves.filterMap Move.line? = said

/-- The vigil is where the session is, but for commands that the client has not taken yet. A client
that has stopped takes none. -/
structure Stands (setup : Setup) (waiting : List Posting) (vigil : Vigil) (session : Session) :
    Prop where
  backend_eq : vigil.backend = session.backend
  files_eq : vigil.files = session.files
  tokenSource_eq : vigil.tokenSource = session.tokenSource
  goesOn : vigil.isOver = false
  setup_eq : session.client.setup = setup
  live : session.client.isRunning = true →
    vigil.posted = waiting ∧ vigil.controller = session.client.controller

variable {setup : Setup} {vigil middle next : Vigil} {waiting : List Posting}
  {session after : Session}

namespace Leads

variable {early late : List Files.Tree} {first second : List String}

theorem refl (setup : Setup) (vigil : Vigil) : Leads setup vigil [] [] vigil :=
  ⟨[], rfl, rfl, rfl⟩

theorem trans (here : Leads setup vigil early first middle)
    (there : Leads setup middle late second next) :
    Leads setup vigil (early ++ late) (first ++ second) next := by
  obtain ⟨moves, ran, rfl, rfl⟩ := here
  obtain ⟨more, went, rfl, rfl⟩ := there
  exact ⟨moves ++ more, run_append.mpr ⟨middle, ran, went⟩, List.filterMap_append,
    List.filterMap_append⟩

theorem ofStep {move : Move} (step : vigil.step setup move = some next) :
    Leads setup vigil move.files?.toList move.line?.toList next := by
  refine ⟨[move], run_cons.mpr ⟨next, step, rfl⟩, ?_, ?_⟩
  · cases move <;> rfl
  · cases move <;> rfl

end Leads

theorem Stands.setsAside (stands : Stands setup waiting vigil session)
    (aside : session.SetsAside after) : Stands setup waiting vigil after where
  backend_eq := stands.backend_eq.trans aside.backend_eq.symm
  files_eq := stands.files_eq.trans aside.files_eq.symm
  tokenSource_eq := stands.tokenSource_eq.trans aside.tokenSource_eq.symm
  goesOn := stands.goesOn
  setup_eq := aside.client.setup_eq.trans stands.setup_eq
  live := by
    rw [aside.client.isRunning_eq, aside.client.controller_eq]
    exact stands.live

/-- The controller of a client that was told something. -/
theorem controller_tell {client : Client} (running : client.isRunning = true)
    (stimulus : Stimulus String) :
    (client.tell stimulus).controller =
        client.controller.take client.setup (client.turn stimulus) ∧
      (client.tell stimulus).isRunning = true ∧ (client.tell stimulus).setup = client.setup := by
  have aside := Client.setsAside_carryOutAll
    (client.controller.take client.setup (client.turn stimulus)).outbox
    { client with controller := client.controller.take client.setup (client.turn stimulus) }
  rw [Client.tell_eq running]
  exact ⟨aside.controller_eq, aside.isRunning_eq.trans running, aside.setup_eq⟩

/-- The client hears what it hears, and the vigil with it. -/
theorem stands_of_hears {client : Client} {turns : List (Turn String)}
    (hears : session.client.Hears turns client) (stands : Stands setup [] vigil session) :
    ∃ next, Leads setup vigil [] [] next ∧ Stands setup [] next { session with client } := by
  induction hears with
  | starts =>
      exact ⟨vigil, .refl setup vigil, stands⟩
  | @hears turns client stimulus _ running unasked isTime inductionHypothesis =>
      obtain ⟨middle, leads, stands⟩ := inductionHypothesis
      obtain ⟨nothingWaits, sameController⟩ := stands.live running
      have can : middle.controller.canTake (client.turn stimulus).stimulus = true := by
        rw [sameController]
        exact Controller.canTake_of_isTimeFor isTime
      obtain ⟨controller, stillRunning, sameSetup⟩ := controller_tell running stimulus
      refine ⟨_, leads.trans (.ofStep (step_hear unasked can)), ⟨stands.backend_eq,
        stands.files_eq, stands.tokenSource_eq, stands.goesOn, sameSetup.trans stands.setup_eq, ?_⟩⟩
      intro _
      rw [controller, ← sameController, stands.setup_eq]
      exact ⟨nothingWaits, rfl⟩
  | setsAside _ aside inductionHypothesis =>
      obtain ⟨middle, leads, stands⟩ := inductionHypothesis
      exact ⟨middle, leads, stands.setsAside ⟨rfl, rfl, rfl, aside⟩⟩
  | waits _ _ inductionHypothesis =>
      obtain ⟨middle, leads, stands⟩ := inductionHypothesis
      exact ⟨middle, leads, ⟨stands.backend_eq, stands.files_eq, stands.tokenSource_eq,
        stands.goesOn, stands.setup_eq, stands.live⟩⟩

/-- The client takes what waits, one command after the other. -/
theorem stands_of_tellAll (stands : Stands setup waiting vigil session) :
    ∃ next, Leads setup vigil [] [] next ∧
      Stands setup [] next
        { session with
          client := (waiting.map (·.command)).foldl
            (fun client command => client.tell (.command command)) session.client } := by
  induction waiting generalizing vigil session with
  | nil =>
      exact ⟨vigil, .refl setup vigil, stands⟩
  | cons posting rest inductionHypothesis =>
      rw [List.map_cons, List.foldl_cons]
      cases running : session.client.isRunning with
      | false =>
          rw [Client.tell_of_stopped running]
          apply inductionHypothesis
          refine { stands with live := ?_ }
          intro isRunning
          rw [running] at isRunning
          cases isRunning
      | true =>
          obtain ⟨posted, sameController⟩ := stands.live running
          obtain ⟨controller, stillRunning, sameSetup⟩ :=
            controller_tell running (.command posting.command)
          have step : vigil.step setup
              (.take (session.client.turn (.command posting.command)).around) =
                some { vigil with
                  posted := rest
                  controller := vigil.controller.take setup
                    (session.client.turn (.command posting.command)) } := by
            rw [Vigil.step, posted]
            rfl
          have stands : Stands setup rest
              { vigil with
                posted := rest
                controller := vigil.controller.take setup
                  (session.client.turn (.command posting.command)) }
              { session with client := session.client.tell (.command posting.command) } := by
            refine ⟨stands.backend_eq, stands.files_eq, stands.tokenSource_eq, stands.goesOn,
              sameSetup.trans stands.setup_eq, ?_⟩
            intro _
            rw [controller, ← sameController, stands.setup_eq]
            exact ⟨rfl, rfl⟩
          obtain ⟨next, leads, arrives⟩ := inductionHypothesis stands
          exact ⟨next, (Leads.ofStep step).trans leads, arrives⟩

/-- The client takes what waits and then settles. -/
theorem stands_of_post (stands : Stands setup waiting vigil session) :
    ∃ next, Leads setup vigil [] [] next ∧
      Stands setup [] next
        { session with client := session.client.post (waiting.map (·.command)) } := by
  obtain ⟨middle, takes, stands⟩ := stands_of_tellAll stands
  obtain ⟨turns, hears⟩ := (Client.reaches_settle []
    ((waiting.map (·.command)).foldl (fun client command => client.tell (.command command))
      session.client)).hears
  obtain ⟨next, settles, stands⟩ := stands_of_hears hears stands
  exact ⟨next, takes.trans settles, stands⟩

/-! ## Refusals -/

/-- A vigil that stands with the first session goes on until it stands with the second. -/
def Carries (setup : Setup) (before after : Session) : Prop :=
  ∀ vigil, Stands setup [] vigil before →
    ∃ next, Leads setup vigil [] [] next ∧ Stands setup [] next after

namespace Carries

variable {before middle after : Session}

theorem trans (first : Carries setup before middle) (second : Carries setup middle after) :
    Carries setup before after := by
  intro vigil stands
  obtain ⟨half, early, stands⟩ := first vigil stands
  obtain ⟨next, late, stands⟩ := second half stands
  exact ⟨next, early.trans late, stands⟩

theorem setsAside (aside : before.SetsAside after) : Carries setup before after := by
  intro vigil stands
  exact ⟨vigil, .refl setup vigil, stands.setsAside aside⟩

theorem hears {client : Client} (hears : ∃ turns, before.client.Hears turns client) :
    Carries setup before { before with client } := by
  intro vigil stands
  obtain ⟨turns, hears⟩ := hears
  exact stands_of_hears hears stands

end Carries

/-- The vigil deals with a refusal, and what it posts waits. -/
theorem stands_of_notice (stands : Stands setup [] vigil session) :
    ∃ next, Leads setup vigil [] [] next ∧
      Stands setup (vigil.postings .notice) next
        { session with
          tokenSource := (session.tokenSource.reread session.files).1
          client := session.client.setToken
            (session.tokenSource.reread session.files).1.current } := by
  have step : vigil.step setup .notice =
      some ({ vigil with
        tokenSource := (vigil.tokenSource.reread vigil.files).1 }.post (vigil.postings .notice)) :=
    if_neg (by simp [stands.goesOn])
  refine ⟨_, .ofStep step, ⟨stands.backend_eq, stands.files_eq, ?_, stands.goesOn,
    stands.setup_eq, ?_⟩⟩
  · rw [← stands.tokenSource_eq, ← stands.files_eq]
    rfl
  · intro running
    obtain ⟨nothingWaits, sameController⟩ := stands.live running
    refine ⟨?_, sameController⟩
    rw [post, nothingWaits, List.nil_append]

theorem carries_answerRefusal (session : Session) (message : String) :
    Carries setup session (session.answerRefusal message) := by
  have noted := Session.setsAside_note ("authentication failed: " ++ message) session
  intro vigil stands
  have standsNoted := stands.setsAside noted
  obtain ⟨middle, looks, standsLooked⟩ := stands_of_notice standsNoted
  rw [Session.answerRefusal]
  by_cases isNew :
      ((session.note ("authentication failed: " ++ message)).tokenSource.reread
        (session.note ("authentication failed: " ++ message)).files).2 = true
  · simp only [isNew, if_true]
    have posts : vigil.postings .notice = [⟨.newToken, .startOver⟩] := by
      rw [postings, standsNoted.tokenSource_eq, standsNoted.files_eq]
      exact if_pos isNew
    rw [posts] at standsLooked
    obtain ⟨last, takes, standsLast⟩ := stands_of_post standsLooked
    refine ⟨last, looks.trans takes, Stands.setsAside ?_ (Session.setsAside_absorb _)⟩
    exact standsLast.setsAside ⟨rfl, rfl, rfl, .refl _⟩
  · simp only [isNew]
    have posts : vigil.postings .notice = [] := by
      rw [postings, standsNoted.tokenSource_eq, standsNoted.files_eq]
      exact if_neg isNew
    rw [posts] at standsLooked
    exact ⟨middle, looks, standsLooked.setsAside (Session.setsAside_note _ _)⟩

theorem carries_settle (session : Session) : Carries setup session session.settle := by
  have folds (refusals : List String) (session : Session) :
      Carries setup session (refusals.foldl Session.answerRefusal session) := by
    induction refusals generalizing session with
    | nil =>
        exact .setsAside (.refl session)
    | cons message rest inductionHypothesis =>
        exact (carries_answerRefusal session message).trans
          (inductionHypothesis (session.answerRefusal message))
  have absorbed : session.SetsAside { session.absorb with refusals := [] } :=
    (Session.setsAside_absorb session).trans ⟨rfl, rfl, rfl, .refl session.absorb.client⟩
  exact (Carries.setsAside absorbed).trans (folds session.absorb.refusals _)

theorem carries_onClient {change : Client → Client}
    (hears : ∃ turns, session.client.Hears turns (change session.client)) :
    Carries setup session (session.onClient change) :=
  (Carries.hears hears).trans (carries_settle _)

theorem stands_of_onClient_post (stands : Stands setup waiting vigil session) :
    ∃ next, Leads setup vigil [] [] next ∧
      Stands setup [] next (session.onClient (·.post (waiting.map (·.command)))) := by
  obtain ⟨middle, takes, standsTaken⟩ := stands_of_post stands
  obtain ⟨next, settles, standsNext⟩ := carries_settle _ middle standsTaken
  exact ⟨next, takes.trans settles, standsNext⟩

/-! ## The clock -/

theorem carries_advance (milliseconds : Nat) (session : Session) :
    Carries setup session (session.advance milliseconds) := by
  have waits (length : Nat) (session : Session) :
      Carries setup session (session.onClient (·.advance length)) :=
    carries_onClient (Client.hears_advance length session.client)
  have runs (target now : Nat) (session : Session) :
      Carries setup session (session.advanceFrom target now) := by
    induction now, session using Session.advanceFrom.induct target with
    | case1 now session due isDue inTime inductionHypothesis =>
        rw [Session.advanceFrom, isDue]
        simp only [inTime, and_self, if_true]
        exact (waits (due - now) session).trans inductionHypothesis
    | case2 now session due isDue notInTime =>
        rw [Session.advanceFrom, isDue]
        simp only [if_neg notInTime]
        exact waits (target - now) session
    | case3 now session noneDue =>
        rw [Session.advanceFrom, noneDue]
        exact waits (target - now) session
  exact runs _ _ session

theorem carries_shutdown (session : Session) : Carries setup session session.shutdown := by
  cases running : session.client.isRunning with
  | false =>
      apply carries_onClient
      rw [Client.shutdown, running]
      exact ⟨[], .starts⟩
  | true =>
      have woundUp : Carries setup session { session with client := session.client.windUp } := by
        intro vigil stands
        have aside := Client.setsAside_carryOutAll
          (Controller.windDown { session.client.controller with outbox := [] }).outbox
          { session.client with
            controller := Controller.windDown { session.client.controller with outbox := [] }
            isRunning := false }
        refine ⟨vigil, .refl setup vigil, ⟨stands.backend_eq, stands.files_eq,
          stands.tokenSource_eq, stands.goesOn, aside.setup_eq.trans stands.setup_eq, ?_⟩⟩
        intro stillRunning
        have stopped : session.client.windUp.isRunning = false := aside.isRunning_eq
        rw [stopped] at stillRunning
        cases stillRunning
      have settled : Carries setup { session with client := session.client.windUp }
          { session with client := session.client.windUp.settle [] } :=
        .hears (Client.reaches_settle [] _).hears
      rw [Session.shutdown, Session.onClient, Client.shutdown_eq running]
      exact (woundUp.trans settled).trans (carries_settle _)

/-! ## Lines -/

/-- What an entry asks of the client does not depend on the transcript, and the session stays but
for it. -/
theorem perform_eq (session : Session) (entry : Entry) :
    (session.perform entry).2 =
        entry.commands session.backend session.client.session session.files ∧
      session.SetsAside (session.perform entry).1 := by
  have sends (request : Wire.Request) : session.SetsAside (session.send request).1 := by
    unfold Session.send
    split
    · exact .refl session
    · exact Session.setsAside_note _ session
  cases entry with
  | say text =>
      exact ⟨rfl, sends _⟩
  | image path text =>
      cases pictured : readImage session.files path with
      | ok picture =>
          simp only [Session.perform, Entry.commands, pictured]
          exact ⟨rfl, sends _⟩
      | error refusal =>
          simp only [Session.perform, Entry.commands, pictured]
          exact ⟨trivial, Session.setsAside_note _ session⟩
  | state | help | invalid reason =>
      exact ⟨rfl, Session.setsAside_note _ session⟩
  | disconnect | reconnect | quit | empty =>
      exact ⟨rfl, .refl session⟩

theorem stands_of_line {text : String} (stands : Stands setup waiting vigil session)
    (staysOpen : Entry.ofLine text ≠ .quit) :
    ∃ next, Leads setup vigil [] [text] next ∧
      Stands setup
        (waiting ++ (session.perform (Entry.ofLine text)).2.map fun command => ⟨.line, command⟩)
        next (session.perform (Entry.ofLine text)).1 := by
  obtain ⟨commands, aside⟩ := perform_eq session (Entry.ofLine text)
  have step : vigil.step setup (.line text session.client.session) =
      some (vigil.post (vigil.postings (.line text session.client.session))) := by
    rw [Vigil.step, if_neg (by simp [stands.goesOn]), if_neg staysOpen]
  have stands' := stands.setsAside aside
  refine ⟨_, .ofStep step, ⟨stands'.backend_eq, stands'.files_eq, stands'.tokenSource_eq,
    stands.goesOn, stands'.setup_eq, ?_⟩⟩
  intro running
  obtain ⟨posted, sameController⟩ := stands'.live running
  refine ⟨?_, sameController⟩
  rw [commands, post, posted, postings, stands.backend_eq, stands.files_eq]

theorem handleLines_cons {line : List UInt8} {rest : List (List UInt8)} {text : List Char}
    (decoded : Text.Utf8.decode (Session.dropReturn line) = .ok text)
    (staysOpen : Entry.ofLine (String.ofList text) ≠ .quit) (session : Session) :
    Session.handleLines (line :: rest) session =
      ((Session.handleLines rest
          (session.perform (Entry.ofLine (String.ofList text))).1).1,
        (session.perform (Entry.ofLine (String.ofList text))).2 ++
          (Session.handleLines rest
            (session.perform (Entry.ofLine (String.ofList text))).1).2.1,
        (Session.handleLines rest
          (session.perform (Entry.ofLine (String.ofList text))).1).2.2) := by
  rw [Session.handleLines, decoded]
  cases is : Entry.ofLine (String.ofList text) with
  | quit =>
      exact absurd is staysOpen
  | _ =>
      simp only [is]

theorem stands_of_lines (lines : List (List UInt8)) (stands : Stands setup waiting vigil session) :
    ∃ next, Leads setup vigil [] (Session.heeded lines) next ∧
      Stands setup
        (waiting ++ (Session.handleLines lines session).2.1.map fun command => ⟨.line, command⟩)
        next (Session.handleLines lines session).1 := by
  have halts {waiting : List Posting} {vigil : Vigil} {session : Session}
      (stands : Stands setup waiting vigil session) :
      ∃ next, Leads setup vigil [] [] next ∧
        Stands setup (waiting ++ ([] : List Command).map fun command => ⟨.line, command⟩) next
          session := by
    rw [List.map_nil, List.append_nil]
    exact ⟨vigil, .refl setup vigil, stands⟩
  induction lines generalizing waiting vigil session with
  | nil =>
      exact halts stands
  | cons line rest inductionHypothesis =>
      rw [Session.heeded]
      cases decoded : Text.Utf8.decode (Session.dropReturn line) with
      | error misread =>
          rw [Session.handleLines, decoded]
          exact halts stands
      | ok text =>
          by_cases quits : Entry.ofLine (String.ofList text) = .quit
          · rw [Session.handleLines, decoded]
            simp only [quits, if_true]
            exact halts stands
          · obtain ⟨middle, reads, standsRead⟩ := stands_of_line stands quits
            obtain ⟨next, goesOn, standsNext⟩ := inductionHypothesis standsRead
            rw [handleLines_cons decoded quits]
            simp only [if_neg quits]
            rw [List.map_append, ← List.append_assoc]
            exact ⟨next, reads.trans goesOn, standsNext⟩

theorem carries_enter (lines : List (List UInt8)) (stands : Stands setup [] vigil session) :
    ∃ next, Leads setup vigil [] (Session.heeded lines) next ∧
      Stands setup [] next (session.enter lines).1 := by
  obtain ⟨middle, reads, standsRead⟩ := stands_of_lines lines stands
  obtain ⟨settled, takes, standsSettled⟩ := stands_of_onClient_post standsRead
  have commands : (([] : List Posting) ++ (Session.handleLines lines session).2.1.map
      fun command => (⟨.line, command⟩ : Posting)).map (·.command) =
        (Session.handleLines lines session).2.1 := by
    rw [List.nil_append, List.map_map]
    exact List.map_id' _
  rw [commands] at standsSettled
  rw [Session.enter]
  cases ends : (Session.handleLines lines session).2.2.isSome with
  | false =>
      simp only [ends]
      exact ⟨settled, by simpa using reads.trans takes, standsSettled⟩
  | true =>
      obtain ⟨last, shuts, standsLast⟩ := carries_shutdown _ settled standsSettled
      simp only [ends, if_true]
      exact ⟨last, by simpa using (reads.trans takes).trans shuts, standsLast⟩

/-! ## Whole sessions -/

/-- The vigil is where the session is, and has ended if the session has. -/
structure Mirrors (setup : Setup) (vigil : Vigil) (session : Session) (ending : Option Ending) :
    Prop where
  backend_eq : vigil.backend = session.backend
  files_eq : vigil.files = session.files
  tokenSource_eq : vigil.tokenSource = session.tokenSource
  isOver_eq : vigil.isOver = ending.isSome
  setup_eq : session.client.setup = setup
  live : session.client.isRunning = true →
    vigil.posted = [] ∧ vigil.controller = session.client.controller

theorem Stands.mirrors (stands : Stands setup [] vigil session) :
    Mirrors setup vigil session none :=
  ⟨stands.backend_eq, stands.files_eq, stands.tokenSource_eq, stands.goesOn, stands.setup_eq,
    stands.live⟩

theorem Mirrors.stands (mirrors : Mirrors setup vigil session none) :
    Stands setup [] vigil session :=
  ⟨mirrors.backend_eq, mirrors.files_eq, mirrors.tokenSource_eq, mirrors.isOver_eq,
    mirrors.setup_eq, mirrors.live⟩

theorem Stands.leaves (stands : Stands setup [] vigil session) (ending : Ending) :
    ∃ next, Leads setup vigil [] [] next ∧ Mirrors setup next session (some ending) := by
  have step : vigil.step setup .leave = some { vigil with isOver := true } := rfl
  exact ⟨_, .ofStep step, ⟨stands.backend_eq, stands.files_eq, stands.tokenSource_eq, rfl,
    stands.setup_eq, stands.live⟩⟩

/-- Whatever a session comes to, a vigil comes to it as well, by the same files and lines. -/
theorem mirrors_of_comesTo {opened : Session} {changes : List Files.Tree} {said : List String}
    {ending : Option Ending} (stands : Stands setup [] vigil opened)
    (comes : opened.ComesTo changes said session ending) :
    ∃ next, Leads setup vigil changes said next ∧ Mirrors setup next session ending := by
  have goesOn {changes : List Files.Tree} {said : List String} {middle after : Session}
      (reached : ∃ next, Leads setup vigil changes said next ∧ Mirrors setup next middle none)
      (carries : Carries setup middle after) :
      ∃ next, Leads setup vigil changes said next ∧ Mirrors setup next after none := by
    obtain ⟨next, leads, mirrors⟩ := reached
    obtain ⟨last, carried, standsLast⟩ := carries next mirrors.stands
    exact ⟨last, by simpa using leads.trans carried, standsLast.mirrors⟩
  induction comes with
  | starts =>
      exact ⟨vigil, .refl setup vigil, stands.mirrors⟩
  | @enters changes said session comes lines inductionHypothesis =>
      obtain ⟨middle, leads, mirrors⟩ := inductionHypothesis
      obtain ⟨next, enters, standsNext⟩ := carries_enter lines mirrors.stands
      have both := leads.trans enters
      rw [List.append_nil] at both
      cases ends : (session.enter lines).2 with
      | none =>
          exact ⟨next, both, standsNext.mirrors⟩
      | some ending =>
          obtain ⟨last, leaves, mirrorsLast⟩ := standsNext.leaves ending
          exact ⟨last, by simpa using both.trans leaves, mirrorsLast⟩
  | finishes comes inductionHypothesis =>
      obtain ⟨next, leads, mirrors⟩ :=
        goesOn inductionHypothesis (carries_shutdown _)
      obtain ⟨last, leaves, mirrorsLast⟩ := mirrors.stands.leaves .finished
      exact ⟨last, by simpa using leads.trans leaves, mirrorsLast⟩
  | changes comes files inductionHypothesis =>
      obtain ⟨middle, leads, mirrors⟩ := inductionHypothesis
      have step : middle.step setup (.change files) = some { middle with files } := rfl
      have both := leads.trans (.ofStep step)
      rw [show (Move.change files).line?.toList = [] from rfl, List.append_nil] at both
      exact ⟨_, both, ⟨mirrors.backend_eq, rfl, mirrors.tokenSource_eq, mirrors.isOver_eq,
        mirrors.setup_eq, mirrors.live⟩⟩
  | advances comes milliseconds inductionHypothesis =>
      exact goesOn inductionHypothesis (carries_advance milliseconds _)
  | accepts comes dial inductionHypothesis =>
      exact goesOn inductionHypothesis
        (carries_onClient (Client.reaches_onNetwork dial _ _).hears)
  | refuses comes dial cause inductionHypothesis =>
      exact goesOn inductionHypothesis
        (carries_onClient (Client.reaches_onNetwork dial _ _).hears)
  | receives comes dial incoming inductionHypothesis =>
      exact goesOn inductionHypothesis
        (carries_onClient (Client.reaches_onNetwork dial _ _).hears)
  | breaks comes dial inductionHypothesis =>
      apply goesOn inductionHypothesis
      exact carries_onClient ⟨[], .setsAside .starts ⟨rfl, rfl, rfl, rfl, rfl⟩⟩

/-! ## The start -/

theorem stands_of_ofSettings {settings : Settings.Chat} {files : Files.Tree} {given : List String}
    (made : Session.ofSettings settings files given = .ok session) (first : Option String) :
    ∃ setup source, TokenSource.choose files given settings.tokenPath = .ok source ∧
      Stands setup [⟨.start, .connect first⟩]
        (ofSource setup settings.backend files source first) session := by
  cases chosen : TokenSource.choose files given settings.tokenPath with
  | error reason =>
      simp [Session.ofSettings, chosen, Bind.bind, Except.bind] at made
  | ok source =>
      simp only [Session.ofSettings, chosen, Bind.bind, Except.bind] at made
      split at made
      · cases made
      next client makes =>
        cases checks : settings.client.check with
        | error defect =>
            simp [Client.ofSettings, checks, Bind.bind, Except.bind] at makes
        | ok base =>
            simp only [Client.ofSettings, checks, Bind.bind, Except.bind] at makes
            cases makes
            cases made
            refine ⟨⟨settings.client, base⟩, source, rfl,
              Stands.setsAside ?_ (Session.setsAside_absorb _)⟩
            exact ⟨rfl, rfl, rfl, rfl, rfl, fun _ => ⟨rfl, rfl⟩⟩

/-- A session that has started stands with a vigil in which the first command was taken. -/
theorem stands_of_start {surroundings : Surroundings} {arguments : Arguments}
    (started : (Session.start surroundings arguments).2 = .ok session) :
    ∃ setup backend source first next,
      TokenSource.choose (Session.start surroundings arguments).1
          (arguments.token.toList ++ surroundings.token.toList)
          (Session.loadSettings surroundings arguments).1.tokenPath = .ok source ∧
        Leads setup
          (ofSource setup backend (Session.start surroundings arguments).1 source first) [] []
          next ∧
        Stands setup [] next session := by
  cases made : Session.ofSettings (Session.loadSettings surroundings arguments).1
      (Session.loadSettings surroundings arguments).2
      (arguments.token.toList ++ surroundings.token.toList) with
  | error reason =>
      simp [Session.start, made, Bind.bind, Except.bind] at started
  | ok opened =>
      obtain ⟨setup, source, chosen, stands⟩ :=
        stands_of_ofSettings made (arguments.firstSession surroundings.freshSession)
      simp only [Session.start, made, Bind.bind, Except.bind, Except.ok.injEq] at started
      cases lacks : opened.tokenSource.missing? with
      | none =>
          rw [lacks] at started
          subst started
          obtain ⟨next, leads, standsNext⟩ := stands_of_onClient_post stands
          exact ⟨setup, _, source, _, next, chosen, leads, standsNext⟩
      | some path =>
          rw [lacks] at started
          subst started
          obtain ⟨next, leads, standsNext⟩ :=
            stands_of_onClient_post (stands.setsAside (Session.setsAside_note _ opened))
          exact ⟨setup, _, source, _, next, chosen, leads, standsNext⟩

/-- What a session comes to, a vigil comes to by the same files and lines, and does not loop. -/
def Accounts (surroundings : Surroundings) (arguments : Arguments) (changes : List Files.Tree)
    (said : List String) (session : Session) (ending : Option Ending) : Prop :=
  ∃ setup backend source first moves vigil,
    TokenSource.choose (Session.start surroundings arguments).1
        (arguments.token.toList ++ surroundings.token.toList)
        (Session.loadSettings surroundings arguments).1.tokenPath = .ok source ∧
      (ofSource setup backend (Session.start surroundings arguments).1 source first).run setup
        moves = some vigil ∧
      moves.filterMap Move.files? = changes ∧ moves.filterMap Move.line? = said ∧
      Mirrors setup vigil session ending ∧
      NeverLoops setup
        (ofSource setup backend (Session.start surroundings arguments).1 source first) moves

/-- Whatever a session comes to is accounted for by a vigil. -/
theorem accounts_of_comesTo {surroundings : Surroundings} {arguments : Arguments}
    {changes : List Files.Tree} {said : List String} {ending : Option Ending}
    (started : (Session.start surroundings arguments).2 = .ok session)
    (comes : session.ComesTo changes said after ending) :
    Accounts surroundings arguments changes said after ending := by
  obtain ⟨setup, backend, source, first, middle, chosen, begins, stands⟩ :=
    stands_of_start started
  obtain ⟨vigil, leads, mirrors⟩ := mirrors_of_comesTo stands comes
  obtain ⟨moves, ran, sameFiles, sameLines⟩ := begins.trans leads
  exact ⟨setup, backend, source, first, moves, vigil, chosen, ran, sameFiles, sameLines, mirrors,
    neverLoops_of_run chosen ran⟩

/-- In every run with the token source that was chosen at the start, a refused token is not tried
again by itself, and every session is such a run. -/
theorem refused_tokens_stay_refused
    {backend first : Option String} {files : Files.Tree} {given : List String} {path : String}
    {source : TokenSource} {moves : List Move} {last : Vigil}
    (chosen : TokenSource.choose files given path = .ok source)
    (ran : (ofSource setup backend files source first).run setup moves = some last) :
    NeverLoops setup (ofSource setup backend files source first) moves ∧
      ∀ surroundings arguments session changes said after ending,
        (Session.start surroundings arguments).2 = .ok session →
          session.ComesTo changes said after ending →
            Accounts surroundings arguments changes said after ending := by
  refine ⟨neverLoops_of_run chosen ran, ?_⟩
  intro surroundings arguments session changes said after ending started comes
  exact accounts_of_comesTo started comes

def keyFile (token : String) : Files.Tree :=
  ⟨[(["key"], .file
    (Text.Utf8.encode (Token.Deposit.render ⟨token, .ofNanoseconds 0⟩).toList)
    Files.privateMode)], []⟩

/-- The server refuses the token, another one comes with the file, and the refusal is dealt with. -/
def renewed : List Move :=
  [.take (.steady (some "old")),
    .hear ⟨.steady (some "old"), .report 1 .opened⟩,
    .hear ⟨.steady (some "old"),
      .report 1 (.text "\x7b\"type\":\"Error\",\"message\":\"Unauthorized\"\x7d")⟩,
    .change (keyFile "new"),
    .notice,
    .take (.steady (some "new"))]

theorem load_keyFile (token : String) :
    Token.load (keyFile token) "key" = .ok (some ⟨token, .ofNanoseconds 0⟩) :=
  Token.load_of_read (Token.Moment.isProper_ofNanoseconds 0 (by decide)) rfl

theorem stay_refused_of_renewed :
    ∃ source last,
      TokenSource.choose (keyFile "old") [] "key" = .ok source ∧
        (ofSource .standard none (keyFile "old") source none).run .standard renewed = some last ∧
        last.controller.phase = .connecting 0 ∧
        NeverLoops .standard (ofSource .standard none (keyFile "old") source none) renewed := by
  have chosen : TokenSource.choose (keyFile "old") [] "key" =
      .ok (.stored ⟨"key", some ⟨"old", .ofNanoseconds 0⟩⟩) := by
    simp [TokenSource.choose, Token.Store.ofPath, load_keyFile, Bind.bind, Except.bind]
  have ran : ∃ last,
      (ofSource .standard none (keyFile "old")
        (.stored ⟨"key", some ⟨"old", .ofNanoseconds 0⟩⟩) none).run .standard renewed =
          some last ∧ last.controller.phase = .connecting 0 := by
    exact ⟨_, run_cons.mpr ⟨_, rfl, run_cons.mpr ⟨_, step_hear rfl rfl,
      run_cons.mpr ⟨_, step_hear rfl rfl, run_cons.mpr ⟨_, rfl,
        run_cons.mpr ⟨_, step_notice_of_brings rfl rfl (load_keyFile "new") (by decide) (by decide),
          run_cons.mpr ⟨_, rfl, rfl⟩⟩⟩⟩⟩⟩, by decide +kernel⟩
  obtain ⟨last, ran, dialling⟩ := ran
  exact ⟨_, last, chosen, ran, dialling, (refused_tokens_stay_refused chosen ran).1⟩

end Vigil

end Parley.Terminal
