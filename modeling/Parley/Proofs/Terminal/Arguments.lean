import Parley.Proofs.Settings.Chat
import Parley.Proofs.Settings.Target
import Parley.Terminal.Arguments

/-!
# Flags against the settings file

No command line is accepted with options that rule each other out. What an accepted one says about
the endpoint goes before the settings file, but for one case: a file that asks for the desktop
program keeps its URL, whatever host is given and whether or not encryption is asked for.
-/

namespace Parley.Terminal.Arguments

open Settings (Endpoint)

/-! ## Which options are accepted together -/

/-- No option is there with another one that it rules out. -/
structure Compatible (arguments : Arguments) : Prop where
  host : arguments.desktop = true → arguments.host = none
  secure : arguments.desktop = true → arguments.secure = false
  session : arguments.newSession = true → arguments.session = none

theorem find?_conflicts_eq_none_iff {arguments : Arguments} :
    (arguments.conflicts.find? fun (left, right) => left.2 && right.2) = none ↔
      Compatible arguments := by
  simp only [conflicts, List.find?_eq_none, List.forall_mem_cons, Bool.and_eq_true, not_and,
    Bool.not_eq_true, Option.isSome_eq_false_iff, Option.isNone_iff_eq_none]
  constructor
  · rintro ⟨host, secure, session, -⟩
    exact ⟨host, secure, session⟩
  · rintro ⟨host, secure, session⟩
    exact ⟨host, secure, session, nofun⟩

theorem finish_eq_run_iff {arguments read : Arguments} :
    finish arguments = .run read ↔ arguments = read ∧ Compatible read := by
  unfold finish
  cases finds : arguments.conflicts.find? fun (left, right) => left.2 && right.2 with
  | none =>
      have compatible := find?_conflicts_eq_none_iff.mp finds
      simp only [Outcome.run.injEq]
      constructor
      · rintro rfl
        exact ⟨rfl, compatible⟩
      · exact And.left
  | some pair =>
      constructor
      · intro refuses
        cases refuses
      · rintro ⟨rfl, compatible⟩
        rw [find?_conflicts_eq_none_iff.mpr compatible] at finds
        cases finds

theorem ne_run_of_ofSetting {setting : Except Fault Arguments} {outcome : Outcome}
    (stops : Step.ofSetting setting = .stop outcome) (arguments : Arguments) :
    outcome ≠ .run arguments := by
  cases setting with
  | ok after =>
      cases stops
  | error fault =>
      cases stops
      exact nofun

theorem ne_run_of_stepLong {word name : String} {attached : Option String} {before : Arguments}
    {outcome : Outcome} (stops : stepLong word name attached before = .stop outcome)
    (arguments : Arguments) : outcome ≠ .run arguments := by
  unfold stepLong at stops
  split at stops
  · exact ne_run_of_ofSetting stops arguments
  · cases stops
  · exact ne_run_of_ofSetting stops arguments
  · cases stops
    exact nofun
  · split at stops
    · split at stops
      · cases stops
        exact nofun
      · cases stops
        split
        · exact nofun
        · exact nofun
    · cases stops
      exact nofun

/-- No word ends the command line and has it run. -/
theorem ne_run_of_step {word : String} {before : Arguments} {outcome : Outcome}
    (stops : step word before = .stop outcome) (arguments : Arguments) :
    outcome ≠ .run arguments := by
  unfold step at stops
  split at stops
  · cases stops
  · dsimp only at stops
    split at stops
    · exact ne_run_of_stepLong stops arguments
    · exact ne_run_of_stepLong stops arguments
  · cases stops
    exact nofun
  · cases stops
    exact nofun
  · cases stops
    exact nofun

theorem compatible_of_read {words : List String} {awaiting : Option Valued}
    {before arguments : Arguments} (reads : read awaiting before words = .run arguments) :
    Compatible arguments := by
  -- Only `finish` has a command line run, when no word is left or none may follow.
  induction words generalizing awaiting before with
  | nil =>
      cases awaiting with
      | none =>
          exact (finish_eq_run_iff.mp reads).2
      | some option =>
          cases reads
  | cons word rest inductionHypothesis =>
      unfold read at reads
      cases awaiting with
      | none =>
          dsimp only at reads
          split at reads
          · exact inductionHypothesis reads
          · exact inductionHypothesis reads
          · split at reads
            · exact (finish_eq_run_iff.mp reads).2
            · cases reads
          next outcome stops =>
            exact absurd reads (ne_run_of_step stops arguments)
      | some option =>
          dsimp only at reads
          split at reads
          · cases reads
          · split at reads
            · exact inductionHypothesis reads
            · cases reads

/-- Options that rule each other out are not accepted together. -/
theorem compatible_of_parse {words : List String} {arguments : Arguments}
    (accepted : parse words = .run arguments) : Compatible arguments :=
  compatible_of_read accepted

theorem Compatible.not_desktop {arguments : Arguments} (compatible : Compatible arguments)
    (other : arguments.host ≠ none ∨ arguments.secure = true) : arguments.desktop = false := by
  cases isDesktop : arguments.desktop with
  | false =>
      rfl
  | true =>
      rcases other with given | encrypts
      · exact absurd (compatible.host isDesktop) given
      · rw [compatible.secure isDesktop] at encrypts
        cases encrypts

/-! ## What becomes of the settings -/

section Apply

variable (arguments : Arguments) (loaded : Settings.Chat)

/-- The endpoint of a settings file once the command line is taken into account. -/
def endpointAfter : Endpoint :=
  (arguments.apply loaded).client.endpoint

/-- The server that a host names, with what else the command line or else the file says. -/
def endpointOn (host : String) : Endpoint :=
  .ofHost host (arguments.secure || loaded.client.endpoint.secure) loaded.client.endpoint.path

/-- What the endpoint is not told by a flag is as it was loaded, and so is all that no flag is
about. -/
structure LeavesRest : Prop where
  host : arguments.host = none →
    (arguments.endpointAfter loaded).host = loaded.client.endpoint.host
  secure : arguments.secure = false →
    (arguments.endpointAfter loaded).secure = loaded.client.endpoint.secure
  desktop : arguments.desktop = false →
    (arguments.endpointAfter loaded).desktop = loaded.client.endpoint.desktop
  path : (arguments.endpointAfter loaded).path = loaded.client.endpoint.path
  client : { (arguments.apply loaded).client with endpoint := loaded.client.endpoint } =
    loaded.client
  tokenPath : (arguments.apply loaded).tokenPath = loaded.tokenPath

/-- What the command line says about the endpoint and the backend is so, whatever was loaded, and
the rest is as it was loaded. -/
structure FlagsWin : Prop where
  host : ∀ host, arguments.host = some host →
    (arguments.endpointAfter loaded).target = (arguments.endpointOn loaded host).target
  named : ∀ host, arguments.host = some host → Url.IsAuthority host.toList →
    ∀ url, (arguments.endpointAfter loaded).target = .ok url → url.LeadsTo host.toList
  secure : arguments.secure = true →
    ∀ url, (arguments.endpointAfter loaded).target = .ok url → url.scheme = .secure
  desktop : arguments.desktop = true →
    (arguments.endpointAfter loaded).target =
        (Endpoint.ofDesktop loaded.client.endpoint.path).target ∧
      (loaded.client.endpoint.path.toList.head? = some '/' →
        ∃ path query fragment, (arguments.endpointAfter loaded).target =
          .ok (Endpoint.desktopServer.leadTo path query fragment))
  backend : ∀ backend, arguments.backend = some backend →
    (arguments.apply loaded).backend = some backend
  noBackend : arguments.backend = none → (arguments.apply loaded).backend = loaded.backend
  rest : arguments.LeavesRest loaded

variable {arguments loaded}

/-- What no flag is about is left as it was loaded. -/
theorem leavesRest : arguments.LeavesRest loaded where
  host := by
    intro missing
    rw [endpointAfter, apply, missing]
    rfl
  secure := by
    intro missing
    rw [endpointAfter, apply, missing]
    rfl
  desktop := by
    intro missing
    rw [endpointAfter, apply, missing]
    rfl
  path := rfl
  client := rfl
  tokenPath := rfl

theorem desktop_endpointAfter : (arguments.endpointAfter loaded).desktop =
    (arguments.desktop || loaded.client.endpoint.desktop) :=
  rfl

theorem path_endpointAfter :
    (arguments.endpointAfter loaded).path = loaded.client.endpoint.path :=
  rfl

theorem desktop_of_loaded (asks : loaded.client.endpoint.desktop = true) :
    (arguments.endpointAfter loaded).desktop = true := by
  rw [desktop_endpointAfter, asks, Bool.or_true]

theorem endpointAfter_of_host {host : String} (given : arguments.host = some host)
    (notDesktop : (arguments.endpointAfter loaded).desktop = false) :
    arguments.endpointAfter loaded = arguments.endpointOn loaded host := by
  have isHost : (arguments.endpointAfter loaded).host = host := by
    rw [endpointAfter, apply, given]
    rfl
  calc arguments.endpointAfter loaded
      = { arguments.endpointOn loaded host with
          host := (arguments.endpointAfter loaded).host
          desktop := (arguments.endpointAfter loaded).desktop } := rfl
    _ = arguments.endpointOn loaded host := by
      rw [isHost, notDesktop]
      rfl

/-- A host is dialled unless the loaded settings ask for the desktop program and that is not what
the host leads to anyway. -/
theorem target_of_host_iff {host : String} (given : arguments.host = some host)
    (free : arguments.desktop = false) :
    (arguments.endpointAfter loaded).target = (arguments.endpointOn loaded host).target ↔
      (loaded.client.endpoint.desktop = true →
        (arguments.endpointOn loaded host).target =
          (Endpoint.ofDesktop loaded.client.endpoint.path).target) := by
  cases asks : loaded.client.endpoint.desktop with
  | true =>
      rw [Endpoint.target_of_desktop (desktop_of_loaded asks), path_endpointAfter]
      exact ⟨fun same _ => same.symm, fun same => (same rfl).symm⟩
  | false =>
      have notDesktop : (arguments.endpointAfter loaded).desktop = false := by
        rw [desktop_endpointAfter, free, asks, Bool.or_false]
      rw [endpointAfter_of_host given notDesktop]
      exact iff_of_true rfl nofun

/-- A URL is encrypted unless the loaded settings ask for the desktop program, which has a URL with
every path that begins with a slash. -/
theorem scheme_of_secure_iff (encrypts : arguments.secure = true)
    (free : arguments.desktop = false) :
    (∀ url, (arguments.endpointAfter loaded).target = .ok url → url.scheme = .secure) ↔
      (loaded.client.endpoint.desktop = true →
        loaded.client.endpoint.path.toList.head? ≠ some '/') := by
  constructor
  · intro isSecure asks rooted
    obtain ⟨path, query, fragment, leads⟩ := Endpoint.target_ofDesktop rooted
    have makes := Endpoint.target_of_desktop (@desktop_of_loaded arguments loaded asks)
    rw [path_endpointAfter, leads] at makes
    cases isSecure _ makes
  · intro unrooted url makes
    rw [Endpoint.scheme_of_target makes]
    cases asks : loaded.client.endpoint.desktop with
    | true =>
        exact absurd (Endpoint.target_eq_ok_iff.mp makes).2.1 (unrooted asks)
    | false =>
        have isSecure : (arguments.endpointAfter loaded).secure = true := by
          rw [endpointAfter, apply, encrypts]
          rfl
        rw [Endpoint.scheme, isSecure, desktop_endpointAfter, free, asks]
        rfl

/-- What an accepted command line says about the endpoint is so, unless the loaded settings ask for
the desktop program: then their URL stays, and the command line is only heeded if its host has this
URL anyway, and encryption only if there is no URL. -/
theorem flags_win_iff {words : List String} (accepted : parse words = .run arguments)
    (loaded : Settings.Chat) :
    (arguments.FlagsWin loaded ↔
      (loaded.client.endpoint.desktop = true →
        (∀ host, arguments.host = some host →
          (arguments.endpointOn loaded host).target =
            (Endpoint.ofDesktop loaded.client.endpoint.path).target) ∧
        (arguments.secure = true → loaded.client.endpoint.path.toList.head? ≠ some '/'))) ∧
      (loaded.client.endpoint.desktop = true →
        (arguments.endpointAfter loaded).target = loaded.client.endpoint.target) := by
  have compatible := compatible_of_parse accepted
  have onHost (host : String) (given : arguments.host = some host) :=
    have isGiven : arguments.host ≠ none := by
      rw [given]
      exact nofun
    @target_of_host_iff arguments loaded host given (compatible.not_desktop (Or.inl isGiven))
  have onSecure (encrypts : arguments.secure = true) :=
    @scheme_of_secure_iff arguments loaded encrypts (compatible.not_desktop (Or.inr encrypts))
  refine ⟨⟨?_, ?_⟩, ?_⟩
  · intro wins asks
    exact ⟨fun host given => (onHost host given).mp (wins.host host given) asks,
      fun encrypts => (onSecure encrypts).mp (wins.secure encrypts) asks⟩
  · intro agrees
    have dials (host : String) (given : arguments.host = some host) :=
      (onHost host given).mpr fun asks => (agrees asks).1 host given
    exact
      { host := dials
        named := by
          intro host given isAuthority url makes
          rw [dials host given] at makes
          exact Endpoint.leadsTo_of_host isAuthority makes
        secure := fun encrypts => (onSecure encrypts).mpr fun asks => (agrees asks).2 encrypts
        desktop := by
          intro asks
          have isDesktop : (arguments.endpointAfter loaded).desktop = true := by
            rw [desktop_endpointAfter, asks, Bool.true_or]
          rw [Endpoint.target_of_desktop isDesktop, path_endpointAfter]
          exact ⟨rfl, Endpoint.target_ofDesktop⟩
        backend := by
          intro backend given
          rw [apply, given]
          rfl
        noBackend := by
          intro missing
          rw [apply, missing]
          rfl
        rest := leavesRest }
  · intro asks
    rw [Endpoint.target_of_desktop (desktop_of_loaded asks), Endpoint.target_of_desktop asks,
      path_endpointAfter]

end Apply

/-- Settings that ask for the desktop program. -/
def desktopSettings : Settings.Chat :=
  { Settings.Chat.standard none with
    client := { Settings.Client.standard with
      endpoint := { Endpoint.standard with desktop := true } } }

/-- What `--host 10.0.0.2:9375 --secure --backend=ollama` gives. -/
def elsewhere : Arguments :=
  { unset with host := some "10.0.0.2:9375", secure := true, backend := some "ollama" }

/-- What `--host=0x7f.1:9375` gives, the host of the desktop program in another spelling. -/
def respelled : Arguments :=
  { unset with host := some "0x7f.1:9375" }

theorem target_respelled : (respelled.endpointOn desktopSettings "0x7f.1:9375").target =
    (Endpoint.ofDesktop "/api/chat").target := by
  rfl

/-- Standard settings give way to a host and to encryption. Settings that ask for the desktop
program do not stand in the way of its own host, in whatever spelling. -/
theorem flags_win_of_elsewhere :
    parse ["--host", "10.0.0.2:9375", "--secure", "--backend=ollama"] = .run elsewhere ∧
      elsewhere.FlagsWin (Settings.Chat.standard none) ∧
      parse ["--host=0x7f.1:9375"] = .run respelled ∧ respelled.FlagsWin desktopSettings := by
  have accepts : parse ["--host", "10.0.0.2:9375", "--secure", "--backend=ollama"] =
      .run elsewhere := by rfl
  have acceptsRespelled : parse ["--host=0x7f.1:9375"] = .run respelled := by rfl
  refine ⟨accepts, (flags_win_iff accepts _).1.mpr nofun, acceptsRespelled, ?_⟩
  refine (flags_win_iff acceptsRespelled desktopSettings).1.mpr fun _ => ⟨?_, nofun⟩
  intro host given
  cases given
  exact target_respelled

/-- What `--host h:1` gives. -/
def onHost : Arguments :=
  { unset with host := some "h:1" }

/-- Settings that ask for the desktop program are read from a file, and they keep the URL of the
desktop program against the host of an accepted command line. -/
theorem flags_lose_to_desktopSettings :
    (∃ text, Settings.Chat.parse? none text = some desktopSettings) ∧
      parse ["--host", "h:1"] = .run onHost ∧
      (onHost.endpointAfter desktopSettings).target.toOption.map (·.render) =
        some "ws://127.0.0.1:9375/api/chat" ∧
      (onHost.endpointOn desktopSettings "h:1").target.toOption.map (·.render) =
        some "ws://h:1/api/chat" ∧
      ¬ onHost.FlagsWin desktopSettings := by
  have fits : desktopSettings.FitsFile := by decide
  have isDesktop : (onHost.endpointAfter desktopSettings).target.toOption.map (·.render) =
      some "ws://127.0.0.1:9375/api/chat" := by rfl
  have isHost : (onHost.endpointOn desktopSettings "h:1").target.toOption.map (·.render) =
      some "ws://h:1/api/chat" := by rfl
  obtain ⟨text, written⟩ := Option.isSome_iff_exists.mp (Settings.Chat.isSome_render?.mpr fits)
  refine ⟨⟨text, Settings.Chat.parse?_of_render? none written (by decide)⟩, rfl, isDesktop, isHost,
    ?_⟩
  intro wins
  rw [wins.host "h:1" rfl, isHost] at isDesktop
  exact absurd isDesktop (by decide)

end Parley.Terminal.Arguments
