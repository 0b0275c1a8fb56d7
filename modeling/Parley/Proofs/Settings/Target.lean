import Parley.Proofs.Url.Authority
import Parley.Settings.Endpoint

/-!
# Where an endpoint leads

The URL of an endpoint depends on the scheme, the address and the path that it comes to. It names
the server of the address. For the desktop program there is a URL with every path that begins with a
slash.
-/

namespace Parley.Settings.Endpoint

open Url (Parts)

variable {endpoint other : Endpoint} {url : Parts}

/-- The server at a host, which is not dialled as the desktop program. -/
def ofHost (host : String) (secure : Bool) (path : String) : Endpoint :=
  ⟨host, secure, false, path⟩

/-- The desktop program, with a path of its own. -/
def ofDesktop (path : String) : Endpoint :=
  ofHost desktopAddress false path

theorem target_congr (scheme : endpoint.scheme = other.scheme)
    (address : endpoint.address = other.address) (path : endpoint.path = other.path) :
    endpoint.target = other.target := by
  rw [target, target, scheme, address, path]

theorem scheme_of_desktop (desktop : endpoint.desktop = true) : endpoint.scheme = .plain := by
  rw [scheme, desktop, Bool.not_true, Bool.and_false]
  rfl

theorem address_of_desktop (desktop : endpoint.desktop = true) :
    endpoint.address = desktopAddress :=
  if_pos desktop

theorem target_of_desktop (desktop : endpoint.desktop = true) :
    endpoint.target = (ofDesktop endpoint.path).target :=
  target_congr (scheme_of_desktop desktop) (address_of_desktop desktop) rfl

/-- There is a URL if there is an address, the path has its slash, and both can be read together.
-/
theorem target_eq_ok_iff :
    endpoint.target = .ok url ↔
      endpoint.address.isEmpty = false ∧ endpoint.path.toList.head? = some '/' ∧
        Url.read endpoint.scheme
          ('/' :: '/' :: (endpoint.address.toList ++ endpoint.path.toList)) = .ok url := by
  unfold target
  cases isEmpty : endpoint.address.isEmpty with
  | true =>
      simp
  | false =>
      by_cases rooted : endpoint.path.toList.head? = some '/'
      · rw [if_neg Bool.false_ne_true, if_neg (not_not_intro rooted)]
        cases Url.read endpoint.scheme
            ('/' :: '/' :: (endpoint.address.toList ++ endpoint.path.toList)) with
        | error defect =>
            simp
        | ok read =>
            simp [rooted]
      · simp [rooted]

theorem scheme_of_target (makes : endpoint.target = .ok url) : url.scheme = endpoint.scheme :=
  Url.scheme_of_read (target_eq_ok_iff.mp makes).2.2

theorem leadsTo_of_target (isAuthority : Url.IsAuthority endpoint.address.toList)
    (makes : endpoint.target = .ok url) : url.LeadsTo endpoint.address.toList := by
  obtain ⟨-, rooted, reads⟩ := target_eq_ok_iff.mp makes
  obtain ⟨behind, isPath⟩ := List.head?_eq_some_iff.mp rooted
  obtain ⟨path, query, fragment, read⟩ := isAuthority.read_before_path behind
  rw [isPath, read] at reads
  cases named : Url.readAuthority endpoint.scheme endpoint.address.toList with
  | error defect =>
      rw [named] at reads
      cases reads
  | ok server =>
      rw [named] at reads
      cases reads
      have scheme := scheme_of_target makes
      refine ⟨server, path, query, fragment, ?_, rfl⟩
      rw [scheme, named]

theorem address_ofHost (host : String) (secure : Bool) (path : String) :
    (ofHost host secure path).address = host :=
  rfl

/-- The URL that a host makes leads to the server that the host names. -/
theorem leadsTo_of_host {host path : String} {secure : Bool}
    (isAuthority : Url.IsAuthority host.toList)
    (makes : (ofHost host secure path).target = .ok url) : url.LeadsTo host.toList := by
  rw [← address_ofHost host secure path] at isAuthority ⊢
  exact leadsTo_of_target isAuthority makes

/-- The desktop program as a URL names it: its address and port, without encryption or a user. -/
def desktopServer : Parts :=
  ⟨.plain, [], [], .ipv4 0x7F000001, some 9375, [], none, none⟩

theorem readAuthority_desktopAddress :
    Url.readAuthority .plain desktopAddress.toList = .ok desktopServer := by
  rfl

theorem isAuthority_desktopAddress : Url.IsAuthority desktopAddress.toList :=
  Url.isAuthority_of_all (by decide) (by decide) (by decide)

/-- The desktop program has a URL under every path with its slash, and it leads to that server. -/
theorem target_ofDesktop {path : String} (rooted : path.toList.head? = some '/') :
    ∃ segments query fragment,
      (ofDesktop path).target = .ok (desktopServer.leadTo segments query fragment) := by
  obtain ⟨behind, isPath⟩ := List.head?_eq_some_iff.mp rooted
  obtain ⟨segments, query, fragment, reads⟩ := isAuthority_desktopAddress.read_before_path behind
  have named := reads .plain
  rw [readAuthority_desktopAddress, ← isPath] at named
  exact ⟨segments, query, fragment, target_eq_ok_iff.mpr ⟨rfl, rooted, named⟩⟩

end Parley.Settings.Endpoint
