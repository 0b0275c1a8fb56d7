import Parley.Url.Basic

/-!
# The server that a URL names

User, host and port of a URL come from its authority alone. The main statement is that a URL that is
put together from the texts of an authority and of a path names the server of this authority,
whatever the path is, and is refused exactly if the authority is.
-/

namespace Parley.Url

/-- The server that an authority names, as a URL with nothing behind the server. -/
def readAuthority (scheme : Scheme) (authority : List Char) : Except Defect Parts := do
  let (user, address) := splitUser authority
  let (name, behind) := splitHost false address
  let (username, password) := readUser (user.getD [])
  if name.isEmpty then .error .emptyHost
  else
    let host ← Host.read name
    let port ← readPort scheme behind
    .ok ⟨scheme, username, password, host, port, [], none, none⟩

/-- The URL with a path, a query and a fragment in place of its own. -/
def Parts.leadTo (server : Parts) (path : List (List Char)) (query fragment : Option (List Char)) :
    Parts :=
  { server with path, query, fragment }

/-- The URL has the server that an authority names, whatever else it has. -/
def Parts.LeadsTo (url : Parts) (authority : List Char) : Prop :=
  ∃ server path query fragment, readAuthority url.scheme authority = .ok server ∧
    url = server.leadTo path query fragment

/-- What is read before the path is read off the authority alone. -/
theorem read_eq (scheme : Scheme) (text : List Char) :
    read scheme text =
      let (before, fragment) := splitAtMark '#' ((tidy text).dropWhile isSlash)
      let (before, query) := splitAtMark '?' before
      let authority := before.takeWhile (! endsAuthority ·)
      (readAuthority scheme authority).map fun server =>
        server.leadTo (readPath (before.drop authority.length))
          (query.map (percentEncode querySet)) (fragment.map (percentEncode fragmentSet)) := by
  unfold read readAuthority
  dsimp only [Bind.bind, Except.bind]
  split
  · rw [Except.map]
  · split
    · rw [Except.map]
    · split
      · rw [Except.map]
      · rw [Except.map, Parts.leadTo]

theorem scheme_of_read {scheme : Scheme} {text : List Char} {url : Parts}
    (reads : read scheme text = .ok url) : url.scheme = scheme := by
  unfold read at reads
  dsimp only [Bind.bind, Except.bind] at reads
  split at reads
  · cases reads
  · split at reads
    · cases reads
    · split at reads
      · cases reads
      · cases reads
        rfl

/-! ## An authority before a path -/

/-- The text can stand for an authority: there is something, and nothing ends it or is dropped. -/
structure IsAuthority (text : List Char) : Prop where
  notEmpty : text ≠ []
  goesOn : ∀ character ∈ text, endsAuthority character = false
  kept : ∀ character ∈ text, isDropped character = false

theorem isAuthority_of_all {text : List Char} (notEmpty : text ≠ [])
    (goesOn : text.all (! endsAuthority ·) = true) (kept : text.all (! isDropped ·) = true) :
    IsAuthority text where
  notEmpty := notEmpty
  goesOn := fun character member =>
    Bool.not_eq_true' _ ▸ List.all_eq_true.mp goesOn character member
  kept := fun character member =>
    Bool.not_eq_true' _ ▸ List.all_eq_true.mp kept character member

theorem tidy_append {front : List Char} (kept : ∀ character ∈ front, isDropped character = false)
    (behind : List Char) : ∃ left, tidy (front ++ '/' :: behind) = front ++ '/' :: left := by
  have stops (text : List Char) : (behind.reverse ++ '/' :: text).dropWhile (·.toNat ≤ 0x20) =
      behind.reverse.dropWhile (·.toNat ≤ 0x20) ++ '/' :: text := by
    rw [List.dropWhile_append]
    split
    next gone =>
      rw [List.isEmpty_iff.mp gone]
      rfl
    · rfl
  refine ⟨(behind.reverse.dropWhile (·.toNat ≤ 0x20)).reverse.filter (! isDropped ·), ?_⟩
  have keeps : front.filter (! isDropped ·) = front :=
    List.filter_eq_self.mpr fun character member => by rw [kept character member]; rfl
  rw [tidy, List.reverse_append, List.reverse_cons, List.append_assoc, List.singleton_append, stops,
    List.reverse_append, List.reverse_cons, List.reverse_reverse, List.append_assoc,
    List.filter_append, keeps]
  rfl

theorem splitAtMark_append {mark : Char} {front : List Char} (absent : mark ∉ front)
    (another : mark ≠ '/') (behind : List Char) :
    ∃ before after,
      splitAtMark mark (front ++ '/' :: behind) = (front ++ '/' :: before, after) := by
  have apart : ∀ character ∈ front ++ ['/'], decide (character ≠ mark) = true := by
    intro character member
    rcases List.mem_append.mp member with inFront | isSlash
    · exact decide_eq_true fun same => absent (same ▸ inFront)
    · exact decide_eq_true fun same => another (same ▸ List.mem_singleton.mp isSlash)
  rw [List.append_cons, splitAtMark, List.dropWhile_append_of_pos apart,
    List.takeWhile_append_of_pos apart]
  cases behind.dropWhile (· ≠ mark) with
  | nil =>
      refine ⟨behind, none, ?_⟩
      dsimp only
      rw [← List.append_cons]
  | cons _ after =>
      refine ⟨behind.takeWhile (· ≠ mark), some after, ?_⟩
      dsimp only
      rw [← List.append_cons]

namespace IsAuthority

variable {authority : List Char}

theorem notMem (isAuthority : IsAuthority authority) {mark : Char}
    (ends : endsAuthority mark = true) : mark ∉ authority := by
  intro member
  rw [isAuthority.goesOn mark member] at ends
  cases ends

/-- Reading starts at the authority. -/
theorem dropWhile_slashes (isAuthority : IsAuthority authority) (behind : List Char) :
    ('/' :: '/' :: (authority ++ behind)).dropWhile isSlash = authority ++ behind := by
  obtain ⟨first, others, rfl⟩ := List.exists_cons_of_ne_nil isAuthority.notEmpty
  have noSlash : isSlash first = false := by
    have goesOn := isAuthority.goesOn first List.mem_cons_self
    rw [endsAuthority, Bool.or_eq_false_iff, Bool.or_eq_false_iff] at goesOn
    exact goesOn.1.1
  rw [List.dropWhile_cons_of_pos rfl, List.dropWhile_cons_of_pos rfl, List.cons_append,
    List.dropWhile_cons_of_neg (by rw [noSlash]; exact Bool.false_ne_true)]

/-- The path ends the authority. -/
theorem takeWhile_goesOn (isAuthority : IsAuthority authority) (behind : List Char) :
    (authority ++ '/' :: behind).takeWhile (! endsAuthority ·) = authority := by
  have goesOn : ∀ character ∈ authority, (! endsAuthority character) = true :=
    fun character member => by rw [isAuthority.goesOn character member]; rfl
  rw [List.takeWhile_append_of_pos goesOn]
  exact List.append_nil authority

/-- Whatever path stands behind an authority, a URL names the server of the authority. -/
theorem read_before_path (isAuthority : IsAuthority authority) (behind : List Char) :
    ∃ path query fragment, ∀ scheme,
      read scheme ('/' :: '/' :: (authority ++ '/' :: behind)) =
        (readAuthority scheme authority).map (·.leadTo path query fragment) := by
  have slashes : ∀ character ∈ '/' :: '/' :: authority, isDropped character = false :=
    List.forall_mem_cons.mpr ⟨rfl, List.forall_mem_cons.mpr ⟨rfl, isAuthority.kept⟩⟩
  obtain ⟨left, tidies⟩ := tidy_append slashes behind
  obtain ⟨before, fragment, splits⟩ :=
    splitAtMark_append (@notMem _ isAuthority '#' rfl) (by decide) left
  obtain ⟨path, query, splitsAgain⟩ :=
    splitAtMark_append (@notMem _ isAuthority '?' rfl) (by decide) before
  refine ⟨readPath ('/' :: path), query.map (percentEncode querySet),
    fragment.map (percentEncode fragmentSet), fun scheme => ?_⟩
  rw [List.cons_append, List.cons_append, List.cons_append, List.cons_append] at tidies
  rw [read_eq, tidies, isAuthority.dropWhile_slashes, splits]
  dsimp only
  rw [splitsAgain]
  dsimp only
  rw [isAuthority.takeWhile_goesOn, List.drop_left]

end IsAuthority

end Parley.Url
