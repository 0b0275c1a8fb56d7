import Mathlib.Data.List.Forall2
import Parley.Text.Ascii

/-!
# Pieces of a text, whatever the case of their letters

An ASCII capital and its small letter are one letter, and every other character is only itself. The
search finds a piece exactly where a text has it up to the case of such letters. So the search does
not see case, still finds in a longer text what it has found, and does not look across a character
outside ASCII for a piece in ASCII.
-/

namespace Parley.Text

/-- An ASCII capital, and its small letter. -/
def IsCapitalOf (capital small : Char) : Prop :=
  65 ≤ capital.toNat ∧ capital.toNat ≤ 90 ∧ small.toNat = capital.toNat + 32

/-- The same character, or the same ASCII letter in its other case. -/
def SameLetter (first second : Char) : Prop :=
  first = second ∨ IsCapitalOf first second ∨ IsCapitalOf second first

instance (capital small : Char) : Decidable (IsCapitalOf capital small) :=
  inferInstanceAs (Decidable (_ ∧ _))

instance (first second : Char) : Decidable (SameLetter first second) :=
  inferInstanceAs (Decidable (_ ∨ _))

/-- The same text, up to the case of ASCII letters. -/
def SameLetters (first second : List Char) : Prop :=
  List.Forall₂ SameLetter first second

/-- Some piece of the text is the given one, up to the case of ASCII letters. -/
def HasPiece (piece text : List Char) : Prop :=
  ∃ found, found <:+: text ∧ SameLetters found piece

/-! ## Small letters -/

theorem toNat_toLower (character : Char) :
    character.toLower.toNat =
      if 65 ≤ character.toNat ∧ character.toNat ≤ 90 then character.toNat + 32
      else character.toNat := by
  have isCapital : (character.val ≥ 'A'.val ∧ character.val ≤ 'Z'.val) ↔
      65 ≤ character.toNat ∧ character.toNat ≤ 90 := by
    rw [ge_iff_le, UInt32.le_iff_toNat_le, UInt32.le_iff_toNat_le]
    rfl
  unfold Char.toLower
  split
  next capital =>
    have bounds := isCapital.mp capital
    rw [if_pos bounds]
    change (character.val + 32).toNat = character.val.toNat + 32
    have small : character.val.toNat ≤ 90 := bounds.2
    rw [UInt32.toNat_add]
    exact Nat.mod_eq_of_lt (Nat.lt_of_le_of_lt (Nat.add_le_add_right small 32) (by decide))
  next other =>
    rw [if_neg (isCapital.not.mp other)]

theorem toLower_eq_toLower_iff {first second : Char} :
    first.toLower = second.toLower ↔ SameLetter first second := by
  rw [← Char.toNat_inj, toNat_toLower, toNat_toLower, SameLetter, ← Char.toNat_inj]
  unfold IsCapitalOf
  split
  · split
    · omega
    · omega
  · split
    · omega
    · omega

/-- The Kelvin sign and the dotless i are letters of their own. -/
example : SameLetter 'K' 'k' ∧ ¬ SameLetter '\u212A' 'k' ∧ ¬ SameLetter '\u0131' 'i' := by
  decide

theorem map_toLower_eq_iff {first second : List Char} :
    first.map Char.toLower = second.map Char.toLower ↔ SameLetters first second := by
  have letterwise :
      (fun left right : Char => left.toLower = right.toLower) = SameLetter := by
    funext left right
    exact propext toLower_eq_toLower_iff
  rw [← List.forall₂_eq_eq_eq, List.forall₂_map_left_iff, List.forall₂_map_right_iff, letterwise]
  rfl

theorem SameLetters.symm {first second : List Char} (same : SameLetters first second) :
    SameLetters second first :=
  map_toLower_eq_iff.mp (map_toLower_eq_iff.mpr same).symm

/-- Only an ASCII letter is an ASCII letter. -/
theorem SameLetters.isAscii {first second : List Char} (same : SameLetters first second)
    (ascii : isAscii first = true) : isAscii second = true := by
  induction same with
  | nil =>
      rfl
  | @cons left right _ _ letter _ inductionHypothesis =>
      rw [Text.isAscii, List.all_cons, Bool.and_eq_true, decide_eq_true_eq] at ascii ⊢
      refine ⟨?_, inductionHypothesis ascii.2⟩
      rcases letter with rfl | capital | small
      · exact ascii.1
      · have bounds := capital.2
        omega
      · have bounds := small.2.1
        omega

/-! ## The search -/

theorem containsFolded_iff_isInfix {piece text : List Char} :
    containsFolded piece text = true ↔
      piece.map Char.toLower <:+: text.map Char.toLower := by
  induction text with
  | nil =>
      rw [containsFolded, List.isEmpty_iff, List.map_nil, List.infix_nil, List.map_eq_nil_iff]
  | cons character rest inductionHypothesis =>
      rw [containsFolded, Bool.or_eq_true, List.isPrefixOf_iff_prefix, inductionHypothesis,
        List.map_cons, List.infix_cons_iff]

theorem containsFolded_iff {piece text : List Char} :
    containsFolded piece text = true ↔ HasPiece piece text := by
  rw [containsFolded_iff_isInfix, List.infix_map_iff]
  constructor
  · rintro ⟨found, inside, same⟩
    exact ⟨found, inside, map_toLower_eq_iff.mp same.symm⟩
  · rintro ⟨found, inside, same⟩
    exact ⟨found, inside, (map_toLower_eq_iff.mpr same).symm⟩

theorem containsFolded_congr {first second : List Char} (same : SameLetters first second)
    (piece : List Char) : containsFolded piece first = containsFolded piece second := by
  rw [Bool.eq_iff_iff, containsFolded_iff_isInfix, containsFolded_iff_isInfix,
    map_toLower_eq_iff.mpr same]

theorem HasPiece.extend {piece text : List Char} (has : HasPiece piece text)
    (before after : List Char) : HasPiece piece (before ++ text ++ after) := by
  obtain ⟨found, inside, same⟩ := has
  exact ⟨found, inside.trans (List.infix_append before text after), same⟩

theorem eq_nil_of_notMem {α : Type} {mark : α} {piece after : List α}
    (notMem : mark ∉ piece) (starts : piece <+: mark :: after) : piece = [] := by
  rcases List.prefix_cons_iff.mp starts with empty | ⟨rest, rfl, _⟩
  · exact empty
  · exact absurd List.mem_cons_self notMem

/-- A piece that lacks a character lies on one side of it. -/
theorem infix_of_notMem {α : Type} {mark : α} {piece before after : List α}
    (notMem : mark ∉ piece) (inside : piece <:+: before ++ mark :: after) :
    piece <:+: before ∨ piece <:+: after := by
  rcases List.infix_append_iff.mp inside with left | right | ⟨first, second, rfl, ends, starts⟩
  · exact Or.inl left
  · rcases List.infix_cons_iff.mp right with starts | later
    · rw [eq_nil_of_notMem notMem starts]
      exact Or.inl List.nil_infix
    · exact Or.inr later
  -- The piece would reach over the mark, but the part behind `before` begins with it.
  · have notInSecond : mark ∉ second := fun member =>
      notMem (List.mem_append_right first member)
    rw [eq_nil_of_notMem notInSecond starts, List.append_nil]
    exact Or.inl ends.isInfix

/-- No character outside ASCII is part of a piece in ASCII, in whatever case. -/
theorem hasPiece_across {piece : List Char} (ascii : isAscii piece = true) {character : Char}
    (outside : 128 ≤ character.toNat) (before after : List Char) :
    HasPiece piece (before ++ character :: after) ↔
      HasPiece piece before ∨ HasPiece piece after := by
  constructor
  · rintro ⟨found, inside, same⟩
    have foundAscii := same.symm.isAscii ascii
    have notMem : character ∉ found := by
      intro member
      have inAscii := of_decide_eq_true (List.all_eq_true.mp foundAscii character member)
      omega
    rcases infix_of_notMem notMem inside with left | right
    · exact Or.inl ⟨found, left, same⟩
    · exact Or.inr ⟨found, right, same⟩
  · rintro (left | right)
    · simpa using left.extend [] (character :: after)
    · simpa using right.extend (before ++ [character]) []

end Parley.Text
