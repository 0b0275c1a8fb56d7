import Mathlib.Data.List.TakeWhile
import Parley.Text.Blank

/-!
# White space around and inside a text

Trimming takes blanks away at both ends and nothing else, so a trimmed text is what is left of any
text that pads it. A text is split at its first blank, and only a text without blanks is not split.
-/

namespace Parley.Text

def AllBlank (text : List Char) : Prop :=
  ∀ character ∈ text, isBlank character = true

def NoBlank (text : List Char) : Prop :=
  ∀ character ∈ text, isBlank character = false

instance (text : List Char) : Decidable (AllBlank text) :=
  List.decidableBAll (isBlank · = true) text

instance (text : List Char) : Decidable (NoBlank text) :=
  List.decidableBAll (isBlank · = false) text

/-- The text neither starts nor ends with a blank. -/
structure IsTrimmed (text : List Char) : Prop where
  starts : ∀ character, text.head? = some character → isBlank character = false
  ends : ∀ character, text.getLast? = some character → isBlank character = false

/-! ## Trimming -/

theorem dropWhile_of_allBlank {before : List Char} (blank : AllBlank before) (text : List Char) :
    (before ++ text).dropWhile isBlank = text.dropWhile isBlank :=
  List.dropWhile_append_of_pos blank

theorem dropWhile_of_starts {text : List Char}
    (starts : ∀ character, text.head? = some character → isBlank character = false) :
    text.dropWhile isBlank = text := by
  cases text with
  | nil => rfl
  | cons character rest => rw [List.dropWhile_cons_of_neg (by simp [starts character rfl])]

theorem trimRight_padded {text after : List Char} (blank : AllBlank after)
    (ends : ∀ character, text.getLast? = some character → isBlank character = false) :
    trimRight (text ++ after) = text := by
  have backwards : AllBlank after.reverse := fun character inside =>
    blank character (List.mem_reverse.mp inside)
  rw [trimRight, List.reverse_append, dropWhile_of_allBlank backwards,
    dropWhile_of_starts (by simpa using ends), List.reverse_reverse]

/-- A trimmed text is what is left of it between blanks. -/
theorem trim_padded {before text after : List Char} (blankBefore : AllBlank before)
    (blankAfter : AllBlank after) (trimmed : IsTrimmed text) :
    trim (before ++ (text ++ after)) = text := by
  rw [trim, trimLeft, dropWhile_of_allBlank blankBefore]
  cases text with
  | nil =>
      have gone : after.dropWhile isBlank = [] := List.dropWhile_eq_nil_iff.mpr blankAfter
      rw [List.nil_append, gone]
      rfl
  | cons character rest =>
      rw [dropWhile_of_starts (by simpa using trimmed.starts)]
      exact trimRight_padded blankAfter trimmed.ends

theorem trim_of_blanks_before {before text : List Char} (blank : AllBlank before)
    (trimmed : IsTrimmed text) : trim (before ++ text) = text := by
  have nothing : AllBlank [] := by simp [AllBlank]
  simpa using trim_padded blank nothing trimmed

/-- Trimming splits a text into blanks, what is left, and blanks again. -/
theorem exists_trim (text : List Char) :
    ∃ before after, AllBlank before ∧ AllBlank after ∧ text = before ++ (trim text ++ after) := by
  have left := List.takeWhile_append_dropWhile (p := isBlank) (l := text)
  have right := List.takeWhile_append_dropWhile (p := isBlank) (l := (trimLeft text).reverse)
  refine ⟨text.takeWhile isBlank, ((trimLeft text).reverse.takeWhile isBlank).reverse, ?_, ?_, ?_⟩
  · exact fun character inside => List.mem_takeWhile_imp inside
  · exact fun character inside => List.mem_takeWhile_imp (List.mem_reverse.mp inside)
  · have whole := congrArg List.reverse right
    rw [List.reverse_append, List.reverse_reverse] at whole
    rw [trim, trimRight, whole]
    exact left.symm

theorem isTrimmed_trim (text : List Char) : IsTrimmed (trim text) where
  starts := by
    intro character first
    obtain ⟨after, isPrefix⟩ : ∃ after, trimLeft text = trim text ++ after := by
      have whole := List.takeWhile_append_dropWhile (p := isBlank) (l := (trimLeft text).reverse)
      have turned := congrArg List.reverse whole
      rw [List.reverse_append, List.reverse_reverse] at turned
      exact ⟨_, turned.symm⟩
    have same : (trimLeft text).head? = some character := by
      rw [isPrefix, List.head?_append, first, Option.some_or]
    exact isBlank_of_head?_trimLeft same
  ends := by
    intro character last
    rw [trim, trimRight, List.getLast?_reverse] at last
    exact isBlank_of_head?_trimLeft last

theorem trim_of_isTrimmed {text : List Char} (trimmed : IsTrimmed text) : trim text = text := by
  have nothing : AllBlank [] := by simp [AllBlank]
  exact trim_of_blanks_before nothing trimmed

/-- Blanks at the end of a trimmed text are none. -/
theorem eq_nil_of_isTrimmed_append {text after : List Char} (trimmed : IsTrimmed (text ++ after))
    (blank : AllBlank after) : after = [] := by
  cases last : after.getLast? with
  | none => exact List.getLast?_eq_none_iff.mp last
  | some character =>
      have notBlank := trimmed.ends character (by rw [List.getLast?_append, last, Option.some_or])
      rw [blank character (List.mem_of_getLast? last)] at notBlank
      cases notBlank

/-! ## The first blank -/

theorem splitAtBlank?_of_noBlank {text : List Char} (noBlank : NoBlank text) :
    splitAtBlank? text = none := by
  have gone : text.dropWhile (! isBlank ·) = [] :=
    List.dropWhile_eq_nil_iff.mpr fun character inside => by simp [noBlank character inside]
  rw [splitAtBlank?, gone]

theorem splitAtBlank?_word {word after : List Char} {blank : Char} (noBlank : NoBlank word)
    (isBlank : isBlank blank = true) :
    splitAtBlank? (word ++ blank :: after) = some (word, after) := by
  have goesOn : ∀ character ∈ word, (! Text.isBlank character) = true :=
    fun character inside => by simp [noBlank character inside]
  rw [splitAtBlank?, List.dropWhile_append_of_pos goesOn, List.takeWhile_append_of_pos goesOn]
  simp [isBlank]

/-- A text has no blank, or is a word before its first blank. -/
theorem noBlank_or_exists_word (text : List Char) :
    NoBlank text ∨ ∃ word blank after, NoBlank word ∧ isBlank blank = true ∧
      text = word ++ blank :: after := by
  induction text with
  | nil => exact Or.inl (by simp [NoBlank])
  | cons character rest inductionHypothesis =>
      cases isFirst : isBlank character with
      | true => exact Or.inr ⟨[], character, rest, by simp [NoBlank], isFirst, rfl⟩
      | false =>
          rcases inductionHypothesis with none | ⟨word, blank, after, noBlank, isBlank, rfl⟩
          · exact Or.inl (List.forall_mem_cons.mpr ⟨isFirst, none⟩)
          · exact Or.inr ⟨character :: word, blank, after,
              List.forall_mem_cons.mpr ⟨isFirst, noBlank⟩, isBlank, rfl⟩

end Parley.Text
