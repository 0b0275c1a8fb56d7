/-!
# Tokens

A provider of tokens hands out the one it holds, but never an empty one.
-/

namespace Parley.Token

/-- What a provider answers that holds such a token. -/
def present (held : Option String) : Option String :=
  held.filter (! ·.isEmpty)

theorem present_some (token : String) :
    present (some token) = if token = "" then none else some token := by
  by_cases empty : token = ""
  · subst empty
    rfl
  · have notEmpty : token.isEmpty = false := by simpa using empty
    simp [present, Option.filter, notEmpty, empty]

theorem present_eq_some_iff {held : Option String} {token : String} :
    present held = some token ↔ held = some token ∧ token ≠ "" := by
  cases held with
  | none =>
      simp [present]
  | some kept =>
      rw [present_some]
      by_cases empty : kept = ""
      · subst empty
        simp [eq_comm]
      · rw [if_neg empty]
        constructor
        · rintro ⟨⟩
          exact ⟨rfl, empty⟩
        · exact And.left

end Parley.Token
