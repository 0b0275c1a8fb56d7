import Mathlib.Algebra.Group.Nat.Defs
import Mathlib.Order.Bounds.Basic
import Mathlib.Order.Interval.Set.Defs
import Parley.Settings.Client

/-!
# Delays

A delay is the base delay times a power of two, up to a cap. It is computed in machine words, by a
shift, a product and a minimum; the main statement is that none of them loses anything, so that the
delays are those of unbounded numbers: they never fall as attempts go on, and settings that are not
refused keep them between the base delay and the cap.
-/

namespace Parley.Settings

/-! ## Whole seconds -/

/-- The seconds cover the milliseconds, and no fewer seconds do. -/
theorem wholeSeconds_le_iff {milliseconds seconds : Nat} :
    wholeSeconds milliseconds ≤ seconds ↔ milliseconds ≤ seconds * 1000 := by
  unfold wholeSeconds
  omega

/-- Milliseconds that fit a word are read back from the seconds and nanoseconds that they make. -/
theorem milliseconds_of_le {count : Nat} (fits : count ≤ greatestWord) :
    milliseconds (count / 1000) (count % 1000 * 1000000) = count := by
  unfold milliseconds
  rw [Nat.mul_div_cancel _ (by decide : 0 < 1000000), Nat.div_add_mod', saturate_of_le fits]

namespace Backoff

variable {backoff : Backoff}

/-- The cap and the limit fit the words in which they are kept. -/
structure FitsWords (backoff : Backoff) : Prop where
  maxDelay_le : backoff.maxDelay ≤ greatestWord
  attemptLimit_le : backoff.attemptLimit ≤ greatestHalfWord

/-! ## Over unbounded numbers -/

/-- A delay doubles with every attempt up to the cap, however many attempts there are. -/
theorem delay_eq (fits : backoff.FitsWords) (attempt : Nat) :
    backoff.delay attempt = min (backoff.baseDelay * Nat.pow 2 attempt) backoff.maxDelay := by
  have capped : backoff.maxDelay ≤ greatestWord := fits.maxDelay_le
  unfold delay factor saturate
  by_cases fitting : attempt < 64
  · rw [if_pos fitting]
    omega
  · rw [if_neg fitting]
    rcases Nat.eq_zero_or_pos backoff.baseDelay with zero | positive
    · rw [zero]
      omega
    · -- Both the saturated product and the true one have passed the cap.
      have saturated : greatestWord ≤ backoff.baseDelay * greatestWord :=
        Nat.le_mul_of_pos_left greatestWord positive
      have passed : greatestWord ≤ backoff.baseDelay * Nat.pow 2 attempt := by
        calc greatestWord ≤ Nat.pow 2 64 := by decide
          _ ≤ Nat.pow 2 attempt := Nat.pow_le_pow_right (by decide) (Nat.not_lt.mp fitting)
          _ ≤ backoff.baseDelay * Nat.pow 2 attempt := Nat.le_mul_of_pos_left _ positive
      omega

theorem baseDelay_le_delay (fits : backoff.FitsWords)
    (capped : backoff.baseDelay ≤ backoff.maxDelay) (attempt : Nat) :
    backoff.baseDelay ≤ backoff.delay attempt := by
  rw [delay_eq fits]
  apply Nat.le_min.mpr
  constructor
  · exact Nat.le_mul_of_pos_right _ (Nat.pow_pos (by decide))
  · exact capped

theorem delay_le_maxDelay (backoff : Backoff) (attempt : Nat) :
    backoff.delay attempt ≤ backoff.maxDelay :=
  Nat.min_le_right _ _

theorem delay_mono (fits : backoff.FitsWords) : Monotone backoff.delay := by
  intro early late notLater
  rw [delay_eq fits, delay_eq fits]
  have grows : Nat.pow 2 early ≤ Nat.pow 2 late := Nat.pow_le_pow_right (by decide) notLater
  have product := Nat.mul_le_mul_left backoff.baseDelay grows
  omega

/-! ## In words -/

/-- The power of two that a shift makes, or the greatest word for a shift past the last bit. -/
def factorWord (attempt : UInt32) : UInt64 :=
  if attempt < 64 then 1 <<< attempt.toUInt64 else UInt64.ofNat greatestWord

/-- The product, or the greatest word if the product does not fit one. -/
def productWord (left right : UInt64) : UInt64 :=
  if left.toNat * right.toNat ≤ greatestWord then left * right else UInt64.ofNat greatestWord

def delayWord (baseDelay maxDelay : UInt64) (attempt : UInt32) : UInt64 :=
  let product := productWord baseDelay (factorWord attempt)
  if product ≤ maxDelay then product else maxDelay

theorem toNat_le_greatestWord (word : UInt64) : word.toNat ≤ greatestWord :=
  Nat.le_sub_one_of_lt word.toNat_lt

theorem toNat_greatestWord : (UInt64.ofNat greatestWord).toNat = greatestWord :=
  UInt64.toNat_ofNat_of_lt' (by decide)

theorem toNat_factorWord (attempt : UInt32) :
    (factorWord attempt).toNat = factor attempt.toNat := by
  unfold factorWord factor
  have inWords : attempt < 64 ↔ attempt.toNat < 64 := UInt32.lt_iff_toNat_lt
  by_cases fitting : attempt.toNat < 64
  · rw [if_pos (inWords.mpr fitting), if_pos fitting, UInt64.toNat_shiftLeft]
    have shift : attempt.toUInt64.toNat % 64 = attempt.toNat := by
      rw [UInt32.toNat_toUInt64, Nat.mod_eq_of_lt fitting]
    have fits : 2 ^ attempt.toNat < 2 ^ 64 := Nat.pow_lt_pow_right (by decide) fitting
    rw [shift, UInt64.toNat_one, Nat.one_shiftLeft, Nat.mod_eq_of_lt fits]
    rfl
  · rw [if_neg (fun fits => fitting (inWords.mp fits)), if_neg fitting, toNat_greatestWord]

/-- The factor is the power of two while that fits a word. -/
theorem factor_eq (attempt : Nat) : factor attempt = saturate (2 ^ attempt) := by
  unfold factor
  by_cases fitting : attempt < 64
  · have fits : 2 ^ attempt < 2 ^ 64 := Nat.pow_lt_pow_right (by decide) fitting
    rw [if_pos fitting, saturate_of_le (Nat.le_sub_one_of_lt fits)]
    rfl
  · have past : 2 ^ 64 ≤ 2 ^ attempt := Nat.pow_le_pow_right (by decide) (Nat.not_lt.mp fitting)
    rw [if_neg fitting, saturate, Nat.min_eq_right (Nat.le_trans (by decide) past)]

theorem toNat_productWord (left right : UInt64) :
    (productWord left right).toNat = saturate (left.toNat * right.toNat) := by
  unfold productWord
  split
  next fits =>
    rw [UInt64.toNat_mul, Nat.mod_eq_of_lt (Nat.lt_of_le_of_lt fits (by decide)),
      saturate_of_le fits]
  next past =>
    rw [toNat_greatestWord, saturate, Nat.min_eq_right (Nat.le_of_not_le past)]

/-- The delay that words make is the delay of the settings that they hold. -/
theorem toNat_delayWord (baseDelay maxDelay : UInt64) (limit : Nat) (attempt : UInt32) :
    (delayWord baseDelay maxDelay attempt).toNat =
      delay ⟨baseDelay.toNat, maxDelay.toNat, limit⟩ attempt.toNat := by
  have product : (productWord baseDelay (factorWord attempt)).toNat =
      saturate (baseDelay.toNat * factor attempt.toNat) := by
    rw [toNat_productWord, toNat_factorWord]
  simp only [delayWord, delay, ← product, Nat.min_def, UInt64.le_iff_toNat_le]
  split <;> rfl

end Backoff

/-! ## Settings that are not refused -/

/-- Settings that are not refused have a delay, and it is not above its cap. -/
theorem Client.delays_of_check
    {settings : Client} {base : Url.Parts} (valid : settings.check = .ok base) :
    0 < settings.backoff.baseDelay ∧ settings.backoff.baseDelay ≤ settings.backoff.maxDelay := by
  unfold check at valid
  split at valid
  · cases valid
  · split at valid
    · cases valid
    next positive =>
      split at valid
      · cases valid
      next capped =>
        exact ⟨Nat.pos_of_ne_zero positive, Nat.not_lt.mp capped⟩

namespace Backoff

def ofWords (baseDelay maxDelay : UInt64) (limit : UInt32) : Backoff :=
  ⟨baseDelay.toNat, maxDelay.toNat, limit.toNat⟩

theorem fitsWords_ofWords (baseDelay maxDelay : UInt64) (limit : UInt32) :
    (ofWords baseDelay maxDelay limit).FitsWords :=
  ⟨toNat_le_greatestWord maxDelay, Nat.le_sub_one_of_lt limit.toNat_lt⟩

/-- Whatever words the settings hold, a delay is the doubled base delay or the cap over unbounded
numbers: the shift and the product stop at the greatest word, and nothing wraps around. The delays
never fall, they are between the base delay and the cap in settings that are not refused, and each
is shown as the least number of whole seconds that covers it. -/
theorem delays_are_exact (baseDelay maxDelay : UInt64) (limit : UInt32) :
    (∀ attempt : UInt32,
      (factorWord attempt).toNat = saturate (2 ^ attempt.toNat) ∧
        (productWord baseDelay (factorWord attempt)).toNat =
          saturate (baseDelay.toNat * (factorWord attempt).toNat) ∧
        (delayWord baseDelay maxDelay attempt).toNat =
          (ofWords baseDelay maxDelay limit).delay attempt.toNat ∧
        (ofWords baseDelay maxDelay limit).delay attempt.toNat =
          min (baseDelay.toNat * 2 ^ attempt.toNat) maxDelay.toNat) ∧
    Monotone (ofWords baseDelay maxDelay limit).delay ∧
    (∀ (settings : Client) (base : Url.Parts), settings.backoff = ofWords baseDelay maxDelay limit →
      settings.check = .ok base → ∀ attempt,
        settings.backoff.delay attempt ∈ Set.Icc baseDelay.toNat maxDelay.toNat ∧
          settings.backoff.delay attempt ≠ 0) ∧
    ∀ attempt delay, delay = (ofWords baseDelay maxDelay limit).delay attempt →
      milliseconds (delay / 1000) (delay % 1000 * 1000000) = delay ∧
        IsLeast {seconds | delay ≤ seconds * 1000} (wholeSeconds delay) := by
  have fits := fitsWords_ofWords baseDelay maxDelay limit
  refine ⟨?_, delay_mono fits, ?_, ?_⟩
  · intro attempt
    refine ⟨?_, toNat_productWord _ _, toNat_delayWord _ _ _ _, delay_eq fits _⟩
    rw [toNat_factorWord, factor_eq]
  · intro settings base same valid attempt
    obtain ⟨positive, capped⟩ := Client.delays_of_check valid
    rw [same] at positive capped ⊢
    have least := baseDelay_le_delay fits capped attempt
    exact ⟨⟨least, delay_le_maxDelay _ _⟩, Nat.ne_of_gt (Nat.lt_of_lt_of_le positive least)⟩
  · rintro attempt delay rfl
    have fitsWord := Nat.le_trans (delay_le_maxDelay _ attempt) fits.maxDelay_le
    exact ⟨milliseconds_of_le fitsWord, wholeSeconds_le_iff.mp (Nat.le_refl _),
      fun seconds covers => wholeSeconds_le_iff.mpr covers⟩

/-- Settings whose delays have no cap below the greatest word. -/
def uncapped : Client :=
  { Client.standard with backoff := ofWords 3 18446744073709551615 10 }

/-- The last delay that fits a word, and the first that does not. -/
theorem delays_are_exact_of_uncapped :
    ∃ base, uncapped.check = .ok base ∧
      uncapped.backoff.delay 62 = 3 * 2 ^ 62 ∧
      uncapped.backoff.delay 63 = 2 ^ 64 - 1 ∧
      uncapped.backoff.delay 63 ∈ Set.Icc 3 18446744073709551615 ∧
      uncapped.backoff.delay 63 ≠ 0 := by
  obtain ⟨exact, -, between, -⟩ := delays_are_exact 3 18446744073709551615 10
  have valid : uncapped.check = .ok _ := rfl
  obtain ⟨inside, positive⟩ := between uncapped _ rfl valid 63
  exact ⟨_, valid, (exact 62).2.2.2, (exact 63).2.2.2, inside, positive⟩

end Backoff

end Parley.Settings
