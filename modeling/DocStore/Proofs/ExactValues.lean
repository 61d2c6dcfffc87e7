import DocStore.Value
import Mathlib.Algebra.Order.Field.Rat
import Mathlib.Algebra.Order.Field.Power
import Mathlib.Data.Rat.Cast.Order
import Mathlib.Order.WithBot
import Mathlib.Tactic.Positivity

/-!
# The exact values of numbers

Comparing counts in units of the least positive double, so that it never rounds. Here is what the
units stand for: an integer is itself, a finite double has the value that its exponent and its
fraction give, the infinities are the two ends of the line, and not-a-number has no value. Two
numbers are compared as their exact values are, however large or small they may be.

## Key results

- `Double.units_eq`: the units of a place are its value by exponent and fraction
- `Number.Height.cmp_eq_compare`: heights are compared as the values that they stand for
- `Number.cmp?_eq_some_iff`: numbers are compared by exact value
-/

namespace DocStore

/-- The line of rational numbers with its two ends. -/
abbrev ExtendedRational : Type := WithBot (WithTop ℚ)

/-! ## Doubles -/

namespace Double

/-- The exponent field of the magnitude at a place: places count the bit patterns from zero. -/
def exponentField (place : Nat) : Nat := place / 2 ^ (52 : Nat)

/-- The fraction field of the magnitude at a place. -/
def fractionField (place : Nat) : Nat := place % 2 ^ (52 : Nat)

/-- The magnitude at a place: a fraction with a leading one, scaled by the exponent; the subnormal
ones have the least exponent once more and no leading one. -/
def magnitude (place : Nat) : ℚ :=
  if exponentField place = 0 then (fractionField place : ℚ) * 2 ^ (-1074 : ℤ)
  else (2 ^ (52 : ℕ) + (fractionField place : ℚ)) * 2 ^ ((exponentField place : ℤ) - 1075)

/-- The `units` of a subnormal magnitude are its fraction. -/
private theorem units_of_exponentField_eq_zero {place : Nat} (h : exponentField place = 0) :
    units place = fractionField place := by
  unfold exponentField at h
  unfold units scale fractionField
  have hscale : place / 2 ^ 52 - 1 = 0 := by omega
  rw [hscale]
  omega

/-- The `units` of any other magnitude are its fraction with a leading one, scaled. -/
private theorem units_of_exponentField_ne_zero {place : Nat} (h : exponentField place ≠ 0) :
    units place = (2 ^ 52 + fractionField place) * 2 ^ (exponentField place - 1) := by
  unfold exponentField at *
  unfold units scale fractionField
  congr 1
  omega

/-- `units` counts the value of a place, by exponent and fraction, in units of the least positive
double. -/
theorem units_eq (place : Nat) : (units place : ℚ) = magnitude place * unitsPerOne := by
  -- one is `2 ^ 1074` units
  have hone : ((unitsPerOne : Nat) : ℚ) = 2 ^ (1074 : ℤ) := by
    rw [unitsPerOne, Nat.cast_pow, binaryPlaces]
    exact (zpow_natCast 2 1074).symm
  rw [hone, magnitude]
  -- the powers of two cancel: of the fraction alone, or of the fraction with its leading one
  split
  · rename_i h
    rw [units_of_exponentField_eq_zero h, mul_assoc, ← zpow_add₀ two_ne_zero]
    simp
  · rename_i h
    have hexponent : (exponentField place : ℤ) - 1075 + 1074 = (exponentField place - 1 : ℕ) := by
      omega
    rw [units_of_exponentField_ne_zero h, mul_assoc, ← zpow_add₀ two_ne_zero, hexponent]
    push_cast
    rfl

end Double

namespace Number

/-! ## Heights -/

/-- The value that a height stands for. -/
def Height.value : Height → ExtendedRational
  | .bottom => ⊥
  | .level units => ((units / (Double.unitsPerOne : ℚ) : ℚ) : WithTop ℚ)
  | .top => ((⊤ : WithTop ℚ) : ExtendedRational)

/-- `unitsPerOne` is positive, as a rational. -/
private theorem unitsPerOne_pos : (0 : ℚ) < Double.unitsPerOne := by
  rw [Double.unitsPerOne, Nat.cast_pow]
  positivity

/-- `Height.value` keeps the order of finite heights. -/
private theorem Height.value_level_lt_iff (a b : ℤ) :
    (Height.level a).value < (Height.level b).value ↔ a < b := by
  rw [value, value, WithBot.coe_lt_coe, WithTop.coe_lt_coe,
    div_lt_div_iff_of_pos_right unitsPerOne_pos, Int.cast_lt]

/-- `Height.cmp` compares heights as the values that they stand for. -/
theorem Height.cmp_eq_compare (h k : Height) : h.cmp k = compare h.value k.value := by
  symm
  cases h with
  | bottom =>
    cases k with
    | bottom => exact compare_eq_iff_eq.2 rfl
    | level b => exact compare_lt_iff_lt.2 (WithBot.bot_lt_coe _)
    | top => exact compare_lt_iff_lt.2 (WithBot.bot_lt_coe _)
  | level a =>
    cases k with
    | bottom => exact compare_gt_iff_gt.2 (WithBot.bot_lt_coe _)
    | level b =>
      rw [cmp]
      -- two finite heights are compared as their units are
      rcases lt_trichotomy a b with hab | rfl | hab
      · rw [compare_lt_iff_lt.2 hab, compare_lt_iff_lt]
        exact (value_level_lt_iff a b).2 hab
      · rw [compare_eq_iff_eq.2 rfl, compare_eq_iff_eq.2 rfl]
      · rw [compare_gt_iff_gt.2 hab, compare_gt_iff_gt]
        exact (value_level_lt_iff b a).2 hab
    | top => exact compare_lt_iff_lt.2 (WithBot.coe_lt_coe.2 (WithTop.coe_lt_top _))
  | top =>
    cases k with
    | bottom => exact compare_gt_iff_gt.2 (WithBot.bot_lt_coe _)
    | level b => exact compare_gt_iff_gt.2 (WithBot.coe_lt_coe.2 (WithTop.coe_lt_top _))
    | top => exact compare_eq_iff_eq.2 rfl

/-! ## Numbers -/

/-- The exact value of a number; not-a-number has none. -/
def value? : Number → Option ExtendedRational
  | .int n => some (((n : ℚ) : WithTop ℚ) : ExtendedRational)
  | .float .nan => none
  | .float (.infinite negative) =>
    some (if negative then ⊥ else ((⊤ : WithTop ℚ) : ExtendedRational))
  | .float (.finite negative place) =>
    let magnitude := Double.magnitude place
    some (((if negative then -magnitude else magnitude : ℚ) : WithTop ℚ) : ExtendedRational)

/-- `value?` gives every number a value but not-a-number. -/
theorem value?_eq_none_iff {n : Number} : n.value? = none ↔ n = .float .nan := by
  cases n with
  | int n => simp [value?]
  | float x => cases x <;> simp [value?]

/-- `height?` gives the height that stands for the exact value. -/
private theorem height?_map_value (n : Number) : n.height?.map Height.value = n.value? := by
  have hone : (Double.unitsPerOne : ℚ) ≠ 0 := unitsPerOne_pos.ne'
  cases n with
  | int n =>
    rw [height?, value?, Option.map_some, Height.value]
    push_cast
    rw [mul_div_cancel_right₀ _ hone]
  | float x =>
    cases x with
    | nan => rfl
    | infinite negative => cases negative <;> rfl
    | finite negative place =>
      rw [height?, value?, Option.map_some, Height.value]
      -- the units of the magnitude, taken back to its value
      have hunits : (Double.units place : ℚ) / Double.unitsPerOne = Double.magnitude place := by
        rw [Double.units_eq, mul_div_cancel_right₀ _ hone]
      -- the rewriting is kept from working out how many units one is
      cases negative
      · simp only [Double.signedUnits, Bool.false_eq_true, if_false, Int.cast_natCast, hunits]
      · simp only [Double.signedUnits, if_true, Int.cast_neg, Int.cast_natCast, neg_div, hunits]

/-- `cmp?` compares numbers by exact value, and compares none that has no value. -/
theorem cmp?_eq_some_iff {m n : Number} {o : Ordering} :
    m.cmp? n = some o ↔
      ∃ x y, m.value? = some x ∧ n.value? = some y ∧ compare x y = o := by
  rw [← height?_map_value, ← height?_map_value, cmp?]
  cases m.height? <;> cases n.height? <;> simp [Height.cmp_eq_compare]

end Number

end DocStore
