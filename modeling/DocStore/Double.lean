/-!
# Double-precision numbers

A `Double` is not-a-number, an infinity, or a signed finite magnitude. The finite magnitudes are
numbered in increasing order from zero, so the number of a magnitude is its place on the grid of
doubles; `units` gives the exact value of a place as a multiple of `2^-1074`, the least positive
magnitude. All arithmetic is exact on units and rounds once, to the nearest place and on a tie to
the even one (`roundPlace`).

Main statements: `gridFloor_units` (a value of the grid is found at its own place) and
`roundPlace_units` (rounding leaves a value of the grid alone).
-/

namespace DocStore

-- powers are those of the core library, whatever else is imported
attribute [local instance (high)] instPowNat

namespace Double

/-- The number of finite magnitudes: 2046 binades of `2^52` normal values each, and the
subnormal ones. -/
abbrev places : Nat := 2047 * 2 ^ (52 : Nat)

/-- The binary places after the point of the least positive magnitude. -/
def binaryPlaces : Nat := 1074

/-- The number of units in one. -/
def unitsPerOne : Nat := 2 ^ binaryPlaces

/-- The step from a place to the next one is `2 ^ scale` units: from place `2 * 2^52` on, it
doubles with every `2^52` places. -/
def scale (place : Nat) : Nat := place / 2 ^ (52 : Nat) - 1

/-- The magnitude at a place, in units. -/
def units (place : Nat) : Nat := (place - scale place * 2 ^ (52 : Nat)) * 2 ^ scale place

/-- The last place whose magnitude is at most `u` units. -/
def gridFloor (u : Nat) : Nat := (u.log2 - 52) * 2 ^ (52 : Nat) + u / 2 ^ (u.log2 - 52)

/-- The place nearest to `num / den` units; on a tie the even one. The answer `places` or more
stands for a magnitude beyond the greatest double. -/
def roundPlace (num den : Nat) : Nat :=
  let below := gridFloor (num / den)
  -- twice the middle of the two places, against twice the number
  let middle := (units below + units (below + 1)) * den
  if 2 * num < middle then below
  else if middle < 2 * num then below + 1
  else if below % 2 = 0 then below
  else below + 1

end Double

/-- A double-precision number. -/
inductive Double where
  | nan
  | infinite (negative : Bool)
  /-- A finite number, by sign and place of its magnitude. -/
  | finite (negative : Bool) (place : Fin Double.places)
  deriving DecidableEq

namespace Double

/-- Positive zero. -/
def zero : Double := .finite false ⟨0, by decide⟩

instance : Inhabited Double := ⟨zero⟩

/-- The double with the magnitude at a place; an infinity beyond the last place. -/
def ofPlace (negative : Bool) (place : Nat) : Double :=
  if h : place < places then .finite negative ⟨place, h⟩ else .infinite negative

/-- The double nearest to `num / den` units. -/
def round (negative : Bool) (num den : Nat) : Double :=
  ofPlace negative (roundPlace num den)

/-- The exact value of a finite double with its sign, in units. -/
def signedUnits (negative : Bool) (place : Nat) : Int :=
  if negative then -(units place : Int) else units place

/-- The double nearest to an integer; none if the integer is beyond the greatest double. -/
def ofInt? (n : Int) : Option Double :=
  match round (n < 0) (n.natAbs * unitsPerOne) 1 with
  | .finite negative place => some (.finite negative place)
  | _ => none

/-- The sum, rounded once. A sum that is exactly zero is negative only if both terms are. -/
def add : Double → Double → Double
  | .nan, _ | _, .nan => .nan
  | .infinite a, .infinite b => if a = b then .infinite a else .nan
  | .infinite a, .finite _ _ | .finite _ _, .infinite a => .infinite a
  | .finite a m, .finite b n =>
    let sum := signedUnits a m + signedUnits b n
    if sum = 0 then ofPlace (a && b) 0 else round (sum < 0) sum.natAbs 1

/-- Whether the number is a zero of either sign. -/
def isZero : Double → Bool
  | .finite _ place => place.val = 0
  | _ => false

/-! ## Rounding leaves the grid alone -/

/-- A value of the grid is found at its own place. -/
theorem gridFloor_units (place : Nat) : gridFloor (units place) = place := by
  unfold units gridFloor
  generalize hs : scale place = s
  unfold scale at hs
  by_cases h : place < 2 * 2 ^ 52
  · obtain rfl : s = 0 := by omega
    have hl : place.log2 - 52 = 0 := by
      by_cases h0 : place = 0
      · subst h0; decide
      · have := (Nat.log2_lt h0).2 (show place < 2 ^ 53 by omega)
        omega
    simp [hl]
  · have hlo : 2 ^ 52 ≤ place - s * 2 ^ 52 := by omega
    have hhi : place - s * 2 ^ 52 < 2 ^ 53 := by omega
    generalize hm : place - s * 2 ^ 52 = m at hlo hhi
    have hpos := Nat.two_pow_pos s
    have hne : m * 2 ^ s ≠ 0 := Nat.mul_ne_zero (by omega) (by omega)
    have hlog : (m * 2 ^ s).log2 = 52 + s := by
      apply Nat.le_antisymm
      · have hlt : m * 2 ^ s < 2 ^ (52 + s + 1) := by
          calc m * 2 ^ s < 2 ^ 53 * 2 ^ s := Nat.mul_lt_mul_of_pos_right hhi hpos
            _ = 2 ^ (52 + s + 1) := by rw [← Nat.pow_add]; congr 1; omega
        have := (Nat.log2_lt hne).2 hlt
        omega
      · apply (Nat.le_log2 hne).2
        calc 2 ^ (52 + s) = 2 ^ 52 * 2 ^ s := by rw [Nat.pow_add]
          _ ≤ m * 2 ^ s := Nat.mul_le_mul_right _ hlo
    rw [hlog, Nat.add_sub_cancel_left, Nat.mul_div_cancel _ hpos]
    omega

/-- Later places hold greater magnitudes. -/
theorem units_lt_units_succ (place : Nat) : units place < units (place + 1) := by
  unfold units
  by_cases h : scale (place + 1) = scale place
  · rw [h]
    apply Nat.mul_lt_mul_of_pos_right _ (Nat.two_pow_pos _)
    unfold scale at *
    omega
  · generalize hs : scale place = s
    have hsucc : scale (place + 1) = s + 1 := by unfold scale at *; omega
    have hlt : place - s * 2 ^ 52 < 2 ^ 53 := by unfold scale at *; omega
    have heq : place + 1 - (s + 1) * 2 ^ 52 = 2 ^ 52 := by unfold scale at *; omega
    rw [hsucc, heq]
    calc (place - s * 2 ^ 52) * 2 ^ s < 2 ^ 53 * 2 ^ s :=
          Nat.mul_lt_mul_of_pos_right hlt (Nat.two_pow_pos s)
      _ = 2 ^ 52 * 2 ^ (s + 1) := by
          rw [← Nat.pow_add, ← Nat.pow_add]; congr 1; omega

/-- A value of the grid rounds to its own place. -/
theorem roundPlace_units (place : Nat) : roundPlace (units place) 1 = place := by
  have h := units_lt_units_succ place
  simp only [roundPlace, Nat.div_one, gridFloor_units, Nat.mul_one]
  rw [if_pos (by omega)]

end Double

end DocStore
