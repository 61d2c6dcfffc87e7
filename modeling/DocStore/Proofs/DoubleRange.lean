import DocStore.Proofs.NumberText
import DocStore.Value

/-!
# Integers beyond the doubles

Which integers have no double next to them, and so which sums of two numbers there are not. The
grid of doubles ends at the place `places - 1`; an integer rounds beyond it from the middle between
this place and the next one on, because the last place is odd and a tie goes to the even one.

## Key results

- `Double.le_gridFloor_iff`: `gridFloor` gives the last place that is not above a value
- `Double.ofInt?_eq_none_iff`: the integers beyond the doubles are those from `2^1024 - 2^970` on
- `Number.add?_eq_none_iff`: there is no sum just for such an integer and a double
-/

namespace DocStore

-- powers are those of the core library, whatever else is imported
attribute [local instance (high)] instPowNat

namespace Double

/-! ## The grid around a value -/

/-- `units` grows from place to place, so it is strictly monotone. -/
private theorem units_lt_units {a b : Nat} (h : a < b) : units a < units b := by
  induction h with
  | refl => exact units_lt_units_succ a
  | step _ ih => exact Nat.lt_trans ih (units_lt_units_succ _)

/-- `units` is monotone. -/
private theorem units_le_units {a b : Nat} (h : a ≤ b) : units a ≤ units b := by
  rcases Nat.lt_or_eq_of_le h with h | h
  · exact Nat.le_of_lt (units_lt_units h)
  · exact Nat.le_of_eq (congrArg units h)

/-- The leading digits that `gridFloor` takes of a value: 53 of them if any are cut off, and never
more. -/
private theorem mantissa_bounds (u : Nat) :
    u / 2 ^ (u.log2 - 52) < 2 ^ (53 : Nat) ∧
      (0 < u.log2 - 52 → 2 ^ (52 : Nat) ≤ u / 2 ^ (u.log2 - 52)) := by
  constructor
  -- the value has `log2 + 1` digits, of which all but 53 are cut off
  · rw [Nat.div_lt_iff_lt_mul (Nat.two_pow_pos _), ← Nat.pow_add]
    calc u < 2 ^ (u.log2 + 1) := Nat.lt_log2_self
      _ ≤ 2 ^ (53 + (u.log2 - 52)) := Nat.pow_le_pow_right (by decide) (by omega)
  · intro hs
    have hu : u ≠ 0 := by
      intro h
      subst h
      simp at hs
    rw [Nat.le_div_iff_mul_le (Nat.two_pow_pos _), ← Nat.pow_add]
    calc 2 ^ (52 + (u.log2 - 52)) = 2 ^ u.log2 := by congr 1; omega
      _ ≤ u := Nat.log2_self_le hu

/-- A value stands between the place that `gridFloor` finds for it and the next one. -/
private theorem units_gridFloor (u : Nat) :
    units (gridFloor u) ≤ u ∧ u < units (gridFloor u + 1) := by
  obtain ⟨hhi, hlo⟩ := mantissa_bounds u
  unfold gridFloor
  generalize u.log2 - 52 = s at hhi hlo
  have hpos : 0 < 2 ^ s := Nat.two_pow_pos s
  have hfloor : u / 2 ^ s * 2 ^ s ≤ u := Nat.div_mul_le_self u (2 ^ s)
  have hceil : u < (u / 2 ^ s + 1) * 2 ^ s := by
    rw [Nat.mul_comm]
    exact Nat.lt_mul_div_succ u hpos
  generalize u / 2 ^ s = m at hhi hlo hfloor hceil
  -- the place found is in the binade of the leading digits
  have hscale : scale (s * 2 ^ 52 + m) = s := by unfold scale; omega
  refine ⟨?_, ?_⟩
  · rw [units, hscale, Nat.add_sub_cancel_left]
    exact hfloor
  · suffices h : units (s * 2 ^ 52 + m + 1) = (m + 1) * 2 ^ s by rwa [h]
    -- the next place is in the same binade, unless the digits run over
    by_cases hm : m + 1 < 2 ^ 53
    · have hscale' : scale (s * 2 ^ 52 + m + 1) = s := by unfold scale; omega
      rw [units, hscale', Nat.add_assoc, Nat.add_sub_cancel_left]
    · -- the next place opens the next binade
      have hscale' : scale (s * 2 ^ 52 + m + 1) = s + 1 := by unfold scale; omega
      have hm' : m + 1 = 2 ^ 53 := by omega
      have hplace : s * 2 ^ 52 + m + 1 - (s + 1) * 2 ^ 52 = 2 ^ 52 := by omega
      rw [units, hscale', hplace, hm', ← Nat.pow_add, ← Nat.pow_add]
      congr 1
      omega

/-- `gridFloor` finds the last place whose `units` are not above a value. -/
theorem le_gridFloor_iff {place u : Nat} : place ≤ gridFloor u ↔ units place ≤ u := by
  obtain ⟨hfloor, hceil⟩ := units_gridFloor u
  constructor
  · intro h
    exact Nat.le_trans (units_le_units h) hfloor
  · intro h
    apply Nat.le_of_not_lt
    intro hlt
    have hnext : units (gridFloor u + 1) ≤ units place := units_le_units hlt
    omega

/-! ## The end of the grid -/

/-- `roundPlace` gives the place that `gridFloor` finds, or the next one. -/
private theorem roundPlace_le (num den : Nat) : roundPlace num den ≤ gridFloor (num / den) + 1 := by
  simp only [roundPlace]
  split
  · omega
  · split
    · omega
    · split <;> omega

/-- `roundPlace` goes beyond the last place from the middle between this and the next place on. -/
private theorem places_le_roundPlace_iff (u : Nat) :
    places ≤ roundPlace u 1 ↔ units (places - 1) + units places ≤ 2 * u := by
  have hlast : units (places - 1) < units places := units_lt_units (by decide)
  have hround := roundPlace_le u 1
  have hfloor := gridFloor_le_roundPlace u 1
  rw [Nat.div_one] at hround hfloor
  by_cases hbeyond : places ≤ gridFloor u
  -- the value is beyond the last place without rounding
  · have hunits := le_gridFloor_iff.1 hbeyond
    constructor
    · intro _
      omega
    · intro _
      omega
  · by_cases hat : places - 1 ≤ gridFloor u
    · -- the value is between the last place and the next one
      have hplace : gridFloor u = places - 1 := by omega
      have hodd : ¬ (places - 1) % 2 = 0 := by decide
      have hnext : places - 1 + 1 = places := by decide
      simp only [roundPlace, Nat.div_one, hplace, Nat.mul_one, hnext, if_neg hodd]
      split
      · omega
      · split <;> omega
    -- the value is below the last place, which is then as far as it can round
    · have hunits := mt le_gridFloor_iff.2 hat
      omega

/-- `round` gives no finite double for the values that `roundPlace` puts beyond the last place. -/
private theorem round_ne_finite_iff {negative : Bool} {num : Nat} :
    (∀ b p, round negative num 1 ≠ .finite b p) ↔ places ≤ roundPlace num 1 := by
  unfold round ofPlace
  -- `ofPlace` has a place for the rounded value, or it answers an infinity
  by_cases h : roundPlace num 1 < places
  · rw [dif_pos h]
    constructor
    · intro hne
      exact absurd rfl (hne _ _)
    · intro hle
      omega
  · rw [dif_neg h]
    constructor
    · intro _
      omega
    · intro _ b p hp
      cases hp

/-- `ofInt?` fails for the integers that `round` gives no finite double for. -/
private theorem ofInt?_eq_none_iff_round (n : Int) :
    ofInt? n = none ↔ ∀ b p, round (n < 0) (n.natAbs * unitsPerOne) 1 ≠ .finite b p := by
  -- unfolded as a function, for applied to an integer it would be computed
  suffices h : ∀ f, f = ofInt? →
      (f n = none ↔ ∀ b p, round (n < 0) (n.natAbs * unitsPerOne) 1 ≠ .finite b p) from h _ rfl
  intro f hf
  delta ofInt? at hf
  subst hf
  dsimp only
  generalize round (n < 0) (n.natAbs * unitsPerOne) 1 = x
  cases x <;> simp

/-- The middle between the greatest double and the next place of the grid. -/
def limit : Nat := 2 ^ (1024 : Nat) - 2 ^ (970 : Nat)

/-- The integers beyond the doubles, those that no double is next to. -/
def IsBeyond (n : Int) : Prop := limit ≤ n.natAbs

instance (n : Int) : Decidable (IsBeyond n) := inferInstanceAs (Decidable (_ ≤ _))

/-- `ofInt?` fails for the integers beyond the doubles. -/
theorem ofInt?_eq_none_iff {n : Int} : ofInt? n = none ↔ IsBeyond n := by
  -- twice the middle between the last place and the next one, in units
  have hmiddle : units (places - 1) + units places = limit * (2 * unitsPerOne) := by
    decide +kernel
  have hpos : 0 < 2 * unitsPerOne := by decide +kernel
  rw [ofInt?_eq_none_iff_round, round_ne_finite_iff, places_le_roundPlace_iff, hmiddle,
    Nat.mul_left_comm 2]
  exact Nat.mul_le_mul_right_iff hpos

end Double

namespace Number

/-- One of two numbers is a double, and the other an integer beyond the doubles. -/
inductive TooFar : Number → Number → Prop where
  | left {n : Int} (beyond : Double.IsBeyond n) (x : Double) : TooFar (.int n) (.float x)
  | right {n : Int} (beyond : Double.IsBeyond n) (x : Double) : TooFar (.float x) (.int n)

/-- `add?` fails for an integer beyond the doubles and a double, in either order. -/
theorem add?_eq_none_iff {m n : Number} : m.add? n = none ↔ TooFar m n := by
  constructor
  · intro h
    -- only a double and an integer make the integer a double
    cases m with
    | int a =>
      cases n with
      | int b => cases h
      | float y => exact .left (Double.ofInt?_eq_none_iff.1 (Option.map_eq_none_iff.1 h)) y
    | float x =>
      cases n with
      | int b => exact .right (Double.ofInt?_eq_none_iff.1 (Option.map_eq_none_iff.1 h)) x
      | float y => cases h
  · intro h
    cases h with
    | left beyond x => exact Option.map_eq_none_iff.2 (Double.ofInt?_eq_none_iff.2 beyond)
    | right beyond x => exact Option.map_eq_none_iff.2 (Double.ofInt?_eq_none_iff.2 beyond)

end Number

end DocStore
