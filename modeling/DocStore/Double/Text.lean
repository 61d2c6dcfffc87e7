import DocStore.Double

/-!
# The decimal text of a double

`shortest` finds the fewest decimal digits that read back as the same double, and among texts of
that length the one nearest to it; `text` lays them out, positionally while the first digit stands
between the fourth place after the point and the sixteenth before it, else with an exponent.
`ofDecimal` reads a decimal of any length, rounding once.

Main statement: `placeOfDecimal_shortest`, the digits found read back as the place they stand for.
-/

namespace DocStore.Double

-- powers are those of the core library, whatever else is imported
attribute [local instance (high)] instPowNat

/-- The place nearest to `digits * 10 ^ exponent`. -/
def placeOfDecimal (digits : Nat) (exponent : Int) : Nat :=
  if 0 ≤ exponent then roundPlace (digits * 10 ^ exponent.toNat * unitsPerOne) 1
  else roundPlace (digits * unitsPerOne) (10 ^ (-exponent).toNat)

/-- The double nearest to `± digits * 10 ^ exponent`. The range is tested first, so that an
exponent far out of it costs nothing. -/
def ofDecimal (negative : Bool) (digits : Nat) (exponent : Int) : Double :=
  let size : Int := (Nat.toDigits 10 digits).length
  if digits = 0 then ofPlace negative 0
  else if 400 < size + exponent then .infinite negative
  else if size + exponent < -400 then ofPlace negative 0
  else ofPlace negative (placeOfDecimal digits exponent)

/-! ## The shortest digits -/

/-- Decimal grids are counted from `10 ^ -400` up, below every positive magnitude. -/
def deepest : Nat := 400

/-- Of the two neighbours of a magnitude on the grid of multiples of `10 ^ (grid - 400)`, the nearer
one that reads back as its place; of two equally near ones the even one. -/
def readsBackAt? (place grid : Nat) : Option (Nat × Int) :=
  let below := units place * 10 ^ deepest / (10 ^ grid * unitsPerOne)
  let exponent : Int := grid - deepest
  -- the two neighbours of the magnitude on this grid, as far as they read back
  let lower := placeOfDecimal below exponent = place
  let upper := placeOfDecimal (below + 1) exponent = place
  -- the magnitude and the middle between the neighbours, both doubled
  let twice := 2 * (units place * 10 ^ deepest)
  let middle := (2 * below + 1) * 10 ^ grid * unitsPerOne
  if lower ∧ upper then
    if twice < middle ∨ (twice = middle ∧ below % 2 = 0) then some (below, exponent)
    else some (below + 1, exponent)
  else if lower then some (below, exponent)
  else if upper then some (below + 1, exponent)
  else none

/-- The shortest decimal that reads back as the place: the coarsest grid with an answer. The exact
value, which always reads back, ends the search. -/
def shortest (place : Nat) : Nat × Int :=
  let length := (Nat.toDigits 10 (units place * 10 ^ deepest / unitsPerOne)).length
  -- from one digit to seventeen, which always suffice
  ((List.range 17).findSome? fun i => readsBackAt? place (length - (i + 1))).getD
    (units place * 5 ^ binaryPlaces, -binaryPlaces)

/-- `readsBackAt?` finds digits that read back as the place. -/
theorem placeOfDecimal_of_readsBackAt? {place grid digits : Nat} {exponent : Int}
    (h : readsBackAt? place grid = some (digits, exponent)) :
    placeOfDecimal digits exponent = place := by
  simp only [readsBackAt?] at h
  split at h
  · rename_i hb
    split at h
    · cases h; exact hb.1
    · cases h; exact hb.2
  · split at h
    · rename_i hl; cases h; exact hl
    · split at h
      · rename_i hu; cases h; exact hu
      · cases h

/-- `roundPlace` does not mind a common factor. -/
theorem roundPlace_mul (num den k : Nat) (hk : 0 < k) :
    roundPlace (num * k) (den * k) = roundPlace num den := by
  unfold roundPlace
  rw [Nat.mul_div_mul_right _ _ hk]
  generalize gridFloor (num / den) = below
  have h1 : 2 * (num * k) < (units below + units (below + 1)) * (den * k) ↔
      2 * num < (units below + units (below + 1)) * den := by
    rw [← Nat.mul_assoc, ← Nat.mul_assoc]; exact Nat.mul_lt_mul_right hk
  have h2 : (units below + units (below + 1)) * (den * k) < 2 * (num * k) ↔
      (units below + units (below + 1)) * den < 2 * num := by
    rw [← Nat.mul_assoc, ← Nat.mul_assoc]; exact Nat.mul_lt_mul_right hk
  simp only [h1, h2]

/-- The exact decimal value of a place reads back. -/
theorem placeOfDecimal_exact (place : Nat) :
    placeOfDecimal (units place * 5 ^ binaryPlaces) (-binaryPlaces) = place := by
  have h : units place * 5 ^ binaryPlaces * unitsPerOne = units place * 10 ^ binaryPlaces := by
    rw [unitsPerOne, Nat.mul_assoc, ← Nat.mul_pow]
  have hneg : ¬ (0 : Int) ≤ -(binaryPlaces : Int) := by decide
  unfold placeOfDecimal
  rw [if_neg hneg, h, Int.neg_neg, Int.toNat_natCast]
  have hm := roundPlace_mul (units place) 1 (10 ^ binaryPlaces) (Nat.pow_pos (by decide))
  rw [Nat.one_mul] at hm
  rw [hm, roundPlace_units]

/-- The digits found read back as the place they stand for. -/
theorem placeOfDecimal_shortest (place : Nat) :
    placeOfDecimal (shortest place).1 (shortest place).2 = place := by
  simp only [shortest]
  generalize hf : (List.range 17).findSome? _ = found
  cases found with
  | none => exact placeOfDecimal_exact place
  | some r =>
    obtain ⟨_, _, h⟩ := List.exists_of_findSome?_eq_some hf
    exact placeOfDecimal_of_readsBackAt? h

/-! ## Layout -/

/-- The texts of the numbers that have no digits. -/
structure Spelling where
  nan : String
  infinity : String

/-- Drops the zeros at the end of a number's digits, counting them into the exponent. -/
def dropZeros (digits : List Char) (exponent : Int) : List Char × Int :=
  let kept := (digits.reverse.dropWhile (· = '0')).reverse
  (kept, exponent + (digits.length - kept.length : Nat))

/-- Lays out `0.d₁d₂… * 10 ^ point`, where `digits` has no zero at either end: positionally, with
at least one digit on each side of the point, if the first digit's exponent is from -4 to 15, else
as `d₁.d₂…e±nn`. -/
def layout (digits : List Char) (point : Int) : List Char :=
  if -4 < point ∧ point ≤ 16 then
    if point ≤ 0 then
      '0' :: '.' :: List.replicate (-point).toNat '0' ++ digits
    else
      let whole := digits.take point.toNat
      let zeros := List.replicate (point.toNat - digits.length) '0'
      match digits.drop point.toNat with
      | [] => whole ++ zeros ++ ['.', '0']
      | fraction => whole ++ '.' :: fraction
  else
    let power := Nat.toDigits 10 (point - 1).natAbs
    let mantissa := match digits with
      | d :: e :: rest => d :: '.' :: e :: rest
      | short => short
    mantissa ++ 'e' :: (if point - 1 < 0 then '-' else '+') ::
      (if power.length < 2 then '0' :: power else power)

/-- The digits and point of a finite magnitude. -/
def magnitudeText (place : Nat) : List Char :=
  if place = 0 then ['0', '.', '0']
  else
    let (digits, exponent) := shortest place
    let (kept, exponent) := dropZeros (Nat.toDigits 10 digits) exponent
    layout kept (kept.length + exponent)

/-- The text of a double. -/
def text (spelling : Spelling) : Double → List Char
  | .nan => spelling.nan.toList
  | .infinite false => spelling.infinity.toList
  | .infinite true => '-' :: spelling.infinity.toList
  | .finite false place => magnitudeText place
  | .finite true place => '-' :: magnitudeText place

end DocStore.Double
