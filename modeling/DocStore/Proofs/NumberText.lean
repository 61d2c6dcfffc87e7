import DocStore.Double.Reading
import DocStore.Json.Reading

/-!
# Number texts read back

What `Json.intText` and `Double.text` write is what `Json.scanScalarNumber` reads, whatever follows
that cannot go on a number. For doubles the digits found by `Double.shortest` stand for the right
place already (`placeOfDecimal_shortest`); what is left is that the layout of the digits loses
nothing, and that the range test of `Double.ofDecimal` never turns a finite place away.

## Key results

- `Json.scanScalarNumber_intText`: an integer within the limit reads back
- `Json.scanScalarNumber_text`: a finite double reads back
-/

namespace DocStore

-- powers are those of the core library, whatever else is imported
attribute [local instance (high)] instPowNat

/-! ## Digits -/

/-- `scanDigits` splits off all digits in front, if no digit follows. -/
private theorem scanDigits_append (digits rest : List Char) (hd : ∀ c ∈ digits, c.isDigit = true)
    (hr : ∀ c ∈ rest.head?, c.isDigit = false) : scanDigits (digits ++ rest) = (digits, rest) := by
  -- behind the digits there is nothing to take and nothing to drop
  have htake : rest.takeWhile Char.isDigit = [] := by
    cases rest with
    | nil => rfl
    | cons c more => simp [hr c rfl]
  have hdrop : rest.dropWhile Char.isDigit = rest := by
    cases rest with
    | nil => rfl
    | cons c more => simp [hr c rfl]
  rw [scanDigits, List.takeWhile_append_of_pos hd, List.dropWhile_append_of_pos hd, htake, hdrop,
    List.append_nil]

/-- `toDigits` writes nothing but digits. -/
private theorem isDigit_of_mem_toDigits_ten {n : Nat} {c : Char} (h : c ∈ Nat.toDigits 10 n) :
    c.isDigit = true :=
  Nat.isDigit_of_mem_toDigits (by decide) (by decide) h

/-- `isDigit` holds of zeros in a row. -/
private theorem isDigit_of_mem_replicate_zero {n : Nat} {c : Char} (h : c ∈ List.replicate n '0') :
    c.isDigit = true := by
  rw [(List.mem_replicate.1 h).2]
  rfl

/-- `isDigit` holds of the zero alone. -/
private theorem isDigit_of_mem_zero : ∀ c ∈ ['0'], c.isDigit = true :=
  fun _ h => isDigit_of_mem_replicate_zero (n := 1) h

/-- `toDigits` writes a number that is not zero without a zero in front. -/
private theorem head?_toDigits_ne_zero {n : Nat} (hn : n ≠ 0) :
    (Nat.toDigits 10 n).head? ≠ some '0' := by
  -- the first digit of a number is that of its tenth
  induction n using Nat.strongRecOn with
  | ind n ih =>
    by_cases h : n < 10
    · rw [Nat.toDigits_of_lt_base h]
      simpa using hn
    · have hne : Nat.toDigits 10 (n / 10) ≠ [] := Nat.toDigits_ne_nil
      rw [Nat.toDigits_of_base_le (by decide) (by omega), List.head?_append]
      have hih := ih (n / 10) (by omega) (by omega)
      cases hd : (Nat.toDigits 10 (n / 10)).head? with
      | none => exact absurd (List.head?_eq_none_iff.1 hd) hne
      | some c => rwa [hd] at hih

/-- A character that cannot go on the text of a number. -/
def EndsNumber (rest : List Char) : Prop :=
  ∀ c ∈ rest.head?, c.isDigit = false ∧ c ≠ '.' ∧ c ≠ 'e' ∧ c ≠ 'E'

/-- `EndsNumber` holds of no text that begins with a digit. -/
theorem EndsNumber.head {rest : List Char} (h : EndsNumber rest) :
    ∀ c ∈ rest.head?, c.isDigit = false := fun c hc => (h c hc).1

/-- `scanFraction` finds no fraction where the number ends. -/
private theorem scanFraction_of_endsNumber {rest : List Char} (h : EndsNumber rest) :
    scanFraction rest = ([], rest) := by
  cases rest with
  | nil => rfl
  | cons c more =>
    have hc := (h c rfl).2.1
    simp [scanFraction, hc]

/-- `scanExponent` finds no exponent where the number ends. -/
private theorem scanExponent_of_endsNumber {rest : List Char} (h : EndsNumber rest) :
    scanExponent rest = none := by
  cases rest with
  | nil => rfl
  | cons c more =>
    obtain ⟨-, -, he, hE⟩ := h c rfl
    simp [scanExponent, he, hE]

/-! ## Parts of a number -/

/-- The sign in front of a number. -/
def signText (negative : Bool) : List Char := if negative then ['-'] else []

/-- `scanNumber` goes on behind a sign and the whole digits with the fraction and the exponent. -/
private theorem scanNumber_sign_append (negative : Bool) {whole s : List Char}
    (hw : ∀ c ∈ whole, c.isDigit = true) (hne : whole ≠ [])
    (hs : ∀ c ∈ s.head?, c.isDigit = false) :
    scanNumber (signText negative ++ (whole ++ s)) =
      match scanExponent (scanFraction s).2 with
      | some (e, rest) => some (⟨negative, whole, (scanFraction s).1, e, true⟩, rest)
      | none => some (⟨negative, whole, (scanFraction s).1, 0, !(scanFraction s).1.isEmpty⟩,
          (scanFraction s).2) := by
  obtain ⟨d, more, rfl⟩ := List.exists_cons_of_ne_nil hne
  have hd : d ≠ '-' := by
    rintro rfl
    exact absurd (hw '-' List.mem_cons_self) (by decide)
  have hscan := scanDigits_append (d :: more) s hw hs
  cases negative with
  | false =>
    simp only [signText, Bool.false_eq_true, if_false, List.nil_append, List.cons_append]
    unfold scanNumber
    split
    rename_i sign unsigned h
    -- the first character is a digit, so no sign is taken off
    split at h
    · rename_i hc
      exact absurd (List.cons.inj hc).1 hd
    · cases h
      rewrite [← List.cons_append, hscan]
      rfl
  | true =>
    simp only [signText, if_true, List.singleton_append, scanNumber]
    rewrite [hscan]
    rfl

/-- `scanFraction` reads the digits behind a point. -/
private theorem scanFraction_append {fraction s : List Char} (hf : ∀ c ∈ fraction, c.isDigit = true)
    (hne : fraction ≠ []) (hs : ∀ c ∈ s.head?, c.isDigit = false) :
    scanFraction ('.' :: (fraction ++ s)) = (fraction, s) := by
  obtain ⟨d, more, rfl⟩ := List.exists_cons_of_ne_nil hne
  simp only [scanFraction, scanDigits_append (d :: more) s hf hs]

/-- `scanExponent` reads the sign and the digits of an exponent. -/
private theorem scanExponent_append {power s : List Char} (negative : Bool)
    (hp : ∀ c ∈ power, c.isDigit = true) (hne : power ≠ [])
    (hs : ∀ c ∈ s.head?, c.isDigit = false) :
    scanExponent ('e' :: (if negative then '-' else '+') :: (power ++ s)) =
      some (if negative then -(Nat.ofDigitChars 10 power 0 : Int)
        else Nat.ofDigitChars 10 power 0, s) := by
  obtain ⟨d, more, rfl⟩ := List.exists_cons_of_ne_nil hne
  have hscan := scanDigits_append (d :: more) s hp hs
  rw [List.cons_append] at hscan
  cases negative <;> simp [scanExponent, scanPower, hscan]

/-! ## Integers -/

namespace Json

/-- `intText` is a sign and the digits of the absolute value. -/
private theorem intText_eq (n : Int) :
    intText n = signText (n < 0) ++ Nat.toDigits 10 n.natAbs := by
  cases n with
  | ofNat n => simp [intText, signText]
  | negSucc n => simp [intText, signText, Int.negSucc_lt_zero]

/-- `scanScalarNumber` reads an integer within the limit back from its `intText`. -/
theorem scanScalarNumber_intText (n : Int) (hn : intFits n = true) {rest : List Char}
    (hr : EndsNumber rest) :
    scanScalarNumber (intText n ++ rest) = some (.number (.int n), rest) := by
  have hlimit : (Nat.toDigits 10 n.natAbs).length ≤ digitLimit := by simpa [intFits] using hn
  have hscan := scanNumber_sign_append (n < 0) (fun c => isDigit_of_mem_toDigits_ten (c := c))
    (Nat.toDigits_ne_nil (n := n.natAbs)) hr.head
  rw [scanFraction_of_endsNumber hr] at hscan
  simp only [scanExponent_of_endsNumber hr] at hscan
  rw [intText_eq, List.append_assoc, scanScalarNumber, hscan]
  -- a zero in front is the only digit
  have hzero : ¬ (1 < (Nat.toDigits 10 n.natAbs).length ∧
      (Nat.toDigits 10 n.natAbs).head? = some '0') := by
    rintro ⟨hlen, hhead⟩
    by_cases h0 : n.natAbs = 0
    · rw [h0] at hlen
      simp at hlen
    · exact head?_toDigits_ne_zero h0 hhead
  -- the sign and the digits make up the integer again
  have hvalue : NumberText.toInt ⟨decide (n < 0), Nat.toDigits 10 n.natAbs, [], 0, false⟩ = n := by
    simp only [NumberText.toInt, Nat.ofDigitChars_ten_toDigits, decide_eq_true_eq]
    split <;> omega
  simp [hzero, hlimit, hvalue]

end Json

/-! ## The range of decimals -/

namespace Double

/-- Three binary digits are less than a decimal one. -/
private theorem two_pow_le_ten_pow {m k : Nat} (h : m ≤ 3 * k) : 2 ^ m ≤ 10 ^ k :=
  calc 2 ^ m ≤ 2 ^ (3 * k) := Nat.pow_le_pow_right (by decide) h
    _ = 8 ^ k := Nat.pow_mul ..
    _ ≤ 10 ^ k := Nat.pow_le_pow_left (by decide) k

/-- `gridFloor` has used up the grid from the binade beyond the highest. -/
private theorem places_le_gridFloor {u : Nat} (h : 2098 ≤ u.log2) : places ≤ gridFloor u := by
  have hu : u ≠ 0 := by
    rintro rfl
    simp at h
  -- a full mantissa in a binade beyond the last one
  have hmantissa : 2 ^ 52 ≤ u / 2 ^ (u.log2 - 52) := by
    rw [Nat.le_div_iff_mul_le (Nat.two_pow_pos _), ← Nat.pow_add,
      show 52 + (u.log2 - 52) = u.log2 by omega]
    exact Nat.log2_self_le hu
  have hbinade : (2098 - 52) * 2 ^ 52 ≤ (u.log2 - 52) * 2 ^ 52 :=
    Nat.mul_le_mul_right _ (by omega)
  unfold gridFloor places
  omega

/-- `gridFloor` has used up the grid at `10 ^ 400` and more. -/
private theorem places_le_gridFloor_of_ten_pow {u k : Nat} (hk : 400 ≤ k)
    (h : 10 ^ k * unitsPerOne ≤ u) :
    places ≤ gridFloor u := by
  -- such a number has more than 1024 binary places before the point
  have hten : ∀ m, m ≤ 3 * k → 2 ^ (m + binaryPlaces) ≤ 10 ^ k * unitsPerOne := by
    intro m hm
    rw [Nat.pow_add]
    exact Nat.mul_le_mul_right _ (two_pow_le_ten_pow hm)
  have hle := Nat.le_trans (hten 1024 (by omega)) h
  have hu : u ≠ 0 := Nat.ne_of_gt (Nat.lt_of_lt_of_le (Nat.two_pow_pos _) hle)
  have hlog := (Nat.le_log2 hu).2 hle
  unfold binaryPlaces at hlog
  exact places_le_gridFloor (by omega)

/-- `roundPlace` never goes below the last place that is not above the number. -/
theorem gridFloor_le_roundPlace (num den : Nat) : gridFloor (num / den) ≤ roundPlace num den := by
  simp only [roundPlace]
  split
  · exact Nat.le_refl _
  · split
    · omega
    · split <;> omega

/-- `roundPlace` takes what is below half a unit to zero. -/
private theorem roundPlace_eq_zero {num den : Nat} (h : 2 * num < den) :
    roundPlace num den = 0 := by
  have hfloor : gridFloor (num / den) = 0 := by
    rw [Nat.div_eq_of_lt (by omega)]
    rfl
  have hunits : units 0 + units 1 = 1 := by decide
  simp only [roundPlace, hfloor, Nat.zero_add, hunits, Nat.one_mul, if_pos h]

/-- `toDigits` of a number other than zero are so many that it is no less than the power of ten with
as many digits. -/
private theorem le_of_length_toDigits {n size : Nat} (h : (Nat.toDigits 10 n).length = size + 1)
    (hn : n ≠ 0) : 10 ^ size ≤ n := by
  by_cases hs : size = 0
  · subst hs
    omega
  · have := (not_congr (Nat.length_toDigits_le_iff (n := n) (by decide : 1 < 10)
      (Nat.pos_of_ne_zero hs))).1 (by omega)
    omega

/-- `toDigits` of every number are so many that it is less than the power of ten with one digit
more. -/
private theorem lt_pow_length_toDigits (n : Nat) : n < 10 ^ (Nat.toDigits 10 n).length :=
  (Nat.length_toDigits_le_iff (by decide) Nat.length_toDigits_pos).1 (Nat.le_refl _)

/-- `placeOfDecimal` rounds a decimal far above the range beyond the last place. -/
private theorem places_le_placeOfDecimal {digits : Nat} {exponent : Int} (hd : digits ≠ 0)
    (h : 400 < ((Nat.toDigits 10 digits).length : Int) + exponent) :
    places ≤ placeOfDecimal digits exponent := by
  have hpos : 0 < (Nat.toDigits 10 digits).length := Nat.length_toDigits_pos
  obtain ⟨size, hsize⟩ : ∃ size, (Nat.toDigits 10 digits).length = size + 1 :=
    ⟨_, (Nat.succ_pred_eq_of_pos hpos).symm⟩
  have hlow := le_of_length_toDigits hsize hd
  rw [hsize] at h
  unfold placeOfDecimal
  split
  · rename_i he
    -- the exponent puts its zeros behind the digits
    have hten : 10 ^ (size + exponent.toNat) ≤ digits * 10 ^ exponent.toNat := by
      rw [Nat.pow_add]
      exact Nat.mul_le_mul_right _ hlow
    refine Nat.le_trans (places_le_gridFloor_of_ten_pow (k := size + exponent.toNat) (by omega) ?_)
      (gridFloor_le_roundPlace _ _)
    rw [Nat.div_one]
    exact Nat.mul_le_mul_right _ hten
  · rename_i he
    -- the exponent is negative, and there are digits enough to make up for it
    obtain ⟨k, hk, hk'⟩ : ∃ k, 400 ≤ k ∧ size = k + (-exponent).toNat :=
      ⟨size - (-exponent).toNat, by omega, by omega⟩
    refine Nat.le_trans (places_le_gridFloor_of_ten_pow hk ?_) (gridFloor_le_roundPlace _ _)
    rw [Nat.le_div_iff_mul_le (Nat.pow_pos (by decide)), Nat.mul_right_comm, ← Nat.pow_add, ← hk']
    exact Nat.mul_le_mul_right _ hlow

/-- `placeOfDecimal` rounds a decimal far below the range to zero. -/
private theorem placeOfDecimal_eq_zero {digits : Nat} {exponent : Int}
    (h : ((Nat.toDigits 10 digits).length : Int) + exponent < -400) :
    placeOfDecimal digits exponent = 0 := by
  have hlt := lt_pow_length_toDigits digits
  generalize (Nat.toDigits 10 digits).length = size at h hlt
  obtain ⟨k, hk, hk'⟩ : ∃ k, 400 ≤ k ∧ (-exponent).toNat = size + k :=
    ⟨(-exponent).toNat - size, by omega, by omega⟩
  -- the places below the point that the digits do not fill are more than a unit has
  have hhalf : 2 * unitsPerOne ≤ 10 ^ k := by
    have hb : binaryPlaces + 1 ≤ 3 * k := by
      unfold binaryPlaces
      omega
    rw [unitsPerOne, ← Nat.pow_succ']
    exact two_pow_le_ten_pow hb
  unfold placeOfDecimal
  rw [if_neg (by omega), hk']
  apply roundPlace_eq_zero
  calc 2 * (digits * unitsPerOne) = digits * (2 * unitsPerOne) := Nat.mul_left_comm ..
    _ < 10 ^ size * (2 * unitsPerOne) :=
      Nat.mul_lt_mul_of_pos_right hlt (Nat.mul_pos (by decide) (Nat.two_pow_pos _))
    _ ≤ 10 ^ size * 10 ^ k := Nat.mul_le_mul_left _ hhalf
    _ = 10 ^ (size + k) := (Nat.pow_add ..).symm

/-- `placeOfDecimal` of zero is zero, with any exponent. -/
private theorem placeOfDecimal_zero (exponent : Int) : placeOfDecimal 0 exponent = 0 := by
  unfold placeOfDecimal
  split
  · rw [Nat.zero_mul, Nat.zero_mul]
    exact roundPlace_eq_zero (by decide)
  · rw [Nat.zero_mul]
    exact roundPlace_eq_zero (Nat.pow_pos (by decide))

/-- `placeOfDecimal` minds no zero behind the digits that the exponent makes up for. -/
private theorem placeOfDecimal_mul_pow (digits k : Nat) (exponent : Int) :
    placeOfDecimal (digits * 10 ^ k) exponent = placeOfDecimal digits (exponent + k) := by
  -- the zeros may bring the exponent over zero, where the fraction turns into a product
  by_cases h1 : 0 ≤ exponent
  · have h2 : 0 ≤ exponent + k := by omega
    simp only [placeOfDecimal, if_pos h1, if_pos h2]
    rw [show (exponent + k).toNat = k + exponent.toNat by omega, Nat.pow_add, Nat.mul_assoc digits]
  · by_cases h2 : 0 ≤ exponent + k
    · simp only [placeOfDecimal, if_neg h1, if_pos h2]
      obtain ⟨j, hj⟩ : ∃ j, k = j + (-exponent).toNat := ⟨k - (-exponent).toNat, by omega⟩
      have hm := roundPlace_mul (digits * 10 ^ j * unitsPerOne) 1 (10 ^ (-exponent).toNat)
        (Nat.pow_pos (by decide))
      rw [Nat.one_mul] at hm
      rw [show (exponent + k).toNat = j by omega, ← hm, hj, Nat.pow_add, ← Nat.mul_assoc,
        Nat.mul_right_comm]
    · simp only [placeOfDecimal, if_neg h1, if_neg h2]
      have hm := roundPlace_mul (digits * unitsPerOne) (10 ^ (-(exponent + k)).toNat) (10 ^ k)
        (Nat.pow_pos (by decide))
      rw [← Nat.pow_add] at hm
      rw [show (-exponent).toNat = (-(exponent + k)).toNat + k by omega, ← hm,
        Nat.mul_right_comm]

/-- `ofDecimal` makes of a decimal that rounds to a place other than zero the double there: the
range test turns none of them away. -/
private theorem ofDecimal_of_placeOfDecimal (negative : Bool) {digits : Nat} {exponent : Int}
    {place : Fin places} (hpos : 0 < place.val) (h : placeOfDecimal digits exponent = place) :
    ofDecimal negative digits exponent = .finite negative place := by
  -- the three tests before the rounding each contradict the place
  have hd : digits ≠ 0 := by
    rintro rfl
    rw [placeOfDecimal_zero] at h
    omega
  have hhigh : ¬ 400 < ((Nat.toDigits 10 digits).length : Int) + exponent := by
    intro hlarge
    have := places_le_placeOfDecimal hd hlarge
    omega
  have hlow : ¬ ((Nat.toDigits 10 digits).length : Int) + exponent < -400 := by
    intro hsmall
    have := placeOfDecimal_eq_zero hsmall
    omega
  simp only [ofDecimal, if_neg hd, if_neg hhigh, if_neg hlow, h]
  simp [ofPlace]

/-! ## Layout -/

/-- The number that a text is read as, whatever stops the reading behind it. -/
def ReadsAs (s : List Char) (t : NumberText) : Prop :=
  ∀ rest, EndsNumber rest → scanNumber (s ++ rest) = some (t, rest)

/-- Whether a number is written without a useless zero in front. -/
def HasPlainWhole (t : NumberText) : Prop := 1 < t.whole.length → t.whole.head? ≠ some '0'

/-- Whether a text with a point or an exponent stands for `± digits * 10 ^ exponent`, up to zeros
behind the digits. -/
def StandsFor (t : NumberText) (digits : Nat) (exponent : Int) : Prop :=
  ∃ k : Nat, Nat.ofDigitChars 10 (t.whole ++ t.fraction) 0 = digits * 10 ^ k ∧
    t.exponent - t.fraction.length + k = exponent

/-- `ReadsAs` of digits, a point and digits. -/
private theorem readsAs_point (negative : Bool) {whole fraction : List Char}
    (hw : ∀ c ∈ whole, c.isDigit = true) (hwne : whole ≠ [])
    (hf : ∀ c ∈ fraction, c.isDigit = true) (hfne : fraction ≠ []) :
    ReadsAs (signText negative ++ (whole ++ '.' :: fraction))
      ⟨negative, whole, fraction, 0, true⟩ := by
  intro rest hr
  have hscan := scanNumber_sign_append negative (s := '.' :: (fraction ++ rest)) hw hwne
    (by rintro c ⟨⟩; rfl)
  rw [scanFraction_append hf hfne hr.head] at hscan
  simp only [scanExponent_of_endsNumber hr] at hscan
  -- a fraction makes the number a real one
  have hempty : fraction.isEmpty = false := by simpa using hfne
  simp only [List.append_assoc, List.cons_append]
  rw [hscan, hempty]
  rfl

/-- `ReadsAs` of a digit with an exponent, and a fraction between them or none. -/
private theorem readsAs_exponent (negative : Bool) {d : Char} {fraction power : List Char}
    (below : Bool) (hd : d.isDigit = true) (hf : ∀ c ∈ fraction, c.isDigit = true)
    (hp : ∀ c ∈ power, c.isDigit = true) (hpne : power ≠ []) :
    ReadsAs (signText negative ++ (d :: (if fraction = [] then [] else '.' :: fraction) ++
        'e' :: (if below then '-' else '+') :: power))
      ⟨negative, [d], fraction, if below then -(Nat.ofDigitChars 10 power 0 : Int)
        else Nat.ofDigitChars 10 power 0, true⟩ := by
  intro rest hr
  have hexp := scanExponent_append below hp hpne hr.head
  have hw : ∀ c ∈ [d], c.isDigit = true := by simpa using hd
  -- a mantissa of one digit has no point
  by_cases hfe : fraction = []
  · subst hfe
    have hscan := scanNumber_sign_append negative
      (s := 'e' :: (if below then '-' else '+') :: (power ++ rest)) hw (by simp)
      (by rintro c ⟨⟩; rfl)
    have hfrac : scanFraction ('e' :: (if below then '-' else '+') :: (power ++ rest)) =
      ([], 'e' :: (if below then '-' else '+') :: (power ++ rest)) := rfl
    rw [hfrac] at hscan
    simp only [hexp] at hscan
    simpa [List.append_assoc] using hscan
  -- with a fraction the point comes first and the exponent behind its digits
  · have hscan := scanNumber_sign_append negative
      (s := '.' :: (fraction ++ 'e' :: (if below then '-' else '+') :: (power ++ rest))) hw
      (by simp) (by rintro c ⟨⟩; rfl)
    rw [scanFraction_append hf hfe (by rintro c ⟨⟩; rfl)] at hscan
    simp only [hexp] at hscan
    simpa [List.append_assoc, hfe] using hscan

/-- What it takes for a text to read back as a decimal: it is read as a number with a point or an
exponent that stands for the decimal. -/
def ReadsAsDecimal (s : List Char) (negative : Bool) (digits : Nat) (exponent : Int) : Prop :=
  ∃ t, ReadsAs s t ∧ t.negative = negative ∧ t.isReal = true ∧ HasPlainWhole t ∧
    StandsFor t digits exponent

/-- Digits with a zero and a point in front read back: `layout` of a small number. -/
private theorem readsAsDecimal_small (negative : Bool) {digits : List Char}
    (hd : ∀ c ∈ digits, c.isDigit = true) (hne : digits ≠ []) (zeros : Nat) :
    ReadsAsDecimal (signText negative ++ '0' :: '.' :: (List.replicate zeros '0' ++ digits))
      negative (Nat.ofDigitChars 10 digits 0) (-(zeros + digits.length : Nat)) := by
  have hf : ∀ c ∈ List.replicate zeros '0' ++ digits, c.isDigit = true := by
    intro c hc
    rcases List.mem_append.1 hc with h | h
    · exact isDigit_of_mem_replicate_zero h
    · exact hd c h
  have hread := readsAs_point negative isDigit_of_mem_zero
    (List.cons_ne_nil '0' []) hf (by simp [hne])
  refine ⟨_, hread, rfl, rfl, fun h => absurd h (Nat.lt_irrefl 1), 0, ?_, ?_⟩
  · simp [Nat.ofDigitChars_cons, Nat.ofDigitChars_append]
  · simp

/-- Digits with zeros and a point behind them read back: `layout` of a large number. -/
private theorem readsAsDecimal_large (negative : Bool) {digits : List Char}
    (hd : ∀ c ∈ digits, c.isDigit = true) (hne : digits ≠ []) (hhead : digits.head? ≠ some '0')
    (zeros : Nat) :
    ReadsAsDecimal (signText negative ++ (digits ++ List.replicate zeros '0' ++ ['.', '0']))
      negative (Nat.ofDigitChars 10 digits 0) zeros := by
  have hw : ∀ c ∈ digits ++ List.replicate zeros '0', c.isDigit = true := by
    intro c hc
    rcases List.mem_append.1 hc with h | h
    · exact hd c h
    · exact isDigit_of_mem_replicate_zero h
  have hread := readsAs_point negative hw (by simp [hne]) isDigit_of_mem_zero
    (List.cons_ne_nil '0' [])
  refine ⟨_, hread, rfl, rfl, ?_, zeros + 1, ?_, ?_⟩
  · intro _
    obtain ⟨d, more, rfl⟩ := List.exists_cons_of_ne_nil hne
    simpa using hhead
  -- the zeros and the one behind the point are put to the digits
  · have hzero : ∀ n, Nat.ofDigitChars 10 ['0'] n = 10 * n := by
      intro n
      simp [Nat.ofDigitChars_cons]
    simp only [Nat.ofDigitChars_append, Nat.ofDigitChars_replicate_zero, hzero, Nat.pow_succ]
    rw [← Nat.mul_assoc, Nat.mul_comm _ (10 ^ zeros * 10), Nat.mul_comm 10]
  · show (0 : Int) - (['0'].length : Nat) + (zeros + 1 : Nat) = zeros
    rw [List.length_singleton]
    omega

/-- `ReadsAsDecimal` of digits with a point among them. -/
private theorem readsAsDecimal_middle (negative : Bool) {whole fraction : List Char}
    (hw : ∀ c ∈ whole, c.isDigit = true) (hwne : whole ≠ []) (hhead : whole.head? ≠ some '0')
    (hf : ∀ c ∈ fraction, c.isDigit = true) (hfne : fraction ≠ []) :
    ReadsAsDecimal (signText negative ++ (whole ++ '.' :: fraction))
      negative (Nat.ofDigitChars 10 (whole ++ fraction) 0) (-(fraction.length : Int)) :=
  ⟨_, readsAs_point negative hw hwne hf hfne, rfl, rfl, fun _ => hhead, 0, by simp, by simp⟩

/-- `ReadsAsDecimal` of digits with the point at a place among them. -/
private theorem readsAsDecimal_split (negative : Bool) {digits : List Char}
    (hd : ∀ c ∈ digits, c.isDigit = true) (hhead : digits.head? ≠ some '0') {point : Nat}
    (hpos : 0 < point) (hlen : point < digits.length) :
    ReadsAsDecimal (signText negative ++ (digits.take point ++ '.' :: digits.drop point))
      negative (Nat.ofDigitChars 10 digits 0) (point - digits.length) := by
  have hwhole : ∀ c ∈ digits.take point, c.isDigit = true :=
    fun c hc => hd c (List.mem_of_mem_take hc)
  have hfraction : ∀ c ∈ digits.drop point, c.isDigit = true :=
    fun c hc => hd c (List.mem_of_mem_drop hc)
  have hwholene : digits.take point ≠ [] := by
    intro hnil
    have hzero := congrArg List.length hnil
    rw [List.length_take, List.length_nil] at hzero
    omega
  have hwholehead : (digits.take point).head? ≠ some '0' := by
    rwa [List.head?_take, if_neg (by omega)]
  have hfractionne : digits.drop point ≠ [] := by
    rw [Ne, List.drop_eq_nil_iff]
    omega
  have h := readsAsDecimal_middle negative hwhole hwholene hwholehead hfraction hfractionne
  -- as many digits as are behind the point count below one
  have hexp : (-((digits.length - point : Nat) : Int)) = point - digits.length := by omega
  rw [List.take_append_drop, List.length_drop, hexp] at h
  exact h

/-- `ofDigitChars` of the digits of an exponent, two at least, is the exponent. -/
private theorem ofDigitChars_power (n : Nat) :
    Nat.ofDigitChars 10 (if (Nat.toDigits 10 n).length < 2 then '0' :: Nat.toDigits 10 n
      else Nat.toDigits 10 n) 0 = n := by
  split
  · rw [Nat.ofDigitChars_cons]
    exact Nat.ofDigitChars_ten_toDigits
  · exact Nat.ofDigitChars_ten_toDigits

/-- `ReadsAsDecimal` of a digit and a fraction with an exponent. -/
private theorem readsAsDecimal_exponent (negative : Bool) {d : Char} {fraction : List Char}
    (hd : d.isDigit = true) (hf : ∀ c ∈ fraction, c.isDigit = true) (power : Int) :
    ReadsAsDecimal (signText negative ++ (d :: (if fraction = [] then [] else '.' :: fraction) ++
        'e' :: (if power < 0 then '-' else '+') ::
          (if (Nat.toDigits 10 power.natAbs).length < 2 then '0' :: Nat.toDigits 10 power.natAbs
            else Nat.toDigits 10 power.natAbs)))
      negative (Nat.ofDigitChars 10 (d :: fraction) 0) (power - fraction.length) := by
  -- a zero may be put in front of the exponent's only digit
  have hp : ∀ c ∈ (if (Nat.toDigits 10 power.natAbs).length < 2
      then '0' :: Nat.toDigits 10 power.natAbs else Nat.toDigits 10 power.natAbs),
      c.isDigit = true := by
    intro c hc
    split at hc
    · rcases List.mem_cons.1 hc with rfl | h
      · rfl
      · exact isDigit_of_mem_toDigits_ten h
    · exact isDigit_of_mem_toDigits_ten hc
  have hread := readsAs_exponent negative (decide (power < 0)) hd hf hp
    (by split <;> simp)
  simp only [decide_eq_true_eq] at hread
  refine ⟨_, hread, rfl, rfl, fun h => absurd h (by simp), 0, by simp, ?_⟩
  rw [ofDigitChars_power]
  simp only
  split <;> omega

/-- `layout` of digits without a zero in front reads back as the decimal that it lays out. -/
private theorem readsAsDecimal_layout (negative : Bool) {digits : List Char}
    (hd : ∀ c ∈ digits, c.isDigit = true) (hne : digits ≠ []) (hhead : digits.head? ≠ some '0')
    (point : Int) :
    ReadsAsDecimal (signText negative ++ layout digits point) negative
      (Nat.ofDigitChars 10 digits 0) (point - digits.length) := by
  unfold layout
  split
  · split
    · -- all digits are behind the point
      have h := readsAsDecimal_small negative hd hne (-point).toNat
      have hexp : (-((-point).toNat + digits.length : Nat) : Int) = point - digits.length := by
        omega
      rw [hexp] at h
      exact h
    · split
      · -- all digits are before the point
        rename_i hdrop
        have hlen : digits.length ≤ point.toNat := List.drop_eq_nil_iff.1 hdrop
        have h := readsAsDecimal_large negative hd hne hhead (point.toNat - digits.length)
        rw [show ((point.toNat - digits.length : Nat) : Int) = point - digits.length by omega] at h
        rw [List.take_of_length_le hlen]
        exact h
      · -- the point is among the digits
        rename_i hfrac
        have hlen : point.toNat < digits.length :=
          Nat.lt_of_not_le fun hle => hfrac (List.drop_eq_nil_iff.2 hle)
        have h := readsAsDecimal_split negative hd hhead (by omega) hlen
        rw [show (point.toNat : Int) = point by omega] at h
        exact h
  · -- the digits have an exponent
    obtain ⟨d, fraction, rfl⟩ := List.exists_cons_of_ne_nil hne
    have h := readsAsDecimal_exponent negative (hd d List.mem_cons_self)
      (fun c hc => hd c (List.mem_cons_of_mem d hc)) (point - 1)
    rw [show point - 1 - (fraction.length : Int) = point - (d :: fraction).length by
      simp only [List.length_cons]; omega] at h
    cases fraction with
    | nil => exact h
    | cons e rest => exact h

/-! ## Finite doubles -/

/-- `dropZeros` leaves digits and an exponent that makes up for the zeros dropped. -/
private theorem dropZeros_append (digits : List Char) (exponent : Int) :
    ∃ k : Nat, (dropZeros digits exponent).1 ++ List.replicate k '0' = digits ∧
      (dropZeros digits exponent).2 = exponent + k := by
  have hzeros : ∀ c ∈ digits.reverse.takeWhile (· = '0'), c = '0' := by
    intro c hc
    simpa using List.all_eq_true.1 List.all_takeWhile c hc
  have hback : (dropZeros digits exponent).1 ++
      List.replicate (digits.reverse.takeWhile (· = '0')).length '0' = digits := by
    have hsplit := congrArg List.reverse
      (List.takeWhile_append_dropWhile (p := (· = '0')) (l := digits.reverse))
    rw [List.reverse_append, List.reverse_reverse, List.eq_replicate_of_mem hzeros,
      List.reverse_replicate] at hsplit
    exact hsplit
  -- as many zeros are dropped as the exponent grows
  refine ⟨(digits.reverse.takeWhile (· = '0')).length, hback, ?_⟩
  have hlen := congrArg List.length hback
  simp only [List.length_append, List.length_replicate] at hlen
  simp only [dropZeros] at hlen ⊢
  omega

/-- `magnitudeText` of a place other than zero stands for a decimal that rounds to this place. -/
private theorem exists_readsAsDecimal_magnitudeText (negative : Bool) {place : Nat}
    (hpos : 0 < place) :
    ∃ digits exponent, ReadsAsDecimal (signText negative ++ magnitudeText place) negative digits
      exponent ∧ placeOfDecimal digits exponent = place := by
  -- the text is laid out from the shortest digits, less the zeros behind them
  have hplace := placeOfDecimal_shortest place
  unfold magnitudeText
  rw [if_neg (by omega)]
  generalize shortest place = found at hplace
  obtain ⟨digits, exponent⟩ := found
  simp only at hplace ⊢
  have hne : digits ≠ 0 := by
    rintro rfl
    rw [placeOfDecimal_zero] at hplace
    omega
  obtain ⟨k, hkept, hexp⟩ := dropZeros_append (Nat.toDigits 10 digits) exponent
  generalize dropZeros (Nat.toDigits 10 digits) exponent = found at hkept hexp
  obtain ⟨kept, exponent'⟩ := found
  simp only at hkept hexp ⊢
  have hhead := head?_toDigits_ne_zero hne
  have hd : ∀ c ∈ kept, c.isDigit = true := fun c hc =>
    isDigit_of_mem_toDigits_ten (n := digits) (hkept ▸ List.mem_append_left _ hc)
  have hvalue : Nat.ofDigitChars 10 kept 0 * 10 ^ k = digits := by
    have h := congrArg (Nat.ofDigitChars 10 · 0) hkept
    simp only [Nat.ofDigitChars_append, Nat.ofDigitChars_replicate_zero,
      Nat.ofDigitChars_ten_toDigits] at h
    rw [Nat.mul_comm, h]
  rw [← hkept] at hhead
  -- the digits begin with one that is not zero, so they are not all dropped
  have hkeptne : kept ≠ [] := by
    rintro rfl
    cases k with
    | zero => exact absurd hkept.symm (by simp)
    | succ k => exact hhead rfl
  have hkepthead : kept.head? ≠ some '0' := by
    obtain ⟨d, more, rfl⟩ := List.exists_cons_of_ne_nil hkeptne
    exact hhead
  refine ⟨_, _, readsAsDecimal_layout negative hd hkeptne hkepthead _, ?_⟩
  rw [show (kept.length : Int) + exponent' - kept.length = exponent + k by omega,
    ← placeOfDecimal_mul_pow, hvalue, hplace]

/-- `toDouble` of a text that stands for a decimal is the double at the place of that decimal. -/
private theorem toDouble_of_standsFor {t : NumberText} {digits : Nat} {exponent : Int}
    {place : Fin places} (hpos : 0 < place.val) (h : StandsFor t digits exponent)
    (hplace : placeOfDecimal digits exponent = place) :
    t.toDouble = .finite t.negative place := by
  obtain ⟨k, hdigits, hexp⟩ := h
  rw [NumberText.toDouble, hdigits]
  apply ofDecimal_of_placeOfDecimal t.negative hpos
  rw [placeOfDecimal_mul_pow, hexp, hplace]

end Double

namespace Json

/-- `scanScalarNumber` makes of a text that is read as a real number the scalar of its double. -/
private theorem scanScalarNumber_of_readsAs {s : List Char} {t : NumberText}
    (h : Double.ReadsAs s t) (hreal : t.isReal = true) (hplain : Double.HasPlainWhole t)
    {rest : List Char} (hr : EndsNumber rest) :
    scanScalarNumber (s ++ rest) = some (.number (.float t.toDouble), rest) := by
  have hzero : ¬ (1 < t.whole.length ∧ t.whole.head? = some '0') := fun h => hplain h.1 h.2
  simp [scanScalarNumber, h rest hr, hzero, hreal]

/-- `scanScalarNumber` reads a finite double back from its `text`. -/
theorem scanScalarNumber_text (negative : Bool) (place : Fin Double.places) {rest : List Char}
    (hr : EndsNumber rest) :
    scanScalarNumber ((Double.finite negative place).text spelling ++ rest) =
      some (.number (.float (.finite negative place)), rest) := by
  have htext : (Double.finite negative place).text spelling =
      signText negative ++ Double.magnitudeText place := by
    cases negative <;> rfl
  rw [htext]
  -- zero has no digits to be found, it is written as it is
  by_cases hpos : 0 < place.val
  · obtain ⟨digits, exponent, ⟨t, hread, hneg, hreal, hplain, hfor⟩, hplace⟩ :=
      Double.exists_readsAsDecimal_magnitudeText negative hpos
    rw [scanScalarNumber_of_readsAs hread hreal hplain hr,
      Double.toDouble_of_standsFor hpos hfor hplace, hneg]
  · have hzero : place = ⟨0, by decide⟩ := Fin.ext (Nat.eq_zero_of_not_pos hpos)
    subst hzero
    have hread := Double.readsAs_point negative isDigit_of_mem_zero (List.cons_ne_nil '0' [])
      isDigit_of_mem_zero (List.cons_ne_nil '0' [])
    exact scanScalarNumber_of_readsAs hread rfl (fun h => absurd h (Nat.lt_irrefl 1)) hr

end Json

end DocStore
