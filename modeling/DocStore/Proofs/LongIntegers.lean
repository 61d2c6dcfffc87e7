import DocStore.Value.Literal

/-!
# Integers of too many digits

Messages and store files have no integers of more than `digitLimit` digits. Which values can be
written is a matter of the integers that stand in them, at any depth and as keys: `Value.Holds` says
which these are, and `Value.fits_iff` that the check looks at all of them and at nothing else.
-/

namespace DocStore

-- powers are those of the core library, whatever else is imported
attribute [local instance (high)] instPowNat

/-- `intFits` holds of the integers whose magnitude has at most `digitLimit` digits. -/
theorem intFits_iff {n : Int} : intFits n = true ↔ n.natAbs < 10 ^ digitLimit := by
  rw [intFits, decide_eq_true_eq]
  exact Nat.length_toDigits_le_iff (by decide) (by decide)

/-! ## The integers in a value -/

/-- An integer stands in a value, at any depth, as a part of it or as a key. -/
inductive Value.Holds (n : Int) : Value → Prop where
  | number : Holds n (.int n)
  | item {items : List Value} {v : Value} (mem : v ∈ items) (inside : Holds n v) :
    Holds n (.list items)
  | key {entries : List (Key × Value)} {v : Value} (mem : (.int n, v) ∈ entries) :
    Holds n (.object entries)
  | entry {entries : List (Key × Value)} {k : Key} {v : Value} (mem : (k, v) ∈ entries)
    (inside : Holds n v) : Holds n (.object entries)

namespace Value

variable {n : Int}

/-- `Holds` of a scalar: the only integer in it is the one that it is. -/
private theorem holds_scalar_iff {s : Scalar} : Holds n (.scalar s) ↔ s = .number (.int n) := by
  constructor
  · intro h
    cases h with
    | number => rfl
  · intro h
    rw [h]
    exact .number

/-- `Holds` of a list: the integers in its items. -/
theorem holds_list_iff {items : List Value} : Holds n (.list items) ↔ ∃ v ∈ items, v.Holds n := by
  constructor
  · intro h
    cases h with
    | item mem inside => exact ⟨_, mem, inside⟩
  · rintro ⟨v, mem, inside⟩
    exact .item mem inside

/-- `Holds` of an object: its keys and the integers in its values. -/
theorem holds_object_iff {entries : List (Key × Value)} :
    Holds n (.object entries) ↔ ∃ e ∈ entries, e.1 = .int n ∨ e.2.Holds n := by
  constructor
  · intro h
    cases h with
    | key mem => exact ⟨_, mem, .inl rfl⟩
    | entry mem inside => exact ⟨_, mem, .inr inside⟩
  · rintro ⟨⟨k, v⟩, mem, rfl | inside⟩
    · exact .key mem
    · exact .entry mem inside

/-- `Holds` of a list: the integers in its first item and those in the rest. -/
private theorem holds_list_cons_iff {v : Value} {rest : List Value} :
    Holds n (.list (v :: rest)) ↔ v.Holds n ∨ Holds n (.list rest) := by
  simp [holds_list_iff]

/-- `Holds` of an object: its first key, the integers in its first value and those in the rest. -/
private theorem holds_object_cons_iff {k : Key} {v : Value} {rest : List (Key × Value)} :
    Holds n (.object ((k, v) :: rest)) ↔ k = .int n ∨ v.Holds n ∨ Holds n (.object rest) := by
  simp [holds_object_iff, or_assoc]

/-! ## The check -/

mutual

/-- `Value.fits` holds if all integers in the value are within the limit. -/
theorem fits_iff (v : Value) : fits v = true ↔ ∀ n, v.Holds n → n.natAbs < 10 ^ digitLimit := by
  match v with
  | .scalar (.number (.int n)) => simp [fits, intFits_iff, holds_scalar_iff]
  | .scalar (.number (.float x)) => simp [fits, holds_scalar_iff]
  | .scalar .null => simp [fits, holds_scalar_iff]
  | .scalar (.bool b) => simp [fits, holds_scalar_iff]
  | .scalar (.text t) => simp [fits, holds_scalar_iff]
  | .list items => exact itemsFit_iff items
  | .object entries => exact entriesFit_iff entries

/-- The case of a list in `Value.fits_iff`. -/
private theorem itemsFit_iff (items : List Value) :
    itemsFit items = true ↔ ∀ n, (Value.list items).Holds n → n.natAbs < 10 ^ digitLimit := by
  match items with
  | [] => simp [itemsFit, holds_list_iff]
  | v :: rest =>
    have hv := fits_iff v
    have hrest := itemsFit_iff rest
    simp only [itemsFit, Bool.and_eq_true, hv, hrest, holds_list_cons_iff, or_imp, forall_and]

/-- The case of an object in `Value.fits_iff`. -/
private theorem entriesFit_iff (entries : List (Key × Value)) :
    entriesFit entries = true ↔
      ∀ n, (Value.object entries).Holds n → n.natAbs < 10 ^ digitLimit := by
  match entries with
  | [] => simp [entriesFit, holds_object_iff]
  | (k, v) :: rest =>
    have hv := fits_iff v
    have hrest := entriesFit_iff rest
    -- of the keys, only the integers are looked at
    cases k with
    | int m => simp [entriesFit, Key.fits, intFits_iff, hv, hrest, holds_object_cons_iff, or_imp,
        forall_and, and_assoc]
    | _ => simp [entriesFit, Key.fits, hv, hrest, holds_object_cons_iff, or_imp, forall_and]

end

/-- `fits` fails only of a value with an integer of too many digits in it. -/
theorem exists_holds_of_fits_eq_false {v : Value} (h : v.fits = false) :
    ∃ n, v.Holds n ∧ 10 ^ digitLimit ≤ n.natAbs := by
  have hnot : ¬ ∀ n, v.Holds n → n.natAbs < 10 ^ digitLimit := fun hall => by
    rw [(fits_iff v).2 hall] at h
    cases h
  simpa using hnot

end Value

/-- The least integer of too many digits. -/
def unshownInteger : Value := .int (.ofNat (10 ^ digitLimit))

/-- `unshownInteger` cannot be written. -/
theorem fits_unshownInteger : unshownInteger.fits = false := by decide +kernel

/-- A key that cannot be written is an integer of too many digits. -/
theorem Key.exists_int_of_fits_eq_false {k : Key} (h : k.fits = false) :
    ∃ n, k = .int n ∧ 10 ^ digitLimit ≤ n.natAbs := by
  cases k with
  | int n =>
    refine ⟨n, rfl, Nat.not_lt.1 fun hlt => ?_⟩
    rw [Key.fits, intFits_iff.2 hlt] at h
    cases h
  | text s => cases h
  | null => cases h

end DocStore
