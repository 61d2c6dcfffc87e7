import DocStore.Proofs.ProjectedFields
import DocStore.Proofs.QueryGrammar

/-!
# The values that are projections

A value is a projection if it is an object that gives its names flags, and all of these say the
same: to keep the fields, or to drop them. With any other value masking fails, or has no answer at
all (`Projection.Unanswered`): so it is where the first entry that is no name with a flag has an
integer in it of more digits than the error can show. Which of the three it is, is decided by the
value alone, and not by the document.

## Key results

- `Projection.ofValue_eq_ok_iff`: the values that are projections, and what they are read as
- `Projection.applyValue?_eq_error_iff`: `applyValue?` has no answer for the values that are
  `Unanswered`, whatever the document
- `Projection.applyValue?_eq_none_iff`: `applyValue?` fails for all others that are no projections
-/

namespace DocStore

-- powers are those of the core library, whatever else is imported
attribute [local instance (high)] instPowNat

namespace Projection

/-! ## Flags -/

/-- The values that say whether a field is to be kept. -/
inductive IsFlag : Value → Bool → Prop where
  | truth (b : Bool) : IsFlag (.bool b) b
  | one : IsFlag (.int 1) true
  | zero : IsFlag (.int 0) false

/-- `flagOf?` reads the values that are flags. -/
private theorem flagOf?_eq_some_iff {v : Value} {b : Bool} : flagOf? v = some b ↔ IsFlag v b := by
  constructor
  · intro h
    unfold flagOf? at h
    -- truth values, then the integers 0 and 1; every other value has no flag
    split at h
    · cases h
      exact .truth _
    · split at h
      · rename_i hzero
        cases h
        exact hzero ▸ .zero
      · split at h
        · rename_i hone
          cases h
          exact hone ▸ .one
        · cases h
    · cases h
  · intro h
    cases h <;> rfl

/-! ## Projections -/

/-- A value is a projection: an object that gives each of its names a flag for the same. -/
def IsProjection (v : Value) : Prop :=
  ∃ (flags : List (String × Value)) (b : Bool), v = mask flags ∧ ∀ f ∈ flags, IsFlag f.2 b

/-- The projection that keeps the names, or drops them; without names there is nothing to do. -/
def ofNames : Bool → List String → Projection
  | _, [] => .everything
  | true, names => .keep names
  | false, names => .drop names

/-- `ofValue` reads an object that gives each of its names a flag for the same as these names. -/
theorem ofValue_mask_of_isFlag {flags : List (String × Value)} {b : Bool}
    (h : ∀ f ∈ flags, IsFlag f.2 b) :
    ofValue (mask flags) = .ok (ofNames b (flags.map Prod.fst)) := by
  have hread := readFlags_mask fun f hf => flagOf?_eq_some_iff.2 (h f hf)
  rw [mask, ofValue, hread]
  cases flags with
  | nil => rfl
  | cons f rest => cases b <;> simp [ofNames, List.all_map, Function.comp_def]

/-- `readFlags` reads names with one flag only from an object that gives these names flags for the
same. -/
private theorem exists_mask_of_readFlags {entries : List (Key × Value)} {fs : List (String × Bool)}
    {b : Bool} (h : readFlags entries = .ok fs) (hb : ∀ f ∈ fs, f.2 = b) :
    ∃ flags : List (String × Value), .object entries = mask flags ∧
      (∀ f ∈ flags, IsFlag f.2 b) ∧ flags.map Prod.fst = fs.map Prod.fst := by
  -- induction on the entries, which `readFlags` reads in this order
  induction entries generalizing fs with
  | nil =>
    cases h
    exact ⟨[], rfl, by simp, rfl⟩
  | cons e rest ih =>
    obtain ⟨key, v⟩ := e
    cases key with
    | text name =>
      cases hflag : flagOf? v with
      | none => simp [readFlags, hflag] at h
      | some c =>
        cases hrest : readFlags rest with
        | error e => simp [readFlags, hflag, hrest, Except.map] at h
        | ok gs =>
          obtain rfl : (name, c) :: gs = fs := by
            simpa [readFlags, hflag, hrest, Except.map] using h
          obtain ⟨rfl, hgs⟩ := List.forall_mem_cons.1 hb
          obtain ⟨flags, hmask, hflags, hnames⟩ := ih hrest hgs
          refine ⟨(name, v) :: flags, ?_, ?_, congrArg (name :: ·) hnames⟩
          · rw [Value.object.inj hmask]
            rfl
          · exact List.forall_mem_cons.2 ⟨flagOf?_eq_some_iff.1 hflag, hflags⟩
    | int n => simp [readFlags] at h
    | null => simp [readFlags] at h

/-- `ofValue` reads names with flags as a projection only if the flags are all for the same. -/
private theorem exists_of_ofValue {v : Value} {p : Projection} (h : ofValue v = .ok p) :
    ∃ entries fs b, v = .object entries ∧ readFlags entries = .ok fs ∧ (∀ f ∈ fs, f.2 = b) ∧
      p = ofNames b (fs.map Prod.fst) := by
  cases v with
  | object entries =>
    cases hread : readFlags entries with
    | error e => simp [ofValue, hread] at h
    | ok fs =>
      cases fs with
      | nil =>
        simp only [ofValue, hread, Except.ok.injEq] at h
        exact ⟨entries, [], true, rfl, hread, by simp, h.symm⟩
      | cons f rest =>
        simp only [ofValue, hread] at h
        -- all flags are to keep, or some but not all are, which is refused, or none is
        split at h
        · rename_i hall
          cases h
          exact ⟨entries, _, true, rfl, hread, List.all_eq_true.1 hall, rfl⟩
        · split at h
          · cases h
          · rename_i hany
            cases h
            refine ⟨entries, _, false, rfl, hread, ?_, rfl⟩
            simpa [List.any_eq_true] using hany
  | scalar s => cases h
  | list items => cases h

/-- `ofValue` reads these values as projections, and no others. -/
theorem ofValue_eq_ok_iff {v : Value} {p : Projection} :
    ofValue v = .ok p ↔ ∃ (flags : List (String × Value)) (b : Bool),
      v = mask flags ∧ (∀ f ∈ flags, IsFlag f.2 b) ∧ p = ofNames b (flags.map Prod.fst) := by
  constructor
  · intro h
    obtain ⟨entries, fs, b, rfl, hread, hb, rfl⟩ := exists_of_ofValue h
    obtain ⟨flags, hmask, hflags, hnames⟩ := exists_mask_of_readFlags hread hb
    exact ⟨flags, b, hmask, hflags, congrArg (ofNames b) hnames.symm⟩
  · intro h
    obtain ⟨flags, b, rfl, hflags, rfl⟩ := h
    exact ofValue_mask_of_isFlag hflags

/-- `ofValue` accepts the values that are projections. -/
theorem exists_ofValue_iff {v : Value} : (∃ p, ofValue v = .ok p) ↔ IsProjection v := by
  constructor
  · intro h
    obtain ⟨p, hp⟩ := h
    obtain ⟨flags, b, hv, hflags, -⟩ := ofValue_eq_ok_iff.1 hp
    exact ⟨flags, b, hv, hflags⟩
  · intro h
    obtain ⟨flags, b, rfl, hflags⟩ := h
    exact ⟨_, ofValue_mask_of_isFlag hflags⟩

instance (v : Value) : Decidable (IsProjection v) :=
  decidable_of_iff ((ofValue v).isOk = true) <| by
    rw [← exists_ofValue_iff]
    cases ofValue v <;> simp [Except.isOk, Except.toBool]

/-! ## Values without an answer -/

/-- An entry of a projection: a name with a flag. -/
def IsEntry (e : Key × Value) : Prop := (∃ name, e.1 = .text name) ∧ ∃ b, IsFlag e.2 b

/-- An entry that cannot be shown: the key, or what stands in the place of the flag. -/
inductive EntryBreaks : Key × Value → Prop where
  | key {key : Key} {v : Value} (long : key.fits = false) : EntryBreaks (key, v)
  | flag {name : String} {v : Value} (long : v.fits = false) : EntryBreaks (.text name, v)

/-- A value with which masking has no answer: an object whose first entry that is no name with a
flag cannot be shown. -/
def Unanswered (v : Value) : Prop :=
  ∃ entries, v = .object entries ∧ Query.FirstBreaks IsEntry EntryBreaks entries

/-- `fits` holds of every flag. -/
private theorem IsFlag.fits {v : Value} {b : Bool} (h : IsFlag v b) : v.fits = true := by
  cases h with
  | truth b => rfl
  | one => decide
  | zero => decide

/-- `EntryBreaks` under a name: the value cannot be shown. -/
private theorem entryBreaks_text_iff {name : String} {v : Value} :
    EntryBreaks (.text name, v) ↔ v.fits = false := by
  refine ⟨fun h => ?_, .flag⟩
  cases h with
  | key long => cases long
  | flag long => exact long

/-- `EntryBreaks` under a key that is no name: the key cannot be shown. -/
private theorem entryBreaks_key_iff {key : Key} (hkey : ∀ name, key ≠ .text name) {v : Value} :
    EntryBreaks (key, v) ↔ key.fits = false := by
  refine ⟨fun h => ?_, .key⟩
  cases h with
  | key long => exact long
  | flag => exact absurd rfl (hkey _)

/-- `readFlags` ends with an error that cannot be shown where the first entry that is no name with a
flag cannot be. -/
private theorem exists_unfit_of_readFlags_iff {entries : List (Key × Value)} :
    (∃ e, readFlags entries = .error e ∧ e.fits = false) ↔
      Query.FirstBreaks IsEntry EntryBreaks entries := by
  induction entries with
  | nil => simp [readFlags, Query.FirstBreaks.nil]
  | cons entry rest ih =>
    obtain ⟨key, v⟩ := entry
    -- the first entry breaks, or it is an entry and breaks nothing, and the rest decides
    rw [Query.firstBreaks_cons, ← ih]
    cases key with
    | text name =>
      rw [entryBreaks_text_iff]
      cases hflag : flagOf? v with
      | none =>
        have hnot : ¬ IsEntry (.text name, v) := by
          rintro ⟨-, b, hb⟩
          rw [flagOf?_eq_some_iff.2 hb] at hflag
          cases hflag
        simp [readFlags, hflag, hnot, ProjectionError.fits]
      | some b =>
        have hb := flagOf?_eq_some_iff.1 hflag
        have hentry : IsEntry (.text name, v) := ⟨⟨name, rfl⟩, b, hb⟩
        cases hrest : readFlags rest <;>
          simp [readFlags, hflag, hrest, hentry, hb.fits, Except.map]
    | int n =>
      have hnot : ¬ IsEntry (.int n, v) := by simp [IsEntry]
      simp [readFlags, entryBreaks_key_iff, hnot, ProjectionError.fits]
    | null =>
      have hnot : ¬ IsEntry (.null, v) := by simp [IsEntry]
      simp [readFlags, entryBreaks_key_iff, hnot, ProjectionError.fits]

/-- `ofValue` ends with an error that cannot be shown just with the values that are `Unanswered`. -/
theorem exists_unfit_iff {v : Value} :
    (∃ e, ofValue v = .error e ∧ e.fits = false) ↔ Unanswered v := by
  cases v with
  | object entries =>
    simp only [Unanswered, Value.object.injEq, exists_eq_left', ← exists_unfit_of_readFlags_iff,
      ofValue]
    -- of names with flags, only mixed ones are refused, and the error shows no integer
    cases readFlags entries with
    | error e => simp
    | ok flags =>
      cases flags with
      | nil => simp
      | cons f rest =>
        simp only [reduceCtorEq, false_and, exists_false, iff_false, not_exists, not_and]
        intro e he
        split at he
        · cases he
        · split at he
          · cases he
            simp [ProjectionError.fits]
          · cases he
  | scalar s => simp [ofValue, Unanswered, ProjectionError.fits]
  | list items => simp [ofValue, Unanswered, ProjectionError.fits]

/-- `Unanswered` values have an integer of too many digits in them. -/
private theorem Unanswered.exists_holds {v : Value} (h : Unanswered v) :
    ∃ n, v.Holds n ∧ 10 ^ digitLimit ≤ n.natAbs := by
  obtain ⟨entries, rfl, before, e, after, rfl, -, hbroken⟩ := h
  have hmem : e ∈ before ++ e :: after := List.mem_append_right _ List.mem_cons_self
  cases hbroken with
  | key long =>
    obtain ⟨n, rfl, hn⟩ := Key.exists_int_of_fits_eq_false long
    exact ⟨n, .key hmem, hn⟩
  | flag long =>
    obtain ⟨n, inside, hn⟩ := Value.exists_holds_of_fits_eq_false long
    exact ⟨n, .entry hmem inside, hn⟩

/-- `fits` makes a value one that has an answer. -/
theorem not_unanswered_of_fits {v : Value} (hfits : v.fits = true) : ¬ Unanswered v := by
  intro h
  obtain ⟨n, inside, long⟩ := h.exists_holds
  exact absurd ((Value.fits_iff v).1 hfits n inside) (Nat.not_lt.2 long)

/-! ## Masking -/

/-- `applyValue?` has no answer for the values that are `Unanswered`, whatever the document. -/
theorem applyValue?_eq_error_iff {d : Document} {v : Value} :
    applyValue? d v = .error .unwritable ↔ Unanswered v := by
  rw [← exists_unfit_iff, applyValue?]
  cases ofValue v with
  | ok p => simp
  | error e => cases h : e.fits <;> simp [h]

/-- `applyValue?` masks the document with the values that are projections. -/
theorem applyValue?_eq_some_iff {d d' : Document} {v : Value} :
    applyValue? d v = .ok (some d') ↔ ∃ p, ofValue v = .ok p ∧ d' = p.apply d := by
  rw [applyValue?]
  cases ofValue v with
  | ok p => simp [eq_comm]
  | error e => cases h : e.fits <;> simp [h]

/-- `Unanswered` values are no projections. -/
theorem Unanswered.not_isProjection {v : Value} (h : Unanswered v) : ¬ IsProjection v := by
  obtain ⟨e, he, -⟩ := exists_unfit_iff.2 h
  rw [← exists_ofValue_iff, he]
  simp

/-- `applyValue?` fails for all other values, whatever the document. -/
theorem applyValue?_eq_none_iff {d : Document} {v : Value} :
    applyValue? d v = .ok none ↔ ¬ IsProjection v ∧ ¬ Unanswered v := by
  rw [← exists_ofValue_iff, ← exists_unfit_iff, applyValue?]
  cases ofValue v with
  | ok p => simp
  | error e => cases h : e.fits <;> simp [h]

end Projection

end DocStore
