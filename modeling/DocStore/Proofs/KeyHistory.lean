import DocStore.Table

/-!
# Keys that come and go

Keys enter a table and leave it. Which keys it has and in which order can be told from this alone: a
key is present if it has not left since it last entered, and it keeps the place that it took when it
came in, however often it enters again. A key that has left and comes back goes last.

## Key results

- `KeyEvent.present_concat_entered`, `KeyEvent.present_concat_left`: what one more event does
- `KeyEvent.present_append_left`: several keys leave one after another
-/

namespace DocStore

/-- What can happen to a key. -/
inductive KeyEvent (κ : Type u) where
  | entered (k : κ)
  | left (k : κ)
  deriving DecidableEq

variable {κ : Type u} [DecidableEq κ]

namespace KeyEvent

/-- The keys that have entered and not left since, in the order in which they came. -/
def present : List (KeyEvent κ) → List κ
  | [] => []
  | .entered k :: later =>
    if .left k ∈ later then present later else k :: (present later).filter (· ≠ k)
  | .left _ :: later => present later

/-- `present` after one more key has entered: it goes last unless it is there already. -/
theorem present_concat_entered (history : List (KeyEvent κ)) (k : κ) :
    present (history ++ [.entered k]) =
      if k ∈ present history then present history else present history ++ [k] := by
  induction history with
  | nil => rfl
  | cons event later ih =>
    cases event with
    | left first => exact ih
    | entered first =>
      simp only [List.cons_append, present, ih, List.mem_append, List.mem_singleton, reduceCtorEq,
        or_false]
      by_cases hleft : .left first ∈ later
      · simp only [if_pos hleft]
      -- the first key stays, and it may be the one that enters again
      simp only [if_neg hleft]
      by_cases hfirst : k = first
      · subst hfirst
        by_cases hmem : k ∈ present later <;> simp [hmem]
      · by_cases hmem : k ∈ present later <;> simp [hmem, hfirst]

/-- `present` after one more key has left: all keys but this one. -/
theorem present_concat_left (history : List (KeyEvent κ)) (k : κ) :
    present (history ++ [.left k]) = (present history).filter (· ≠ k) := by
  induction history with
  | nil => rfl
  | cons event later ih =>
    cases event with
    | left first => exact ih
    | entered first =>
      simp only [List.cons_append, present, ih, List.mem_append, List.mem_singleton, left.injEq]
      by_cases hleft : .left first ∈ later
      · simp only [hleft, true_or, if_true]
      -- the key that leaves may be the first that came, or one behind it
      by_cases hfirst : first = k
      · subst hfirst
        simp [hleft]
      · simp [hleft, hfirst, List.filter_filter, Bool.and_comm]

/-- `present` after several keys have left one after another: all keys but these. -/
theorem present_append_left (history : List (KeyEvent κ)) (ks : List κ) :
    present (history ++ ks.map .left) = (present history).filter (· ∉ ks) := by
  induction ks generalizing history with
  | nil =>
    rw [List.map_nil, List.append_nil, List.filter_eq_self.2 fun _ _ => by simp]
  | cons k rest ih =>
    rw [List.map_cons, List.append_cons, ih, present_concat_left, List.filter_filter]
    -- to leave out one and then the rest leaves out all of them
    refine List.filter_congr fun key _ => ?_
    simp [Bool.and_comm]

end KeyEvent

/-- `insert` into a table whose keys are those of its history adds the entering of the key to that
history. -/
theorem Table.keys_insert_eq_present {ν : Type v} {t : Table κ ν} {history : List (KeyEvent κ)}
    (h : t.keys = KeyEvent.present history) (k : κ) (v : ν) :
    (t.insert k v).keys = KeyEvent.present (history ++ [.entered k]) := by
  rw [keys_insert, KeyEvent.present_concat_entered, ← h]
  rfl

end DocStore
