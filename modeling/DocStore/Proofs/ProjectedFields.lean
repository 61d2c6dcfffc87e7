import DocStore.Projection

/-!
# The fields that a projection keeps

A mask gives each of its names a flag. Where all flags say that a field is to be kept, the mask is a
projection, and what is read of the projected document under a name of the mask is what was read of
the document before; under any other name there is nothing.

## Key results

- `Projection.ofValue_mask`: a mask of names to keep is read as those names
- `Projection.get?_apply_keep`: look-ups after a projection that keeps
-/

namespace DocStore

namespace Projection

/-! ## Masks -/

/-- The object that gives each name its flag. -/
def mask (flags : List (String × Value)) : Value :=
  .object (flags.map fun (f : String × Value) => (.text f.1, f.2))

/-- `readFlags` reads names that all have the same flag in order. -/
theorem readFlags_mask {flags : List (String × Value)} {flag : Bool}
    (h : ∀ f ∈ flags, flagOf? f.2 = some flag) :
    readFlags (flags.map fun (f : String × Value) => (.text f.1, f.2)) =
      .ok (flags.map fun f => (f.1, flag)) := by
  induction flags with
  | nil => rfl
  | cons f rest ih =>
    rw [List.forall_mem_cons] at h
    rw [List.map_cons, readFlags, h.1]
    show (readFlags _).map _ = _
    rw [ih h.2]
    rfl

/-- `ofValue` reads a `mask` of names to keep as those names. -/
theorem ofValue_mask {flags : List (String × Value)} (hne : flags ≠ [])
    (h : ∀ f ∈ flags, flagOf? f.2 = some true) :
    ofValue (mask flags) = .ok (.keep (flags.map Prod.fst)) := by
  cases flags with
  | nil => exact absurd rfl hne
  | cons f rest =>
    rw [mask, ofValue, readFlags_mask h]
    simp [List.all_map, Function.comp_def]

/-! ## Look-ups -/

/-- `pick` written over a table: a named field that the document has is read with its value. -/
private theorem get?_foldl_pick (d : Document) (names : List String) (t : Document)
    (name : String) :
    ((pick d names).foldl (fun t e => t.insert e.1 e.2) t).get? (.text name) =
      if name ∈ names then (d.get? name).or (t.get? name) else t.get? name := by
  induction names generalizing t with
  | nil => rfl
  | cons n rest ih =>
    cases hn : d.get? n with
    | none =>
      -- a field that the document lacks is passed over
      have hpick : pick d (n :: rest) = pick d rest := by simp [pick, hn]
      rw [hpick, ih]
      by_cases hname : name = n
      · simp [hname, hn]
      · simp [hname]
    | some v =>
      -- a name that comes again writes the same value once more
      have hpick : pick d (n :: rest) = (.text n, v) :: pick d rest := by simp [pick, hn]
      rw [hpick, List.foldl_cons, ih, Table.get?_insert]
      by_cases hname : name = n
      · simp [hname, hn]
      · simp [hname]

/-- `apply` keeps of a document the fields with the given names, each with its value. -/
theorem get?_apply_keep (d : Document) (names : List String) (name : String) :
    ((keep names).apply d).get? (.text name) = if name ∈ names then d.get? name else none := by
  show (Table.ofList (pick d names)).get? _ = _
  rw [Table.ofList, get?_foldl_pick, Table.get?_empty, Option.or_none]

end Projection

end DocStore
