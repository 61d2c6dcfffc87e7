import DocStore.Proofs.UpdateSequence
import Mathlib.Data.List.Nodup
import Mathlib.Logic.Equiv.Basic

/-!
# Renaming

A renaming moves a value to a name that no field has, so it comes to the same as if the two names
changed places. What names do by changing places they can do one after another: however often and
in whatever order fields are renamed, the fields afterwards are the fields before, each with its
value, under names that are permuted. None is lost, none is new, and no two have become one.

## Key results

- `Document.Renamed.perm_entries`: fields under permuted names are the same fields
- `Edit.isRenamed_of_apply`: a renaming that is carried out permutes the names
- `Update.runAll_keepsFields`: updates that rename and do nothing else keep all fields
-/

namespace DocStore

/-! ## Fields under other names -/

/-- One document has the fields of another under other names, each with its value: what the first
has or lacks under a name, the second has or lacks under the new one. -/
def Document.Renamed (names : Equiv.Perm Key) (d d' : Document) : Prop :=
  ∀ key, d'.get? (names key) = d.get? key

namespace Document.Renamed

variable {d d' d'' : Document} {names more : Equiv.Perm Key}

/-- Documents `Renamed` twice are renamed by both permutations in turn. -/
theorem trans (h : d.Renamed names d') (h' : d'.Renamed more d'') :
    d.Renamed (names.trans more) d'' := by
  intro key
  show d''.get? (more (names key)) = d.get? key
  rw [h', h]

/-- `Renamed` documents have the same fields, up to their order and their names. -/
theorem perm_entries (h : d.Renamed names d') :
    d'.entries.Perm (d.entries.map fun e => (names e.1, e.2)) := by
  have hinjective : Function.Injective fun e : Key × Value => (names e.1, e.2) := by
    intro a b hab
    obtain ⟨hkey, hvalue⟩ := Prod.mk.inj hab
    exact Prod.ext (names.injective hkey) hvalue
  -- neither list has an entry twice, so it is enough to compare members
  have hnodup := d.nodup_entries.map hinjective
  rw [List.perm_ext_iff_of_nodup d'.nodup_entries hnodup]
  intro e
  obtain ⟨key, v⟩ := e
  rw [← Table.get?_eq_some_iff_mem, List.mem_map]
  constructor
  · intro hget
    -- an entry of the second document comes from the old name of its key
    have hold : d.get? (names.symm key) = some v := by
      rw [← h, names.apply_symm_apply, hget]
    exact ⟨(names.symm key, v), (Table.get?_eq_some_iff_mem d).1 hold, by simp⟩
  · intro hmem
    obtain ⟨⟨old, w⟩, hold, heq⟩ := hmem
    cases heq
    rw [h]
    exact (Table.get?_eq_some_iff_mem d).2 hold

/-- `Renamed` documents have the same number of fields. -/
private theorem size_eq (h : d.Renamed names d') : d'.size = d.size := by
  simpa [Table.size] using h.perm_entries.length_eq

/-- `Renamed` documents hold each value the same number of times. -/
private theorem perm_values (h : d.Renamed names d') : d'.values.Perm d.values := by
  simpa [Table.values, Function.comp_def] using h.perm_entries.map Prod.snd

end Document.Renamed

/-! ## Renamings -/

/-- The names of the fields change by a permutation under which the id keeps its name. -/
def Document.IsRenamed (d d' : Document) : Prop :=
  ∃ names : Equiv.Perm Key, names (.text idField) = .text idField ∧ d.Renamed names d'

variable {d d' d'' : Document}

/-- A document `IsRenamed` where nothing has happened to it. -/
theorem Document.IsRenamed.refl (d : Document) : d.IsRenamed d :=
  ⟨Equiv.refl Key, rfl, fun _ => rfl⟩

/-- What `IsRenamed` twice is renamed. -/
theorem Document.IsRenamed.trans (h : d.IsRenamed d') (h' : d'.IsRenamed d'') :
    d.IsRenamed d'' := by
  obtain ⟨names, hid, hnames⟩ := h
  obtain ⟨more, hid', hmore⟩ := h'
  exact ⟨names.trans more, by simp [hid, hid'], hnames.trans hmore⟩

/-- In a renaming that `apply` carries out, the old name and the new one change places. -/
theorem Edit.isRenamed_of_apply {e : Edit} (hop : e.op = .rename) (h : e.apply d = .changed d') :
    d.IsRenamed d' := by
  obtain ⟨hfield, -, hchanges⟩ := changes_of_apply h
  cases hchanges with
  | @rename field name v notId isName free present =>
    have hid : Key.text idField ≠ .text name := fun heq => notId (Key.text.inj heq).symm
    -- the new name is free, so it is not the old one
    have hne : field ≠ .text name := by
      intro heq
      rw [heq, free] at present
      cases present
    refine ⟨Equiv.swap field (.text name), ?_, ?_⟩
    · exact Equiv.swap_apply_of_ne_of_ne (Ne.symm hfield) hid
    · intro key
      rw [Table.get?_erase, Table.get?_insert]
      -- the old name, the new one, or a name that stays where it is
      by_cases hold : key = field
      · simp [hold, hne.symm, present]
      · by_cases hnew : key = .text name
        · simp [hnew, free]
        · simp [Equiv.swap_apply_of_ne_of_ne hold hnew, hold, hnew]
  | _ => cases hop

namespace Update

variable {update : Value} {updates : List Value}

/-- `run` permutes the names if the update names no other operator. -/
private theorem isRenamed_run (h : ∀ op ∈ operators update, op = .rename) (d : Document) :
    d.IsRenamed (run update d).document := by
  apply run_invariant (P := d.IsRenamed) (Document.IsRenamed.refl d)
  intro e d₁ d₂ he hrenamed happly
  exact hrenamed.trans (Edit.isRenamed_of_apply (h e.op (op_mem_operators he)) happly)

/-- `runAll` does no more than that, one update after another. -/
private theorem isRenamed_runAll (h : ∀ u ∈ updates, ∀ op ∈ operators u, op = .rename)
    (d : Document) :
    d.IsRenamed (runAll updates d) := by
  induction updates generalizing d with
  | nil => exact Document.IsRenamed.refl d
  | cons u rest ih =>
    rw [List.forall_mem_cons] at h
    exact (isRenamed_run h.1 d).trans (ih h.2 _)

/-- Updates without increments that can be shown come to their ends, one after another, so no one of
the `outcomes` is a failure. -/
private theorem ends_of_mem_outcomes (h : ∀ u ∈ updates, .increment ∉ operators u)
    (hfits : ∀ u ∈ updates, u.fits = true) {d : Document} :
    ∀ p ∈ outcomes updates d, p.failure = none := by
  induction updates generalizing d with
  | nil => simp [outcomes]
  | cons u rest ih =>
    rw [List.forall_mem_cons] at h hfits
    rw [outcomes, List.forall_mem_cons]
    exact ⟨failure_eq_none h.1 hfits.1 d, ih h.2 hfits.2⟩

/-- What a document keeps when updates rename its fields. -/
structure KeepsFields (updates : List Value) (d : Document) : Prop where
  /-- Each of the updates comes to its end, if all of them can be shown. -/
  ends : (∀ u ∈ updates, u.fits = true) → ∀ p ∈ outcomes updates d, p.failure = none
  /-- There are as many fields as before. -/
  size : (runAll updates d).size = d.size
  /-- Every value is there as many times as before. -/
  values : (runAll updates d).values.Perm d.values
  /-- The id field has the value that it had, or is missing as before. -/
  id : (runAll updates d).get? idField = d.get? idField
  /-- Different fields are under different names again, each with its value. -/
  apart : ∃ names : Equiv.Perm Key, d.Renamed names (runAll updates d)

/-- `runAll` keeps all fields of a document if the updates rename, and have no other operator. -/
theorem runAll_keepsFields (h : ∀ u ∈ updates, ∀ op ∈ operators u, op = .rename) (d : Document) :
    KeepsFields updates d := by
  obtain ⟨names, hid, hrenamed⟩ := isRenamed_runAll h d
  -- no increment is among the operators, so nothing overflows
  have hends : ∀ u ∈ updates, .increment ∉ operators u := by
    intro u hu hmem
    cases h u hu _ hmem
  exact {
    ends := fun hfits => ends_of_mem_outcomes hends hfits
    size := hrenamed.size_eq
    values := hrenamed.perm_values
    id := by rw [← hrenamed, hid]
    apart := ⟨names, hrenamed⟩ }

/-- Three updates. The first lets two fields change places by way of a third name. In the second one
no renaming can be carried out: a name is taken, the id is to lose its name, a field is to get this
name, and a name is none. The third has a field keep its name, and a key that is no operator. -/
def exchanging : List Value :=
  [.object [(.text "$rename",
      .object [(.text "a", .text "t"), (.text "b", .text "a"), (.text "t", .text "b")])],
    .object [(.text "$rename", .object [(.text "a", .text "b"), (.text idField, .text "key"),
      (.text "c", .text idField), (.text "b", .text "$b")])],
    .object [(.text "$rename", .object [(.text "c", .text "c")]),
      (.text "$min", .object [(.text "a", .int 0)])]]

/-- After `exchanging` the two fields have changed places, behind those that have kept their names.
-/
theorem runAll_keepsFields_exchanging :
    let d : Document := .ofList [(.text idField, .text "1"), (.text "a", .int 1),
      (.text "b", .list [.int 2]), (.text "c", .null)]
    (∀ u ∈ exchanging, ∀ op ∈ operators u, op = .rename) ∧ KeepsFields exchanging d ∧
    (runAll exchanging d).entries = [(.text idField, .text "1"), (.text "c", .null),
      (.text "a", .list [.int 2]), (.text "b", .int 1)] := by
  have honly : ∀ u ∈ exchanging, ∀ op ∈ operators u, op = .rename := by decide
  exact ⟨honly, runAll_keepsFields honly _, rfl⟩

end Update

end DocStore
