import DocStore.Update

/-!
# Steps of updates

What one step of an update can do to a document, and how a property of documents is carried through
a whole update.

## Key results

- `Edit.changes_of_apply`: a step that changes a document does one of seven things
- `Edit.get?_idField_of_apply`: no step touches the id field
- `Update.run_invariant`: what every changing step of an update preserves, the update preserves
- `Update.edits_eq_filterMap`: the steps on fields that an update asks for, in order
-/

namespace DocStore

/-! ## Errors -/

namespace EditError

variable {x : EditError} {f : UpdateFailure}

/-- `raised` changes no document. -/
@[simp]
private theorem raised_ne_changed (x : EditError) (d : Document) : x.raised ≠ .changed d := by
  rw [raised]
  split <;> simp

/-- `raised` is not passed over. -/
@[simp]
theorem raised_ne_unchanged (x : EditError) : x.raised ≠ .unchanged := by
  rw [raised]
  split <;> simp

/-- `raised` ends the update if the text of the error cannot be made. -/
theorem raised_eq_failed_iff : x.raised = .failed f ↔ x.fits = false ∧ f = .unwritable := by
  rw [raised]
  cases x.fits <;> simp [@eq_comm _ f]

end EditError

/-! ## One step -/

/-- The document after a step: the changed one, or else the one before. -/
def Edit.after (e : Edit) (d : Document) : Document :=
  match e.apply d with
  | .changed d' => d'
  | _ => d

/-- What a step that is carried out makes of a document. -/
inductive Edit.Changes (d : Document) : Edit → Document → Prop where
  /-- A missing field is taken for zero. -/
  | incrementMissing {field : Key} {n : Number} (missing : d.get? field = none) :
    Changes d ⟨.increment, field, .scalar (.number n)⟩
      (d.insert field (.scalar (.number n)))
  /-- A number is added to the number that is there. -/
  | increment {field : Key} {m n sum : Number}
    (present : d.get? field = some (.scalar (.number m))) (add : m.add? n = some sum) :
    Changes d ⟨.increment, field, .scalar (.number n)⟩
      (d.insert field (.scalar (.number sum)))
  /-- A missing field is taken for the empty list. -/
  | pushMissing {field : Key} {s : Scalar} (missing : d.get? field = none) :
    Changes d ⟨.push, field, .scalar s⟩ (d.insert field (.list [.scalar s]))
  /-- A scalar goes behind the items that are there. -/
  | push {field : Key} {s : Scalar} {items : List Value}
    (present : d.get? field = some (.list items)) :
    Changes d ⟨.push, field, .scalar s⟩ (d.insert field (.list (items ++ [.scalar s])))
  /-- A value moves to a new name at the end. -/
  | rename {field : Key} {name : String} {v : Value} (notId : name ≠ idField)
    (isName : isFieldName name = true) (free : d.get? (.text name) = none)
    (present : d.get? field = some v) :
    Changes d ⟨.rename, field, .scalar (.text name)⟩ ((d.insert (.text name) v).erase field)
  /-- A value is written that a field may hold. -/
  | assign {field : Key} {v : Value} (storable : v.isStorable = true) :
    Changes d ⟨.assign, field, v⟩ (d.insert field v)
  /-- A field that is there goes away. -/
  | unset {field : Key} {flag : Value} (truthy : flag.isTruthy = true)
    (present : d.contains field = true) :
    Changes d ⟨.unset, field, flag⟩ (d.erase field)

/-- `number?` tells the values that are numbers. -/
theorem Value.number?_eq_some_iff {v : Value} {n : Number} :
    v.number? = some n ↔ v = .scalar (.number n) := by
  cases v with
  | scalar s => cases s <;> simp [number?]
  | _ => simp [number?]

namespace Edit

variable {d d' : Document} {field : Key} {v : Value}

/-- What `increment` makes of a document. -/
private theorem changes_of_increment (h : increment d field v = .changed d') :
    Changes d ⟨.increment, field, v⟩ d' := by
  simp only [increment] at h
  split at h
  · exact absurd h (EditError.raised_ne_changed _ _)
  · -- the operand is a number, and so is the value that is there, if any
    rename_i n hn
    obtain rfl := Value.number?_eq_some_iff.1 hn
    split at h
    · rename_i hget
      cases h
      exact .incrementMissing hget
    · rename_i current hget
      split at h
      · exact absurd h (EditError.raised_ne_changed _ _)
      · rename_i m hm
        obtain rfl := Value.number?_eq_some_iff.1 hm
        split at h
        · rename_i sum hsum
          cases h
          exact .increment hget hsum
        · cases h

/-- What `push` makes of a document. -/
private theorem changes_of_push (h : push d field v = .changed d') :
    Changes d ⟨.push, field, v⟩ d' := by
  simp only [push] at h
  split at h
  · exact absurd h (EditError.raised_ne_changed _ _)
  · rename_i hscalar
    -- only scalars are appended
    obtain ⟨s, rfl⟩ : ∃ s, v = .scalar s := by
      cases v <;> simp [Value.isScalar] at hscalar
      exact ⟨_, rfl⟩
    split at h
    · rename_i hget
      cases h
      exact .pushMissing hget
    · rename_i items hget
      cases h
      exact .push hget
    · exact absurd h (EditError.raised_ne_changed _ _)

/-- What `rename` makes of a document. -/
private theorem changes_of_rename (h : rename d field v = .changed d') :
    Changes d ⟨.rename, field, v⟩ d' := by
  unfold rename at h
  split at h
  · rename_i name
    split at h
    · exact absurd h (EditError.raised_ne_changed _ _)
    split at h
    · exact absurd h (EditError.raised_ne_changed _ _)
    split at h
    · exact absurd h (EditError.raised_ne_changed _ _)
    -- a name of a field, not that of the id, which is free
    rename_i hid hname hfree
    split at h
    · exact absurd h (EditError.raised_ne_changed _ _)
    · rename_i w hget
      cases h
      exact .rename hid (by simpa using hname)
        (Table.contains_eq_false_iff.1 (by simpa using hfree)) hget
  · exact absurd h (EditError.raised_ne_changed _ _)

/-- What `assign` makes of a document. -/
private theorem changes_of_assign (h : assign d field v = .changed d') :
    Changes d ⟨.assign, field, v⟩ d' := by
  unfold assign at h
  split at h
  · rename_i hstorable
    cases h
    exact .assign hstorable
  · exact absurd h (EditError.raised_ne_changed _ _)

/-- What `unset` makes of a document. -/
private theorem changes_of_unset (h : unset d field v = .changed d') :
    Changes d ⟨.unset, field, v⟩ d' := by
  unfold unset at h
  split at h
  · rename_i hflag
    rw [Bool.and_eq_true] at hflag
    cases h
    exact .unset hflag.1 hflag.2
  · cases h

/-- `apply` of these three of the five operators changes a document or raises an error. -/
theorem changed_or_raised {e : Edit} (hincrement : e.op ≠ .increment) (hunset : e.op ≠ .unset)
    (d : Document) :
    (∃ d', e.apply d = .changed d') ∨ ∃ x : EditError, e.apply d = x.raised := by
  obtain ⟨op, field, v⟩ := e
  simp only [apply]
  split
  · exact .inr ⟨_, rfl⟩
  split
  · exact .inr ⟨_, rfl⟩
  -- each operator goes through its tests, and every test but the last raises an error
  cases op with
  | increment => exact absurd rfl hincrement
  | unset => exact absurd rfl hunset
  | push =>
    simp only [push]
    split
    · exact .inr ⟨_, rfl⟩
    split
    · exact .inl ⟨_, rfl⟩
    · exact .inl ⟨_, rfl⟩
    · exact .inr ⟨_, rfl⟩
  | rename =>
    simp only [rename]
    split
    · split
      · exact .inr ⟨_, rfl⟩
      split
      · exact .inr ⟨_, rfl⟩
      split
      · exact .inr ⟨_, rfl⟩
      split
      · exact .inr ⟨_, rfl⟩
      · exact .inl ⟨_, rfl⟩
    · exact .inr ⟨_, rfl⟩
  | assign =>
    simp only [assign]
    split
    · exact .inl ⟨_, rfl⟩
    · exact .inr ⟨_, rfl⟩

/-- `apply` that changes a document has the name of a field, not that of the id field, and does one
of seven things. -/
theorem changes_of_apply {e : Edit} (h : e.apply d = .changed d') :
    e.field ≠ .text idField ∧ e.field.isFieldName = true ∧ e.Changes d d' := by
  obtain ⟨op, field, v⟩ := e
  simp only [apply] at h
  split at h
  · exact absurd h (EditError.raised_ne_changed _ _)
  split at h
  · exact absurd h (EditError.raised_ne_changed _ _)
  rename_i hid hname
  refine ⟨hid, by simpa using hname, ?_⟩
  -- behind the two checks every operator has its own way
  cases op with
  | increment => exact changes_of_increment h
  | push => exact changes_of_push h
  | rename => exact changes_of_rename h
  | assign => exact changes_of_assign h
  | unset => exact changes_of_unset h

/-- `apply` never touches the id field. -/
theorem get?_idField_of_apply {e : Edit} (h : e.apply d = .changed d') :
    d'.get? idField = d.get? idField := by
  obtain ⟨hid, -, hchanges⟩ := changes_of_apply h
  -- only a renaming touches a second field, and that is not the id either
  cases hchanges with
  | rename notId =>
    have hne : Key.text idField ≠ .text _ := fun he => notId (Key.text.inj he).symm
    rw [Table.get?_erase, if_neg (Ne.symm hid), Table.get?_insert, if_neg hne]
  | unset => rw [Table.get?_erase, if_neg (Ne.symm hid)]
  | _ => rw [Table.get?_insert, if_neg (Ne.symm hid)]

end Edit

/-! ## The whole update -/

namespace UpdateProgress

/-- `advance` preserves what the changing step preserves, if it is one. -/
theorem advance_invariant {P : Document → Prop} {p : UpdateProgress} {s : UpdateStep}
    (h : P p.document)
    (hstep : ∀ e d, s = .edit e → e.apply p.document = .changed d → P d) :
    P (p.advance s).document := by
  simp only [advance]
  split
  · -- the update has ended before
    exact h
  -- only a step on a field changes the document
  cases s with
  | unknown key => exact h
  | badOperand op got => exact h
  | edit e =>
    simp only
    split
    · rename_i d hd
      exact hstep e d rfl hd
    · exact h
    · exact h
    · exact h

end UpdateProgress

namespace Update

/-- `run` preserves what every changing step of the update preserves. -/
theorem run_invariant {P : Document → Prop} {update : Value} {d : Document} (h : P d)
    (hstep : ∀ e d d', .edit e ∈ steps update → P d → e.apply d = .changed d' → P d') :
    P (run update d).document := by
  -- the steps are taken from left to right, each from where the one before has led
  refine List.foldlRecOn (motive := fun p : UpdateProgress => P p.document) _ _ h ?_
  intro p hp s hs
  refine UpdateProgress.advance_invariant hp ?_
  rintro e d' rfl happly
  exact hstep e _ _ hs hp happly

/-- The operators among the keys of an update, in order. A value that is no object has none. -/
def operators : Value → List UpdateOperator
  | .object entries => entries.filterMap fun entry => UpdateOperator.ofKey? entry.1
  | _ => []

/-- The steps on fields that an entry of an update asks for: its operator, if it is one, on each of
the fields of its operand. -/
def entryEdits : Key × Value → List Edit
  | (key, .object fields) =>
    match UpdateOperator.ofKey? key with
    | some op => fields.map fun f => ⟨op, f.1, f.2⟩
    | none => []
  | _ => []

/-- The steps on fields that an update asks for, in order. -/
def edits : Value → List Edit
  | .object entries => entries.flatMap entryEdits
  | _ => []

/-- The step on a field that a step is, if it is one. -/
def edit? : UpdateStep → Option Edit
  | .edit e => some e
  | _ => none

/-- `entryEdits` are the steps on fields among the `entrySteps`. -/
private theorem entryEdits_eq_filterMap (entry : Key × Value) :
    entryEdits entry = (entrySteps entry).filterMap edit? := by
  obtain ⟨key, operand⟩ := entry
  cases hop : UpdateOperator.ofKey? key with
  | none => cases operand <;> simp [entryEdits, entrySteps, hop, edit?]
  | some op =>
    cases operand <;>
      simp [entryEdits, entrySteps, hop, edit?, List.filterMap_map, Function.comp_def]

/-- `edits` are the steps on fields among the `steps`, in the same order. -/
theorem edits_eq_filterMap (update : Value) : edits update = (steps update).filterMap edit? := by
  cases update with
  | object entries =>
    simp only [edits, steps, List.filterMap_flatMap, funext entryEdits_eq_filterMap]
  | _ => rfl

/-- A step on a field is in `edits` if it is in `steps`. -/
theorem mem_edits_iff {update : Value} {e : Edit} : e ∈ edits update ↔ .edit e ∈ steps update := by
  rw [edits_eq_filterMap, List.mem_filterMap]
  constructor
  · intro h
    obtain ⟨s, hs, he⟩ := h
    cases s with
    | edit e' => exact Option.some.inj he ▸ hs
    | _ => cases he
  · intro h
    exact ⟨.edit e, h, rfl⟩

/-- `steps` have their fields and arguments from the operands of the operators in the update. -/
theorem exists_operand_of_mem_steps {update : Value} {e : Edit} (h : .edit e ∈ steps update) :
    ∃ entries key operand, update = .object entries ∧ (key, .object operand) ∈ entries ∧
      UpdateOperator.ofKey? key = some e.op ∧ (e.field, e.argument) ∈ operand := by
  cases update with
  | object entries =>
    -- the entry that the step is of, and in it the operand
    obtain ⟨⟨key, v⟩, hmem, he⟩ := List.mem_flatMap.1 h
    simp only [entrySteps] at he
    split at he
    · simp at he
    · rename_i op hop
      split at he
      · rename_i v operand
        obtain ⟨⟨field, argument⟩, hf, heq⟩ := List.mem_map.1 he
        cases heq
        exact ⟨entries, key, operand, rfl, hmem, hop, hf⟩
      · simp at he
  | _ => simp [steps] at h

/-- `operators` of an update has the operator of every step. -/
theorem op_mem_operators {update : Value} {e : Edit} (h : .edit e ∈ steps update) :
    e.op ∈ operators update := by
  obtain ⟨entries, key, operand, rfl, hmem, hop, -⟩ := exists_operand_of_mem_steps h
  exact List.mem_filterMap.2 ⟨_, hmem, hop⟩

end Update

end DocStore
