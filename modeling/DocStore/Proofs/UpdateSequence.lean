import DocStore.Proofs.UpdateCompletion

/-!
# Updates field by field

An update with many operators and many fields comes to the same as updates with one operator and one
field each, carried out one after another in its own order. Keys that are no operators, and operands
that are no objects, stand for none of these. The update has changed the document if one of them
has, and an update that has changed nothing leaves the document as it was, to the last place.

## Key results

- `Update.singles_eq_filterMap`: the updates of one field are the steps on fields, in order
- `Update.inTurn_of_carried`: carried out in turn, they do what the steps do
- `Update.run_fieldByField`: an update that comes to its end is carried out field by field
-/

namespace DocStore

/-- `ofKey?` finds an operator by its `sign`. -/
theorem UpdateOperator.ofKey?_eq_some_iff {key : Key} {op : UpdateOperator} :
    ofKey? key = some op ↔ key = .text op.sign := by
  constructor
  · intro h
    cases key with
    | text s =>
      have hsign := List.find?_some h
      rw [beq_iff_eq.1 hsign]
    | _ => cases h
  · intro h
    subst h
    cases op <;> rfl

/-- The update that takes one step on a field and no other. -/
def Edit.toUpdate (e : Edit) : Value :=
  .object [(.text e.op.sign, .object [(e.field, e.argument)])]

/-- `Takes` without a change leaves the document alone. -/
private theorem UpdateStep.Takes.eq_of_unchanged {s : UpdateStep} {d d' : Document}
    {ws : List UpdateWarning} (h : s.Takes d d' false ws) : d' = d := by
  cases h <;> rfl

namespace Update

variable {update : Value} {d d' : Document} {changed : Bool} {ws : List UpdateWarning}

/-! ## Updates of one field -/

/-- The updates of one field that an entry of an update stands for: the operator, if it is one, with
each of the fields of its operand. -/
def entrySingles : Key × Value → List Value
  | (key, .object fields) =>
    if (UpdateOperator.ofKey? key).isSome then fields.map fun f => .object [(key, .object [f])]
    else []
  | _ => []

/-- The updates of one field that an update stands for, in its own order. -/
def singles : Value → List Value
  | .object entries => entries.flatMap entrySingles
  | _ => []

/-- The update of one field that a step is, if it is a step on a field. -/
def single? : UpdateStep → Option Value
  | .edit e => some e.toUpdate
  | _ => none

/-- `entrySingles` are the steps of an entry that are on fields. -/
private theorem entrySingles_eq_filterMap (entry : Key × Value) :
    entrySingles entry = (entrySteps entry).filterMap single? := by
  obtain ⟨key, operand⟩ := entry
  simp only [entrySteps]
  cases hop : UpdateOperator.ofKey? key with
  | none => cases operand <;> simp [entrySingles, hop, single?]
  | some op =>
    cases operand with
    | object fields =>
      obtain rfl := UpdateOperator.ofKey?_eq_some_iff.1 hop
      simp [entrySingles, hop, List.filterMap_map, Function.comp_def, single?, Edit.toUpdate]
    | _ => simp [entrySingles, single?]

/-- `singles` are the steps of an update that are on fields, in order. -/
theorem singles_eq_filterMap (update : Value) :
    singles update = (steps update).filterMap single? := by
  cases update with
  | object entries =>
    simp only [singles, steps, List.filterMap_flatMap, funext entrySingles_eq_filterMap]
  | _ => rfl

/-- `steps` of the update of one field: this one. -/
theorem steps_toUpdate (e : Edit) : steps e.toUpdate = [.edit e] := by
  have hop : UpdateOperator.ofKey? (.text e.op.sign) = some e.op :=
    UpdateOperator.ofKey?_eq_some_iff.2 rfl
  simp [steps, Edit.toUpdate, entrySteps, hop]

/-! ## Updates in turn -/

/-- What comes of updates that are carried out one after another, each on the document that the one
before has left. -/
def outcomes : List Value → Document → List UpdateProgress
  | [], _ => []
  | u :: rest, d => run u d :: outcomes rest (run u d).document

/-- The document that updates leave when they are carried out one after another. -/
def runAll (updates : List Value) (d : Document) : Document :=
  updates.foldl (fun d u => (run u d).document) d

/-- An update is carried out field by field. -/
structure FieldByField (update : Value) (d : Document) : Prop where
  /-- Each of the updates of one field comes to its end. -/
  ends : ∀ p ∈ outcomes (singles update) d, p.failure = none
  /-- The document, with its values and its order, is the one that they leave. -/
  document : (run update d).document = runAll (singles update) d
  /-- The update has changed the document if one of them has changed what it was carried out on. -/
  changed : (run update d).changed = true ↔ ∃ p ∈ outcomes (singles update) d, p.changed = true
  /-- If it has not, the document is as it was, in every field, value and place. -/
  unchanged : (run update d).changed = false → (run update d).document = d

/-- `run` of the update of one field comes to what its step comes to among others. -/
theorem run_toUpdate {e : Edit} (h : (UpdateStep.edit e).Takes d d' changed ws) :
    (run e.toUpdate d).failure = none ∧ (run e.toUpdate d).document = d' ∧
      (run e.toUpdate d).changed = changed := by
  have hcarried : Carried d (steps e.toUpdate) d' (changed || false) (ws ++ []) := by
    rw [steps_toUpdate]
    exact .step h (.done d')
  obtain ⟨hends, hdocument, hchanged, -⟩ := run_of_carried hcarried
  exact ⟨hends, hdocument, by rw [hchanged, Bool.or_false]⟩

/-- `Carried` steps come to the same as the updates of one field among them, in turn. -/
theorem inTurn_of_carried {steps' : List UpdateStep} (h : Carried d steps' d' changed ws) :
    (∀ p ∈ outcomes (steps'.filterMap single?) d, p.failure = none) ∧
    d' = runAll (steps'.filterMap single?) d ∧
    (changed = true ↔ ∃ p ∈ outcomes (steps'.filterMap single?) d, p.changed = true) ∧
    (changed = false → d' = d) := by
  induction h with
  | done d => simp [outcomes, runAll]
  | @step d d₁ d₂ s rest c₁ c₂ w₁ w₂ first behind ih =>
    obtain ⟨hends, hdocument, hchanged, hunchanged⟩ := ih
    have hsame : (c₁ || c₂) = false → d₂ = d := by
      intro hnone
      obtain ⟨rfl, rfl⟩ := Bool.or_eq_false_iff.1 hnone
      rw [hunchanged rfl, first.eq_of_unchanged]
    cases s with
    | edit e =>
      -- what the step leaves is what its own update leaves, and the rest goes on from there
      obtain ⟨hends₁, rfl, rfl⟩ := run_toUpdate first
      refine ⟨?_, hdocument, ?_, hsame⟩
      · simpa [single?, outcomes, hends₁] using hends
      · simp [single?, outcomes, hchanged]
    | unknown key =>
      cases first
      exact ⟨hends, hdocument, hchanged, hsame⟩
    | badOperand op got =>
      cases first
      exact ⟨hends, hdocument, hchanged, hsame⟩

/-- `run` of an update that comes to its end is carried out field by field. -/
theorem run_fieldByField (h : (run update d).failure = none) : FieldByField update d := by
  obtain ⟨ws, hcarried, -⟩ := takesAll_of_run h
  obtain ⟨hends, hdocument, hchanged, hunchanged⟩ := inTurn_of_carried hcarried
  rw [← singles_eq_filterMap] at hends hdocument hchanged
  exact ⟨hends, hdocument, hchanged, hunchanged⟩

/-- A number and a list. -/
def counted : Document :=
  Table.ofList [(.text "n", .int 1), (.text "tags", .list [.text "x"])]

/-- A key that is no operator, an operand that is no object, and four steps on fields: the second is
refused, since what it is to append to is no list, and the third has a field that has just moved. -/
def mixedUpdate : Value :=
  .object [(.text "$min", .object [(.text "n", .int 0)]),
    (.text "$rename", .object [(.text "n", .text "m")]),
    (.text "$push", .object [(.text "m", .int 2)]),
    (.text "$inc", .object [(.text "m", .int 2), (.text "n", .int 5)]),
    (.text "$set", .null)]

/-- `run` of an update with three operators: a renamed field that is no list, no value for it, a
number under the new name and one under the old. -/
theorem run_fieldByField_mixed :
    (run mixedUpdate counted).failure = none ∧ FieldByField mixedUpdate counted ∧
    singles mixedUpdate = [
      .object [(.text "$rename", .object [(.text "n", .text "m")])],
      .object [(.text "$push", .object [(.text "m", .int 2)])],
      .object [(.text "$inc", .object [(.text "m", .int 2)])],
      .object [(.text "$inc", .object [(.text "n", .int 5)])]] ∧
    (outcomes (singles mixedUpdate) counted).map (·.changed) = [true, false, true, true] ∧
    (run mixedUpdate counted).document.entries =
      [(.text "tags", .list [.text "x"]), (.text "m", .int 3), (.text "n", .int 5)] := by
  have hends : (run mixedUpdate counted).failure = none := by decide
  exact ⟨hends, run_fieldByField hends, rfl, by decide, rfl⟩

end Update

end DocStore
