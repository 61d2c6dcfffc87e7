import DocStore.Proofs.UpdateCompletion
import Mathlib.Data.List.Basic

/-!
# What updates report

The answer of an update says whether a document has changed, and nothing about what has not been
done; that is left to the warnings. So it matters that none is missing and none is given twice. A
key that is no operator has its own, and so has an operand that is no object. A step on a field is
judged when its turn comes, on the document that the steps before it have left. At the end one
warning more says that there was no operator at all.

## Key results

- `Edit.removesNothing_of_apply`: a step that does nothing and gives no reason removes nothing
- `Update.run_warnings`: the warnings are those of the steps and the one at the end
- `Update.perm_of_carried`: those of the steps are one for each thing that was not done
- `Update.run_reportsAll`: an update that comes to its end reports all that it has not done
-/

namespace DocStore

/-! ## One step -/

/-- A step is to remove a field, but its flag counts as false or the field is not there. -/
def Edit.RemovesNothing (e : Edit) (d : Document) : Prop :=
  e.op = .unset ∧ (e.argument.isTruthy = false ∨ d.contains e.field = false)

/-- `apply` leaves a document as it is, without a reason, only for a step that removes nothing. -/
theorem Edit.removesNothing_of_apply {e : Edit} {d : Document} (h : e.apply d = .unchanged) :
    e.RemovesNothing d := by
  by_cases hunset : e.op = .unset
  · simp only [apply, hunset, unset] at h
    split at h
    · exact absurd h (EditError.raised_ne_unchanged _)
    split at h
    · exact absurd h (EditError.raised_ne_unchanged _)
    split at h
    · cases h
    · rename_i hflag
      rw [Bool.and_eq_true, not_and_or, Bool.not_eq_true, Bool.not_eq_true] at hflag
      exact ⟨hunset, hflag⟩
  · -- the other operators change the document, give a reason, or end the update
    by_cases hincrement : e.op = .increment
    · simp only [apply, hincrement, increment] at h
      split at h
      · exact absurd h (EditError.raised_ne_unchanged _)
      split at h
      · exact absurd h (EditError.raised_ne_unchanged _)
      split at h
      · exact absurd h (EditError.raised_ne_unchanged _)
      split at h
      · cases h
      split at h
      · exact absurd h (EditError.raised_ne_unchanged _)
      split at h <;> cases h
    · rcases changed_or_raised hincrement hunset d with ⟨d', hchanged⟩ | ⟨x, hraised⟩
      · rw [hchanged] at h
        cases h
      · rw [hraised] at h
        exact absurd h (EditError.raised_ne_unchanged _)

/-! ## Turns -/

/-- A step on a field together with the document that it finds. -/
structure Turn where
  edit : Edit
  document : Document

namespace Turn

/-- What comes of the step. -/
def result (t : Turn) : EditResult := t.edit.apply t.document

/-- The reason for which the step cannot be carried out, if there is one. -/
def refusal? (t : Turn) : Option EditError :=
  match t.result with
  | .refused x => some x
  | _ => none

end Turn

/-- The turns of several steps: each finds what those before it have left. -/
def turns : List Edit → Document → List Turn
  | [], _ => []
  | e :: rest, d => ⟨e, d⟩ :: turns rest (e.after d)

/-- The reasons for which some of several steps cannot be carried out, in order. -/
def refusals (edits : List Edit) (d : Document) : List EditError :=
  (turns edits d).filterMap Turn.refusal?

variable {d : Document} {e : Edit}

/-- `refusals` of steps of which the first is refused. -/
private theorem refusals_cons_of_refused {x : EditError} (h : e.apply d = .refused x)
    (rest : List Edit) :
    refusals (e :: rest) d = x :: refusals rest d := by
  simp [refusals, turns, Turn.refusal?, Turn.result, Edit.after, h]

/-- `refusals` of steps of which the first changes nothing. -/
private theorem refusals_cons_of_unchanged (h : e.apply d = .unchanged) (rest : List Edit) :
    refusals (e :: rest) d = refusals rest d := by
  simp [refusals, turns, Turn.refusal?, Turn.result, Edit.after, h]

/-- `refusals` of steps of which the first changes the document: the others meet the changed one. -/
private theorem refusals_cons_of_changed {d' : Document} (h : e.apply d = .changed d')
    (rest : List Edit) :
    refusals (e :: rest) d = refusals rest d' := by
  simp [refusals, turns, Turn.refusal?, Turn.result, Edit.after, h]

/-! ## What is wrong with an update before it meets a document -/

/-- The key that a step skips as none of the operators. -/
def UpdateStep.key? : UpdateStep → Option Key
  | .unknown key => some key
  | _ => none

/-- The operator that a step skips for its operand, and this operand. -/
def UpdateStep.operand? : UpdateStep → Option (UpdateOperator × Value)
  | .badOperand op got => some (op, got)
  | _ => none

namespace Update

/-- The key of an entry, if it is no operator. -/
def unknownKey? (entry : Key × Value) : Option Key :=
  if isRecognized entry then none else some entry.1

/-- The operator of an entry and its operand, if that is no object. -/
def badOperand? : Key × Value → Option (UpdateOperator × Value)
  | (_, .object _) => none
  | (key, got) => (UpdateOperator.ofKey? key).map fun op => (op, got)

/-- The keys of an update that are no operators, in order. -/
def unknownKeys : Value → List Key
  | .object entries => entries.filterMap unknownKey?
  | _ => []

/-- The operators of an update whose operand is no object, in order, each with its operand. -/
def badOperands : Value → List (UpdateOperator × Value)
  | .object entries => entries.filterMap badOperand?
  | _ => []

/-- `unknownKey?` of an entry is the key that its steps skip. -/
private theorem unknownKey?_toList (entry : Key × Value) :
    (unknownKey? entry).toList = (entrySteps entry).filterMap UpdateStep.key? := by
  obtain ⟨key, operand⟩ := entry
  cases hop : UpdateOperator.ofKey? key with
  | none => simp [unknownKey?, isRecognized, entrySteps, hop, UpdateStep.key?]
  | some op =>
    cases operand <;>
      simp [unknownKey?, isRecognized, entrySteps, hop, UpdateStep.key?, List.filterMap_map,
        Function.comp_def]

/-- `badOperand?` of an entry is the operator that its steps skip. -/
private theorem badOperand?_toList (entry : Key × Value) :
    (badOperand? entry).toList = (entrySteps entry).filterMap UpdateStep.operand? := by
  obtain ⟨key, operand⟩ := entry
  cases hop : UpdateOperator.ofKey? key with
  | none => cases operand <;> simp [badOperand?, entrySteps, hop, UpdateStep.operand?]
  | some op =>
    cases operand <;>
      simp [badOperand?, entrySteps, hop, UpdateStep.operand?, List.filterMap_map,
        Function.comp_def]

/-- `unknownKeys` of an update are the keys that its `steps` skip. -/
private theorem unknownKeys_eq_filterMap (update : Value) :
    unknownKeys update = (steps update).filterMap UpdateStep.key? := by
  cases update with
  | object entries =>
    rw [unknownKeys, steps, List.filterMap_flatMap, List.filterMap_eq_flatMap_toList]
    simp only [unknownKey?_toList]
  | _ => rfl

/-- `badOperands` of an update are the operators that its `steps` skip. -/
private theorem badOperands_eq_filterMap (update : Value) :
    badOperands update = (steps update).filterMap UpdateStep.operand? := by
  cases update with
  | object entries =>
    rw [badOperands, steps, List.filterMap_flatMap, List.filterMap_eq_flatMap_toList]
    simp only [badOperand?_toList]
  | _ => rfl

/-! ## The warnings of an update -/

/-- `closing` warns only of an update without operators. -/
private theorem length_closing (update : Value) :
    (closing update).length = if operators update = [] then 1 else 0 := by
  cases update with
  | object entries =>
    cases entries with
    | nil => rfl
    | cons entry rest =>
      -- no key is recognized just if there is no operator
      have hnone : operators (.object (entry :: rest)) = [] ↔
          (entry :: rest).any isRecognized = false := by
        simp only [operators, List.filterMap_eq_nil_iff, List.any_eq_false, isRecognized,
          Bool.not_eq_true, Option.isSome_eq_false_iff, Option.isNone_iff_eq_none]
      simp only [closing, hnone]
      cases (entry :: rest).any isRecognized <;> rfl
  | _ => rfl

variable {update : Value} {d d' : Document} {steps' : List UpdateStep} {changed : Bool}
  {ws : List UpdateWarning}

/-- `run` gives the warnings of the steps, and then the one at the end. -/
theorem run_warnings (h : Carried d (steps update) d' changed ws) :
    (run update d).warnings = ws ++ closing update := by
  rw [run, foldl_of_carried (p := .start d) rfl h]
  rfl

/-- `Carried` steps warn once for each key that is no operator, for each operand that is no object,
and for each step on a field that cannot be carried out. -/
theorem perm_of_carried (h : Carried d steps' d' changed ws) :
    ws.Perm ((steps'.filterMap UpdateStep.key?).map .unknownOperator ++
      ((steps'.filterMap UpdateStep.operand?).map (fun b => .operandNotAnObject b.1 b.2) ++
        (refusals (steps'.filterMap edit?) d).map .skipped)) := by
  induction h with
  | done d => exact .nil
  | step first behind ih =>
    -- a warning goes to the front of its part, and past the parts before it
    cases first with
    | unknown key => exact ih.cons _
    | badOperand op got => exact (ih.cons _).trans List.perm_middle.symm
    | changed carriedOut =>
      simp only [List.filterMap_cons, UpdateStep.key?, UpdateStep.operand?, edit?,
        refusals_cons_of_changed carriedOut, List.nil_append]
      exact ih
    | unchanged nothing =>
      simp only [List.filterMap_cons, UpdateStep.key?, UpdateStep.operand?, edit?,
        refusals_cons_of_unchanged nothing, List.nil_append]
      exact ih
    | refused refused =>
      simp only [List.filterMap_cons, UpdateStep.key?, UpdateStep.operand?, edit?,
        refusals_cons_of_refused refused, List.map_cons, List.singleton_append]
      rw [← List.append_assoc] at ih ⊢
      exact (ih.cons _).trans List.perm_middle.symm

/-- `turns` of steps that are all taken do not end the update. -/
private theorem result_ne_failed (h : Carried d steps' d' changed ws) :
    ∀ t ∈ turns (steps'.filterMap edit?) d, ∀ f, t.result ≠ .failed f := by
  -- by the steps: each turn has the result that its step has been taken with
  induction h with
  | done d => simp [turns]
  | step first behind ih =>
    cases first with
    | unknown key => exact ih
    | badOperand op got => exact ih
    | changed carriedOut =>
      simpa [edit?, turns, Edit.after, Turn.result, carriedOut] using ih
    | unchanged nothing =>
      simpa [edit?, turns, Edit.after, Turn.result, nothing] using ih
    | refused refused =>
      simpa [edit?, turns, Edit.after, Turn.result, refused] using ih

/-- An update reports all that it does not do with a document. -/
structure ReportsAll (update : Value) (d : Document) : Prop where
  /-- There are as many log records as there are keys that are no operators, operands that are no
  objects and steps on fields that cannot be carried out, and one more if there is no operator. -/
  count : (records (run update d)).length = (unknownKeys update).length +
    (badOperands update).length + (refusals (edits update) d).length +
    if operators update = [] then 1 else 0
  /-- Each of them has a warning of its own. -/
  each : (run update d).warnings.Perm ((unknownKeys update).map .unknownOperator ++
    ((badOperands update).map (fun b => .operandNotAnObject b.1 b.2) ++
      (refusals (edits update) d).map .skipped) ++ closing update)
  /-- Every step on a field is carried out, is refused, or removes nothing. -/
  accounted : ∀ t ∈ turns (edits update) d,
    (∃ d', t.result = .changed d') ∨ (∃ x, t.result = .refused x) ∨
      t.edit.RemovesNothing t.document
  /-- The turns are those of the update: they leave the document that it leaves. -/
  leaves : (run update d).document = (edits update).foldl (fun d e => e.after d) d

/-- `run` that comes to its end reports all that it has not done. -/
theorem run_reportsAll (h : (run update d).failure = none) : ReportsAll update d := by
  rcases run_carried_or_ends update d with ⟨-, ws, hcarried, -⟩ | ⟨f, hfailure, -⟩
  · have heach : (run update d).warnings.Perm ((unknownKeys update).map .unknownOperator ++
        ((badOperands update).map (fun b => .operandNotAnObject b.1 b.2) ++
          (refusals (edits update) d).map .skipped) ++ closing update) := by
      rw [run_warnings hcarried, unknownKeys_eq_filterMap, badOperands_eq_filterMap,
        edits_eq_filterMap]
      exact (perm_of_carried hcarried).append_right _
    -- the records are one for each warning
    have hcount := heach.length_eq
    simp only [List.length_append, List.length_map, length_closing] at hcount
    refine ⟨?_, heach, ?_, run_document_eq_foldl h⟩
    · rw [records, List.length_map, hcount]
      omega
    · intro t ht
      cases hresult : t.result with
      | changed d' => exact .inl ⟨d', rfl⟩
      | refused x => exact .inr (.inl ⟨x, rfl⟩)
      | unchanged => exact .inr (.inr (Edit.removesNothing_of_apply hresult))
      | failed f =>
        rw [edits_eq_filterMap] at ht
        exact absurd hresult (result_ne_failed hcarried t ht f)
  · rw [h] at hfailure
    cases hfailure

/-- Removes two fields, gives the name of one of them to another, and then asks for things that
cannot be done, some of them for what has gone before. -/
def halfDone : Value :=
  .object [(.text "$unset", .object [(.text "b", .bool true), (.text "z", .bool true)]),
    (.text "$rename", .object [(.text "a", .text "b"), (.text "b", .text "c"),
      (.text "a", .text "d")]),
    (.text "$min", .null), (.text "$inc", .list []),
    (.text "$push", .object [(.text "c", .int 1), (.text idField, .int 1)])]

/-- A document with two fields beside the id. -/
def halfDoneOn : Document :=
  .ofList [(.text idField, .text "1"), (.text "a", .int 1), (.text "b", .int 2)]

/-- The second renaming of the first field does not find it any more, and the value to be appended
finds a number under the new name. That a field to be removed is not there is not worth a word. -/
theorem run_reportsAll_halfDone :
    (run halfDone halfDoneOn).failure = none ∧ ReportsAll halfDone halfDoneOn ∧
    (run halfDone halfDoneOn).warnings =
      [.skipped (.noSuchField (.text "a")), .unknownOperator (.text "$min"),
        .operandNotAnObject .increment (.list []),
        .skipped (.cannotPush (.text "c") (.int 1)), .skipped (.idField .push)] := by
  have hends : (run halfDone halfDoneOn).failure = none := by decide +kernel
  exact ⟨hends, run_reportsAll hends, rfl⟩

end Update

end DocStore
