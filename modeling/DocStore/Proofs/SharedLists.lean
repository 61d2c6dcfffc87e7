import DocStore.Proofs.UpdateSteps
import DocStore.Sharing

/-!
# What goes on at the places of a list

A step of an update on a document with shared lists does what it does on a plain document, unless it
appends to a list with a mark. Then it is the growth of that list, which every place with the mark
shows. So a run can be told from outside by its growths: a field into which no step puts a new value
holds the lists that it held, and these have grown by the growths of their marks.

To grow a value keeps its outline, and growths of different marks can be exchanged.

## Key results

- `Value.grow_comm`: growths of different marks can be exchanged
- `SharedProgress.exists_edit_of_mem_growths`: a run grows lists of fields that its steps name
- `Update.runShared_of_unshared`: without shared lists a run is that of a plain document
-/

namespace DocStore

/-! ## Appending -/

namespace Value

mutual

/-- `appendAt` changes nothing where it has no place to append at. -/
private theorem appendAt_of_nowhere {here : Place → Bool} (h : ∀ p, here p = false) (x : Scalar) :
    ∀ v : Value, v.appendAt here x = v
  | .scalar _ => rfl
  | .list items => by
    simp [appendAt, h [], appendInItems_of_nowhere (fun i p => h (.item i :: p)) x items]
  | .object entries => by
    rw [appendAt, appendInEntries_of_nowhere (fun k p => h (.entry k :: p)) x entries]

/-- So it is with `appendInItems`. -/
private theorem appendInItems_of_nowhere {here : Nat → Place → Bool} (h : ∀ i p, here i p = false)
    (x : Scalar) : ∀ items : List Value, appendInItems here x items = items
  | [] => rfl
  | v :: rest => by
    rw [appendInItems, appendAt_of_nowhere (h 0) x v,
      appendInItems_of_nowhere (fun i => h (i + 1)) x rest]

/-- So it is with `appendInEntries`. -/
private theorem appendInEntries_of_nowhere {here : Key → Place → Bool} (h : ∀ k p, here k p = false)
    (x : Scalar) : ∀ entries : List (Key × Value), appendInEntries here x entries = entries
  | [] => rfl
  | (k, v) :: rest => by
    rw [appendInEntries, appendAt_of_nowhere (h k) x v, appendInEntries_of_nowhere h x rest]

end

/-- `appendInItems` finds no list in an item that has been appended. -/
private theorem appendInItems_concat {here : Nat → Place → Bool} (x y : Scalar)
    (items : List Value) :
    appendInItems here x (items ++ [.scalar y]) = appendInItems here x items ++ [.scalar y] := by
  induction items generalizing here with
  | nil => rfl
  | cons v rest ih => simp only [List.cons_append, appendInItems, ih]

mutual

/-- `appendAt` can be carried out in either order at different places. -/
private theorem appendAt_comm {here there : Place → Bool}
    (h : ∀ p, here p = false ∨ there p = false) (x y : Scalar) :
    ∀ v : Value, (v.appendAt there y).appendAt here x = (v.appendAt here x).appendAt there y
  | .scalar _ => rfl
  | .list items => by
    have hitems := appendInItems_comm (fun i p => h (.item i :: p)) x y items
    -- an item goes at the end of this list from one of the two sides at most
    rcases h [] with hhere | hthere
    · cases hthere : there [] <;> simp [appendAt, hhere, hthere, appendInItems_concat, hitems]
    · cases hhere : here [] <;> simp [appendAt, hhere, hthere, appendInItems_concat, hitems]
  | .object entries => by
    simp only [appendAt, appendInEntries_comm (fun k p => h (.entry k :: p)) x y entries]

/-- So it is with `appendInItems`. -/
private theorem appendInItems_comm {here there : Nat → Place → Bool}
    (h : ∀ i p, here i p = false ∨ there i p = false) (x y : Scalar) :
    ∀ items : List Value, appendInItems here x (appendInItems there y items) =
      appendInItems there y (appendInItems here x items)
  | [] => rfl
  | v :: rest => by
    simp only [appendInItems, appendAt_comm (h 0) x y v,
      appendInItems_comm (fun i => h (i + 1)) x y rest]

/-- So it is with `appendInEntries`. -/
private theorem appendInEntries_comm {here there : Key → Place → Bool}
    (h : ∀ k p, here k p = false ∨ there k p = false) (x y : Scalar) :
    ∀ entries : List (Key × Value), appendInEntries here x (appendInEntries there y entries) =
      appendInEntries there y (appendInEntries here x entries)
  | [] => rfl
  | (k, v) :: rest => by
    simp only [appendInEntries, appendAt_comm (h k) x y v, appendInEntries_comm h x y rest]

end

/-! ## Growing -/

/-- Appends items to the lists with some marks, one after another. -/
def grow (m : Marks) (growths : List (Nat × Scalar)) (v : Value) : Value :=
  growths.foldl (fun v g => v.appendAt (fun p => m p == some g.1) g.2) v

variable {m : Marks} {gs gs' : List (Nat × Scalar)} {v : Value}

/-- `grow` by nothing is the value itself. -/
@[simp]
private theorem grow_nil (m : Marks) : grow m [] = id := rfl

/-- `grow` takes one growth after another. -/
theorem grow_append (m : Marks) (gs gs' : List (Nat × Scalar)) (v : Value) :
    v.grow m (gs ++ gs') = (v.grow m gs).grow m gs' :=
  List.foldl_append ..

/-- `grow` changes nothing in a value where none of its marks stands. -/
theorem grow_of_unmarked (h : ∀ g ∈ gs, ∀ p, m p ≠ some g.1) (v : Value) : v.grow m gs = v := by
  induction gs with
  | nil => rfl
  | cons g rest ih =>
    obtain ⟨hg, hrest⟩ := List.forall_mem_cons.1 h
    have hnowhere : v.appendAt (fun p => m p == some g.1) g.2 = v :=
      appendAt_of_nowhere (fun p => beq_eq_false_iff_ne.2 (hg p)) g.2 v
    rw [grow, List.foldl_cons, hnowhere]
    exact ih hrest

/-- `grow` can be exchanged with an `appendAt` for another mark. -/
private theorem grow_appendAt {g : Nat × Scalar} (h : ∀ g' ∈ gs, g'.1 ≠ g.1) (v : Value) :
    (v.appendAt (fun p => m p == some g.1) g.2).grow m gs =
      (v.grow m gs).appendAt (fun p => m p == some g.1) g.2 := by
  induction gs generalizing v with
  | nil => rfl
  | cons g' rest ih =>
    obtain ⟨hg', hrest⟩ := List.forall_mem_cons.1 h
    -- one place has one mark, so the two growths are at different places
    have hplaces (p : Place) : (m p == some g'.1) = false ∨ (m p == some g.1) = false := by
      by_cases hp : m p = some g'.1
      · right
        simpa [hp] using hg'
      · left
        simpa using hp
    simp only [grow, List.foldl_cons, appendAt_comm hplaces]
    exact ih hrest _

/-- `grow` can be carried out in either order for different marks. -/
theorem grow_comm (h : ∀ g ∈ gs, ∀ g' ∈ gs', g.1 ≠ g'.1) (v : Value) :
    (v.grow m gs').grow m gs = (v.grow m gs).grow m gs' := by
  induction gs' generalizing v with
  | nil => rfl
  | cons g' rest ih =>
    have hfirst : ∀ g ∈ gs, g.1 ≠ g'.1 := fun g hg => h g hg g' List.mem_cons_self
    have hrest : ∀ g ∈ gs, ∀ g' ∈ rest, g.1 ≠ g'.1 :=
      fun g hg g'' hg'' => h g hg g'' (List.mem_cons_of_mem _ hg'')
    calc (v.grow m (g' :: rest)).grow m gs
        = ((v.appendAt (fun p => m p == some g'.1) g'.2).grow m gs).grow m rest := ih hrest _
      _ = (v.grow m gs).grow m (g' :: rest) := by rw [grow_appendAt hfirst]; rfl

end Value

/-! ## One step -/

namespace SharedProgress

variable {p : SharedProgress} {s : UpdateStep} {g : Nat × Scalar} {key : Key}

/-- A `growth?` comes from a step that changes the document, and is of the list of its field. -/
private theorem exists_edit_of_growth? (h : p.growth? s = some g) :
    ∃ e d, s = .edit e ∧ e.apply p.progress.document = .changed d ∧
      p.marks.of e.field [] = some g.1 := by
  unfold growth? at h
  split at h
  · rename_i e
    split at h
    · rename_i d item _ happly _
      split at h
      · obtain ⟨mark, hmark, rfl⟩ := Option.map_eq_some_iff.1 h
        exact ⟨e, d, rfl, happly, hmark⟩
      · cases h
    · cases h
  · cases h

/-- A field that is `rewritten` is named by a step that changes the document, and is not the id. -/
theorem exists_edit_of_mem_rewritten (h : key ∈ p.rewritten s) :
    ∃ e d, s = .edit e ∧ e.apply p.progress.document = .changed d ∧ key ∈ e.names := by
  unfold rewritten at h
  split at h
  · rename_i e
    split at h
    · rename_i d _ happly
      split at h
      · cases h
      · exact ⟨e, d, rfl, happly, h⟩
    · cases h
  · cases h

/-- A step with a `growth?` leaves all marks, and appends where they stand. -/
theorem advance_of_growth (h : p.growth? s = some g) :
    p.advance s =
      ⟨{ p.progress.advance s with document := p.shared.append g.1 g.2 }, p.marks⟩ := by
  simp only [advance, h]

/-- A step without a `growth?` is one on a plain document. -/
theorem advance_of_none (h : p.growth? s = none) :
    p.advance s = ⟨p.progress.advance s, p.marks.forget (p.rewritten s)⟩ := by
  simp only [advance, h]

/-- `advance` puts marks nowhere that had none before. -/
private theorem marks_of_advance {place : Place} {mark : Nat}
    (h : (p.advance s).marks place = some mark) : p.marks place = some mark := by
  cases hg : p.growth? s with
  | some g => rwa [advance_of_growth hg] at h
  | none =>
    rw [advance_of_none hg] at h
    dsimp only at h
    unfold Marks.forget at h
    split at h
    · split at h
      · cases h
      · exact h
    · exact h

end SharedProgress

/-! ## Runs -/

namespace SharedProgress

variable {p : SharedProgress} {todo : List UpdateStep} {g : Nat × Scalar}

/-- `marks` stand where they have stood before a run. -/
theorem marks_of_foldl {place : Place} {mark : Nat}
    (h : (todo.foldl advance p).marks place = some mark) : p.marks place = some mark := by
  induction todo generalizing p with
  | nil => exact h
  | cons s rest ih => exact marks_of_advance (ih h)

/-- The growths of the steps of a run, in order. -/
def growths : List UpdateStep → SharedProgress → List (Nat × Scalar)
  | [], _ => []
  | s :: rest, p => (p.growth? s).toList ++ growths rest (p.advance s)

/-- The `growths` of a run are of lists that its steps name, and have stood there from the start. -/
theorem exists_edit_of_mem_growths (h : g ∈ growths todo p) :
    ∃ e, .edit e ∈ todo ∧ e.field.isFieldName = true ∧ p.marks.of e.field [] = some g.1 := by
  induction todo generalizing p with
  | nil => cases h
  | cons s rest ih =>
    rcases List.mem_append.1 h with hfirst | hrest
    · obtain ⟨e, d, rfl, happly, hmark⟩ := exists_edit_of_growth? (Option.mem_toList.1 hfirst)
      exact ⟨e, List.mem_cons_self, (Edit.changes_of_apply happly).2.1, hmark⟩
    · obtain ⟨e, he, hname, hmark⟩ := ih hrest
      exact ⟨e, List.mem_cons_of_mem s he, hname, marks_of_advance hmark⟩

end SharedProgress

/-- The growths of an update, in order. -/
def Update.growths (update : Value) (s : SharedDocument) : List (Nat × Scalar) :=
  SharedProgress.growths (steps update) (.start s)

/-! ## Documents without shared lists -/

/-- `forget` leaves no list shared where none has been. -/
@[simp]
theorem Marks.forget_unshared (fields : List Key) : unshared.forget fields = unshared := by
  funext place
  unfold forget
  split
  · split <;> rfl
  · rfl

namespace SharedProgress

/-- `advance` without shared lists grows nothing but the document of the step itself. -/
private theorem advance_of_unshared (p : UpdateProgress) (s : UpdateStep) :
    (⟨p, .unshared⟩ : SharedProgress).advance s = ⟨p.advance s, .unshared⟩ := by
  have hnone : (⟨p, .unshared⟩ : SharedProgress).growth? s = none := by
    apply Option.eq_none_iff_forall_ne_some.2
    intro g hg
    obtain ⟨e, d, -, -, hmark⟩ := exists_edit_of_growth? hg
    cases hmark
  rw [advance_of_none hnone, Marks.forget_unshared]

end SharedProgress

/-- `runShared` is `run` on a document without shared lists, and leaves it without. -/
theorem Update.runShared_of_unshared (update : Value) (d : Document) :
    runShared update ⟨d, .unshared⟩ = ⟨run update d, .unshared⟩ := by
  have hsteps (todo : List UpdateStep) (p : UpdateProgress) :
      todo.foldl SharedProgress.advance ⟨p, .unshared⟩ =
        ⟨todo.foldl UpdateProgress.advance p, .unshared⟩ := by
    induction todo generalizing p with
    | nil => rfl
    | cons s rest ih =>
      rw [List.foldl_cons, SharedProgress.advance_of_unshared, ih, List.foldl_cons]
  rw [runShared, SharedProgress.start, hsteps]
  rfl

end DocStore
