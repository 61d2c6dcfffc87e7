import DocStore.Proofs.UpdateCompletion

/-!
# Updates carried out twice

To write a field, or to remove it, does not ask what the field holds. So if the operators of an
update do nothing else, its last decision on a field decides alone, and the same on every document:
carried out a second time, the update finds each field as it would leave it. A field that is removed
and then written moves to the end each time; where no field is removed, even the order stays.

## Key results

- `Edit.get?_after`: what a step that writes or removes makes of every field
- `Update.get?_foldl_after`: after several of these, the last decision on a field stands
- `Update.run_settles`: such updates settle all fields at once
-/

namespace DocStore

/-! ## Decisions -/

/-- What is decided about a field. -/
inductive Decision where
  | write (v : Value)
  | remove

/-- What a field holds after a decision. -/
def Decision.result? : Decision → Option Value
  | .write v => some v
  | .remove => none

/-- What a step decides about a field without a look at the document. No step decides about the id
field or a key that is no name, and none with a value that no field may hold or with a flag that
counts as false. -/
def Edit.decision? (e : Edit) (key : Key) : Option Decision :=
  if key ≠ e.field ∨ key = .text idField ∨ !key.isFieldName then none
  else match e.op with
    | .assign => if e.argument.isStorable then some (.write e.argument) else none
    | .unset => if e.argument.isTruthy then some .remove else none
    | _ => none

/-- The last decision about a field among several steps. -/
def lastDecision? (edits : List Edit) (key : Key) : Option Decision :=
  (edits.filterMap fun e => e.decision? key).getLast?

/-- `lastDecision?` is that of the later steps, or else that of the first. -/
private theorem lastDecision?_cons (e : Edit) (rest : List Edit) (key : Key) :
    lastDecision? (e :: rest) key = (lastDecision? rest key).or (e.decision? key) := by
  unfold lastDecision?
  cases he : e.decision? key with
  | none => simp [he]
  | some decision =>
    simp only [List.filterMap_cons, he, List.getLast?_cons]
    cases (rest.filterMap fun e => e.decision? key).getLast? <;> rfl

/-! ## One step -/

namespace Edit

variable {e : Edit} {d : Document} {field : Key} {v : Value}

/-- `after` a step on a field out of reach the document is as before. -/
private theorem after_of_out_of_reach (h : e.field = .text idField ∨ e.field.isFieldName = false) :
    e.after d = d := by
  by_cases hid : e.field = .text idField
  · simp [after, apply, hid]
  · simp [after, apply, hid, h.resolve_left hid]

/-- `decision?` is none for a field out of reach. -/
private theorem decision?_of_out_of_reach
    (h : e.field = .text idField ∨ e.field.isFieldName = false) (key : Key) :
    e.decision? key = none := by
  by_cases hkey : key = e.field
  · subst hkey
    rcases h with hid | hname
    · simp [decision?, hid]
    · simp [decision?, hname]
  · simp [decision?, hkey]

/-- `after` an assignment the field has its value, if it is one of the model. -/
private theorem after_assign (hid : field ≠ .text idField) (hname : field.isFieldName = true) :
    (Edit.mk .assign field v).after d = if v.isStorable then d.insert field v else d := by
  by_cases hv : v.isStorable = true <;> simp [after, apply, assign, hid, hname, hv]

/-- `after` a removal the field is not there; where it has not been, to remove it is to do nothing.
-/
private theorem after_unset (hid : field ≠ .text idField) (hname : field.isFieldName = true) :
    (Edit.mk .unset field v).after d = if v.isTruthy then d.erase field else d := by
  by_cases hv : v.isTruthy = true
  · by_cases hthere : d.contains field = true
    · simp [after, apply, unset, hid, hname, hv, hthere]
    · have habsent : d.contains field = false := by simpa using hthere
      have herase := Table.erase_of_get?_eq_none (Table.contains_eq_false_iff.1 habsent)
      simp [after, apply, unset, hid, hname, hv, habsent, herase]
  · simp [after, apply, unset, hid, hname, hv]

/-- `after` a step that writes a field or removes it, every field is as the step decides, and where
it decides nothing, as it was. -/
theorem get?_after (hop : e.op = .assign ∨ e.op = .unset) (d : Document) (key : Key) :
    (e.after d).get? key = (e.decision? key).elim (d.get? key) Decision.result? := by
  by_cases hreach : e.field = .text idField ∨ e.field.isFieldName = false
  · rw [after_of_out_of_reach hreach, decision?_of_out_of_reach hreach]
    rfl
  · obtain ⟨op, field, v⟩ := e
    simp only [not_or, Bool.not_eq_false] at hreach
    obtain ⟨hid, hname⟩ := hreach
    -- within reach, what becomes of the field hangs on the value or the flag alone
    rcases hop with hop | hop
    · cases hop
      rw [after_assign hid hname]
      by_cases hv : v.isStorable = true <;> by_cases hkey : key = field <;>
        simp [decision?, Decision.result?, Table.get?_insert, hid, hname, hv, hkey]
    · cases hop
      rw [after_unset hid hname]
      by_cases hv : v.isTruthy = true <;> by_cases hkey : key = field <;>
        simp [decision?, Decision.result?, Table.get?_erase, hid, hname, hv, hkey]

/-- `after` a step that writes a field that is there, no field has moved. -/
private theorem keys_after_assign (hop : e.op = .assign)
    (hthere : (e.decision? e.field).isSome → e.field ∈ d) : (e.after d).keys = d.keys := by
  unfold after
  split
  · rename_i d' happly
    obtain ⟨hid, hname, hchanges⟩ := changes_of_apply happly
    cases hchanges with
    | assign storable =>
      apply Table.keys_insert_of_mem
      apply hthere
      simp [decision?, hid, hname, storable]
    | _ => cases hop
  · rfl

end Edit

/-! ## The whole update -/

namespace Update

variable {update : Value} {edits' : List Edit} {d : Document}

/-- `after` several steps that write or remove, every field is as the last decision on it says;
where there is none, it is as it was. -/
theorem get?_foldl_after (hops : ∀ e ∈ edits', e.op = .assign ∨ e.op = .unset) (d : Document)
    (key : Key) :
    (edits'.foldl (fun d e => e.after d) d).get? key =
      (lastDecision? edits' key).elim (d.get? key) Decision.result? := by
  induction edits' generalizing d with
  | nil => rfl
  | cons e rest ih =>
    rw [List.forall_mem_cons] at hops
    rw [List.foldl_cons, ih hops.2, Edit.get?_after hops.1, lastDecision?_cons]
    cases lastDecision? rest key <;> rfl

/-- `after` several steps that write, a field that one of them writes is there. -/
private theorem mem_foldl_after (hops : ∀ e ∈ edits', e.op = .assign) {e : Edit} (he : e ∈ edits')
    (hdecides : (e.decision? e.field).isSome) (d : Document) :
    e.field ∈ edits'.foldl (fun d e => e.after d) d := by
  obtain ⟨decision, hdecision⟩ := Option.isSome_iff_exists.1 hdecides
  have hsome : (lastDecision? edits' e.field).isSome := by
    rw [lastDecision?, List.getLast?_isSome]
    exact List.ne_nil_of_mem (List.mem_filterMap.2 ⟨e, he, hdecision⟩)
  obtain ⟨last, hlast⟩ := Option.isSome_iff_exists.1 hsome
  -- the last decision is one of the steps', so it is to write
  obtain ⟨e', he', hlast'⟩ := List.mem_filterMap.1 (List.mem_of_getLast? hlast)
  have hwrite : ∃ v, last = .write v := by
    simp only [Edit.decision?, hops e' he'] at hlast'
    split at hlast'
    · cases hlast'
    · split at hlast'
      · exact ⟨_, (Option.some.inj hlast').symm⟩
      · cases hlast'
  obtain ⟨v, rfl⟩ := hwrite
  have hget := get?_foldl_after (fun e he => .inl (hops e he)) d e.field
  rw [hlast] at hget
  exact Table.mem_of_get?_eq_some hget

/-- `after` several steps that write fields that are there, no field has moved. -/
private theorem keys_foldl_after (hops : ∀ e ∈ edits', e.op = .assign)
    (hthere : ∀ e ∈ edits', (e.decision? e.field).isSome → e.field ∈ d) :
    (edits'.foldl (fun d e => e.after d) d).keys = d.keys := by
  induction edits' generalizing d with
  | nil => rfl
  | cons e rest ih =>
    rw [List.forall_mem_cons] at hops hthere
    have hkeys : (e.after d).keys = d.keys := Edit.keys_after_assign hops.1 hthere.1
    rw [List.foldl_cons, ih hops.2, hkeys]
    intro e' he' hdecides
    show e'.field ∈ (e.after d).keys
    rw [hkeys]
    exact hthere.2 e' he' hdecides

/-- An update settles the fields of a document when it is carried out once. -/
structure Settles (update : Value) (d : Document) : Prop where
  /-- It comes to its end, the second time too, if it can be shown. -/
  ends : update.fits = true → (run update d).failure = none ∧
    (run update (run update d).document).failure = none
  /-- If it does not come to its end, nor does it the second time. -/
  alike : (run update (run update d).document).failure = (run update d).failure
  /-- If it comes to its end, every field is as the last decision on it says; where there is none,
  it is as it was. -/
  decided : (run update d).failure = none → ∀ key, (run update d).document.get? key =
    (lastDecision? (edits update) key).elim (d.get? key) Decision.result?
  /-- The second time leaves every field as the first. -/
  again : ∀ key, (run update (run update d).document).document.get? key =
    (run update d).document.get? key
  /-- If nothing is to be removed, it leaves the order too. -/
  order : (∀ op ∈ operators update, op = .assign) →
    (run update (run update d).document).document = (run update d).document

/-- `run` of an update that writes and removes fields, and has no other operators, settles them at
once. -/
theorem run_settles (h : ∀ op ∈ operators update, op = .assign ∨ op = .unset) (d : Document) :
    Settles update d := by
  have hnone : .increment ∉ operators update := by
    intro hmem
    rcases h _ hmem with heq | heq <;> cases heq
  have hedits : ∀ e ∈ edits update, e.op = .assign ∨ e.op = .unset := by
    intro e he
    exact h e.op (op_mem_operators (mem_edits_iff.1 he))
  -- however far the update comes, it comes as far on every document
  obtain ⟨es, hinit, f, hall⟩ := exists_edits_run_document hnone
  have hops : ∀ e ∈ es, e.op = .assign ∨ e.op = .unset := fun e he => hedits e (hinit.subset he)
  have hrun (d : Document) (key : Key) : (run update d).document.get? key =
      (lastDecision? es key).elim (d.get? key) Decision.result? := by
    rw [(hall d).2, get?_foldl_after hops]
  have hagain (key : Key) : (run update (run update d).document).document.get? key =
      (run update d).document.get? key := by
    rw [hrun, hrun]
    cases lastDecision? es key <;> rfl
  have halike : (run update (run update d).document).failure = (run update d).failure :=
    (hall _).1.trans (hall d).1.symm
  refine ⟨fun hfits => ⟨failure_eq_none hnone hfits d, failure_eq_none hnone hfits _⟩, halike,
    fun hends key => ?_, hagain, fun hassign => ?_⟩
  · rw [run_document_eq_foldl hends, get?_foldl_after hedits]
  · have hassigns : ∀ e ∈ es, e.op = .assign := by
      intro e he
      exact hassign e.op (op_mem_operators (mem_edits_iff.1 (hinit.subset he)))
    apply Table.ext_get? _ hagain
    -- what the first time has written is there the second time, so nothing moves any more
    rw [(hall _).2]
    apply keys_foldl_after hassigns
    intro e he hdecides
    rw [(hall d).2]
    exact mem_foldl_after hassigns he hdecides d

/-- Fields to be written: the id is among them, and one with an object too deep for a field. -/
def writing : Key × Value :=
  (.text "$set", .object [(.text "a", .int 1), (.text idField, .text "2"),
    (.text "n", .object [(.text "k", .object [(.text "j", .int 1)])]), (.text "c", .list [.int 1])])

/-- Fields to be removed, one of which is written too. A flag counts as false, and a key is the name
of no field. -/
def removing : Key × Value :=
  (.text "$unset", .object [(.text "a", .bool true), (.text "b", .int 0), (.text "$x", .int 1)])

/-- Removes, then writes. -/
def replacing : Value := .object [removing, (.text "$min", .null), writing]

/-- A document before it is replaced in part. -/
def replaced : Document :=
  .ofList [(.text idField, .text "1"), (.text "a", .int 0), (.text "b", .null)]

/-- `run` removes a field and writes it: it comes to stand before a new field the first time, and
behind it the second time, with the same value. Without removals the second time changes nothing. -/
theorem run_settles_replacing :
    (∀ op ∈ operators replacing, op = .assign ∨ op = .unset) ∧ Settles replacing replaced ∧
    (run replacing replaced).document.keys = [.text idField, .text "b", .text "a", .text "c"] ∧
    (run replacing (run replacing replaced).document).document.keys =
      [.text idField, .text "b", .text "c", .text "a"] ∧
    (run (.object [writing]) (run (.object [writing]) replaced).document).document =
      (run (.object [writing]) replaced).document := by
  have hboth : ∀ op ∈ operators replacing, op = .assign ∨ op = .unset := by decide
  have hwriting : ∀ op ∈ operators (.object [writing]), op = .assign := by decide
  have hsettles := run_settles (fun op hop => .inl (hwriting op hop)) replaced
  exact ⟨hboth, run_settles hboth replaced, rfl, by decide +kernel, hsettles.order hwriting⟩

end Update

end DocStore
