import DocStore.Proofs.SnapshotRoundTrip

/-!
# When a store saves

What the calls of a store do to the disk, told from what the caller sees of them: the answer, and
whether an error is reported.

## Key results

- `StoreCall.saveEffect_outcome`: a call that has saved has written the store as it leaves it, and
  any other call has left the disk alone or failed to write
- `StoreCall.outcome_disk_of_isInMemory`: a store that is kept in memory never writes
-/

namespace DocStore

/-- Whether an operation has saved its store, as the caller sees it: it has given an answer that
calls for a save, and no error has been reported. -/
def Outcome.hasSaved {σ α : Type} (o : Outcome σ α) (calls : α → Bool) : Bool :=
  match o.result with
  | .ok a => calls a && o.records.all (·.level != .error)
  | .error _ => false

namespace StoreState

/-- A save of documents to the file of a store with options. -/
def saveWith (options : Options) (disk : Disk) (docs : Collection) :
    Except Snapshot.SaveError Unit × Disk :=
  Snapshot.save disk options.path options.syncEveryWrite.isTruthy options.toValue
    (Snapshot.documentsValue docs)

/-- What an operation has done to the disk of a store with options: nothing, or it has saved the
documents that it leaves, or it has tried and failed. -/
inductive SaveEffect {α : Type} (calls : α → Bool) (options : Options) (disk : Disk)
    (o : Outcome StoreState α) : Prop where
  | idle (same : o.state.disk = disk) (unsaved : o.hasSaved calls = false)
  | saved (written : saveWith options disk o.state.store.docs = (.ok (), o.state.disk))
    (saved : o.hasSaved calls = true)
  | failed {e : Snapshot.SaveError}
    (refused : saveWith options disk o.state.store.docs = (.error e, o.state.disk))
    (unsaved : o.hasSaved calls = false)

variable {α β : Type} {calls : α → Bool} {options : Options} {disk : Disk} {s : StoreState}
  {o : Outcome StoreState α}

/-! ## Plumbing -/

/-- `hasSaved` is not changed by records that are no errors. -/
private theorem hasSaved_after {records : List Log.Record} (h : ∀ r ∈ records, r.level ≠ .error) :
    (o.after records).hasSaved calls = o.hasSaved calls := by
  have hall : records.all (·.level != .error) = true := by
    rw [List.all_eq_true]
    exact fun r hr => bne_iff_ne.2 (h r hr)
  unfold Outcome.hasSaved Outcome.after
  simp only [List.all_append, hall, Bool.true_and]

/-- `hasSaved` of a changed answer, told from the answer before. -/
private theorem hasSaved_map (f : α → β) (calls : β → Bool) :
    (o.map f).hasSaved calls = o.hasSaved fun a => calls (f a) := by
  unfold Outcome.hasSaved Outcome.map
  cases o.result <;> rfl

/-- `SaveEffect` is not changed by records that are no errors. -/
theorem SaveEffect.after {records : List Log.Record} (h : SaveEffect calls options disk o)
    (hrecords : ∀ r ∈ records, r.level ≠ .error) :
    SaveEffect calls options disk (o.after records) := by
  have hsaved : (o.after records).hasSaved calls = o.hasSaved calls := hasSaved_after hrecords
  cases h with
  | idle same unsaved => exact .idle same (hsaved.trans unsaved)
  | saved written saved => exact .saved written (hsaved.trans saved)
  | failed refused unsaved => exact .failed refused (hsaved.trans unsaved)

/-- `SaveEffect` of a changed answer, told from the answer before. -/
theorem SaveEffect.map {f : α → β} {calls : β → Bool}
    (h : SaveEffect (fun a => calls (f a)) options disk o) :
    SaveEffect calls options disk (o.map f) := by
  have hsaved := hasSaved_map (o := o) f calls
  cases h with
  | idle same unsaved => exact .idle same (hsaved.trans unsaved)
  | saved written saved => exact .saved written (hsaved.trans saved)
  | failed refused unsaved => exact .failed refused (hsaved.trans unsaved)

/-- `complaints` are no errors. -/
private theorem level_of_mem_complaints {query : Value} {r : Log.Record}
    (h : r ∈ Query.complaints query) : r.level ≠ .error := by
  unfold Query.complaints at h
  split at h
  · obtain rfl := List.mem_singleton.1 h
    simp
  · exact absurd h List.not_mem_nil

/-- `SaveEffect` of a call that selects: that of what it does with the ids. -/
theorem SaveEffect.select {query : Value} {f : List String → Outcome StoreState α}
    (h : ∀ found, SaveEffect calls s.store.options s.disk (f found)) :
    SaveEffect calls s.store.options s.disk (s.select query f) := by
  unfold StoreState.select
  split
  · exact .idle rfl rfl
  · exact (h _).after fun r hr => level_of_mem_complaints hr

/-! ## Saving -/

/-- `save` of a store that is not kept in memory succeeds, is not tried, or is refused by the disk,
which is reported as an error. -/
theorem save_cases (hpersisted : s.store.options.isInMemory = false) :
    ∃ disk,
      (saveWith s.store.options s.disk s.store.docs = (.ok (), disk) ∧
        s.save = .answer true { s with disk := disk }) ∨
      (saveWith s.store.options s.disk s.store.docs = (.error .unwritable, disk) ∧
        s.save = .fail .unwritable { s with disk := disk }) ∨
      (∃ e, saveWith s.store.options s.disk s.store.docs = (.error (.storage e), disk) ∧
        s.save = (Outcome.answer false { s with disk := disk }).after
          [saveFailure s.store.options.name.text e]) := by
  unfold save saveWith
  dsimp only
  rw [hpersisted, if_neg Bool.false_ne_true]
  -- what the writing of the snapshot comes to decides
  split
  · rename_i disk hsave
    exact ⟨disk, .inl ⟨hsave, rfl⟩⟩
  · rename_i disk hsave
    exact ⟨disk, .inr (.inl ⟨hsave, rfl⟩)⟩
  · rename_i e disk hsave
    exact ⟨disk, .inr (.inr ⟨e, hsave, rfl⟩)⟩

/-- Whether options and documents can be written as they are: no integer is beyond the limit, and
the path is one that a file can have. -/
def isWritable (options : Options) (docs : Collection) : Bool :=
  options.toValue.fits && (Snapshot.documentsValue docs).fits && !options.path.hasNul

/-- `saveWith` is not tried just if the documents cannot be written. -/
private theorem saveWith_eq_unwritable_iff (options : Options) (disk : Disk) (docs : Collection) :
    (saveWith options disk docs).1 = .error .unwritable ↔ isWritable options docs = false := by
  have hfits : Value.fits (.object [(.text "options", options.toValue),
      (.text "documents", Snapshot.documentsValue docs)]) =
        (options.toValue.fits && (Snapshot.documentsValue docs).fits) := by
    simp [Value.fits, Value.entriesFit, Key.fits]
  unfold saveWith Snapshot.save Snapshot.text? Json.write? isWritable
  rw [hfits]
  -- the text comes first, then the path, and a disk that refuses gives another error
  cases hall : options.toValue.fits && (Snapshot.documentsValue docs).fits with
  | false => simp
  | true =>
    cases hnul : options.path.hasNul with
    | true => simp
    | false =>
      simp only [if_true, Bool.false_eq_true, if_false, Bool.not_false, Bool.and_self]
      split <;> simp

/-- `saveThen` gives its answer unless there is something to be saved that cannot be written. -/
theorem saveThen_result (s : StoreState) (skipSave : Bool) (a : α) :
    (s.saveThen skipSave a).result =
      if skipSave || s.store.options.isInMemory || isWritable s.store.options s.store.docs then
        .ok a
      else .error .unwritable := by
  unfold saveThen
  cases skipSave with
  | true => rfl
  | false =>
    rw [if_neg Bool.false_ne_true]
    cases hmemory : s.store.options.isInMemory with
    | true =>
      -- nothing is written, so nothing stands in the way of the answer
      have hsave : s.save = .answer true s := if_pos hmemory
      rw [hsave]
      rfl
    | false =>
      have hunwritable := saveWith_eq_unwritable_iff s.store.options s.disk s.store.docs
      obtain ⟨disk, ⟨hdisk, hsave⟩ | ⟨hdisk, hsave⟩ | ⟨e, hdisk, hsave⟩⟩ := save_cases hmemory
      · have hwritable : isWritable s.store.options s.store.docs = true := by
          simpa [hdisk] using hunwritable
        rw [hsave, hwritable]
        rfl
      · have hwritable : isWritable s.store.options s.store.docs = false := by
          simpa [hdisk] using hunwritable
        rw [hsave, hwritable]
        rfl
      · -- the disk has refused what could be written, and the answer stands
        have hwritable : isWritable s.store.options s.store.docs = true := by
          simpa [hdisk] using hunwritable
        rw [hsave, hwritable]
        rfl

/-- `SaveEffect` of a `save`: it always tries to write. -/
private theorem saveEffect_save (hpersisted : s.store.options.isInMemory = false) :
    SaveEffect id s.store.options s.disk s.save := by
  obtain ⟨disk, ⟨hdisk, hsave⟩ | ⟨hdisk, hsave⟩ | ⟨e, hdisk, hsave⟩⟩ := save_cases hpersisted
  · rw [hsave]
    exact .saved hdisk rfl
  · rw [hsave]
    exact .failed hdisk rfl
  · rw [hsave]
    exact .failed hdisk rfl

/-- A state with other documents and ids to come. -/
def withParts (s : StoreState) (docs : Collection) (ids : IdSource) : StoreState :=
  { s with store := { s.store with docs := docs }, ids := ids }

/-- `SaveEffect` of an operation that ends with a save exactly if its answer calls for one. -/
private theorem saveEffect_saveThen (hpersisted : s.store.options.isInMemory = false)
    (docs : Collection) (ids : IdSource) {skipSave : Bool} {a : α} (ha : calls a = !skipSave) :
    SaveEffect calls s.store.options s.disk ((s.withParts docs ids).saveThen skipSave a) := by
  have hparts : (s.withParts docs ids).store.options.isInMemory = false := hpersisted
  unfold saveThen
  cases skipSave with
  | true => exact .idle rfl (by simp [Outcome.hasSaved, Outcome.answer, ha])
  | false =>
    rw [if_neg Bool.false_ne_true]
    obtain ⟨disk, ⟨hdisk, hsave⟩ | ⟨hdisk, hsave⟩ | ⟨e, hdisk, hsave⟩⟩ := save_cases hparts
    · rw [hsave]
      exact .saved hdisk (by simp [Outcome.hasSaved, Outcome.answer, Outcome.map, Except.map, ha])
    · rw [hsave]
      exact .failed hdisk rfl
    · rw [hsave]
      -- the answer stands, but the error is reported
      exact .failed hdisk (by simp [Outcome.hasSaved, Outcome.answer, Outcome.after, Outcome.map,
        Except.map, saveFailure])

end StoreState

/-! ## Calls -/

namespace StoreCall

open StoreState

/-- Whether a call that has given an answer should have saved the store: not after a refused
insertion, where nothing has changed or been removed, or where it was told to wait. -/
def callsForSave : StoreCall → StoreAnswer → Bool
  | .insert _ skipSave, .inserted id => id.isSome && !skipSave
  | .update _ _ _ skipSave, .counted n => n != 0 && !skipSave
  | .remove _ _ skipSave, .counted n => n != 0 && !skipSave
  | .save, .saved done => done
  | _, _ => false

/-- Whether a call has saved the store. -/
def hasSaved (c : StoreCall) (s : StoreState) : Bool := (c.outcome s).hasSaved c.callsForSave

variable {s : StoreState}

/-- `SaveEffect` of an `insert`: it saves unless the value is refused. -/
private theorem saveEffect_insert (hpersisted : s.store.options.isInMemory = false) (v : Value)
    (skipSave : Bool) :
    SaveEffect (fun id => id.isSome && !skipSave) s.store.options s.disk
      (s.insert v skipSave) := by
  unfold StoreState.insert
  split
  · exact .idle rfl rfl
  · rename_i r hr
    exact saveEffect_saveThen hpersisted r.docs r.ids rfl

/-- `records` of an update are no errors. -/
private theorem level_of_mem_records {p : UpdateProgress} {r : Log.Record}
    (h : r ∈ Update.records p) :
    r.level ≠ .error := by
  obtain ⟨w, -, rfl⟩ := List.mem_map.1 h
  simp

/-- `advance` to one more document reports no error. -/
private theorem level_of_mem_sweep {update : Value} {w : Sweep} {id : String}
    (h : ∀ r ∈ w.records, r.level ≠ .error) :
    ∀ r ∈ (w.advance update id).records, r.level ≠ .error := by
  unfold Sweep.advance
  split
  · exact h
  split
  · exact h
  · intro r hr
    rcases List.mem_append.1 hr with hr | hr
    · exact h r hr
    · exact level_of_mem_records hr

/-- `guardRecord` is no error. -/
private theorem level_of_mem_guard {verb : String} {n : Nat} {r : Log.Record}
    (h : r ∈ [guardRecord verb n]) : r.level ≠ .error := by
  obtain rfl := List.mem_singleton.1 h
  simp [guardRecord]

/-- `SaveEffect` of an `update`: it saves if some document has changed. -/
private theorem saveEffect_update (hpersisted : s.store.options.isInMemory = false)
    (query update : Value) (multi skipSave : Bool) :
    SaveEffect (fun n => n != 0 && !skipSave) s.store.options s.disk
      (s.update query update multi skipSave) := by
  unfold StoreState.update updateBy
  refine .select fun found => ?_
  split
  · exact .idle rfl rfl
  split
  · refine SaveEffect.after ?_ fun r hr => level_of_mem_guard hr
    exact .idle rfl rfl
  -- the steps of the update report warnings only, so an error is that of the save
  have hrecords : ∀ r ∈ (found.foldl (Sweep.advance update) ⟨s.store.docs, 0, [], none⟩).records,
      r.level ≠ .error :=
    List.foldlRecOn (motive := fun w : Sweep => ∀ r ∈ w.records, r.level ≠ .error) _ _
      (fun _ hr => absurd hr List.not_mem_nil) fun w hw id _ => level_of_mem_sweep hw
  refine SaveEffect.after ?_ hrecords
  split
  · exact .idle rfl rfl
  · refine saveEffect_saveThen hpersisted _ s.ids ?_
    rw [Bool.not_or, Bool.and_comm]
    rfl

/-- `SaveEffect` of a `remove`: it saves if some document has gone. -/
private theorem saveEffect_remove (hpersisted : s.store.options.isInMemory = false) (query : Value)
    (multi skipSave : Bool) :
    SaveEffect (fun n => n != 0 && !skipSave) s.store.options s.disk
      (s.remove query multi skipSave) := by
  unfold StoreState.remove
  refine .select fun found => ?_
  split
  · exact .idle rfl rfl
  rename_i hfound
  split
  · refine SaveEffect.after ?_ fun r hr => level_of_mem_guard hr
    exact .idle rfl rfl
  · -- something was selected, so the answer is not zero
    refine saveEffect_saveThen hpersisted _ s.ids ?_
    have hlength : found.length ≠ 0 := by simpa using hfound
    simp [hlength]

/-- `SaveEffect` of every call: one that has saved has written the store as it leaves it. Any other
call has left the disk alone, or has tried to write and failed. -/
theorem saveEffect_outcome (c : StoreCall) (hpersisted : s.store.options.isInMemory = false) :
    SaveEffect c.callsForSave s.store.options s.disk (c.outcome s) := by
  cases c with
  | insert v skipSave => exact (saveEffect_insert hpersisted v skipSave).map
  | update query change multi skipSave =>
    exact (saveEffect_update hpersisted query change multi skipSave).map
  | remove query multi skipSave => exact (saveEffect_remove hpersisted query multi skipSave).map
  | save => exact SaveEffect.map (f := StoreAnswer.saved) (saveEffect_save hpersisted)

/-! ## What stays -/

/-- A state has come out of another one: with other documents and ids, before a save or after it. -/
inductive ComesFrom (s : StoreState) : StoreState → Prop where
  | unsaved (docs : Collection) (ids : IdSource) : ComesFrom s (s.withParts docs ids)
  | saved (docs : Collection) (ids : IdSource) : ComesFrom s (s.withParts docs ids).save.state

/-- `ComesFrom` itself, with the documents and ids that there are. -/
private theorem comesFrom_self (s : StoreState) : ComesFrom s s := .unsaved s.store.docs s.ids

/-- `ComesFrom` a state what is left after a save of other documents. -/
private theorem comesFrom_saveThen {α : Type} (s : StoreState) (docs : Collection) (ids : IdSource)
    (skipSave : Bool) (a : α) :
    ComesFrom s ((s.withParts docs ids).saveThen skipSave a).state := by
  unfold saveThen
  split
  · exact .unsaved docs ids
  · exact .saved docs ids

/-- `ComesFrom` a state what `insert` leaves. -/
theorem comesFrom_insert (s : StoreState) (v : Value) (skipSave : Bool) :
    ComesFrom s (s.insert v skipSave).state := by
  unfold StoreState.insert
  split
  · exact comesFrom_self s
  · exact comesFrom_saveThen s _ _ skipSave _

/-- `ComesFrom` a state what `updateBy` leaves. -/
theorem comesFrom_updateBy (s : StoreState) (query : Value) (multi skipSave : Bool)
    (sweep : List String → Sweep) :
    ComesFrom s (s.updateBy query multi skipSave sweep).state := by
  unfold updateBy
  refine select_state (comesFrom_self s) fun found _ => ?_
  split
  · exact comesFrom_self s
  split
  · exact comesFrom_self s
  simp only [Outcome.after]
  split
  · exact .unsaved _ s.ids
  · exact comesFrom_saveThen s _ s.ids _ _

/-- `ComesFrom` a state what `remove` leaves. -/
theorem comesFrom_remove (s : StoreState) (query : Value) (multi skipSave : Bool) :
    ComesFrom s (s.remove query multi skipSave).state := by
  unfold StoreState.remove
  refine select_state (comesFrom_self s) fun found _ => ?_
  split
  · exact comesFrom_self s
  split
  · exact comesFrom_self s
  · exact comesFrom_saveThen s _ s.ids skipSave _

/-- `ComesFrom` a state what any call leaves. -/
private theorem comesFrom_outcome (c : StoreCall) (s : StoreState) :
    ComesFrom s (c.outcome s).state := by
  cases c with
  | insert v skipSave => exact comesFrom_insert s v skipSave
  | update query change multi skipSave => exact comesFrom_updateBy s query multi skipSave _
  | remove query multi skipSave => exact comesFrom_remove s query multi skipSave
  | save => exact .saved s.store.docs s.ids

/-- `ComesFrom` keeps the options. -/
theorem ComesFrom.options {s s' : StoreState} (h : ComesFrom s s') :
    s'.store.options = s.store.options := by
  cases h with
  | unsaved docs ids => rfl
  | saved docs ids =>
    rw [save_store]
    rfl

/-- `outcome` of a call changes no options of a store. -/
theorem outcome_options (c : StoreCall) (s : StoreState) :
    (c.outcome s).state.store.options = s.store.options :=
  (comesFrom_outcome c s).options

/-- `outcome` of a call writes nothing if the store is kept in memory. -/
theorem outcome_disk_of_isInMemory (c : StoreCall) (hmemory : s.store.options.isInMemory = true) :
    (c.outcome s).state.disk = s.disk := by
  have hcomes := comesFrom_outcome c s
  generalize (c.outcome s).state = s' at hcomes
  cases hcomes with
  | unsaved docs ids => rfl
  | saved docs ids =>
    have hsave : (s.withParts docs ids).save = .answer true (s.withParts docs ids) := if_pos hmemory
    rw [hsave]
    rfl

end StoreCall

end DocStore
