import DocStore.Proofs.LongIntegers
import DocStore.Proofs.StoreSaves
import DocStore.Proofs.StoreUpdates

/-!
# What keeps a store from being saved

A field may hold an integer of any size, and an increment may make it greater still, while a store
file has no integers of more than `digitLimit` digits. No call looks at this limit but the one
that saves. So a store takes in what it cannot write: a call that is told to wait gives its answer,
and the next save ends without one.

On a path where nothing is in the way this is the only thing that can go wrong. A store whose
integers are all within the limit is saved, and what has been written is loaded again.

## Key results

- `Value.fits_iff`: a value can be written if all integers in it are within the limit
- `StoreState.Grown.savesWithinLimit`: which stores can be saved, in every run
-/

namespace DocStore

-- powers are those of the core library, whatever else is imported
attribute [local instance (high)] instPowNat

namespace Value

/-- `isTruthy` is false of no integer but zero, so what counts as false can be written. -/
private theorem fits_of_isTruthy_eq_false {v : Value} (h : v.isTruthy = false) : fits v = true := by
  match v with
  | .scalar (.number (.int n)) =>
    obtain rfl : n = 0 := by simpa [Value.isTruthy] using h
    decide
  | .scalar (.number (.float x)) => rfl
  | .scalar .null => rfl
  | .scalar (.bool b) => rfl
  | .scalar (.text t) => rfl
  | .list [] => rfl
  | .object [] => rfl

end Value

/-- `toValue` of the options of a store that is not kept in memory can be written. -/
private theorem Options.fits_toValue {o : Options} (h : o.isInMemory = false) :
    o.toValue.fits = true := by
  have hswitch : o.inMemory.fits = true := Value.fits_of_isTruthy_eq_false h
  simp [toValue, Value.fits, Value.entriesFit, Key.fits, hswitch]

/-! ## The integers in a collection -/

namespace Collection

variable {docs : Collection} {n : Int}

/-- An integer stands in a field of one of the documents. -/
def Holds (docs : Collection) (n : Int) : Prop :=
  ∃ e ∈ docs.entries, ∃ f ∈ e.2.entries, f.2.Holds n

/-- All integers in the documents have no more digits than a store file takes. -/
def WithinLimit (docs : Collection) : Prop := ∀ n, docs.Holds n → n.natAbs < 10 ^ digitLimit

/-- `documentsValue` has the integers in the fields, since the keys of documents and ids are texts.
-/
private theorem holds_documentsValue_iff (h : docs.IsSound) :
    (Snapshot.documentsValue docs).Holds n ↔ docs.Holds n := by
  constructor
  · intro hn
    -- under the id of a document, and in it under the name of a field
    cases hn with
    | key mem =>
      obtain ⟨e, -, heq⟩ := List.mem_map.1 mem
      cases heq
    | entry mem inside =>
      obtain ⟨e, he, heq⟩ := List.mem_map.1 mem
      cases heq
      cases inside with
      | key mem =>
        obtain ⟨name, hname, -⟩ := h.fields e he _ mem
        cases hname
      | entry mem inside => exact ⟨e, he, _, mem, inside⟩
  · intro hn
    obtain ⟨e, he, f, hf, inside⟩ := hn
    exact .entry (List.mem_map_of_mem he) (.entry hf inside)

/-- `documentsValue` can be written if the integers are within the limit. -/
private theorem fits_documentsValue_iff (h : docs.IsSound) :
    (Snapshot.documentsValue docs).fits = true ↔ docs.WithinLimit := by
  rw [Value.fits_iff]
  simp only [holds_documentsValue_iff h, WithinLimit]

end Collection

namespace StoreState

variable {s : StoreState}

/-! ## One save -/

/-- Nothing is in the way of the file of a store, and no fault is due. -/
structure CanReachFile (s : StoreState) : Prop where
  isOpen : s.disk.files.IsOpen s.store.options.path
  noNul : s.store.options.path.hasNul = false
  noFault : SaveStep.hits s.disk.nextFault s.store.options.syncEveryWrite.isTruthy = false

/-- `save` succeeds within the limit, and what it has written is loaded again. -/
private theorem save_of_withinLimit (hpersisted : s.store.options.isInMemory = false)
    (hreach : s.CanReachFile) (hkeeps : s.store.docs.Keeps Value.DistinctKeys)
    (hlimit : s.store.docs.WithinLimit) :
    ∃ disk', s.save = .answer true { s with disk := disk' } ∧
      Snapshot.load disk'.files s.store.options.path = .ok s.store.docs := by
  have hdocs := (Collection.fits_documentsValue_iff (Collection.isSound_of_keeps hkeeps)).2 hlimit
  have hoptions := Options.fits_toValue hpersisted
  obtain ⟨written, hwritten⟩ :
      ∃ disk', saveWith s.store.options s.disk s.store.docs = (.ok (), disk') :=
    Snapshot.save_eq_ok ⟨hoptions, hdocs⟩ hreach.isOpen hreach.noNul hreach.noFault
  -- of the ways in which a save can end, the other two do not succeed in writing
  obtain ⟨disk', ⟨hdisk, hsave⟩ | ⟨hdisk, -⟩ | ⟨e, hdisk, -⟩⟩ := save_cases hpersisted
  · exact ⟨disk', hsave, Snapshot.load_of_save_eq_ok hkeeps hdisk⟩
  · rw [hwritten] at hdisk
    cases hdisk
  · rw [hwritten] at hdisk
    cases hdisk

/-- `save` ends without an answer beyond the limit, and the disk is left alone. -/
private theorem save_of_not_withinLimit (hpersisted : s.store.options.isInMemory = false)
    (hsound : s.store.docs.IsSound) (hlimit : ¬ s.store.docs.WithinLimit) :
    s.save = .fail .unwritable s := by
  have hdocs : (Snapshot.documentsValue s.store.docs).fits = false := by
    rwa [← Collection.fits_documentsValue_iff hsound, Bool.not_eq_true] at hlimit
  have htext : Snapshot.text? s.store.options.toValue
      (Snapshot.documentsValue s.store.docs) = none := by
    simp [Snapshot.text?, Json.write?, Value.fits, Value.entriesFit, Key.fits, hdocs]
  unfold save
  dsimp only
  rw [hpersisted, if_neg Bool.false_ne_true, Snapshot.save, htext]

/-! ## Runs -/

/-- The states that a store which was created empty can come to: calls follow one another, with
arguments in which no key is repeated, and however they end. The disk and the id source may change
at any time. -/
inductive Grown : StoreState → Prop where
  | created (options : Options) (disk : Disk) (ids : IdSource) :
    Grown ⟨⟨options, .empty⟩, disk, ids⟩
  | called {s : StoreState} (before : Grown s) (c : StoreCall)
    (brings : c.Brings Value.DistinctKeys) : Grown (c.outcome s).state
  | elsewhere {s : StoreState} (before : Grown s) (disk : Disk) (ids : IdSource) :
    Grown { s with disk := disk, ids := ids }

/-- `Grown` stores have every document under its own id, and its keys are distinct throughout. -/
theorem Grown.keeps (h : Grown s) : s.store.docs.Keeps Value.DistinctKeys := by
  induction h with
  | created => exact Collection.keeps_empty
  | called before c brings ih => exact c.keeps_outcome Value.hereditary_distinctKeys ih brings
  | elsewhere before disk ids ih => exact ih

/-- Whether a store can be saved is a matter of its integers. -/
structure SavesWithinLimit (s : StoreState) : Prop where
  /-- If they are within the limit, the save succeeds, and its file is loaded as the store is. -/
  within : s.store.docs.WithinLimit → ∃ disk', s.save = .answer true { s with disk := disk' } ∧
    Snapshot.load disk'.files s.store.options.path = .ok s.store.docs
  /-- If not, the save ends without an answer, and neither the store nor the disk has changed. -/
  beyond : ¬ s.store.docs.WithinLimit → s.save = .fail .unwritable s

/-- `Grown` stores with a file that can be reached are saved exactly if their integers are within
the limit. -/
theorem Grown.savesWithinLimit (h : Grown s) (hpersisted : s.store.options.isInMemory = false)
    (hreach : s.CanReachFile) : SavesWithinLimit s where
  within := save_of_withinLimit hpersisted hreach h.keeps
  beyond := save_of_not_withinLimit hpersisted (Collection.isSound_of_keeps h.keeps)

/-! ## At the limit -/

/-- A document with the greatest integer of so many digits. -/
def documentAtLimit : Value := .object [(.text "n", .int (.ofNat (10 ^ digitLimit - 1)))]

/-- An update that adds one. -/
def increment : Value := .object [(.text "$inc", .object [(.text "n", .int 1)])]

/-- A store that is empty, on an empty disk. -/
def emptyStore : StoreState := threeDocuments.withDocs .empty

/-- `emptyStore` can reach its file. -/
private theorem canReachFile_emptyStore : emptyStore.CanReachFile where
  isOpen := by
    refine ⟨⟨rfl, fun before _ content => ?_, by decide, by decide⟩, by decide, by decide,
      by decide, by decide, by decide, by decide⟩
    rw [FileSystem.at?]
    split
    · simp
    · simp [emptyStore, withDocs, threeDocuments, FileSystem.empty]
  noNul := by decide
  noFault := rfl

/-- `save` writes the greatest integer within the limit, and it is loaded. With one more the store
is not saved. -/
theorem Grown.savesWithinLimit_atLimit :
    let s := ((StoreCall.insert documentAtLimit true).outcome emptyStore).state
    let t := ((StoreCall.update (.object []) increment false true).outcome s).state
    s.Grown ∧ t.Grown ∧
      (∃ disk', s.save = .answer true { s with disk := disk' } ∧
        Snapshot.load disk'.files s.store.options.path = .ok s.store.docs) ∧
      t.save = .fail .unwritable t := by
  intro s t
  have hs : s.Grown := (Grown.created emptyStore.store.options _ _).called _
    (Value.distinctKeys_of_isStorable rfl (by decide))
  have ht : t.Grown := by
    apply hs.called
    apply Value.DistinctKeys.object (by simp)
    intro e he
    obtain rfl := List.mem_singleton.1 he
    exact Value.distinctKeys_of_isStorable rfl (by decide)
  have hwithin := Collection.fits_documentsValue_iff (Collection.isSound_of_keeps hs.keeps)
  have hbeyond := Collection.fits_documentsValue_iff (Collection.isSound_of_keeps ht.keeps)
  -- neither call has touched the options or the disk
  have hreach := canReachFile_emptyStore
  refine ⟨hs, ht, ?_, ?_⟩
  · apply (hs.savesWithinLimit rfl ⟨hreach.isOpen, hreach.noNul, hreach.noFault⟩).within
    exact hwithin.1 (by decide +kernel)
  · apply (ht.savesWithinLimit rfl ⟨hreach.isOpen, hreach.noNul, hreach.noFault⟩).beyond
    intro hlimit
    exact absurd (hbeyond.2 hlimit) (by decide +kernel)

/-- `insert` takes the greatest integer within the limit, `update` adds one to it, and `save` ends
without an answer. -/
theorem not_saved_incremented :
    let inserted := emptyStore.insert documentAtLimit true
    let updated := inserted.state.update (.object []) increment false true
    (inserted.result matches .ok (some _)) ∧ (inserted.state.save.result matches .ok true) ∧
      (updated.result matches .ok 1) ∧ (updated.state.save.result matches .error .unwritable) := by
  decide +kernel

end StoreState

end DocStore
