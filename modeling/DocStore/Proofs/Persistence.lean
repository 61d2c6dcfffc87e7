import DocStore.Proofs.SharedLists
import DocStore.Proofs.StoreSaves

/-!
# Stores in memory and stores on the disk

A store that is kept in memory and one that is saved to a file behave alike. Every operation fixes
its answer and its documents before it saves, nothing is ever read back from the disk, and a save
that the disk refuses is reported and otherwise without consequence. The only thing that tells the
two stores apart is a snapshot that cannot be written at all, which ends the call.

`SideBySide` is a pair of stores, one of each kind, that have been sent the same requests. The lists
that the fields of a document share are part of the document: the two stores start with the same
ones, and a document that is inserted brings its own into both. A file does not tell which lists are
shared, so that a store which is loaded has none.

## Key results

- `StoreRequest.agree_outcome`: a request has the same consequences on both
- `SharedStore.SideBySide.docs_eq_and_result_eq`: so has every sequence of requests
- `SharedStore.insert_of_unshared`, `SharedStore.update_of_unshared`: without shared lists these are
  the operations of plain stores
-/

namespace DocStore

namespace StoreState

variable {α : Type} {s t : StoreState} {options : Options} {disk : Disk}
  {o p : Outcome StoreState α}

/-! ## What a caller can tell -/

/-- Two states hold the same documents and have the same ids to come. -/
structure Twins (s t : StoreState) : Prop where
  docs : t.store.docs = s.store.docs
  ids : t.ids = s.ids

/-- `Twins` of parts that are the same. -/
theorem Twins.withParts (docs : Collection) (ids : IdSource) :
    (s.withParts docs ids).Twins (t.withParts docs ids) :=
  ⟨rfl, rfl⟩

/-- Two outcomes leave twins and give one answer, unless the second one has tried to save documents
that cannot be written. -/
structure Agree (options : Options) (disk : Disk) (o p : Outcome StoreState α) : Prop where
  twins : o.state.Twins p.state
  answer : p.result = o.result ∨ p.result = .error .unwritable ∧
    (saveWith options disk p.state.store.docs).1 = .error .unwritable

/-- `Agree` on an answer without a save: there is nothing to tell two stores apart. -/
private theorem agree_answer (h : s.Twins t) (a : α) :
    Agree options disk (.answer a s) (.answer a t) :=
  ⟨h, .inl rfl⟩

/-- `Agree` on a failure. -/
private theorem agree_fail (h : s.Twins t) (e : Failure) :
    Agree options disk (.fail e s : Outcome StoreState α) (.fail e t) :=
  ⟨h, .inl rfl⟩

/-- `Agree` is not changed by records in front. -/
theorem Agree.after (h : Agree options disk o p) (records : List Log.Record) :
    Agree options disk (o.after records) (p.after records) :=
  ⟨h.twins, h.answer⟩

/-- `Agree` on a call that selects: a query selects the same ids in both stores. -/
private theorem agree_select (h : s.Twins t) {query : Value}
    {f g : List String → Outcome StoreState α}
    (hfound : ∀ found, Agree options disk (f found) (g found)) :
    Agree options disk (s.select query f) (t.select query g) := by
  unfold select
  rw [h.docs]
  split
  · exact agree_fail h _
  · exact (hfound _).after _

/-- `Agree` on a save, which comes after the answer and can only keep it from being given. -/
private theorem agree_saveThen (h : s.Twins t) (hmemory : s.store.options.isInMemory = true)
    (hpersisted : t.store.options.isInMemory = false) (skip skip' : Bool) (a : α) :
    Agree t.store.options t.disk (s.saveThen skip a) (t.saveThen skip' a) := by
  -- in memory nothing is saved, whatever is asked for
  have hleft : s.saveThen skip a = .answer a s := by
    have hsave : s.save = .answer true s := if_pos hmemory
    unfold saveThen
    rw [hsave]
    split <;> rfl
  rw [hleft]
  cases skip' with
  | true => exact agree_answer h _
  | false =>
    have hright : t.saveThen false a = t.save.map fun _ => a := if_neg Bool.false_ne_true
    rw [hright]
    obtain ⟨disk, ⟨-, hsave⟩ | ⟨hrefused, hsave⟩ | ⟨e, -, hsave⟩⟩ := save_cases hpersisted
    · rw [hsave]
      exact ⟨⟨h.docs, h.ids⟩, .inl rfl⟩
    · rw [hsave]
      exact ⟨⟨h.docs, h.ids⟩, .inr ⟨rfl, congrArg Prod.fst hrefused⟩⟩
    · rw [hsave]
      exact ⟨⟨h.docs, h.ids⟩, .inl rfl⟩

/-! ## One operation -/

/-- `insert` has the same consequences for a store in memory and for one that is saved. -/
private theorem agree_insert (h : s.Twins t) (hmemory : s.store.options.isInMemory = true)
    (hpersisted : t.store.options.isInMemory = false) (v : Value) (skip skip' : Bool) :
    Agree t.store.options t.disk (s.insert v skip) (t.insert v skip') := by
  unfold StoreState.insert
  rw [h.docs, h.ids]
  split
  · exact (agree_answer h _).after _
  · rename_i r hr
    exact agree_saveThen (.withParts r.docs r.ids) hmemory hpersisted skip skip' (some r.id)

/-- So has `updateBy`, whatever the sweep. -/
private theorem agree_updateBy (h : s.Twins t) (hmemory : s.store.options.isInMemory = true)
    (hpersisted : t.store.options.isInMemory = false) (query : Value) (multi skip skip' : Bool)
    (sweep : List String → Sweep) :
    Agree t.store.options t.disk (s.updateBy query multi skip sweep)
      (t.updateBy query multi skip' sweep) := by
  unfold updateBy
  refine agree_select h fun found => ?_
  split
  · exact agree_answer h _
  split
  · exact (agree_answer h _).after _
  -- the documents are swept over before anything is saved
  generalize sweep found = w
  refine Agree.after ?_ w.records
  have htwins : (s.withDocs w.docs).Twins (t.withDocs w.docs) := ⟨rfl, h.ids⟩
  split
  · exact agree_fail htwins _
  · exact agree_saveThen htwins hmemory hpersisted _ _ w.changed

/-- So has `remove`. -/
private theorem agree_remove (h : s.Twins t) (hmemory : s.store.options.isInMemory = true)
    (hpersisted : t.store.options.isInMemory = false) (query : Value) (multi skip skip' : Bool) :
    Agree t.store.options t.disk (s.remove query multi skip) (t.remove query multi skip') := by
  unfold StoreState.remove
  refine agree_select h fun found => ?_
  split
  · exact agree_answer h _
  split
  · exact (agree_answer h _).after _
  rw [h.docs]
  have htwins : (s.withDocs (found.foldl Table.erase s.store.docs)).Twins
      (t.withDocs (found.foldl Table.erase s.store.docs)) := ⟨rfl, h.ids⟩
  exact agree_saveThen htwins hmemory hpersisted skip skip' found.length

/-- So has `find`, which does not save. -/
private theorem agree_find (h : s.Twins t) (query : Value) (projection : Option Value) :
    Agree options disk (s.find query projection) (t.find query projection) := by
  unfold StoreState.find
  refine agree_select h fun found => ?_
  rw [h.docs]
  dsimp only
  split
  · exact agree_fail h _
  · exact (agree_answer h _).after _

/-- So has `findFirst`. -/
private theorem agree_findFirst (h : s.Twins t) (query : Value) (projection : Option Value) :
    Agree options disk (s.findFirst query projection) (t.findFirst query projection) := by
  unfold StoreState.findFirst
  rw [h.docs]
  split
  · exact agree_fail h _
  · refine Agree.after ?_ _
    split
    · exact agree_answer h _
    · split
      · exact agree_fail h _
      · exact (agree_answer h _).after _

end StoreState

/-! ## Requests -/

/-- A request to a store, but for whether a save is to wait. -/
inductive StoreRequest where
  /-- The lists with one mark in the document are one list. -/
  | insert (v : Value) (m : Marks)
  | update (query change : Value) (multi : Bool)
  | remove (query : Value) (multi : Bool)
  | count (query : Value)
  | find (query : Value) (projection : Option Value)
  | findFirst (query : Value) (projection : Option Value)

/-- What a store replies to a request. -/
inductive StoreReply where
  /-- The id of the document that was inserted, if it was. -/
  | inserted (id : Option String)
  /-- How many documents were changed, removed or counted. -/
  | counted (n : Nat)
  | found (documents : List Document)
  | first (document : Option Document)

/-- Carries out a request. -/
def StoreRequest.outcome (r : StoreRequest) (skipSave : Bool) (s : SharedStore) :
    Outcome SharedStore StoreReply :=
  match r with
  | .insert v m => (s.insert v m skipSave).map .inserted
  | .update query change multi => (s.update query change multi skipSave).map .counted
  | .remove query multi => (s.plainly fun t => t.remove query multi skipSave).map .counted
  | .count query => (s.plainly fun t => t.count query).map .counted
  | .find query projection => (s.plainly fun t => t.find query projection).map .found
  | .findFirst query projection => (s.plainly fun t => t.findFirst query projection).map .first

namespace SharedStore

open StoreState (saveWith)

variable {α β : Type} {s t : SharedStore} {options : Options} {disk : Disk}
  {o p : Outcome SharedStore α}

/-- Two stores hold the same documents with the same lists, and have the same ids to come. -/
structure Twins (s t : SharedStore) : Prop where
  state : s.state.Twins t.state
  marks : t.marks = s.marks

/-- Two outcomes leave twins and give one answer, unless the second one has tried to save documents
that cannot be written. -/
structure Agree (options : Options) (disk : Disk) (o p : Outcome SharedStore α) : Prop where
  twins : o.state.Twins p.state
  answer : p.result = o.result ∨ p.result = .error .unwritable ∧
    (saveWith options disk p.state.state.store.docs).1 = .error .unwritable

/-- `inside` keeps an agreement of states if the same lists are put beside them. -/
private theorem agree_inside {o p : Outcome StoreState α}
    (h : StoreState.Agree options disk o p) {m m' : String → Marks} (hm : m' = m) :
    Agree options disk (o.inside fun t => ⟨t, m⟩) (p.inside fun t => ⟨t, m'⟩) :=
  ⟨⟨h.twins, hm⟩, h.answer⟩

/-- `map` keeps an agreement. -/
private theorem Agree.map (h : Agree options disk o p) (f : α → β) :
    Agree options disk (o.map f) (p.map f) where
  twins := h.twins
  answer := h.answer.imp (congrArg (Except.map f)) fun ⟨hresult, hsave⟩ =>
    ⟨by rw [Outcome.map, hresult]; rfl, hsave⟩

/-- `insert` stores the same lists in both stores. -/
private theorem agree_insert (h : s.Twins t) (hmemory : s.state.store.options.isInMemory = true)
    (hpersisted : t.state.store.options.isInMemory = false) (v : Value) (m : Marks)
    (skip skip' : Bool) :
    Agree t.state.store.options t.state.disk (s.insert v m skip) (t.insert v m skip') := by
  refine agree_inside (StoreState.agree_insert h.state hmemory hpersisted v skip skip') ?_
  rw [h.state.docs, h.state.ids, h.marks]

/-- `update` sweeps over the same documents with the same lists in both stores. -/
private theorem agree_update (h : s.Twins t) (hmemory : s.state.store.options.isInMemory = true)
    (hpersisted : t.state.store.options.isInMemory = false) (query change : Value)
    (multi skip skip' : Bool) :
    Agree t.state.store.options t.state.disk (s.update query change multi skip)
      (t.update query change multi skip') := by
  have hsweep (found : List String) : t.sweepOver change found = s.sweepOver change found := by
    rw [sweepOver, sweepOver, h.state.docs, h.marks]
  unfold SharedStore.update
  simp only [hsweep]
  refine agree_inside
    (StoreState.agree_updateBy h.state hmemory hpersisted query multi skip skip' _) ?_
  simp only [marksAfter, hsweep, h.state.docs, h.marks]

end SharedStore

namespace StoreRequest

open SharedStore

variable {s t : SharedStore}

/-- `Agree` on what a request comes to for a store in memory and for one that is saved. -/
theorem agree_outcome (h : s.Twins t) (hmemory : s.state.store.options.isInMemory = true)
    (hpersisted : t.state.store.options.isInMemory = false) (r : StoreRequest)
    (skip skip' : Bool) :
    Agree t.state.store.options t.state.disk (r.outcome skip s) (r.outcome skip' t) := by
  cases r with
  | insert v m => exact (agree_insert h hmemory hpersisted v m skip skip').map _
  | update query change multi =>
    exact (agree_update h hmemory hpersisted query change multi skip skip').map _
  | remove query multi =>
    exact (agree_inside (StoreState.agree_remove h.state hmemory hpersisted query multi skip skip')
      h.marks).map _
  | count query =>
    exact (agree_inside (StoreState.agree_select h.state fun found =>
      StoreState.agree_answer h.state _) h.marks).map _
  | find query projection =>
    exact (agree_inside (StoreState.agree_find h.state query projection) h.marks).map _
  | findFirst query projection =>
    exact (agree_inside (StoreState.agree_findFirst h.state query projection) h.marks).map _

/-- `outcome` of a request changes no options of a store. -/
theorem outcome_options (r : StoreRequest) (skip : Bool) (s : SharedStore) :
    (r.outcome skip s).state.state.store.options = s.state.store.options := by
  -- calls change documents, ids and the disk, the reading ones nothing at all
  cases r with
  | insert v m => exact (StoreCall.comesFrom_insert s.state v skip).options
  | update query change multi =>
    exact (StoreCall.comesFrom_updateBy s.state query multi skip _).options
  | remove query multi => exact (StoreCall.comesFrom_remove s.state query multi skip).options
  | count query =>
    exact StoreState.select_state (P := fun s' => s'.store.options = s.state.store.options) rfl
      fun _ _ => rfl
  | find query projection =>
    exact congrArg (fun s' => s'.store.options) (StoreState.find_state s.state query projection)
  | findFirst query projection =>
    exact congrArg (fun s' => s'.store.options)
      (StoreState.findFirst_state s.state query projection)

end StoreRequest

/-! ## Sequences of requests -/

namespace SharedStore

open StoreState (saveWith)

variable {s t : SharedStore}

/-- A store in memory and one that is saved, which have started with equal documents and the same
ids to come, and have been sent the same requests. In equal documents one list stands at the same
places. Whether a save is to wait may differ, and the disks may change and have faults at any
time. -/
inductive SideBySide : SharedStore → SharedStore → Prop where
  | start {options options' : Options} (docs : Collection) (marks : String → Marks)
    (disk disk' : Disk) (ids : IdSource) (inMemory : options.isInMemory = true)
    (persisted : options'.isInMemory = false) :
    SideBySide ⟨⟨⟨options, docs⟩, disk, ids⟩, marks⟩ ⟨⟨⟨options', docs⟩, disk', ids⟩, marks⟩
  | asked {s t : SharedStore} (before : SideBySide s t) (r : StoreRequest) (skip skip' : Bool) :
    SideBySide (r.outcome skip s).state (r.outcome skip' t).state
  | elsewhere {s t : SharedStore} (before : SideBySide s t) (disk disk' : Disk) :
    SideBySide { s with state := { s.state with disk := disk } }
      { t with state := { t.state with disk := disk' } }

/-- How two stores behave alike, the second of which is saved. -/
structure BehaveAlike (s t : SharedStore) : Prop where
  /-- They hold the same documents in the same order, with the same fields in the same order. -/
  docs : t.state.store.docs = s.state.store.docs
  /-- So they do after the next request, whatever comes of it. -/
  docs_next : ∀ (r : StoreRequest) (skip skip' : Bool),
    (r.outcome skip' t).state.state.store.docs = (r.outcome skip s).state.state.store.docs
  /-- They give the same answer to it, or fail in the same way, whether the disk takes the save or
  refuses it. Else the documents have been changed, and then could not be written. -/
  answer : ∀ (r : StoreRequest) (skip skip' : Bool),
    (r.outcome skip' t).result = (r.outcome skip s).result ∨
      (r.outcome skip' t).result = .error .unwritable ∧
        (saveWith t.state.store.options t.state.disk
          (r.outcome skip' t).state.state.store.docs).1 = .error .unwritable

/-- `SideBySide` the requests that stores have been sent have left them twins. -/
private theorem SideBySide.twins (h : SideBySide s t) :
    s.Twins t ∧ s.state.store.options.isInMemory = true ∧
      t.state.store.options.isInMemory = false := by
  -- one request at a time; no request changes the kind of a store
  induction h with
  | start docs marks disk disk' ids inMemory persisted =>
    exact ⟨⟨⟨rfl, rfl⟩, rfl⟩, inMemory, persisted⟩
  | asked before r skip skip' ih =>
    obtain ⟨htwins, hmemory, hpersisted⟩ := ih
    refine ⟨(r.agree_outcome htwins hmemory hpersisted skip skip').twins, ?_, ?_⟩
    · rw [r.outcome_options, hmemory]
    · rw [r.outcome_options, hpersisted]
  | elsewhere before disk disk' ih => exact ⟨⟨⟨ih.1.state.docs, ih.1.state.ids⟩, ih.1.marks⟩, ih.2⟩

/-- An empty store on an empty disk with faults that lie ahead. -/
def fresh (inMemory : Bool) (faults : List (Option SaveStep)) : SharedStore :=
  ⟨⟨⟨⟨⟨"notes", by decide, by decide⟩, Path.ofString "d", .bool inMemory, .bool true, .bool false⟩,
    .empty⟩, ⟨.empty, faults⟩, .counted "id" 4 []⟩, fun _ => .unshared⟩

/-- A document is inserted that has one list in two fields. -/
def insertListTwice : StoreRequest :=
  .insert (.object [(.text "a", .list []), (.text "b", .list [])])
    fun place => if place = [.entry "a"] ∨ place = [.entry "b"] then some 0 else none

/-- A 1 is appended to the list of one of the two fields. -/
def appendToOne : StoreRequest :=
  .update (.object []) (.object [(.text "$push", .object [(.text "a", .int 1)])]) false

/-- A store whose documents share no lists. -/
def unshared (s : StoreState) : SharedStore := ⟨s, fun _ => .unshared⟩

/-- `setMarks` shares no list if it puts no marks. -/
private theorem setMarks_unshared (id : String) :
    setMarks (fun _ => .unshared) id .unshared = fun _ => .unshared :=
  funext fun _ => ite_self _

/-- `insert` of a document without shared lists is that of plain stores. -/
theorem insert_of_unshared (s : StoreState) (v : Value) (skip : Bool) :
    (unshared s).insert v .unshared skip = (s.insert v skip).inside unshared := by
  unfold SharedStore.insert unshared
  simp only [Marks.forget_unshared, setMarks_unshared]
  congr 1
  funext t
  split <;> rfl

/-- So is `update`. -/
theorem update_of_unshared (s : StoreState) (query change : Value) (multi skip : Bool) :
    (unshared s).update query change multi skip =
      (s.update query change multi skip).inside unshared := by
  have hadvance (w : StoreState.Sweep) (id : String) :
      Sweep.advance change ⟨w, fun _ => .unshared⟩ id =
        ⟨w.advance change id, fun _ => .unshared⟩ := by
    simp only [Sweep.advance, StoreState.Sweep.advance]
    split
    · rfl
    cases w.docs.get? id with
    | none => rfl
    | some d => simp only [Update.runShared_of_unshared, setMarks_unshared]
  -- document by document, as no marks are there that one could leave to the next
  have hsweep (found : List String) : (unshared s).sweepOver change found =
      ⟨found.foldl (StoreState.Sweep.advance change) ⟨s.store.docs, 0, [], none⟩,
        fun _ => .unshared⟩ := by
    unfold sweepOver unshared
    generalize (⟨s.store.docs, 0, [], none⟩ : StoreState.Sweep) = w
    induction found generalizing w with
    | nil => rfl
    | cons id rest ih => rw [List.foldl_cons, hadvance, ih, List.foldl_cons]
  have hmarksAfter : (unshared s).marksAfter query change multi = fun _ => .unshared := by
    unfold marksAfter
    simp only [hsweep]
    split
    · rfl
    · split <;> rfl
  unfold SharedStore.update
  simp only [hsweep, hmarksAfter]
  rfl

end SharedStore

end DocStore
