import DocStore.Insertion
import DocStore.Projection
import DocStore.Query.Reading
import DocStore.Snapshot
import DocStore.Update

/-!
# Stores

A store is a collection with its options. Its operations find, insert, update and remove documents;
unless told to wait, a change is followed by a save. A save that the disk refuses is logged and
otherwise without consequence; the change stays.

An operation leaves a state whether it succeeds or fails, and the log records it has emitted on
the way: this is an `Outcome`.
-/

namespace DocStore

/-- The ways in which a call ends without an answer. -/
inductive Failure where
  | document (e : DocumentError)
  | query (e : QueryError)
  /-- A pattern is refused for a reason that is not its syntax. -/
  | pattern (e : PatternError)
  /-- An integer is too large for a double. -/
  | overflow
  /-- Something cannot be written as text. -/
  | unwritable
  | storage (e : StorageError)
  /-- The path cannot be looked up. -/
  | unreachable
  | options (e : OptionsFault)
  /-- The store is open as one of the other kind. -/
  | conflict (name : String) (openInMemory : Bool)
  /-- The store does not exist and is not to be created. -/
  | notFound (name : String)

/-- The failure of a call whose query has no verdict. -/
def QueryBreak.failure : QueryBreak → Failure
  | .pattern e => .pattern e
  | .unwritable => .unwritable

/-- The failure of a call whose update ends early. -/
def UpdateFailure.failure : UpdateFailure → Failure
  | .overflow => .overflow
  | .unwritable => .unwritable

/-- What a call leaves. -/
structure Outcome (σ α : Type) where
  /-- The answer, or why there is none. -/
  result : Except Failure α
  state : σ
  /-- The records emitted, in order. -/
  records : List Log.Record

namespace Outcome

variable {σ τ α β : Type}

/-- An answer without records. -/
def answer (a : α) (s : σ) : Outcome σ α := ⟨.ok a, s, []⟩

/-- A failure without records. -/
def fail (e : Failure) (s : σ) : Outcome σ α := ⟨.error e, s, []⟩

/-- Puts records in front. -/
def after (records : List Log.Record) (o : Outcome σ α) : Outcome σ α :=
  { o with records := records ++ o.records }

/-- Sees the state as a part of another one. -/
def inside (o : Outcome σ α) (put : σ → τ) : Outcome τ α := ⟨o.result, put o.state, o.records⟩

/-- Changes the answer. -/
def map (o : Outcome σ α) (f : α → β) : Outcome σ β := ⟨o.result.map f, o.state, o.records⟩

end Outcome

/-- A collection with its options. -/
structure Store where
  options : Options
  docs : Collection

/-- A store with what its operations draw on. -/
structure StoreState where
  store : Store
  disk : Disk
  ids : IdSource

namespace StoreState

/-- The state with other documents. -/
def withDocs (s : StoreState) (docs : Collection) : StoreState :=
  { s with store := { s.store with docs := docs } }

/-- The record about a failed save. -/
def saveFailure (name : String) (e : StorageError) : Log.Record :=
  ⟨.error, .engine, "save failed for store " ++ quoted name ++ ": " ++ e.message⟩

/-- Writes the whole store to its file; a store that is kept in memory has none. The answer says
whether the disk took it. -/
def save (s : StoreState) : Outcome StoreState Bool :=
  let options := s.store.options
  if options.isInMemory then .answer true s
  else
    match Snapshot.save s.disk options.path options.syncEveryWrite.isTruthy options.toValue
        (Snapshot.documentsValue s.store.docs) with
    | (.ok (), disk) => .answer true { s with disk := disk }
    | (.error .unwritable, disk) => .fail .unwritable { s with disk := disk }
    | (.error (.storage e), disk) =>
      (Outcome.answer false { s with disk := disk }).after [saveFailure options.name.text e]

/-- Gives an answer after a save, or without one if it is to wait. -/
def saveThen {α : Type} (s : StoreState) (skipSave : Bool) (a : α) : Outcome StoreState α :=
  if skipSave then .answer a s else s.save.map fun _ => a

/-- Goes on with the ids of the documents that a value means. -/
def select {α : Type} (s : StoreState) (query : Value)
    (f : List String → Outcome StoreState α) : Outcome StoreState α :=
  match Query.selectValue s.store.docs query with
  | .error b => .fail b.failure s
  | .ok found => (f found).after (Query.complaints query)

/-! ## Reading -/

/-- The number of documents. -/
def size (s : StoreState) : Nat := s.store.docs.size

/-- The number of documents that a value means. -/
def count (s : StoreState) (query : Value) : Outcome StoreState Nat :=
  s.select query fun found => .answer found.length s

/-- The projection that keeps everything, where none is given. -/
def projectionOr (projection : Option Value) : Value := projection.getD (.object [])

/-- The documents with ids, as far as a projection leaves them; nothing if it is no projection. -/
def view (docs : Collection) (projection : Value) (found : List String) :
    Except Unwritable (List Document) :=
  match Projection.ofValue projection with
  | .ok p => .ok ((found.filterMap docs.get?).map p.apply)
  -- a mask is looked at only when there is a document to be masked
  | .error e => if found.isEmpty || e.fits then .ok [] else .error .unwritable

/-- The documents that a value means, as far as a projection leaves them. -/
def find (s : StoreState) (query : Value) (projection : Option Value) :
    Outcome StoreState (List Document) :=
  s.select query fun found =>
    let mask := projectionOr projection
    match view s.store.docs mask found with
    | .error _ => .fail .unwritable s
    | .ok shown => (Outcome.answer shown s).after
        (if found.isEmpty then [] else Projection.complaints mask)

/-- The first document that a value means, as far as a projection leaves it. -/
def findFirst (s : StoreState) (query : Value) (projection : Option Value) :
    Outcome StoreState (Option Document) :=
  match Query.selectFirstValue s.store.docs query with
  | .error b => .fail b.failure s
  | .ok found =>
    let mask := projectionOr projection
    Outcome.after (Query.complaints query) <|
      match found.bind s.store.docs.get? with
      | none => .answer none s
      | some d =>
        match Projection.applyValue? d mask with
        | .error _ => .fail .unwritable s
        | .ok shown => (Outcome.answer shown s).after (Projection.complaints mask)

/-! ## Writing -/

/-- Inserts a document. The answer is its id, or none if the value is refused. -/
def insert (s : StoreState) (v : Value) (skipSave : Bool) : Outcome StoreState (Option String) :=
  match s.store.docs.insertValue s.ids v with
  | .error e => (Outcome.answer none s).after [e.record]
  | .ok r => saveThen { s.withDocs r.docs with ids := r.ids } skipSave (some r.id)

/-- The record about a change of several documents that was meant for one. -/
def guardRecord (verb : String) (count : Nat) : Log.Record :=
  ⟨.warning, .engine,
    verb ++ " skipped: " ++ toString count ++ " documents selected without multi=True"⟩

/-- How far an update of several documents has come. -/
structure Sweep where
  /-- The documents so far. -/
  docs : Collection
  /-- How many documents have changed. -/
  changed : Nat
  /-- The records so far. -/
  records : List Log.Record
  /-- Why the update has ended early, if it has. -/
  failure : Option UpdateFailure

/-- Updates one document of a collection. -/
def Sweep.advance (update : Value) (w : Sweep) (id : String) : Sweep :=
  if w.failure.isSome then w
  else match w.docs.get? id with
    | none => w
    | some d =>
      let p := Update.run update d
      { docs := w.docs.insert id p.document
        changed := w.changed + p.changed.toNat
        records := w.records ++ Update.records p
        failure := p.failure }

/-- Changes the documents that a value means by a sweep over them. -/
def updateBy (s : StoreState) (query : Value) (multi skipSave : Bool)
    (sweep : List String → Sweep) : Outcome StoreState Nat :=
  s.select query fun found =>
    if found.isEmpty then .answer 0 s
    else if 1 < found.length ∧ ¬ multi then
      (Outcome.answer 0 s).after [guardRecord "update" found.length]
    else
      let w := sweep found
      -- what has been changed before the update ended stays changed, and unsaved
      let s := s.withDocs w.docs
      Outcome.after w.records <|
        match w.failure with
        | some f => .fail f.failure s
        | none => saveThen s (skipSave || w.changed == 0) w.changed

/-- Updates the documents that a value means. More than one is updated only if `multi`. The answer
is the number of documents that changed. -/
def update (s : StoreState) (query update : Value) (multi skipSave : Bool) :
    Outcome StoreState Nat :=
  s.updateBy query multi skipSave fun found =>
    found.foldl (Sweep.advance update) ⟨s.store.docs, 0, [], none⟩

/-- Removes the documents that a value means. More than one is removed only if `multi`. The answer
is the number of documents removed. -/
def remove (s : StoreState) (query : Value) (multi skipSave : Bool) : Outcome StoreState Nat :=
  s.select query fun found =>
    if found.isEmpty then .answer 0 s
    else if 1 < found.length ∧ ¬ multi then
      (Outcome.answer 0 s).after [guardRecord "remove" found.length]
    else saveThen (s.withDocs (found.foldl Table.erase s.store.docs)) skipSave found.length

end StoreState

end DocStore
