import DocStore.Store

/-!
# Shared lists

A caller may hand in a document in which one list stands at several places, and the copy that is
inserted has one list at these places again. To append to it under the name of one field shows at
all of them. Nothing else that is done to a document changes a list that is there: every other
operator puts a new value into its field, and the copy that a renaming makes shares nothing with
other fields.

A document with shared lists is a document with marks at its places: where the same mark stands,
there stands one list. Updates of such documents are those of plain documents, but for what `$push`
does to other places, and the marks that go with what is overwritten. A store of them has marks for
each of its documents.

Lists are never shared between documents, nor with what a caller keeps: everything that goes into a
store or comes out of it is copied.
-/

namespace DocStore

/-- The marks of places: one list stands at all places with the same mark. A list that stands at one
place only needs none. -/
abbrev Marks := Place → Option Nat

/-- No list stands at several places. -/
def Marks.unshared : Marks := fun _ => none

namespace Value

mutual

/-- Appends an item to the lists at some places of a value. -/
def appendAt (here : Place → Bool) (item : Scalar) : Value → Value
  | .list items =>
    let inside := appendInItems (fun i p => here (.item i :: p)) item items
    .list (if here [] then inside ++ [.scalar item] else inside)
  | .object entries => .object (appendInEntries (fun k p => here (.entry k :: p)) item entries)
  | .scalar s => .scalar s

/-- Appends an item to the lists at some places within the items of a list. -/
def appendInItems (here : Nat → Place → Bool) (item : Scalar) : List Value → List Value
  | [] => []
  | v :: rest => appendAt (here 0) item v :: appendInItems (fun i => here (i + 1)) item rest

/-- Appends an item to the lists at some places within the entries of an object. -/
def appendInEntries (here : Key → Place → Bool) (item : Scalar) :
    List (Key × Value) → List (Key × Value)
  | [] => []
  | (k, v) :: rest => (k, appendAt (here k) item v) :: appendInEntries here item rest

end

end Value

/-- The marks within the value of a field. -/
def Marks.of (m : Marks) (field : Key) : Marks := fun p => m (.entry field :: p)

/-- The marks without those of some fields. -/
def Marks.forget (m : Marks) (fields : List Key) : Marks
  | .entry k :: p => if k ∈ fields then none else m (.entry k :: p)
  | p => m p

/-- A document some lists of which stand at several places. -/
structure SharedDocument where
  document : Document
  marks : Marks

/-- Appends an item to the list with a mark, wherever it stands. -/
def SharedDocument.append (s : SharedDocument) (mark : Nat) (item : Scalar) : Document :=
  s.document.map fun field v => v.appendAt (fun p => s.marks.of field p == some mark) item

/-! ## Updates -/

/-- The new name that a renaming has for a field, if it is one. -/
def newName? : Value → Option Key
  | .scalar (.text name) => some name
  | _ => none

namespace Edit

/-- The keys that a step names. -/
def names (e : Edit) : List Key :=
  e.field :: if e.op = .rename then (newName? e.argument).toList else []

/-- Whether a step appends to a list that is there. -/
def appends (e : Edit) (d : Document) : Bool :=
  e.op = .push && (d.get? e.field matches some (.list _))

end Edit

/-- How far an update of a document with shared lists has come. -/
structure SharedProgress where
  progress : UpdateProgress
  /-- The marks so far. -/
  marks : Marks

namespace SharedProgress

/-- Before the first step. -/
def start (s : SharedDocument) : SharedProgress := ⟨.start s.document, s.marks⟩

/-- The document so far. -/
def shared (p : SharedProgress) : SharedDocument := ⟨p.progress.document, p.marks⟩

/-- The mark of a shared list to which a step appends, and what it appends. -/
def growth? (p : SharedProgress) : UpdateStep → Option (Nat × Scalar)
  | .edit e =>
    match p.progress.failure, e.apply p.progress.document, e.argument with
    | none, .changed _, .scalar item =>
      if e.appends p.progress.document then
        (p.marks.of e.field []).map fun mark => (mark, item)
      else none
    | _, _, _ => none
  | _ => none

/-- The fields into which a step puts new values. -/
def rewritten (p : SharedProgress) : UpdateStep → List Key
  | .edit e =>
    match p.progress.failure, e.apply p.progress.document with
    | none, .changed _ => if e.appends p.progress.document then [] else e.names
    | _, _ => []
  | _ => []

/-- Takes one step. -/
def advance (p : SharedProgress) (s : UpdateStep) : SharedProgress :=
  let next := p.progress.advance s
  match p.growth? s with
  | some (mark, item) => ⟨{ next with document := p.shared.append mark item }, p.marks⟩
  | none => ⟨next, p.marks.forget (p.rewritten s)⟩

end SharedProgress

/-- Carries out an update on a document with shared lists. -/
def Update.runShared (update : Value) (s : SharedDocument) : SharedProgress :=
  let p := (steps update).foldl SharedProgress.advance (.start s)
  ⟨{ p.progress with warnings := p.progress.warnings ++ closing update }, p.marks⟩

/-! ## Stores -/

/-- A store with the marks of its documents. -/
structure SharedStore where
  state : StoreState
  /-- The marks of the document with an id. -/
  marks : String → Marks

namespace SharedStore

/-- The marks of documents with other ones for the document with an id. -/
def setMarks (marks : String → Marks) (id : String) (m : Marks) : String → Marks :=
  fun other => if other = id then m else marks other

/-- Inserts a document with shared lists. Its id is a text, so it is no list that is shared. -/
def insert (s : SharedStore) (v : Value) (m : Marks) (skipSave : Bool) :
    Outcome SharedStore (Option String) :=
  let marks := match s.state.store.docs.insertValue s.state.ids v with
    | .ok r => setMarks s.marks r.id (m.forget [.text idField])
    | .error _ => s.marks
  (s.state.insert v skipSave).inside fun t => ⟨t, marks⟩

/-- How far an update of several documents with shared lists has come. -/
structure Sweep where
  sweep : StoreState.Sweep
  /-- The marks so far. -/
  marks : String → Marks

/-- Updates one document of a collection. -/
def Sweep.advance (update : Value) (w : Sweep) (id : String) : Sweep :=
  if w.sweep.failure.isSome then w
  else match w.sweep.docs.get? id with
    | none => w
    | some d =>
      let p := Update.runShared update ⟨d, w.marks id⟩
      { sweep :=
          { docs := w.sweep.docs.insert id p.progress.document
            changed := w.sweep.changed + p.progress.changed.toNat
            records := w.sweep.records ++ Update.records p.progress
            failure := p.progress.failure }
        marks := setMarks w.marks id p.marks }

/-- Updates the documents with some ids. -/
def sweepOver (s : SharedStore) (update : Value) (found : List String) : Sweep :=
  found.foldl (Sweep.advance update) ⟨⟨s.state.store.docs, 0, [], none⟩, s.marks⟩

/-- The marks after an update of the documents that a value means. -/
def marksAfter (s : SharedStore) (query update : Value) (multi : Bool) : String → Marks :=
  match Query.selectValue s.state.store.docs query with
  | .error _ => s.marks
  | .ok found =>
    if 1 < found.length ∧ ¬ multi then s.marks else (s.sweepOver update found).marks

/-- Updates the documents that a value means. -/
def update (s : SharedStore) (query update : Value) (multi skipSave : Bool) :
    Outcome SharedStore Nat :=
  (s.state.updateBy query multi skipSave fun found => (s.sweepOver update found).sweep).inside
    fun t => ⟨t, s.marksAfter query update multi⟩

/-- Does with the store what leaves all lists alone. -/
def plainly {α : Type} (s : SharedStore) (f : StoreState → Outcome StoreState α) :
    Outcome SharedStore α :=
  (f s.state).inside fun t => ⟨t, s.marks⟩

end SharedStore

end DocStore
