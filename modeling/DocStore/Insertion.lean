import DocStore.Ids
import DocStore.Log

/-!
# Insertion

A value that is a document enters a collection under its own id, or, if it has none that is a text
and not empty, under the next unused one of an id source. Everything else is refused and leaves no
trace.
-/

namespace DocStore

/-- The reasons for which an insertion is refused. -/
inductive InsertError where
  | invalid (e : DocumentError)
  | duplicateId (id : String)

/-- The text of an insert error. -/
def InsertError.message : InsertError → String
  | .invalid e => e.message
  | .duplicateId id => "the _id is not unique: " ++ quoted id

/-- The record about a refused insertion. -/
def InsertError.record (e : InsertError) : Log.Record :=
  ⟨.warning, .document, "insert rejected: " ++ e.message⟩

/-- What an insertion leaves. -/
structure Inserted where
  id : String
  /-- The collection with the new document. -/
  docs : Collection
  /-- The id source after the insertion. -/
  ids : IdSource

/-- Inserts a value into a collection. -/
def Collection.insertValue (docs : Collection) (ids : IdSource) (v : Value) :
    Except InsertError Inserted :=
  match Document.ofValue? v with
  | .error e => .error (.invalid e)
  | .ok d =>
    match d.id? with
    | some id =>
      if id = "" then
        let drawn := ids.unused docs
        .ok ⟨drawn.1, docs.insert drawn.1 (d.insert idField (.text drawn.1)), drawn.2⟩
      else if docs.contains id then .error (.duplicateId id)
      else .ok ⟨id, docs.insert id d, ids⟩
    | none =>
      let drawn := ids.unused docs
      .ok ⟨drawn.1, docs.insert drawn.1 (d.insert idField (.text drawn.1)), drawn.2⟩

end DocStore
