import DocStore.Disk
import DocStore.Json.Reading
import DocStore.Options

/-!
# Snapshots

A store file holds one JSON object with the options of the store and all of its documents.
`Snapshot.load` reads it back and checks every document; `Snapshot.save` replaces it.
-/

namespace DocStore

/-- Where the trouble with a file comes from. -/
inductive FileTrouble where
  /-- The file cannot be reached. -/
  | os
  /-- The file does not hold what it should. -/
  | content
  deriving DecidableEq

/-- The text of a trouble. -/
def FileTrouble.message : FileTrouble → String
  | .os => "<OSError>"
  | .content => "<ValueError>"

/-- The reasons for which a store file cannot be read or written. -/
inductive StorageError where
  /-- There is something at the path, but no file. -/
  | notAFile (p : Path)
  | readFailed (p : Path) (trouble : FileTrouble)
  | notAnObject (p : Path)
  | malformedDocuments (p : Path)
  | invalidDocument (key : Key) (e : DocumentError)
  /-- The id of a document is not its key. -/
  | mismatchedId (key : Key)
  | writeFailed (p : Path)

/-- The text of a storage error. -/
def StorageError.message : StorageError → String
  | .notAFile p => "store path is not a file: " ++ p.text
  | .readFailed p trouble => "store read failed: " ++ p.text ++ ": " ++ trouble.message
  | .notAnObject p => "store file is not a JSON object: " ++ p.text
  | .malformedDocuments p => "store file has malformed documents: " ++ p.text
  | .invalidDocument key e =>
    "store file has an invalid document " ++ key.literal ++ ": " ++ e.message
  | .mismatchedId key =>
    "store file document " ++ key.literal ++ " has a mismatched " ++ idField
  | .writeFailed p => "store write failed: " ++ p.text ++ ": " ++ FileTrouble.os.message

namespace Snapshot

/-- The documents of a collection as a value. -/
def documentsValue (docs : Collection) : Value :=
  .object (docs.entries.map fun e => (.text e.1, e.2.toValue))

/-- The text of a store file; none if it would hold an integer beyond the limit. -/
def text? (options documents : Value) : Option (List Char) :=
  Json.write? (.object [(.text "options", options), (.text "documents", documents)])

/-! ## Reading -/

/-- Reads the documents of a store file in order. -/
def readDocuments : List (Key × Value) → Except StorageError (List (String × Document))
  | [] => .ok []
  | (key, v) :: rest =>
    match Document.ofValue? v with
    | .error e => .error (.invalidDocument key e)
    | .ok d =>
      match key, d.id? with
      | .text name, some id =>
        if id = name then (readDocuments rest).map ((name, d) :: ·) else .error (.mismatchedId key)
      | _, _ => .error (.mismatchedId key)

/-- The collection in the value of a store file. -/
def ofValue (p : Path) : Value → Except StorageError Collection
  | .object entries =>
    -- a file without documents is one of an empty store
    match (entries.lookup (.text "documents")).getD (.object []) with
    | .object documents => (readDocuments documents).map Table.ofList
    | _ => .error (.malformedDocuments p)
  | _ => .error (.notAnObject p)

/-- The collection in the content of a store file. -/
def ofContent (p : Path) (content : ByteArray) : Except StorageError Collection :=
  match (String.fromUTF8? content).bind fun s => Json.read? s.toList with
  | some v => ofValue p v
  | none => .error (.readFailed p .content)

/-- Reads the store file at a path. -/
def load (files : FileSystem) (p : Path) : Except StorageError Collection :=
  if p.hasNul then .error (.readFailed p .content)
  else match files.find p with
    | .ok (.file content) => ofContent p content
    | _ => .error (.readFailed p .os)

/-! ## Presence -/

/-- What a look for a store file finds. -/
inductive Presence where
  | present
  | absent
  /-- Something that is no file. -/
  | notAFile
  /-- The path is too long to look. -/
  | unreachable
  deriving DecidableEq

/-- Looks for the store file at a path. -/
def presence (files : FileSystem) (p : Path) : Presence :=
  if p.hasNul then .absent
  else match files.find p with
    | .ok (.file _) => .present
    | .ok .directory => .notAFile
    | .error .tooLong => .unreachable
    | .error _ => .absent

/-! ## Writing -/

/-- The reasons for which a snapshot is not written. -/
inductive SaveError where
  /-- An integer is beyond the limit, or no file can have the path's name. -/
  | unwritable
  | storage (e : StorageError)

/-- Replaces the store file at a path. The text is complete before the disk is touched. -/
def save (disk : Disk) (p : Path) (sync : Bool) (options documents : Value) :
    Except SaveError Unit × Disk :=
  match text? options documents with
  | none => (.error .unwritable, disk)
  | some text =>
    if p.hasNul then (.error .unwritable, disk)
    else match disk.replaceFile p sync (String.ofList text).toUTF8 with
      | (true, disk) => (.ok (), disk)
      | (false, disk) => (.error (.storage (.writeFailed p)), disk)

end Snapshot

end DocStore
