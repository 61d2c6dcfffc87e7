import DocStore.Store

/-!
# Workspaces

A workspace holds every store that has been made, the registry of those that are open, by name, and
what they share: the disk, the id source and the environment. A store is referred to by a
`StoreRef`, so that two names of one store see the same documents, and a store that is closed lives
on for those who still refer to it.

`Workspace.openStore` hands out the open store of a name, or loads or creates it;
it changes the registry only if it succeeds, and the disk never.
-/

namespace DocStore

/-- Refers to a store of a workspace. -/
structure StoreRef where
  /-- The place of the store in the order of making. -/
  index : Nat
  deriving DecidableEq

/-- Stores, open names and what they share. -/
structure Workspace where
  /-- Every store made so far, the oldest first. -/
  stores : List Store
  /-- The open stores by name, in the order of opening. -/
  registry : Table String StoreRef
  disk : Disk
  ids : IdSource
  /-- The directory that the environment names for stores. -/
  environment : Option String

namespace Workspace

/-- A workspace without stores over an empty disk. -/
def start (ids : IdSource) : Workspace := ⟨[], .empty, ⟨.empty, []⟩, ids, none⟩

/-- The store that a reference refers to. -/
def store? (w : Workspace) (ref : StoreRef) : Option Store := w.stores[ref.index]?

/-- Adds a store. -/
def addStore (w : Workspace) (s : Store) : StoreRef × Workspace :=
  (⟨w.stores.length⟩, { w with stores := w.stores ++ [s] })

/-- Carries out an operation of a store. A reference that was never handed out finds none. -/
def onStore {α : Type} (w : Workspace) (ref : StoreRef) (f : StoreState → Outcome StoreState α) :
    Outcome Workspace α :=
  match w.store? ref with
  | none => .fail (.notFound "") w
  | some s => (f ⟨s, w.disk, w.ids⟩).inside fun after =>
      { w with
        stores := w.stores.set ref.index after.store
        disk := after.disk
        ids := after.ids }

/-! ## The registry -/

/-- The open store of a name. -/
def get? (w : Workspace) (name : String) : Option StoreRef := w.registry.get? name

/-- The names of the open stores in the order of opening. -/
def names (w : Workspace) : List String := w.registry.keys

/-- News of the registry. -/
def news (what name : String) (count : Nat) : Log.Record :=
  ⟨.info, .registry, "store " ++ what ++ ": " ++ name ++ ", documents: " ++ toString count⟩

/-- Adds a store and registers it under its name. -/
def register (w : Workspace) (what : String) (s : Store) : Outcome Workspace StoreRef :=
  let added := w.addStore s
  let name := s.options.name.text
  (Outcome.answer added.1
    { added.2 with registry := added.2.registry.insert name added.1 }).after
    [news what name s.docs.size]

/-- Creates the store of a name that is not open, if it may be created. -/
def create (w : Workspace) (options : Options) : Outcome Workspace StoreRef :=
  if options.createIfMissing.isTruthy then w.register "created" ⟨options, .empty⟩
  else .fail (.notFound options.name.text) w

/-- Loads or creates the store of a name that is not open. -/
def openNew (w : Workspace) (options : Options) : Outcome Workspace StoreRef :=
  if options.isInMemory then w.create options
  else match Snapshot.presence w.disk.files options.path with
    | .unreachable => .fail .unreachable w
    | .notAFile => .fail (.storage (.notAFile options.path)) w
    | .absent => w.create options
    | .present =>
      match Snapshot.load w.disk.files options.path with
      | .error e => .fail (.storage e) w
      | .ok docs => w.register "loaded" ⟨options, docs⟩

/-- The open store of a name, which must be of the kind that the options ask for; else a store
loaded or created and now open under that name. -/
def openStore (w : Workspace) (options : Options) : Outcome Workspace StoreRef :=
  match w.get? options.name.text with
  | none => w.openNew options
  | some ref =>
    match w.store? ref with
    | none => w.openNew options
    | some s =>
      -- of the options that are asked for, only the kind matters now
      if s.options.inMemory.same options.inMemory then .answer ref w
      else .fail (.conflict options.name.text s.options.isInMemory) w

/-- Forgets the open store of a name. The answer says whether there was one. -/
def close (w : Workspace) (name : String) : Outcome Workspace Bool :=
  if w.registry.contains name then .answer true { w with registry := w.registry.erase name }
  else (Outcome.answer false w).after
    [⟨.warning, .registry, "close skipped: store is not open: " ++ quoted name⟩]

/-! ## Options by keywords -/

/-- Goes on with the options made from a name and keywords. -/
def withOptions {α : Type} (w : Workspace) (name : Value) (keywords : List (String × Value))
    (f : Options → Outcome Workspace α) : Outcome Workspace α :=
  match Options.make w.environment name keywords with
  | .error e => .fail (.options e) w
  | .ok options => f options

/-- Opens the store with a name and keywords. -/
def openNamed (w : Workspace) (name : String) (keywords : List (String × Value)) :
    Outcome Workspace StoreRef :=
  w.withOptions (.text name) keywords w.openStore

/-- Makes a store that is not registered. -/
def newStore (w : Workspace) (name : String) (keywords : List (String × Value))
    (docs : Collection) : Outcome Workspace StoreRef :=
  w.withOptions (.text name) keywords fun options =>
    let added := w.addStore ⟨options, docs⟩
    .answer added.1 added.2

/-! ## Store files -/

/-- Whether there is a store file at a path. -/
def fileExists (w : Workspace) (p : Path) : Outcome Workspace Bool :=
  match Snapshot.presence w.disk.files p with
  | .present => .answer true w
  | .absent => .answer false w
  | .notAFile => .fail (.storage (.notAFile p)) w
  | .unreachable => .fail .unreachable w

/-- The documents in the store file at a path. -/
def loadFile (w : Workspace) (p : Path) : Outcome Workspace Collection :=
  match Snapshot.load w.disk.files p with
  | .ok docs => .answer docs w
  | .error e => .fail (.storage e) w

/-- Writes a store file. -/
def saveFile (w : Workspace) (p : Path) (options documents : Value) (sync : Bool) :
    Outcome Workspace Unit :=
  match Snapshot.save w.disk p sync options documents with
  | (.ok (), disk) => .answer () { w with disk := disk }
  | (.error .unwritable, disk) => .fail .unwritable { w with disk := disk }
  | (.error (.storage e), disk) => .fail (.storage e) { w with disk := disk }

end Workspace

/-! ## Failures -/

/-- The text of a failure, for those that have one. -/
def Failure.message? : Failure → Option String
  | .document e => some e.message
  | .query e => some e.message
  | .storage e => some e.message
  | .options (.config e) => some e.message
  | .conflict name openInMemory =>
    some ("store " ++ quoted name ++ " is already open as a " ++
      (if openInMemory then "in-memory" else "persisted") ++ " store")
  | .notFound name => some ("store does not exist: " ++ quoted name)
  | _ => none

end DocStore
