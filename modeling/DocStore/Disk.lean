import DocStore.Ids
import DocStore.Path
import DocStore.Table

/-!
# The disk

The files and directories below the root directory, as a value. A path is looked up name by name,
from the root or from the current directory, so that everything on the way must be a directory.

`Disk.replaceFile` writes a file so that its old content stays until the new one is complete: the
directory is made, the content goes to a temporary file beside the target, and that file takes the
target's place. Any of these steps may fail; the temporary file is then removed. Which step fails
next, if any, is part of the disk.
-/

namespace DocStore

-- contents are compared as the core library does, whatever else is imported
attribute [local instance (high)] ByteArray.instDecidableEq

/-- The names on the way from the root directory to a file or a directory. -/
abbrev Location := List String

/-- What stands at a location. -/
inductive Entry where
  | directory
  | file (content : ByteArray)
  deriving DecidableEq

/-- Files and directories, seen from one of them. -/
structure FileSystem where
  /-- What stands where; the root directory itself is left out. -/
  contents : Table Location Entry
  /-- The current directory. -/
  home : Location

/-- The steps of replacing a file. -/
inductive SaveStep where
  | makeDirectory
  | createTemporary
  | write
  /-- Forcing the content to the disk. -/
  | sync
  /-- Putting the temporary file in the place of the target. -/
  | replace
  deriving DecidableEq

/-- Files and directories, with the faults that lie ahead. -/
structure Disk where
  files : FileSystem
  /-- For each replacement to come, the step at which it fails, if it does. After the end of the
  list none fails. -/
  faults : List (Option SaveStep)

/-- The reasons for which nothing is found at a path. -/
inductive LocateError where
  | missing
  | notADirectory
  /-- A name, or the whole path, is too long. -/
  | tooLong
  deriving DecidableEq

namespace FileSystem

/-- The greatest length of a name in bytes. -/
def nameLimit : Nat := 255

/-- The length in bytes from which on a path is too long. -/
def pathLimit : Nat := 4096

/-- By how many bytes the name of a temporary file is longer than that of its target. -/
def temporaryExtra : Nat := 14

/-- Nothing but the root directory. -/
def empty : FileSystem := ⟨.empty, []⟩

/-- What stands at a location. The root directory is always there. -/
def at? (files : FileSystem) (location : Location) : Option Entry :=
  if location = [] then some .directory else files.contents.get? location

/-- Puts something at a location. -/
def put (files : FileSystem) (location : Location) (e : Entry) : FileSystem :=
  { files with contents := files.contents.insert location e }

/-- Takes away what stands at a location. -/
def remove (files : FileSystem) (location : Location) : FileSystem :=
  { files with contents := files.contents.erase location }

/-- Where a path starts. -/
def start (files : FileSystem) (p : Path) : Location :=
  if p.root = .relative then files.home else []

/-- The location that names lead to from another one. Only the last name need not exist. -/
def descend (files : FileSystem) (here : Location) : List String → Except LocateError Location
  | [] => .ok here
  | name :: rest =>
    match files.at? here with
    | none => .error .missing
    | some (.file _) => .error .notADirectory
    | some .directory =>
      if nameLimit < name.utf8ByteSize then .error .tooLong
      else if name = ".." then descend files here.dropLast rest
      else descend files (here ++ [name]) rest

/-- The location that a path leads to. -/
def locate (files : FileSystem) (p : Path) : Except LocateError Location :=
  if pathLimit ≤ p.text.utf8ByteSize then .error .tooLong
  else files.descend (files.start p) p.parts

/-- What stands at a path. -/
def find (files : FileSystem) (p : Path) : Except LocateError Entry :=
  match files.locate p with
  | .error e => .error e
  | .ok location =>
    match files.at? location with
    | some e => .ok e
    | none => .error .missing

/-- Makes the directories that names lead to from a location, as far as they are missing. The answer
says whether all of them are there in the end. -/
def makeDirectories (files : FileSystem) (here : Location) : List String → Bool × FileSystem
  | [] => (files.at? here == some .directory, files)
  | name :: rest =>
    if files.at? here ≠ some .directory ∨ nameLimit < name.utf8ByteSize then (false, files)
    else if name = ".." then makeDirectories files here.dropLast rest
    else match files.at? (here ++ [name]) with
      | some .directory => makeDirectories files (here ++ [name]) rest
      | some (.file _) => (false, files)
      | none => makeDirectories (files.put (here ++ [name]) .directory) (here ++ [name]) rest

/-- The name of a temporary file beside a target. -/
def temporaryName (target : String) (n : Nat) : String :=
  countedId ("." ++ target ++ ".") 8 n ++ ".tmp"

/-- The first temporary name from a number on that is not taken in a directory. -/
def freeName (files : FileSystem) (dir : Location) (target : String) : Nat → Nat → String
  | 0, n => temporaryName target n
  | tries + 1, n =>
    if files.contents.contains (dir ++ [temporaryName target n]) then
      freeName files dir target tries (n + 1)
    else temporaryName target n

/-- A temporary name that is not taken in a directory. -/
def temporary (files : FileSystem) (dir : Location) (target : String) : String :=
  files.freeName dir target files.contents.size 0

/-- Whether a file may take its place at a location: there is a file or nothing. -/
def isReplaceable (files : FileSystem) (location : Location) : Bool :=
  files.at? location != some .directory

end FileSystem

namespace Disk

/-- Puts content in the place of the file at a path whose directory is there. -/
def replaceIn (files : FileSystem) (fault : Option SaveStep) (dir : Location) (p : Path)
    (sync : Bool) (content : ByteArray) : Bool × FileSystem :=
  let target := p.lastName
  let temporary := files.temporary dir target
  if fault = some .createTemporary ∨
      FileSystem.nameLimit < target.utf8ByteSize + FileSystem.temporaryExtra ∨
      FileSystem.pathLimit ≤ p.text.utf8ByteSize + FileSystem.temporaryExtra then
    (false, files)
  else
    let created := files.put (dir ++ [temporary]) (.file ByteArray.empty)
    -- from here on every failure takes the temporary file away again
    if fault = some .write then (false, created.remove (dir ++ [temporary]))
    else
      let written := created.put (dir ++ [temporary]) (.file content)
      if (sync ∧ fault = some .sync) ∨ fault = some .replace ∨ target = "" ∨ target = ".." ∨
          ¬ written.isReplaceable (dir ++ [target]) then
        (false, written.remove (dir ++ [temporary]))
      else
        (true, (written.remove (dir ++ [temporary])).put (dir ++ [target]) (.file content))

/-- Puts content in the place of the file at a path, making its directory first. The answer says
whether that succeeded. -/
def replaceAt (files : FileSystem) (fault : Option SaveStep) (p : Path) (sync : Bool)
    (content : ByteArray) : Bool × FileSystem :=
  if fault = some .makeDirectory ∨ FileSystem.pathLimit ≤ p.parent.text.utf8ByteSize then
    (false, files)
  else match files.makeDirectories (files.start p) p.parent.parts with
    | (false, made) => (false, made)
    | (true, made) =>
      match made.locate p.parent with
      | .error _ => (false, made)
      | .ok dir => replaceIn made fault dir p sync content

/-- Puts content in the place of the file at a path, with the next fault that lies ahead. -/
def replaceFile (d : Disk) (p : Path) (sync : Bool) (content : ByteArray) : Bool × Disk :=
  match d.faults with
  | [] => let r := replaceAt d.files none p sync content; (r.1, ⟨r.2, []⟩)
  | fault :: rest => let r := replaceAt d.files fault p sync content; (r.1, ⟨r.2, rest⟩)

end Disk

end DocStore
