import DocStore.Document
import DocStore.Log

/-!
# Projections

A projection is a mask for the fields of a document: it keeps the fields that it names, or drops
them, or, naming none, keeps all. Kept fields stand in the order of the mask, the fields left by
dropping in the order of the document. The id field is a field like any other.

A value that is no projection leaves nothing of a document. Where the text of the error cannot be
made, since it would show an integer of too many digits, masking has no answer.
-/

namespace DocStore

/-- A mask for the fields of a document. -/
inductive Projection where
  | everything
  | keep (names : List String)
  | drop (names : List String)
  deriving DecidableEq

/-- The reasons for which a value is no projection. -/
inductive ProjectionError where
  | notAnObject (got : Value)
  | keyNotText (key : Key)
  /-- A flag is not one of 1, 0, true and false. -/
  | badFlag (name : String) (got : Value)
  /-- Some fields are to be kept and others to be dropped. -/
  | mixed (got : Value)

/-- The text of a projection error. -/
def ProjectionError.message : ProjectionError → String
  | .notAnObject got => "the projection is not a dict, got " ++ got.kindName
  | .keyNotText key => "projection keys must be strings, got " ++ key.literal
  | .badFlag name got =>
    "projection value for " ++ quoted name ++ " must be 1 or 0, got " ++ got.literal
  | .mixed got => "mixed projection values: " ++ got.literal

/-- Whether the text of a projection error can be made: it shows no integer of too many digits. What
is said of mixed flags is put into words only by those who read it. -/
def ProjectionError.fits : ProjectionError → Bool
  | .keyNotText key => key.fits
  | .badFlag _ got => got.fits
  | _ => true

namespace Projection

/-- The flag that a value is: a truth value, 0 or 1. -/
def flagOf? : Value → Option Bool
  | .scalar (.bool b) => some b
  | .scalar (.number (.int n)) => if n = 0 then some false else if n = 1 then some true else none
  | _ => none

/-- Reads the names with their flags in order. -/
def readFlags : List (Key × Value) → Except ProjectionError (List (String × Bool))
  | [] => .ok []
  | (.text name, v) :: rest =>
    match flagOf? v with
    | none => .error (.badFlag name v)
    | some flag => (readFlags rest).map ((name, flag) :: ·)
  | (key, _) :: _ => .error (.keyNotText key)

/-- The projection that a value is; else the first thing wrong with it. -/
def ofValue : Value → Except ProjectionError Projection
  | .object entries =>
    match readFlags entries with
    | .error e => .error e
    | .ok [] => .ok .everything
    | .ok flags =>
      if flags.all (·.2) then .ok (.keep (flags.map Prod.fst))
      else if flags.any (·.2) then .error (.mixed (.object entries))
      else .ok (.drop (flags.map Prod.fst))
  | v => .error (.notAnObject v)

/-- The named fields of a document, in the order of their names. -/
def pick (d : Document) (names : List String) : List (Key × Value) :=
  names.filterMap fun (name : String) => (d.get? name).map fun v => (.text name, v)

/-- What a projection leaves of a document. -/
def apply (p : Projection) (d : Document) : Document :=
  match p with
  | .everything => d
  | .keep names => Table.ofList (pick d names)
  | .drop names => d.filter fun key _ => !names.any fun name => key = .text name

/-- What a value leaves of a document, if it is a projection. -/
def applyValue? (d : Document) (v : Value) : Except Unwritable (Option Document) :=
  match ofValue v with
  | .ok p => .ok (some (p.apply d))
  | .error e => if e.fits then .ok none else .error .unwritable

/-- The warning about a value that is no projection. -/
def complaints (v : Value) : List Log.Record :=
  match ofValue v with
  | .error e =>
    if e.fits then [⟨.warning, .projection, "projection rejected: " ++ e.message⟩] else []
  | .ok _ => []

end Projection

end DocStore
