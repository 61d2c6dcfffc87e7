import DocStore.Document
import DocStore.Log

/-!
# Updates

An update is an object of operators, each with an object of fields and arguments. It is carried out
as a sequence of steps in its own order: every operator that is known gives one step for each of
its fields. A step that cannot be carried out leaves the document as it is and a warning behind,
and the next one follows.

Two things end the update where it stands (`UpdateFailure`): an integer too large for a double,
where it is to be added to one, and an error whose text cannot be made, since it would show an
integer of too many digits.

`Edit.apply` is one step on a document; `Update.run` is the whole.

Document and update are trees of plain data, as in `DocStore.Value`, with no part in common. An
update that holds the document itself, or a part of it that it changes on the way, lies outside.
Where one list stands in two fields of the document, an update that appends to it shows in both:
`Update.runShared`, in `DocStore.Sharing`, is the update of such a document.
-/

namespace DocStore

/-- The operators of updates. -/
inductive UpdateOperator where
  | increment
  | push
  | rename
  | assign
  | unset
  deriving DecidableEq

namespace UpdateOperator

/-- The sign of an operator in updates. -/
def sign : UpdateOperator → String
  | .increment => "$inc"
  | .push => "$push"
  | .rename => "$rename"
  | .assign => "$set"
  | .unset => "$unset"

/-- The operator with a sign. -/
def ofKey? : Key → Option UpdateOperator
  | .text s => [increment, .push, .rename, .assign, .unset].find? fun op => op.sign == s
  | _ => none

end UpdateOperator

/-- The reasons for which a step of an update cannot be carried out. -/
inductive EditError where
  /-- The id field is not to be changed. -/
  | idField (op : UpdateOperator)
  | badFieldName (op : UpdateOperator) (key : Key)
  /-- What is to be added is no number. -/
  | notANumber (got : Value)
  /-- What is to be added to is no number. -/
  | cannotIncrement (field : Key) (current : Value)
  /-- What is to be appended is no scalar. -/
  | notAScalar (field : Key)
  /-- What is to be appended to is no list. -/
  | cannotPush (field : Key) (current : Value)
  /-- The new name is no text. -/
  | nameNotText (got : Value)
  | renameToId
  /-- The new name is not the name of a field. -/
  | badNewName (name : String)
  | nameTaken (name : String)
  | noSuchField (field : Key)
  | unsupportedValue (field : Key)

/-- The text of an edit error. -/
def EditError.message : EditError → String
  | .idField op => "cannot " ++ op.sign ++ " " ++ DocStore.idField
  | .badFieldName op key => "cannot " ++ op.sign ++ " invalid field name: " ++ key.literal
  | .notANumber got => "cannot $inc with a non-numeric delta: " ++ got.literal
  | .cannotIncrement field current =>
    "cannot $inc field " ++ field.literal ++ " of type " ++ current.kindName
  | .notAScalar field => "cannot $push a non-scalar value to " ++ field.literal
  | .cannotPush field current =>
    "cannot $push to field " ++ field.literal ++ " of type " ++ current.kindName
  | .nameNotText got => "cannot $rename to a non-string name: " ++ got.literal
  | .renameToId => "cannot $rename to " ++ DocStore.idField
  | .badNewName name => "cannot $rename to an invalid name: " ++ quoted name
  | .nameTaken name => "cannot $rename to an existing name: " ++ quoted name
  | .noSuchField field => "cannot $rename non-existing field: " ++ field.literal
  | .unsupportedValue field =>
    "cannot $set field " ++ field.literal ++ " to an unsupported value"

/-- Whether the text of an edit error can be made: it shows no integer of too many digits. The field
that stands in the other errors has passed for a name. -/
def EditError.fits : EditError → Bool
  | .badFieldName _ key => key.fits
  | .notANumber got => got.fits
  | .nameNotText got => got.fits
  | _ => true

/-- The reasons for which an update ends early. -/
inductive UpdateFailure where
  /-- An integer is too large for the double that it is to be added to. -/
  | overflow
  /-- The text of an error cannot be made. -/
  | unwritable
  deriving DecidableEq

/-! ## One step -/

/-- One step of an update: an operator on a field with an argument. -/
structure Edit where
  op : UpdateOperator
  field : Key
  argument : Value

/-- What comes of a step. -/
inductive EditResult where
  | changed (d : Document)
  /-- There is nothing to do. -/
  | unchanged
  /-- The step cannot be carried out. -/
  | refused (e : EditError)
  /-- The step ends the update. -/
  | failed (f : UpdateFailure)

/-- What comes of an error when its text is made. -/
def EditError.raised (e : EditError) : EditResult :=
  if e.fits then .refused e else .failed .unwritable

namespace Edit

/-- Adds to a number; a missing field is taken for zero. -/
def increment (d : Document) (field : Key) (delta : Value) : EditResult :=
  match delta.number? with
  | none => (EditError.notANumber delta).raised
  | some n =>
    match d.get? field with
    | none => .changed (d.insert field delta)
    | some current =>
      match current.number? with
      | none => (EditError.cannotIncrement field current).raised
      | some m =>
        match m.add? n with
        | some sum => .changed (d.insert field (.scalar (.number sum)))
        | none => .failed .overflow

/-- Appends to a list; a missing field is taken for the empty one. -/
def push (d : Document) (field : Key) (item : Value) : EditResult :=
  if !item.isScalar then (EditError.notAScalar field).raised
  else match d.get? field with
    | none => .changed (d.insert field (.list [item]))
    | some (.list items) => .changed (d.insert field (.list (items ++ [item])))
    | some current => (EditError.cannotPush field current).raised

/-- Renames a field; under its new name it goes last. -/
def rename (d : Document) (field : Key) (newName : Value) : EditResult :=
  match newName with
  | .scalar (.text name) =>
    if name = idField then EditError.renameToId.raised
    else if !isFieldName name then (EditError.badNewName name).raised
    else if d.contains name then (EditError.nameTaken name).raised
    else match d.get? field with
      | none => (EditError.noSuchField field).raised
      | some v => .changed ((d.insert name v).erase field)
  | v => (EditError.nameNotText v).raised

/-- Writes a field. -/
def assign (d : Document) (field : Key) (v : Value) : EditResult :=
  if v.isStorable then .changed (d.insert field v) else (EditError.unsupportedValue field).raised

/-- Removes a field, if the flag counts as true. -/
def unset (d : Document) (field : Key) (flag : Value) : EditResult :=
  if flag.isTruthy && d.contains field then .changed (d.erase field) else .unchanged

/-- Carries out a step. The id field and keys that are not the name of a field are out of reach of
every operator. -/
def apply (e : Edit) (d : Document) : EditResult :=
  if e.field = .text idField then (EditError.idField e.op).raised
  else if !e.field.isFieldName then (EditError.badFieldName e.op e.field).raised
  else match e.op with
    | .increment => increment d e.field e.argument
    | .push => push d e.field e.argument
    | .rename => rename d e.field e.argument
    | .assign => assign d e.field e.argument
    | .unset => unset d e.field e.argument

end Edit

/-! ## The whole update -/

/-- What an update has in store, in order. -/
inductive UpdateStep where
  /-- A key that is no operator. -/
  | unknown (key : Key)
  /-- An operator whose operand is no object. -/
  | badOperand (op : UpdateOperator) (got : Value)
  /-- A step on a field. -/
  | edit (e : Edit)

/-- The reasons for the warnings of an update. -/
inductive UpdateWarning where
  | notAnObject (got : Value)
  | noOperators
  | unknownOperator (key : Key)
  | operandNotAnObject (op : UpdateOperator) (got : Value)
  | skipped (e : EditError)
  /-- None of the keys is an operator. -/
  | nothingRecognized (keys : List Key)

/-- The text of a warning. -/
def UpdateWarning.message : UpdateWarning → String
  | .notAnObject got => "update rejected: the update is not a dict, got " ++ got.kindName
  | .noOperators => "update rejected: the update has no operators"
  | .unknownOperator key => "unknown update operator skipped: " ++ key.literal
  | .operandNotAnObject op got => op.sign ++ " operand is not a dict, got " ++ got.kindName
  | .skipped e => "update skipped: " ++ e.message
  | .nothingRecognized keys =>
    "update rejected: no recognized operators in [" ++ ", ".intercalate (keys.map Key.literal) ++
      "]"

/-- How far an update has come. -/
structure UpdateProgress where
  document : Document
  /-- Whether some step has changed it. -/
  changed : Bool
  /-- The warnings so far. -/
  warnings : List UpdateWarning
  /-- Why the update has ended early, if it has. -/
  failure : Option UpdateFailure

namespace UpdateProgress

/-- Before the first step. -/
def start (d : Document) : UpdateProgress := ⟨d, false, [], none⟩

/-- Adds a warning. -/
def warn (p : UpdateProgress) (w : UpdateWarning) : UpdateProgress :=
  { p with warnings := p.warnings ++ [w] }

/-- Takes one step. -/
def advance (p : UpdateProgress) (s : UpdateStep) : UpdateProgress :=
  if p.failure.isSome then p
  else match s with
    | .unknown key => p.warn (.unknownOperator key)
    | .badOperand op got => p.warn (.operandNotAnObject op got)
    | .edit e =>
      match e.apply p.document with
      | .changed d => { p with document := d, changed := true }
      | .unchanged => p
      | .refused error => p.warn (.skipped error)
      | .failed f => { p with failure := some f }

end UpdateProgress

namespace Update

/-- The steps of one entry of an update. -/
def entrySteps : Key × Value → List UpdateStep
  | (key, operand) =>
    match UpdateOperator.ofKey? key with
    | none => [.unknown key]
    | some op =>
      match operand with
      | .object entries => entries.map fun e => .edit ⟨op, e.1, e.2⟩
      | got => [.badOperand op got]

/-- Whether a key of an update is an operator. -/
def isRecognized (e : Key × Value) : Bool := (UpdateOperator.ofKey? e.1).isSome

/-- The steps of an update, in order. -/
def steps : Value → List UpdateStep
  | .object entries => entries.flatMap entrySteps
  | _ => []

/-- The warning at the end of an update without operators. One that ends early has had an operator,
so that it has none. -/
def closing : Value → List UpdateWarning
  | .object [] => [.noOperators]
  | .object entries =>
    if entries.any isRecognized then [] else [.nothingRecognized (entries.map Prod.fst)]
  | got => [.notAnObject got]

/-- Carries out an update on a document. -/
def run (update : Value) (d : Document) : UpdateProgress :=
  let p := (steps update).foldl UpdateProgress.advance (UpdateProgress.start d)
  { p with warnings := p.warnings ++ closing update }

/-- The log records of an update. -/
def records (p : UpdateProgress) : List Log.Record :=
  p.warnings.map fun w => ⟨.warning, .update, w.message⟩

end Update

end DocStore
