import DocStore.Query

/-!
# Reading queries

`Query.ofValue` turns a value into a query, or names the first thing wrong with it; nothing is
asked of a document before the whole value has been read. A value that is no query means no
document: `Query.admitted?` is then none, and `Query.complaints` is the one warning about it.

Two things end the call instead, with no verdict on the value (`QueryBreak`): a pattern that is
refused for a reason that is not its syntax, and an error whose text cannot be made, since it would
show an integer of too many digits.
-/

namespace DocStore

/-- The operators on a field. -/
inductive FieldOperator where
  | present
  | equal
  | notEqual
  | greater
  | greaterOrEqual
  | less
  | lessOrEqual
  | oneOf
  | noneOf
  | includes
  | like
  | hasType
  deriving DecidableEq

namespace FieldOperator

/-- The sign of an operator in queries. -/
def sign : FieldOperator → String
  | .present => "$exists"
  | .equal => "$eq"
  | .notEqual => "$ne"
  | .greater => "$gt"
  | .greaterOrEqual => "$gte"
  | .less => "$lt"
  | .lessOrEqual => "$lte"
  | .oneOf => "$in"
  | .noneOf => "$nin"
  | .includes => "$includes"
  | .like => "$like"
  | .hasType => "$type"

/-- All operators. -/
def all : List FieldOperator :=
  [.present, .equal, .notEqual, .greater, .greaterOrEqual, .less, .lessOrEqual, .oneOf, .noneOf,
    .includes, .like, .hasType]

/-- The operator with a sign. -/
def ofKey? : Key → Option FieldOperator
  | .text s => all.find? fun op => op.sign == s
  | _ => none

/-- What an operator takes for an operand. -/
def expected : FieldOperator → String
  | .present => "true, false, 1 or 0"
  | .equal => "a scalar"
  | .notEqual => "a scalar"
  | .greater => "a number or a string"
  | .greaterOrEqual => "a number or a string"
  | .less => "a number or a string"
  | .lessOrEqual => "a number or a string"
  | .oneOf => "a list of scalars"
  | .noneOf => "a list of scalars"
  | .includes => "a scalar"
  | .like => "a regular expression string"
  | .hasType => "one of " ++ ", ".intercalate (TypeTag.all.map TypeTag.name)

end FieldOperator

/-- The operators on queries. -/
inductive GroupOperator where
  /-- Conjunction. -/
  | all
  /-- Disjunction. -/
  | any
  /-- Negation. -/
  | except
  deriving DecidableEq

namespace GroupOperator

/-- The sign of an operator in queries. -/
def sign : GroupOperator → String
  | .all => "$and"
  | .any => "$or"
  | .except => "$not"

/-- The operator with a sign. -/
def ofName? (s : String) : Option GroupOperator :=
  [GroupOperator.all, .any, .except].find? fun op => op.sign == s

end GroupOperator

/-- The reasons for which a value is no query. -/
inductive QueryError where
  | notAnObject (got : Value)
  | keyNotText (key : Key)
  /-- The operand of a conjunction or a disjunction is no list. -/
  | notAList (op : GroupOperator) (got : Value)
  /-- A key has the operator sign but is no operator. -/
  | unknownOperator (key : String)
  /-- A field is compared with a list. -/
  | notComparable (field : String)
  /-- A field is tested with something that is no operator. -/
  | unknownFieldOperator (field : String) (key : Key)
  /-- An operator has an operand that it does not take. -/
  | badOperand (field : String) (op : FieldOperator) (got : Value)

/-- The text of a query error. -/
def QueryError.message : QueryError → String
  | .notAnObject got => "the query is not a dict, got " ++ got.kindName
  | .keyNotText key => "query keys must be strings, got " ++ key.literal
  | .notAList op got => op.sign ++ " operand is not a list, got " ++ got.kindName
  | .unknownOperator key => "unknown query operator: " ++ key
  | .notComparable field =>
    "field " ++ quoted field ++ " must be compared to a scalar or an operator set"
  | .unknownFieldOperator field key =>
    "unknown query operator for field " ++ quoted field ++ ": " ++ key.literal
  | .badOperand field op got =>
    op.sign ++ " operand for field " ++ quoted field ++ " must be " ++ op.expected ++ ", got " ++
      got.literal

/-- Whether the text of a query error can be made: it shows no integer of too many digits. -/
def QueryError.fits : QueryError → Bool
  | .keyNotText key => key.fits
  | .unknownFieldOperator _ key => key.fits
  | .badOperand _ _ got => got.fits
  | _ => true

/-- Why the reading of a query ends without a verdict. -/
inductive QueryBreak where
  /-- A pattern is refused for a reason that is not its syntax. -/
  | pattern (e : PatternError)
  /-- The text of an error cannot be made. -/
  | unwritable
  deriving DecidableEq

/-- Why a value could not be read as a query. -/
inductive QueryFault where
  | rejected (e : QueryError)
  | broken (b : QueryBreak)

/-- What comes of an error when its text is made. -/
def QueryError.raised (e : QueryError) : QueryFault :=
  if e.fits then .rejected e else .broken .unwritable

/-! ## Operands -/

namespace Value

/-- The flag that a value is: a truth value, 0 or 1. -/
def flag? : Value → Option Bool
  | .scalar (.bool b) => some b
  | .scalar (.number (.int n)) => if n = 0 then some false else if n = 1 then some true else none
  | _ => none

/-- The bound that a value is. -/
def bound? : Value → Option Bound
  | .scalar (.number n) => some (.number n)
  | .scalar (.text s) => some (.text s)
  | _ => none

/-- The list of scalars that a value is. -/
def scalars? : Value → Option (List Scalar)
  | .list items => items.mapM scalar?
  | _ => none

/-- The type tag that a value names. -/
def namedTag? : Value → Option TypeTag
  | .scalar (.text s) => TypeTag.ofName? s
  | _ => none

/-- The pattern that a value is; none if the value is no text or the pattern breaks the rules of its
syntax. -/
def pattern? : Value → Except PatternError (Option Pattern)
  | .scalar (.text s) =>
    match Pattern.read s with
    | .ok p => .ok (some p)
    | .error .malformed => .ok none
    | .error e => .error e
  | _ => .ok none

end Value

/-- The test that an operator makes with an operand; none if it does not take the operand. -/
def FieldOperator.test? (op : FieldOperator) (v : Value) : Except PatternError (Option Test) :=
  match op with
  | .present => .ok (v.flag?.map .present)
  | .equal => .ok (v.scalar?.map .equal)
  | .notEqual => .ok (v.scalar?.map .notEqual)
  | .greater => .ok (v.bound?.map (.ordered .greater))
  | .greaterOrEqual => .ok (v.bound?.map (.ordered .greaterOrEqual))
  | .less => .ok (v.bound?.map (.ordered .less))
  | .lessOrEqual => .ok (v.bound?.map (.ordered .lessOrEqual))
  | .oneOf => .ok (v.scalars?.map .oneOf)
  | .noneOf => .ok (v.scalars?.map .noneOf)
  | .includes => .ok (v.scalar?.map .includes)
  | .like =>
    match v.pattern? with
    | .ok p => .ok (p.map .like)
    | .error e => .error e
  | .hasType => .ok (v.namedTag?.map .hasType)

namespace Query

/-- Reads one operator of a field. -/
def readTest (field : String) (key : Key) (v : Value) : Except QueryFault Test :=
  match FieldOperator.ofKey? key with
  | none => .error (QueryError.unknownFieldOperator field key).raised
  | some op =>
    match op.test? v with
    | .error e => .error (.broken (.pattern e))
    | .ok none => .error (QueryError.badOperand field op v).raised
    | .ok (some test) => .ok test

/-- Reads the operators of a field in order. -/
def readTests (field : String) : List (Key × Value) → Except QueryFault (List Test)
  | [] => .ok []
  | (key, v) :: rest =>
    match readTest field key v with
    | .error e => .error e
    | .ok test => (readTests field rest).map (test :: ·)

/-- Reads what is asked of a field. -/
def readCondition (field : String) : Value → Except QueryFault Condition
  | .scalar s => .ok (.equals s)
  | .object entries => (readTests field entries).map .passes
  | .list _ => .error (QueryError.notComparable field).raised

mutual

/-- The query that a value is; else the first thing wrong with it. -/
def ofValue : Value → Except QueryFault Query
  | .object entries => (readEntries entries).map .all
  | v => .error (QueryError.notAnObject v).raised

/-- Reads the entries of a query's object in order. -/
def readEntries : List (Key × Value) → Except QueryFault (List Query)
  | [] => .ok []
  | (.text name, v) :: rest =>
    let entry : Except QueryFault Query :=
      match GroupOperator.ofName? name with
      | some .except => (ofValue v).map .except
      | some op =>
        match v with
        | .list items => (readItems items).map (if op = .all then .all else .any)
        | _ => .error (QueryError.notAList op v).raised
      | none =>
        if isOperatorName name then .error (QueryError.unknownOperator name).raised
        else (readCondition name v).map (.field name)
    -- the first entry with a fault decides, so the rest is read only after this one
    entry.bind fun q => (readEntries rest).map (q :: ·)
  | (key, _) :: _ => .error (QueryError.keyNotText key).raised

/-- Reads the operands of a conjunction or a disjunction in order. -/
def readItems : List Value → Except QueryFault (List Query)
  | [] => .ok []
  | v :: rest =>
    match ofValue v with
    | .error e => .error e
    | .ok q => (readItems rest).map (q :: ·)

end

/-! ## Answering a value -/

/-- The query that a value is, or none if it is none. -/
def admitted? (v : Value) : Except QueryBreak (Option Query) :=
  match ofValue v with
  | .ok q => .ok (some q)
  | .error (.rejected _) => .ok none
  | .error (.broken b) => .error b

/-- The warning about a value that is no query. -/
def complaints (v : Value) : List Log.Record :=
  match ofValue v with
  | .error (.rejected e) => [⟨.warning, .query, "query rejected: " ++ e.message⟩]
  | _ => []

/-- Whether a value means a document; a value that is no query means none. -/
def matchesDocument (d : Document) (v : Value) : Except QueryBreak Bool :=
  (admitted? v).map fun q => q.any (·.holds d)

/-- The ids of the documents that a value means. -/
def selectValue (docs : Collection) (v : Value) : Except QueryBreak (List String) :=
  (admitted? v).map fun q => q.elim [] (·.select docs)

/-- The id of the first document that a value means. -/
def selectFirstValue (docs : Collection) (v : Value) : Except QueryBreak (Option String) :=
  (admitted? v).map fun q => q.bind (·.selectFirst docs)

end Query

end DocStore
