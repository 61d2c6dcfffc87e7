import DocStore.Query.Reading

/-!
# Putting a value to a document

Once a value has been read as a query, it can be put to a document as it stands: `Query.evaluate`
goes over the value itself and looks each operator up again. Nothing is checked on the way. What
the evaluation has no answer for ends it with an `EvaluationFault`, so it is safe on values that
have been read and on no others.
-/

namespace DocStore

/-- What the evaluation of a value has no answer for. -/
inductive EvaluationFault where
  /-- A query that is no object. -/
  | notAnObject (got : Value)
  /-- Something that is no list, where every member of a list is asked for. -/
  | notAList (got : Value)
  /-- A field is tested with something that is no operator. -/
  | unknownOperator (key : Key)
  /-- The order of two values that are not both numbers and not both texts. -/
  | unordered (a b : Value)
  /-- Something that is no text, where a text is searched for. -/
  | notAText (got : Value)
  /-- A pattern that does not compile. -/
  | pattern (e : PatternError)

namespace Value

/-! ## Tests on values -/

/-- Whether two values stand in a relation. Not-a-number stands in none. -/
def compare (relation : Relation) : Value → Value → Except EvaluationFault Bool
  | .scalar (.number m), .scalar (.number n) => .ok ((m.cmp? n).any relation.holds)
  | .scalar (.text s), .scalar (.text t) => .ok (relation.holds (textOrder s.toList t.toList))
  | a, b => .error (.unordered a b)

/-- Whether the value is a text. -/
def isText : Value → Bool
  | .scalar (.text _) => true
  | _ => false

/-- Whether two values are of one kind that has an order. -/
def sameOrderKind (a b : Value) : Bool := (a.isNumber && b.isNumber) || (a.isText && b.isText)

/-- Whether two values are of one kind and stand in a relation. -/
def ordered (relation : Relation) (a b : Value) : Except EvaluationFault Bool :=
  if sameOrderKind a b then compare relation a b else .ok false

/-- Whether a value is in a list. -/
def memberOf (v : Value) : Value → Except EvaluationFault Bool
  | .list items => .ok (items.any v.strictEq)
  | got => .error (.notAList got)

/-- Whether a text contains a value. -/
def textContains (whole : String) : Value → Except EvaluationFault Bool
  | .scalar (.text part) => .ok (occursIn part.toList whole.toList)
  | got => .error (.notAText got)

/-- Whether a value contains another: a text as a part, a list as an item. -/
def contains (v operand : Value) : Except EvaluationFault Bool :=
  match v with
  | .scalar (.text whole) => if operand.isText then textContains whole operand else .ok false
  | .list items => .ok (items.any (·.strictEq operand))
  | _ => .ok false

/-- Whether a pattern is found in a text. -/
def foundIn (s : String) : Value → Except EvaluationFault Bool
  | .scalar (.text pattern) =>
    match Pattern.read pattern with
    | .ok p => .ok (p.search s)
    | .error e => .error (.pattern e)
  | got => .error (.notAText got)

/-- Whether a value is a text in which a pattern is found. -/
def isLike (v operand : Value) : Except EvaluationFault Bool :=
  match v with
  | .scalar (.text s) => foundIn s operand
  | _ => .ok false

end Value

/-- Whether a value passes the test of an operator with an operand. -/
def FieldOperator.evaluate (op : FieldOperator) (v operand : Value) :
    Except EvaluationFault Bool :=
  match op with
  | .present => .ok operand.isTruthy
  | .equal => .ok (v.strictEq operand)
  | .notEqual => .ok (!v.strictEq operand)
  | .greater => v.ordered .greater operand
  | .greaterOrEqual => v.ordered .greaterOrEqual operand
  | .less => v.ordered .less operand
  | .lessOrEqual => v.ordered .lessOrEqual operand
  | .oneOf => v.memberOf operand
  | .noneOf => (v.memberOf operand).map (!·)
  | .includes => v.contains operand
  | .like => v.isLike operand
  | .hasType => .ok ((Value.text v.typeTag.name).same operand)

namespace Query

/-! ## Fields -/

/-- Whether the tests of a field ask for nothing but that it is not there. -/
def asksAbsence : List (Key × Value) → Bool
  | [(key, operand)] => key == .text FieldOperator.present.sign && !operand.isTruthy
  | _ => false

/-- Whether a value passes every one of several tests; the first that it fails is the last made. -/
def evaluateTests (v : Value) : List (Key × Value) → Except EvaluationFault Bool
  | [] => .ok true
  | (key, operand) :: rest =>
    match FieldOperator.ofKey? key with
    | none => .error (.unknownOperator key)
    | some op =>
      (op.evaluate v operand).bind fun passed =>
        if passed then evaluateTests v rest else .ok false

/-- Whether a document meets what is asked of a field. -/
def evaluateField (d : Document) (key : Key) (asked : Value) : Except EvaluationFault Bool :=
  match d.get? key, asked with
  | none, .object tests => .ok (asksAbsence tests)
  | none, _ => .ok false
  | some v, .object tests => evaluateTests v tests
  | some v, _ => .ok (v.strictEq asked)

/-! ## Queries -/

mutual

/-- Whether a value, taken for a query, means a document. -/
def evaluate (d : Document) : Value → Except EvaluationFault Bool
  | .object entries => evaluateEntries d entries
  | got => .error (.notAnObject got)

/-- Whether a document meets every entry of a query; the first that it fails is the last asked. -/
def evaluateEntries (d : Document) : List (Key × Value) → Except EvaluationFault Bool
  | [] => .ok true
  | (key, v) :: rest =>
    -- a key that begins with the operator sign but is none of the three is the name of a field here
    let clause : Except EvaluationFault Bool :=
      if key = .text GroupOperator.all.sign then
        match v with
        | .list items => evaluateAll d items
        | _ => .error (.notAList v)
      else if key = .text GroupOperator.any.sign then
        match v with
        | .list items => evaluateAny d items
        | _ => .error (.notAList v)
      else if key = .text GroupOperator.except.sign then (evaluate d v).map (!·)
      else evaluateField d key v
    clause.bind fun met => if met then evaluateEntries d rest else .ok false

/-- Whether every one of several queries means a document. -/
def evaluateAll (d : Document) : List Value → Except EvaluationFault Bool
  | [] => .ok true
  | v :: rest => (evaluate d v).bind fun met => if met then evaluateAll d rest else .ok false

/-- Whether at least one of several queries means a document. -/
def evaluateAny (d : Document) : List Value → Except EvaluationFault Bool
  | [] => .ok false
  | v :: rest => (evaluate d v).bind fun met => if met then .ok true else evaluateAny d rest

end

end Query

end DocStore
