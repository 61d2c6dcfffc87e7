import DocStore.Document
import DocStore.Log
import DocStore.Pattern.Matcher

/-!
# Queries

A `Query` says which documents are meant. It is a field condition, or a conjunction, a disjunction
or a negation of queries; the object of a query is the conjunction of its entries. An operator
carries its operand in the form that it needs, so that `Query.holds` has no case to refuse.

`Query.select` gives the ids of the documents that are meant, in the order of the collection.
-/

namespace DocStore

/-! ## Order -/

/-- The order of texts by code point. -/
def textOrder : List Char → List Char → Ordering
  | [], [] => .eq
  | [], _ :: _ => .lt
  | _ :: _, [] => .gt
  | a :: as, b :: bs =>
    if a.toNat < b.toNat then .lt else if b.toNat < a.toNat then .gt else textOrder as bs

/-- What a field may be ordered against. -/
inductive Bound where
  /-- Numbers are ordered by exact value. -/
  | number (n : Number)
  /-- Texts are ordered by code point. -/
  | text (s : String)
  deriving DecidableEq

/-- How a value stands to a bound of its own kind; not-a-number and values of other kinds stand to
no bound. -/
def Bound.order? : Value → Bound → Option Ordering
  | .scalar (.number m), .number n => m.cmp? n
  | .scalar (.text s), .text t => some (textOrder s.toList t.toList)
  | _, _ => none

/-- The ordering operators. -/
inductive Relation where
  | greater
  | greaterOrEqual
  | less
  | lessOrEqual
  deriving DecidableEq

/-- Whether a relation holds between things in an order. -/
def Relation.holds : Relation → Ordering → Bool
  | .greater, o => o == .gt
  | .greaterOrEqual, o => o != .lt
  | .less, o => o == .lt
  | .lessOrEqual, o => o != .gt

/-! ## Tests of a field -/

/-- An operator with its operand. -/
inductive Test where
  /-- The field is there, or is not. -/
  | present (flag : Bool)
  | equal (s : Scalar)
  | notEqual (s : Scalar)
  /-- The field stands in a relation to a bound. -/
  | ordered (relation : Relation) (bound : Bound)
  | oneOf (items : List Scalar)
  | noneOf (items : List Scalar)
  /-- The field is a text that contains a text, or a list that contains a scalar. -/
  | includes (s : Scalar)
  | like (p : Pattern)
  | hasType (t : TypeTag)

/-- Whether a text occurs in another. -/
def occursIn (part : List Char) : List Char → Bool
  | [] => part.isEmpty
  | c :: rest => part.isPrefixOf (c :: rest) || occursIn part rest

/-- Whether a value includes a scalar: a text as a part, a list as an item. -/
def Value.includes : Value → Scalar → Bool
  | .scalar (.text whole), .text part => occursIn part.toList whole.toList
  | .list items, s => items.any fun item => item.strictEq (.scalar s)
  | _, _ => false

/-- Whether the value of a field passes a test. -/
def Test.holds (v : Value) : Test → Bool
  | .present flag => flag
  | .equal s => v.strictEq (.scalar s)
  | .notEqual s => !v.strictEq (.scalar s)
  | .ordered relation bound =>
    match Bound.order? v bound with
    | some o => relation.holds o
    | none => false
  | .oneOf items => items.any fun s => v.strictEq (.scalar s)
  | .noneOf items => !items.any fun s => v.strictEq (.scalar s)
  | .includes s => v.includes s
  | .like p =>
    match v with
    | .scalar (.text s) => p.search s
    | _ => false
  | .hasType t => v.typeTag == t

/-- What a query asks of a field. -/
inductive Condition where
  | equals (s : Scalar)
  /-- The field passes every test. -/
  | passes (tests : List Test)

/-- Whether a field meets a condition. A field that is not there meets one condition only: the test
that it is not there, on its own. -/
def Condition.holds : Condition → Option Value → Bool
  -- even a negated test fails where there is nothing to test
  | .passes [.present false], none => true
  | _, none => false
  | .equals s, some v => v.strictEq (.scalar s)
  | .passes tests, some v => tests.all (·.holds v)

/-! ## Queries -/

/-- Which documents are meant. -/
inductive Query where
  /-- Those whose field meets a condition. -/
  | field (name : String) (condition : Condition)
  /-- Those that every one of several queries means. -/
  | all (queries : List Query)
  /-- Those that at least one of several queries means. -/
  | any (queries : List Query)
  /-- Those that a query does not mean. -/
  | except (query : Query)

namespace Query

mutual

/-- Whether a query means a document. -/
def holds (d : Document) : Query → Bool
  | .field name condition => condition.holds (d.get? name)
  | .all queries => allHold d queries
  | .any queries => anyHolds d queries
  | .except query => !query.holds d

/-- Whether every one of several queries means a document. -/
def allHold (d : Document) : List Query → Bool
  | [] => true
  | q :: rest => q.holds d && allHold d rest

/-- Whether at least one of several queries means a document. -/
def anyHolds (d : Document) : List Query → Bool
  | [] => false
  | q :: rest => q.holds d || anyHolds d rest

end

/-- `allHold` is `List.all`. -/
theorem allHold_eq_all (d : Document) (queries : List Query) :
    allHold d queries = queries.all (·.holds d) := by
  induction queries with
  | nil => simp [allHold]
  | cons q rest ih => simp [allHold, ih]

/-- `anyHolds` is `List.any`. -/
theorem anyHolds_eq_any (d : Document) (queries : List Query) :
    anyHolds d queries = queries.any (·.holds d) := by
  induction queries with
  | nil => simp [anyHolds]
  | cons q rest ih => simp [anyHolds, ih]

/-- The id that a query asks for and nothing else. -/
def soleId? : Query → Option String
  | .all [.field name (.equals (.text s))] => if name = idField then some s else none
  | _ => none

/-- The ids of the documents that a query means, in the order of the collection. A query that asks
for nothing means them all, and one for an id and nothing else is answered by looking that id up. -/
def select (q : Query) (docs : Collection) : List String :=
  match q with
  | .all [] => docs.keys
  | q =>
    match q.soleId? with
    | some id => if docs.contains id then [id] else []
    | none => (docs.entries.filter fun e => q.holds e.2).map Prod.fst

/-- The id of the first document that a query means. -/
def selectFirst (q : Query) (docs : Collection) : Option String :=
  match q.soleId? with
  | some id => if docs.contains id then some id else none
  | none => (docs.entries.find? fun e => q.holds e.2).map Prod.fst

end Query

end DocStore
