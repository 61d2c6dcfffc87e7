import DocStore.Proofs.QueryReading
import DocStore.Query.Evaluation

/-!
# Values that can be put to every document

Reading and evaluation are two passes over one value, which tell the operators apart in ways of
their own. A value that reads as a query is safe to evaluate: on every document, whatever it holds,
the evaluation ends without a fault and answers as the query does.

## Key results

- `Query.Operand.evaluate_eq`: an operator has an answer for every value when its operand is of its
  kind
- `Query.evaluate_of_accepted`: an accepted value has an answer on every document
-/

namespace DocStore

namespace Query

/-! ## Operators -/

/-- `ordered` sees to it that both sides are numbers, where one of them is. -/
private theorem ordered_number (r : Relation) (v : Value) (n : Number) :
    v.ordered r (.scalar (.number n)) = .ok ((Test.ordered r (.number n)).holds v) := by
  cases v with
  | scalar s =>
    cases s with
    | number m =>
      simp only [Value.ordered, Value.sameOrderKind, Value.isNumber, Value.compare, Test.holds,
        Bound.order?]
      -- a not-a-number on one side has no order, and the relation does not hold
      cases m.cmp? n <;> simp
    | _ => rfl
  | _ => rfl

/-- `ordered` sees to it that both sides are texts, where one of them is. -/
private theorem ordered_text (r : Relation) (v : Value) (s : String) :
    v.ordered r (.text s) = .ok ((Test.ordered r (.text s)).holds v) := by
  cases v with
  | scalar t =>
    cases t with
    | text t => simp [Value.ordered, Value.sameOrderKind, Value.isText, Value.compare, Test.holds,
        Bound.order?]
    | _ => rfl
  | _ => rfl

/-- `evaluate` of an operator that asks for an order compares. -/
private theorem evaluate_of_relation? {op : FieldOperator} {r : Relation}
    (order : op.relation? = some r) (v w : Value) : op.evaluate v w = v.ordered r w := by
  cases op <;> cases order <;> rfl

/-- `memberOf` a list of scalars: one of them is strictly equal. -/
private theorem memberOf_scalars (v : Value) (items : List Scalar) :
    v.memberOf (.list (items.map .scalar)) = .ok (items.any fun s => v.strictEq (.scalar s)) := by
  simp [Value.memberOf, List.any_map, Function.comp_def]

/-- `contains` of a scalar has an answer for every value. -/
private theorem contains_scalar (v : Value) (s : Scalar) :
    v.contains (.scalar s) = .ok (v.includes s) := by
  cases v with
  | scalar t =>
    cases t with
    | text whole => cases s <;> rfl
    | _ => rfl
  | _ => rfl

/-- `isLike` a pattern that compiles has an answer for every value. -/
private theorem isLike_text {s : String} {p : Pattern} (compiles : Pattern.read s = .ok p)
    (v : Value) :
    v.isLike (.text s) = .ok ((Test.like p).holds v) := by
  cases v with
  | scalar t =>
    cases t with
    | text t => simp [Value.isLike, Value.foundIn, compiles, Test.holds]
    | _ => rfl
  | _ => rfl

/-- `same` tells the names of type tags apart. -/
private theorem same_name (t t' : TypeTag) :
    (Value.text t.name).same (.text t'.name) = (t == t') := by
  cases t <;> cases t' <;> rfl

/-- `evaluate` has an answer for every value, if the operand is one of the operator's kind. -/
theorem Operand.evaluate_eq {op : FieldOperator} {w : Value} {t : Test} (h : Operand op w t)
    (v : Value) : op.evaluate v w = .ok (t.holds v) := by
  cases h with
  | flag b => rfl
  | flagZero => rfl
  | flagOne => rfl
  | equal s => rfl
  | notEqual s => rfl
  | number order n => rw [evaluate_of_relation? order, ordered_number]
  | text order s => rw [evaluate_of_relation? order, ordered_text]
  | oneOf items => exact memberOf_scalars v items
  | noneOf items => simp [FieldOperator.evaluate, memberOf_scalars, Except.map, Test.holds]
  | includes s => exact contains_scalar v s
  | pattern compiles => exact isLike_text compiles v
  | tag t => exact congrArg Except.ok (same_name v.typeTag t)

/-! ## Fields -/

/-- `evaluateTests` has an answer where the tests have been read: whether all of them hold. -/
private theorem evaluateTests_of_readTests {field : String} (v : Value) {tests : List (Key × Value)}
    {ts : List Test} (h : readTests field tests = .ok ts) :
    evaluateTests v tests = .ok (ts.all (·.holds v)) := by
  induction tests generalizing ts with
  | nil =>
    cases h
    rfl
  | cons entry rest ih =>
    obtain ⟨key, w⟩ := entry
    rw [readTests_cons] at h
    obtain ⟨t, ts', htest, hrest, rfl⟩ := bind_map_cons_eq_ok h
    obtain ⟨op, rfl, operand⟩ := readTest_eq_ok_iff.1 htest
    simp only [evaluateTests, FieldOperator.ofKey?_eq_some_iff.2 rfl, operand.evaluate_eq v,
      Except.bind, ih hrest]
    -- the first test that does not hold ends the evaluation
    cases ht : t.holds v <;> simp [ht]

/-- `asksAbsence` knows by its flag the test that a field is not there. -/
private theorem Operand.asksAbsence_eq {op : FieldOperator} {w : Value} {t : Test}
    (h : Operand op w t) :
    asksAbsence [(.text op.sign, w)] = (Condition.passes [t]).holds none := by
  cases h with
  | flag b => cases b <;> rfl
  | number order n => cases op <;> cases order <;> rfl
  | text order s => cases op <;> cases order <;> rfl
  | _ => rfl

/-- `asksAbsence` holds of the tests that absence passes. -/
private theorem asksAbsence_of_readTests {field : String} {tests : List (Key × Value)}
    {ts : List Test} (h : readTests field tests = .ok ts) :
    asksAbsence tests = (Condition.passes ts).holds none := by
  cases tests with
  | nil =>
    cases h
    rfl
  | cons entry rest =>
    obtain ⟨key, w⟩ := entry
    rw [readTests_cons] at h
    obtain ⟨t, ts', htest, hrest, rfl⟩ := bind_map_cons_eq_ok h
    obtain ⟨op, rfl, operand⟩ := readTest_eq_ok_iff.1 htest
    cases rest with
    | nil =>
      cases hrest
      exact operand.asksAbsence_eq
    | cons entry' rest =>
      -- two tests at least, and absence passes none of several
      obtain ⟨key', w'⟩ := entry'
      rw [readTests_cons] at hrest
      obtain ⟨t', ts', -, -, rfl⟩ := bind_map_cons_eq_ok hrest
      cases t with
      | present flag => cases flag <;> rfl
      | _ => rfl

/-- `evaluateField` has an answer where the condition has been read: whether it holds of the field.
-/
private theorem evaluateField_of_readCondition {name : String} {asked : Value} {c : Condition}
    (d : Document) (h : readCondition name asked = .ok c) :
    evaluateField d (.text name) asked = .ok (c.holds (d.get? name)) := by
  cases asked with
  | scalar s =>
    cases h
    unfold evaluateField
    cases d.get? (.text name) <;> rfl
  | list items => cases h
  | object tests =>
    obtain ⟨ts, hts, rfl⟩ := exists_of_map_eq_ok h
    unfold evaluateField
    -- without the field the tests are asked for its absence, with it each is asked for its value
    cases d.get? (.text name) with
    | none => exact congrArg Except.ok (asksAbsence_of_readTests hts)
    | some v => simp [evaluateTests_of_readTests v hts, Condition.holds]

/-! ## Queries -/

/-- A conjunction that ends where its first part does not hold is the `&&` of both. -/
private theorem bind_and {b c : Bool} {s : Except EvaluationFault Bool} (h : s = .ok c) :
    ((.ok b : Except EvaluationFault Bool).bind fun met => if met then s else .ok false) =
      .ok (b && c) := by
  cases b <;> simp [Except.bind, h]

/-- A disjunction that ends where its first part holds is the `||` of both. -/
private theorem bind_or {b c : Bool} {s : Except EvaluationFault Bool} (h : s = .ok c) :
    ((.ok b : Except EvaluationFault Bool).bind fun met => if met then .ok true else s) =
      .ok (b || c) := by
  cases b <;> simp [Except.bind, h]

/-- Whether a document meets one entry of a query. -/
def evaluateClause (d : Document) (key : Key) (v : Value) : Except EvaluationFault Bool :=
  if key = .text GroupOperator.all.sign then
    match v with
    | .list items => evaluateAll d items
    | _ => .error (.notAList v)
  else if key = .text GroupOperator.any.sign then
    match v with
    | .list items => evaluateAny d items
    | _ => .error (.notAList v)
  else if key = .text GroupOperator.except.sign then (evaluate d v).map (!·)
  else evaluateField d key v

/-- `evaluateEntries` evaluates the first entry, and the others if it is met. -/
private theorem evaluateEntries_cons (d : Document) (key : Key) (v : Value)
    (rest : List (Key × Value)) :
    evaluateEntries d ((key, v) :: rest) =
      (evaluateClause d key v).bind fun met =>
        if met then evaluateEntries d rest else .ok false := by
  cases v <;> rfl

/-- `evaluateClause` tells the three operators on queries, and all other names, apart as
`readClause` does. -/
private theorem evaluateClause_of_readClause {d : Document} {name : String} {v : Value} {q : Query}
    (h : readClause name v = .ok q)
    (hquery : ∀ q, ofValue v = .ok q → evaluate d v = .ok (q.holds d))
    (hitems : ∀ items qs, v = .list items → readItems items = .ok qs →
      evaluateAll d items = .ok (allHold d qs) ∧ evaluateAny d items = .ok (anyHolds d qs)) :
    evaluateClause d (.text name) v = .ok (q.holds d) := by
  unfold readClause at h
  rcases ofName?_cases name with ⟨rfl, hop⟩ | ⟨rfl, hop⟩ | ⟨rfl, hop⟩ | ⟨hjunction, hnot, hop⟩
  -- what has been read is a list of queries, so there is a list to evaluate
  · rw [hop] at h
    cases v with
    | list items =>
      obtain ⟨qs, hqs, rfl⟩ := exists_of_map_eq_ok h
      exact (hitems items qs rfl hqs).1
    | _ => cases h
  · rw [hop] at h
    cases v with
    | list items =>
      obtain ⟨qs, hqs, rfl⟩ := exists_of_map_eq_ok h
      exact (hitems items qs rfl hqs).2
    | _ => cases h
  · rw [hop] at h
    obtain ⟨q, hq, rfl⟩ := exists_of_map_eq_ok h
    have hclause : evaluateClause d (.text "$not") v = (evaluate d v).map (!·) := by
      simp [evaluateClause, GroupOperator.sign]
    rw [hclause, hquery q hq]
    rfl
  · rw [hop] at h
    dsimp only at h
    split at h
    · cases h
    · obtain ⟨c, hc, rfl⟩ := exists_of_map_eq_ok h
      have hclause : evaluateClause d (.text name) v = evaluateField d (.text name) v := by
        simp only [not_or] at hjunction
        simp [evaluateClause, GroupOperator.sign, hjunction, hnot]
      rw [hclause, evaluateField_of_readCondition d hc]
      rfl

mutual

/-- `evaluate` has an answer where `ofValue` has read a query: whether the query holds. -/
private theorem evaluate_ofValue (d : Document) : ∀ (v : Value) (q : Query), ofValue v = .ok q →
    evaluate d v = .ok (q.holds d)
  | .scalar s, q, h => nomatch h
  | .list items, q, h => nomatch h
  | .object entries, q, h => by
    obtain ⟨qs, hqs, rfl⟩ := exists_of_map_eq_ok h
    exact evaluateEntries_of_readEntries d entries qs hqs

/-- `evaluateEntries` has an answer where `readEntries` has read queries: whether all hold. -/
private theorem evaluateEntries_of_readEntries (d : Document) : ∀ (entries : List (Key × Value))
    (qs : List Query), readEntries entries = .ok qs →
    evaluateEntries d entries = .ok (allHold d qs)
  | [], qs, h => by
    cases h
    rfl
  | (.text name, v) :: rest, qs, h => by
    rw [readEntries_cons] at h
    obtain ⟨q, qs', hq, hrest, rfl⟩ := bind_map_cons_eq_ok h
    -- the clause at the front, with the groups in it by the other two of the mutual induction
    have hclause : evaluateClause d (.text name) v = .ok (q.holds d) :=
      evaluateClause_of_readClause hq (evaluate_ofValue d v)
        fun items qs _ => evaluateItems_of_readItems d items qs
    rw [evaluateEntries_cons, hclause]
    exact bind_and (evaluateEntries_of_readEntries d rest qs' hrest)
  | (.int n, v) :: rest, qs, h => nomatch h
  | (.null, v) :: rest, qs, h => nomatch h

/-- `evaluateAll` and `evaluateAny` have answers where `readItems` has read queries. -/
private theorem evaluateItems_of_readItems (d : Document) :
    ∀ (items : List Value) (qs : List Query),
    readItems items = .ok qs →
    evaluateAll d items = .ok (allHold d qs) ∧ evaluateAny d items = .ok (anyHolds d qs)
  | [], qs, h => by
    cases h
    exact ⟨rfl, rfl⟩
  | v :: rest, qs, h => by
    rw [readItems_cons] at h
    obtain ⟨q, qs', hq, hrest, rfl⟩ := bind_map_cons_eq_ok h
    obtain ⟨hall, hany⟩ := evaluateItems_of_readItems d rest qs' hrest
    rw [evaluateAll, evaluateAny, evaluate_ofValue d v q hq]
    exact ⟨bind_and hall, bind_or hany⟩

end

/-- `evaluate` has an answer on an accepted value for every document, the one that is given. It goes
without faults because the whole value keeps to the grammar, also where no document leads, and every
pattern in it compiles. -/
theorem evaluate_of_accepted {v : Value} {q : Query} (h : ofValue v = .ok q) (d : Document) :
    IsQuery v ∧ (∀ s, HasPattern s v → ∃ p, Pattern.read s = .ok p) ∧
    evaluate d v = .ok (q.holds d) ∧ matchesDocument d v = .ok (q.holds d) := by
  have hquery : IsQuery v := exists_ofValue_iff.1 ⟨q, h⟩
  refine ⟨hquery, fun s inside => hquery.compiles inside, evaluate_ofValue d v q h, ?_⟩
  simp [matchesDocument, admitted?, h, Except.map]

/-- Operands of many kinds. -/
def mixedQuery : Value :=
  .object [
    (.text "kind", .object [(.text "$gt", .text "b"), (.text "$ne", .null)]),
    (.text "$or", .list [
      .object [(.text "name", .object [(.text "$like", .text "^a")])],
      .object [(.text "$not", .object [(.text "tags",
        .object [(.text "$in", .list [.int 1, .text "x"])])])]]),
    (.text "gone", .object [(.text "$exists", .int 0)]),
    (.text "rank", .object [(.text "$lt", .int 2)])]

/-- Fields of kinds that the operands are not of. -/
def mixedDocument : Document :=
  Table.ofList [(.text "kind", .text "c"), (.text "name", .int 5),
    (.text "tags", .object [(.text "a", .list [.int 1])]), (.text "rank", .bool true)]

/-- `evaluate` of `mixedQuery` on `mixedDocument`: no fault, though the fields are of other kinds
than the operands. -/
theorem evaluate_mixedQuery : ∃ q, ofValue mixedQuery = .ok q ∧
    IsQuery mixedQuery ∧ (∀ s, HasPattern s mixedQuery → ∃ p, Pattern.read s = .ok p) ∧
    evaluate mixedDocument mixedQuery = .ok (q.holds mixedDocument) ∧
    matchesDocument mixedDocument mixedQuery = .ok (q.holds mixedDocument) ∧
    q.holds mixedDocument = false := by
  obtain ⟨p, hp⟩ : ∃ p, Pattern.read "^a" = .ok p :=
    Pattern.refusal?_eq_none_iff.1 (by decide +kernel)
  -- the pattern compiles, so the whole query is read
  have h : ofValue mixedQuery = .ok (.all [
      .field "kind" (.passes [.ordered .greater (.text "b"), .notEqual .null]),
      .any [.all [.field "name" (.passes [.like p])],
        .all [.except (.all [.field "tags"
          (.passes [.oneOf [.number (.int 1), .text "x"]])])]],
      .field "gone" (.passes [.present false]),
      .field "rank" (.passes [.ordered .less (.number (.int 2))])]) := by
    simp [mixedQuery, ofValue, readEntries, readItems, GroupOperator.ofName?, GroupOperator.sign,
      isOperatorName, readCondition, readTests, readTest, FieldOperator.ofKey?, FieldOperator.all,
      FieldOperator.sign, FieldOperator.test?, Value.scalar?, Value.scalars?, Value.bound?,
      Value.flag?, Value.pattern?, hp, Except.map, Except.bind]
  obtain ⟨hquery, hpatterns, hevaluate, hmatches⟩ := evaluate_of_accepted h mixedDocument
  exact ⟨_, h, hquery, hpatterns, hevaluate, hmatches, rfl⟩

end Query

end DocStore
