import DocStore.Proofs.SelectionAlgebra

/-!
# What is asked of one field

A query may ask one thing of one field: that it is a scalar, or that it passes tests. Several tests
of a field are the conjunction of single tests. That this is so takes an argument for a field that
is not there: such a field passes one test only, and that one only on its own. But an object has no
key twice, so of several tests one at least is another test, and fails alone as well.

## Key results

- `Query.matchesDocument_asking`, `Query.matchesDocument_testing`: what such a query means
- `Query.holds_passes_eq_all`: a field passes several tests just where it passes each of them
- `Query.matchesDocument_asking_eq_oneByOne`: the same for values, with the empty set of tests and
  the tests for presence
-/

namespace DocStore

namespace Query

variable {d : Document} {name : String}

/-! ## Queries about one field -/

/-- A question is answered, with yes just where something is the case. -/
def Tells (answer : Except QueryBreak Bool) (p : Prop) : Prop :=
  ∃ b, answer = .ok b ∧ (b = true ↔ p)

section Tells

variable {answer : Except QueryBreak Bool} {p : Prop}

/-- `Tells` means yes exactly where it is so. -/
theorem Tells.eq_true_iff (h : Tells answer p) : answer = .ok true ↔ p := by
  obtain ⟨b, rfl, hb⟩ := h
  rw [Except.ok.injEq, hb]

/-- `Tells` means no exactly where it is not so. -/
theorem Tells.eq_false_iff (h : Tells answer p) : answer = .ok false ↔ ¬ p := by
  obtain ⟨b, rfl, hb⟩ := h
  rw [Except.ok.injEq, ← hb, Bool.not_eq_true]

/-- An answer `Tells` everything that comes to the same. -/
theorem Tells.congr {q : Prop} (h : Tells answer p) (hpq : p ↔ q) : Tells answer q := by
  obtain ⟨b, hanswer, hb⟩ := h
  exact ⟨b, hanswer, hb.trans hpq⟩

end Tells

/-- The query that asks one thing of one field. -/
def asking (name : String) (asked : Value) : Value := .object [(.text name, asked)]

/-- The query that makes one test of a field. -/
def testing (name : String) (op : FieldOperator) (operand : Value) : Value :=
  asking name (.object [(.text op.sign, operand)])

/-- `readClause` reads an entry under the name of a field by `readCondition`. -/
private theorem readClause_of_isField (isField : name.toList.head? ≠ some '$') (v : Value) :
    readClause name v = (readCondition name v).map (.field name) := by
  -- no group has such a name
  rcases ofName?_cases name with ⟨rfl, -⟩ | ⟨rfl, -⟩ | ⟨rfl, -⟩ | ⟨-, -, hop⟩
  · exact absurd rfl isField
  · exact absurd rfl isField
  · exact absurd rfl isField
  · simp [readClause, hop, isOperatorName, isField]

/-- `ofValue` reads a query about one field by `readCondition`. -/
private theorem ofValue_asking (isField : name.toList.head? ≠ some '$') (asked : Value) :
    ofValue (asking name asked) =
      (readCondition name asked).map fun c => .all [.field name c] := by
  rw [asking, ofValue, readEntries_cons, readClause_of_isField isField]
  cases readCondition name asked <;> rfl

/-- Where `readCondition` reads what is asked, `ofValue` reads the query. -/
private theorem ofValue_asking_of_readCondition (isField : name.toList.head? ≠ some '$')
    {asked : Value} {c : Condition} (h : readCondition name asked = .ok c) :
    ofValue (asking name asked) = .ok (.all [.field name c]) := by
  rw [ofValue_asking isField, h]
  rfl

/-- `matchesDocument` answers a query about one field by what is read of it, for the field as it is.
-/
theorem matchesDocument_asking (isField : name.toList.head? ≠ some '$') {asked : Value}
    {c : Condition} (h : readCondition name asked = .ok c) (d : Document) :
    matchesDocument d (asking name asked) = .ok (c.holds (d.get? (.text name))) := by
  rw [matchesDocument_of_ofValue (ofValue_asking_of_readCondition isField h)]
  simp only [holds, allHold, Bool.and_true]

/-- `readTests` reads one test alone by `readTest`. -/
private theorem readTests_singleton {t : Key × Value} {test : Test}
    (h : readTest name t.1 t.2 = .ok test) : readTests name [t] = .ok [test] :=
  readTests_eq_ok_iff.2 (.cons h .nil)

/-- `readCondition` reads an object by `readTests`. -/
theorem readCondition_object {tests : List (Key × Value)} {ts : List Test}
    (h : readTests name tests = .ok ts) :
    readCondition name (.object tests) = .ok (.passes ts) := by
  rw [readCondition, h]
  rfl

/-- `readCondition` reads one operator with an operand that it takes. -/
theorem readCondition_operand {op : FieldOperator} {w : Value} {t : Test} (h : Operand op w t) :
    readCondition name (.object [(.text op.sign, w)]) = .ok (.passes [t]) :=
  readCondition_object (readTests_singleton (readTest_eq_ok_iff.2 ⟨op, rfl, h⟩))

/-- `matchesDocument` answers one test of a field by the test that its operator makes of the
operand. -/
theorem matchesDocument_testing (isField : name.toList.head? ≠ some '$') {op : FieldOperator}
    {w : Value} {t : Test} (h : Operand op w t) (d : Document) :
    matchesDocument d (testing name op w) =
      .ok ((Condition.passes [t]).holds (d.get? (.text name))) :=
  matchesDocument_asking isField (readCondition_operand h) d

/-- A test with an operand that its operator does not take is passed by no document;
`matchesDocument` does not even answer it if the operand cannot be shown. -/
theorem matchesDocument_testing_of_not_taken (isField : name.toList.head? ≠ some '$')
    {op : FieldOperator} {w : Value} (h : op.test? w = .ok none) (d : Document) :
    matchesDocument d (testing name op w) =
      if w.fits then .ok false else .error .unwritable := by
  -- the operand is refused by the test, and so by the condition and the query
  have htest :
      readTest name (.text op.sign) w = .error (QueryError.badOperand name op w).raised := by
    simp only [readTest, FieldOperator.ofKey?_eq_some_iff.2 rfl, h]
  have hcondition : readCondition name (.object [(.text op.sign, w)]) =
      .error (QueryError.badOperand name op w).raised := by
    rw [readCondition, readTests, htest]
    rfl
  have hvalue : ofValue (testing name op w) = .error (QueryError.badOperand name op w).raised := by
    rw [testing, ofValue_asking isField, hcondition]
    rfl
  rw [matchesDocument, admitted?, hvalue, QueryError.raised, QueryError.fits]
  cases w.fits <;> rfl

/-! ## Several tests -/

/-- `holds` of a field that is not there for the test for its absence, on its own, and no other
tests. -/
theorem holds_passes_none_iff {ts : List Test} :
    (Condition.passes ts).holds none = true ↔ ts = [.present false] := by
  constructor
  · intro h
    -- of the four cases of `holds` only the first one is true without a field
    unfold Condition.holds at h
    split at h
    · rename_i hts _
      exact Condition.passes.inj hts
    · cases h
    · contradiction
    · contradiction
  · intro h
    subst h
    rfl

/-- `holds` of a field that is there for the tests that its value passes. -/
theorem holds_passes_some {ts : List Test} {v : Value} :
    (Condition.passes ts).holds (some v) = ts.all (·.holds v) := by
  simp [Condition.holds]

/-- `present` is the one operator with the test that a field is not there. -/
private theorem Operand.eq_present {op : FieldOperator} {w : Value} {b : Bool}
    (h : Operand op w (.present b)) : op = .present := by
  cases h <;> rfl

/-- Tests under different keys that `readTests` reads are not twice the test that a field is not
there. -/
private theorem length_le_one_of_present {tests : List (Key × Value)} {ts : List Test}
    (hkeys : (tests.map Prod.fst).Nodup) (hread : readTests name tests = .ok ts)
    (h : ∀ t ∈ ts, t = .present false) : ts.length ≤ 1 := by
  cases readTests_eq_ok_iff.1 hread with
  | nil => simp
  | cons hfirst hrest =>
    cases hrest with
    | nil => simp
    | cons hsecond =>
      rw [List.forall_mem_cons, List.forall_mem_cons] at h
      obtain ⟨rfl, rfl, -⟩ := h
      -- both are made by the one operator that makes this test, so their keys are equal
      obtain ⟨op, hkey, operand⟩ := readTest_eq_ok_iff.1 hfirst
      obtain ⟨op', hkey', operand'⟩ := readTest_eq_ok_iff.1 hsecond
      obtain rfl := operand.eq_present
      obtain rfl := operand'.eq_present
      simp [hkey, hkey'] at hkeys

/-- `holds` of a field for several tests just where it does for each of them on its own, unless the
test for its absence is made twice. -/
theorem holds_passes_eq_all {ts : List Test} (hne : ts ≠ [])
    (honce : (∀ t ∈ ts, t = .present false) → ts.length ≤ 1) (o : Option Value) :
    (Condition.passes ts).holds o = ts.all fun t => (Condition.passes [t]).holds o := by
  cases o with
  | some v => simp [holds_passes_some]
  | none =>
    rw [Bool.eq_iff_iff, holds_passes_none_iff, List.all_eq_true]
    simp only [holds_passes_none_iff, List.cons.injEq, and_true]
    constructor
    · intro h
      simp [h]
    · intro h
      -- all are the test for absence, so there is one of them
      have hlength := honce h
      obtain ⟨t, rest, rfl⟩ := List.exists_cons_of_ne_nil hne
      have hrest : rest = [] := by simpa using hlength
      rw [hrest, h t (by simp)]

/-- The conjunction of single tests of a field. -/
def testedOneByOne (name : String) (tests : List (Key × Value)) : Value :=
  conjunction (tests.map fun t => asking name (.object [t]))

/-- `testedOneByOne` is read as the conjunction of the single tests. -/
private theorem ofValue_testedOneByOne (isField : name.toList.head? ≠ some '$')
    {tests : List (Key × Value)} {ts : List Test} (h : readTests name tests = .ok ts) :
    ofValue (testedOneByOne name tests) =
      .ok (.all [.all (ts.map fun t => .all [.field name (.passes [t])])]) := by
  refine ofValue_conjunction (readItems_eq_ok_iff.2 ?_)
  rw [List.forall₂_map_left_iff, List.forall₂_map_right_iff]
  refine (readTests_eq_ok_iff.1 h).imp fun t test htest => ?_
  exact ofValue_asking_of_readCondition isField (readCondition_object (readTests_singleton htest))

/-- What it takes to pass several tests of a field, or none. -/
structure AsksOneByOne (d : Document) (name : String) : Prop where
  /-- Tests under different keys are passed together just where each is passed on its own. -/
  conjunction : ∀ tests : List (Key × Value), tests ≠ [] → (tests.map Prod.fst).Nodup →
    (∀ t ∈ tests, IsTest t) →
    ∃ b, matchesDocument d (asking name (.object tests)) = .ok b ∧
      matchesDocument d (testedOneByOne name tests) = .ok b
  /-- No tests at all are passed by every field that is there. -/
  empty : matchesDocument d (asking name (.object [])) = .ok (d.contains (.text name))
  /-- The two tests for presence tell the fields that are there from all others. -/
  presence : ∀ yes no : Value, yes.flag? = some true → no.flag? = some false →
    matchesDocument d (testing name .present yes) = .ok (d.contains (.text name)) ∧
      matchesDocument d (testing name .present no) = .ok (!d.contains (.text name))

/-- `matchesDocument` takes several tests of a field for the conjunction of single tests, on every
document, whether it has the field or not. -/
theorem matchesDocument_asking_eq_oneByOne (isField : name.toList.head? ≠ some '$') (d : Document) :
    AsksOneByOne d name where
  conjunction tests hne hkeys htests := by
    -- all the tests are read, so both queries have a meaning
    obtain ⟨ts, hread⟩ := (verdict_readTests name tests).accepted.2 htests
    have hne' : ts ≠ [] := by
      rintro rfl
      cases readTests_eq_ok_iff.1 hread
      exact hne rfl
    refine ⟨(Condition.passes ts).holds (d.get? (.text name)), ?_, ?_⟩
    · exact matchesDocument_asking isField (readCondition_object hread) d
    · rw [matchesDocument_of_ofValue (ofValue_testedOneByOne isField hread),
        holds_passes_eq_all hne' (length_le_one_of_present hkeys hread)]
      simp [holds, allHold, allHold_eq_all, List.all_map, Function.comp_def]
  empty := by
    rw [matchesDocument_asking isField (readCondition_object rfl), Table.contains]
    cases d.get? (.text name) <;> rfl
  presence yes no hyes hno := by
    rw [matchesDocument_testing isField (operand_of_flag? hyes),
      matchesDocument_testing isField (operand_of_flag? hno), Table.contains]
    cases d.get? (.text name) <;> simp [Condition.holds, Test.holds]

/-- That the field is not there, and that it is not null. -/
def absentAndNotNull : List (Key × Value) :=
  [(.text "$exists", .bool false), (.text "$ne", .null)]

/-- A document without the field passes the first test of `absentAndNotNull`, but not both of them;
one that holds null passes none of them, but no tests at all. -/
theorem matchesDocument_asking_eq_oneByOne_absentAndNotNull :
    matchesDocument .empty (testing "n" .present (.bool false)) = .ok true ∧
    matchesDocument .empty (asking "n" (.object absentAndNotNull)) = .ok false ∧
    matchesDocument .empty (testedOneByOne "n" absentAndNotNull) = .ok false ∧
    matchesDocument (.ofList [(.text "n", .null)]) (asking "n" (.object [])) = .ok true ∧
    matchesDocument (.ofList [(.text "n", .null)]) (testedOneByOne "n" absentAndNotNull) =
      .ok false := by
  have isField : "n".toList.head? ≠ some '$' := by decide
  have htests : ∀ t ∈ absentAndNotNull, IsTest t := by
    intro t ht
    simp only [absentAndNotNull, List.mem_cons, List.not_mem_nil, or_false] at ht
    rcases ht with rfl | rfl
    · exact .operator (.flag false)
    · exact .operator (.notEqual .null)
  have habsent := matchesDocument_asking_eq_oneByOne isField .empty
  have hnull := matchesDocument_asking_eq_oneByOne isField (.ofList [(.text "n", .null)])
  -- what the two queries answer alike is worked out for the first one
  obtain ⟨b, htogether, hapart⟩ :=
    habsent.conjunction absentAndNotNull (by decide) (by decide) htests
  obtain ⟨c, htogether', hapart'⟩ :=
    hnull.conjunction absentAndNotNull (by decide) (by decide) htests
  have hb : (.ok b : Except QueryBreak Bool) = .ok false := htogether.symm.trans rfl
  have hc : (.ok c : Except QueryBreak Bool) = .ok false := htogether'.symm.trans rfl
  refine ⟨(habsent.presence (.bool true) (.bool false) rfl rfl).2, ?_, ?_, hnull.empty, ?_⟩
  · rw [htogether, hb]
  · rw [hapart, hb]
  · rw [hapart', hc]

end Query

end DocStore
