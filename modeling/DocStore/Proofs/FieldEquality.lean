import DocStore.Proofs.ExactValues
import DocStore.Proofs.FieldTests

/-!
# Asking a field for scalars

A field may be compared with a scalar, tested for equality or inequality, or tested for being one or
none of several scalars. All of these come from one relation: the field is there and holds a scalar
equal to the operand, where equal scalars are of one type and numbers are equal by exact value.
A field that is not there passes none of these tests, not the negated ones either.

## Key results

- `Value.strictEq_scalar_iff`: the values that are equal to a scalar
- `Query.comparesAlike`: the ways of asking agree on every document
-/

namespace DocStore

/-! ## Equal scalars -/

/-- Two scalars are equal: of one type, and numbers by exact value. Not-a-number has no value and
equals nothing. -/
inductive Scalar.Equals : Scalar → Scalar → Prop where
  | null : Equals .null .null
  | bool (b : Bool) : Equals (.bool b) (.bool b)
  | number {m n : Number} {x : ExtendedRational} (left : m.value? = some x)
    (right : n.value? = some x) : Equals (.number m) (.number n)
  | text (s : String) : Equals (.text s) (.text s)

/-- `Scalar.Equals` relates scalars of one type only. -/
theorem Scalar.Equals.typeTag_eq {s t : Scalar} (h : s.Equals t) : s.typeTag = t.typeTag := by
  cases h <;> rfl

/-- `Number.same` holds of numbers with one exact value. -/
theorem Number.same_iff {m n : Number} :
    m.same n = true ↔ ∃ x, m.value? = some x ∧ n.value? = some x := by
  rw [same, beq_iff_eq, cmp?_eq_some_iff]
  constructor
  · intro h
    obtain ⟨x, y, hx, hy, hxy⟩ := h
    rw [← compare_eq_iff_eq.1 hxy] at hy
    exact ⟨x, hx, hy⟩
  · intro h
    obtain ⟨x, hx, hy⟩ := h
    exact ⟨x, x, hx, hy, compare_eq_iff_eq.2 rfl⟩

/-- `Number.same` of two integers is equality. -/
private theorem Number.same_int_iff {m n : Int} : (Number.int m).same (.int n) = true ↔ m = n := by
  rw [same_iff]
  simpa [value?] using eq_comm

/-- `Scalar.same` of two truth values is equality: they count as 0 and 1, and these are different.
-/
private theorem Scalar.same_bool_iff {b c : Bool} :
    (Scalar.bool b).same (.bool c) = true ↔ b = c := by
  show (Number.int b.toNat).same (.int c.toNat) = true ↔ _
  rw [Number.same_int_iff]
  cases b <;> cases c <;> simp

/-- Within one type, `Scalar.same` is `Scalar.Equals`. -/
theorem Scalar.equals_iff {s t : Scalar} :
    s.Equals t ↔ s.typeTag = t.typeTag ∧ s.same t = true := by
  constructor
  · intro h
    refine ⟨h.typeTag_eq, ?_⟩
    cases h with
    | null => rfl
    | bool b => exact same_bool_iff.2 rfl
    | number left right => exact Number.same_iff.2 ⟨_, left, right⟩
    | text a => simp [same, numeric?]
  · intro h
    obtain ⟨htag, hsame⟩ := h
    -- the types are equal, so what is left is equality within one type
    cases s with
    | null =>
      cases t with
      | null => exact .null
      | _ => cases htag
    | bool b =>
      cases t with
      | bool c =>
        obtain rfl := same_bool_iff.1 hsame
        exact .bool b
      | _ => cases htag
    | number m =>
      cases t with
      | number n =>
        obtain ⟨x, left, right⟩ := Number.same_iff.1 hsame
        exact .number left right
      | _ => cases htag
    | text a =>
      cases t with
      | text b =>
        obtain rfl : a = b := by simpa [same, numeric?] using hsame
        exact .text a
      | _ => cases htag

/-- `strictEq` to a scalar holds of the scalars that equal it. -/
theorem Value.strictEq_scalar_iff {v : Value} {s : Scalar} :
    v.strictEq (.scalar s) = true ↔ ∃ t : Scalar, v = .scalar t ∧ t.Equals s := by
  cases v with
  | scalar t => simp [strictEq_eq, typeTag, same_scalar, Scalar.equals_iff]
  | _ => simp [strictEq_eq, same, sameWith]

namespace Query

variable {d : Document} {name : String}

/-! ## The ways of asking -/

/-- `Condition.equals` holds of a field just where the test for being equal holds. -/
private theorem holds_equals_eq (s : Scalar) (o : Option Value) :
    (Condition.equals s).holds o = (Condition.passes [.equal s]).holds o := by
  cases o with
  | none => rfl
  | some v => simp [Condition.holds, Test.holds]

/-- `matchesDocument` gives one answer to the comparison with a scalar and to the test for being
equal to it. -/
theorem matchesDocument_comparison (isField : name.toList.head? ≠ some '$') (s : Scalar)
    (d : Document) :
    matchesDocument d (asking name (.scalar s)) =
      matchesDocument d (testing name .equal (.scalar s)) := by
  rw [matchesDocument_asking isField rfl, matchesDocument_testing isField (.equal s),
    holds_equals_eq]

/-- `Test.equal` holds of a field that holds a scalar which `Equals` the operand. -/
private theorem holds_equal_iff {s : Scalar} {o : Option Value} :
    (Condition.passes [.equal s]).holds o = true ↔
      ∃ t : Scalar, o = some (.scalar t) ∧ t.Equals s := by
  cases o with
  | none => simp [Condition.holds]
  | some v => simp [holds_passes_some, Test.holds, Value.strictEq_scalar_iff]

/-- `Test.oneOf` holds where `Test.equal` does for one of the items. -/
private theorem holds_oneOf_eq_any (items : List Scalar) (o : Option Value) :
    (Condition.passes [.oneOf items]).holds o =
      items.any fun s => (Condition.passes [.equal s]).holds o := by
  cases o with
  | none => simp [Condition.holds]
  | some v => simp [holds_passes_some, Test.holds]

/-- `Test.notEqual` and `Test.noneOf` hold on a field that is there where `Test.equal` and
`Test.oneOf` do not. -/
private theorem holds_negated_some (v : Value) (s : Scalar) (items : List Scalar) :
    (Condition.passes [.notEqual s]).holds (some v) =
        !(Condition.passes [.equal s]).holds (some v) ∧
      (Condition.passes [.noneOf items]).holds (some v) =
        !(Condition.passes [.oneOf items]).holds (some v) := by
  simp [holds_passes_some, Test.holds]

/-- The list of scalars as an operand. -/
def scalars (items : List Scalar) : Value := .list (items.map .scalar)

/-- The five ways of asking a field for scalars, on one document. -/
structure ComparesAlike (d : Document) (name : String) (s : Scalar) (items : List Scalar) :
    Prop where
  /-- To compare with a scalar is to test for being equal to it. -/
  comparison : ∃ b, matchesDocument d (asking name (.scalar s)) = .ok b ∧
    matchesDocument d (testing name .equal (.scalar s)) = .ok b
  /-- To be one of several scalars is to be equal to one of them. -/
  membership : Tells (matchesDocument d (testing name .oneOf (scalars items)))
    (∃ t ∈ items, matchesDocument d (testing name .equal (.scalar t)) = .ok true)
  /-- On a field that is there, the negated tests give the opposite answers. -/
  negation : d.contains (.text name) = true → ∃ b c,
    matchesDocument d (testing name .equal (.scalar s)) = .ok b ∧
    matchesDocument d (testing name .notEqual (.scalar s)) = .ok (!b) ∧
    matchesDocument d (testing name .oneOf (scalars items)) = .ok c ∧
    matchesDocument d (testing name .noneOf (scalars items)) = .ok (!c)
  /-- On a field that is not there, all answers are no. -/
  absence : d.contains (.text name) = false →
    ∀ asked ∈ [asking name (.scalar s), testing name .equal (.scalar s),
      testing name .notEqual (.scalar s), testing name .oneOf (scalars items),
      testing name .noneOf (scalars items)], matchesDocument d asked = .ok false
  /-- The answer is yes for the scalars that are equal to the operand, and for no other values. -/
  meaning : Tells (matchesDocument d (testing name .equal (.scalar s)))
    (∃ t : Scalar, d.get? (.text name) = some (.scalar t) ∧ t.Equals s)
  /-- So what is asked for has the type of what is there. -/
  types : ∀ v, d.get? (.text name) = some v →
    (matchesDocument d (asking name (.scalar s)) = .ok true → v.typeTag = s.typeTag) ∧
    (matchesDocument d (testing name .equal (.scalar s)) = .ok true → v.typeTag = s.typeTag) ∧
    (matchesDocument d (testing name .oneOf (scalars items)) = .ok true →
      ∃ t ∈ items, matchesDocument d (testing name .equal (.scalar t)) = .ok true ∧
        v.typeTag = t.typeTag)

/-- `testing` for equality tells whether the field holds a scalar that `Equals` the operand. -/
private theorem tells_equal (isField : name.toList.head? ≠ some '$') (d : Document) (s : Scalar) :
    Tells (matchesDocument d (testing name .equal (.scalar s)))
      (∃ t : Scalar, d.get? (.text name) = some (.scalar t) ∧ t.Equals s) :=
  ⟨_, matchesDocument_testing isField (.equal s) d, holds_equal_iff⟩

/-- `testing` for membership tells whether one of the tests for equality is passed. -/
private theorem tells_oneOf (isField : name.toList.head? ≠ some '$') (d : Document)
    (items : List Scalar) :
    Tells (matchesDocument d (testing name .oneOf (scalars items)))
      (∃ t ∈ items, matchesDocument d (testing name .equal (.scalar t)) = .ok true) := by
  refine ⟨_, matchesDocument_testing isField (.oneOf items) d, ?_⟩
  simp only [holds_oneOf_eq_any, List.any_eq_true, matchesDocument_testing isField (.equal _),
    Except.ok.injEq]

/-- What a field is found equal to has its `typeTag`. -/
private theorem typeTag_eq_of_equal (isField : name.toList.head? ≠ some '$') {v : Value}
    {s : Scalar} (hv : d.get? (.text name) = some v)
    (h : matchesDocument d (testing name .equal (.scalar s)) = .ok true) :
    v.typeTag = s.typeTag := by
  obtain ⟨t, ht, hequals⟩ := (tells_equal isField d s).eq_true_iff.1 h
  -- the field holds one value, which is then the equal scalar
  obtain rfl := Option.some.inj (hv.symm.trans ht)
  exact hequals.typeTag_eq

/-- The ways of `asking` and `testing` a field for scalars agree, whatever the field holds and the
scalars are. -/
theorem comparesAlike (isField : name.toList.head? ≠ some '$') (d : Document) (s : Scalar)
    (items : List Scalar) : ComparesAlike d name s items := by
  -- what each of the five ways answers, for a field that may be there or not
  have hcompare := matchesDocument_comparison isField s d
  have hequal := matchesDocument_testing isField (.equal s) d
  have hunequal := matchesDocument_testing isField (.notEqual s) d
  have honeOf := matchesDocument_testing isField (.oneOf items) d
  have hnoneOf := matchesDocument_testing isField (.noneOf items) d
  constructor
  case comparison => exact ⟨_, hcompare.trans hequal, hequal⟩
  case membership => exact tells_oneOf isField d items
  case negation =>
    intro hthere
    obtain ⟨v, hv⟩ := Option.isSome_iff_exists.1 hthere
    -- the field is there, so both pairs of tests are about the value in it
    obtain ⟨hnot, hnone⟩ := holds_negated_some v s items
    rw [hv] at hequal hunequal honeOf hnoneOf
    rw [hnot] at hunequal
    rw [hnone] at hnoneOf
    exact ⟨_, _, hequal, hunequal, honeOf, hnoneOf⟩
  case absence =>
    intro habsent
    -- without the field all four tests fail, and the comparison with them
    rw [Table.contains_eq_false_iff.1 habsent] at hequal hunequal honeOf hnoneOf
    simp only [List.forall_mem_cons, List.not_mem_nil, false_implies, implies_true, and_true]
    exact ⟨hcompare.trans hequal, hequal, hunequal, honeOf, hnoneOf⟩
  case meaning => exact tells_equal isField d s
  case types =>
    intro v hv
    refine ⟨fun h => ?_, fun h => typeTag_eq_of_equal isField hv h, fun h => ?_⟩
    · exact typeTag_eq_of_equal isField hv (hcompare ▸ h)
    · obtain ⟨t, ht, hequal⟩ := (tells_oneOf isField d items).eq_true_iff.1 h
      exact ⟨t, ht, hequal, typeTag_eq_of_equal isField hv hequal⟩

/-- A truth value and not-a-number. -/
def flagAndNan : Document :=
  .ofList [(.text "flag", .bool true), (.text "x", .scalar (.number (.float .nan)))]

/-- On `flagAndNan` no truth value is a number, not-a-number is not even itself, and what is not
there is not different from anything. -/
theorem comparesAlike_flagAndNan :
    matchesDocument flagAndNan (testing "flag" .notEqual (.int 1)) = .ok true ∧
    matchesDocument flagAndNan
      (testing "flag" .oneOf (scalars [.number (.int 1), .bool true])) = .ok true ∧
    matchesDocument flagAndNan (asking "x" (.scalar (.number (.float .nan)))) = .ok false ∧
    matchesDocument flagAndNan (testing "gone" .noneOf (scalars [])) = .ok false := by
  have hflag := comparesAlike (show "flag".toList.head? ≠ some '$' by decide) flagAndNan
    (.number (.int 1)) [.number (.int 1), .bool true]
  have htrue := comparesAlike (show "flag".toList.head? ≠ some '$' by decide) flagAndNan
    (.bool true) []
  have hnan := comparesAlike (show "x".toList.head? ≠ some '$' by decide) flagAndNan
    (.number (.float .nan)) []
  have hgone := comparesAlike (show "gone".toList.head? ≠ some '$' by decide) flagAndNan .null []
  refine ⟨?_, ?_, ?_, hgone.absence rfl _ (by simp)⟩
  · obtain ⟨b, c, hequal, hunequal, -⟩ := hflag.negation rfl
    have hb : (.ok b : Except QueryBreak Bool) = .ok false := hequal.symm.trans rfl
    rw [hunequal, Except.ok.inj hb]
    rfl
  · rw [hflag.membership.eq_true_iff]
    exact ⟨.bool true, by simp, htrue.meaning.eq_true_iff.2 ⟨.bool true, rfl, .bool true⟩⟩
  -- not-a-number has no value, so that the field holds nothing equal to it
  · have hunequal : matchesDocument flagAndNan
        (testing "x" .equal (.scalar (.number (.float .nan)))) = .ok false := by
      rw [hnan.meaning.eq_false_iff]
      rintro ⟨t, -, hequals⟩
      cases hequals with
      | number _ right => cases right
    obtain ⟨b, hcompare, hequal⟩ := hnan.comparison
    rw [hcompare, ← hequal, hunequal]

end Query

end DocStore
