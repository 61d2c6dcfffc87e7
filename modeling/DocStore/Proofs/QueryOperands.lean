import DocStore.Query.Reading

/-!
# Operators and their operands

Which operands each operator on a field takes, and which test it makes with each: `Query.Operand`
says it case by case, and `Query.test?_eq_some_iff` that the operators keep to it. Where an operator
gives no answer, the operand is a pattern that is refused for a reason that is not its syntax
(`Query.test?_eq_error_iff`).
-/

namespace DocStore

/-- The order that an operator on a field asks for. -/
def FieldOperator.relation? : FieldOperator → Option Relation
  | .greater => some .greater
  | .greaterOrEqual => some .greaterOrEqual
  | .less => some .less
  | .lessOrEqual => some .lessOrEqual
  | _ => none

/-! ## Names -/

/-- `ofKey?` finds an operator by its `sign`. -/
theorem FieldOperator.ofKey?_eq_some_iff {key : Key} {op : FieldOperator} :
    ofKey? key = some op ↔ key = .text op.sign := by
  constructor
  · intro h
    cases key with
    | text s =>
      have hsign := List.find?_some h
      rw [beq_iff_eq.1 hsign]
    | _ => cases h
  · rintro rfl
    cases op <;> rfl

/-- `sign` is different for different operators. -/
theorem FieldOperator.sign_injective {op op' : FieldOperator} (h : op.sign = op'.sign) :
    op = op' := by
  -- each of the two is what is found by the sign
  have hkey : ofKey? (.text op.sign) = some op' := ofKey?_eq_some_iff.2 (congrArg Key.text h)
  rw [ofKey?_eq_some_iff.2 rfl] at hkey
  exact Option.some.inj hkey

/-- `ofName?` finds a type tag by its `name`. -/
private theorem TypeTag.ofName?_eq_some_iff {s : String} {t : TypeTag} :
    ofName? s = some t ↔ s = t.name := by
  constructor
  · intro h
    have hname := List.find?_some h
    exact (beq_iff_eq.1 hname).symm
  · rintro rfl
    cases t <;> rfl

/-! ## Patterns -/

/-- Why a pattern is refused, if it is. -/
def Pattern.refusal? (s : String) : Option PatternError :=
  match Pattern.read s with
  | .ok _ => none
  | .error e => some e

/-- `refusal?` has nothing against the patterns that compile. -/
theorem Pattern.refusal?_eq_none_iff {s : String} :
    Pattern.refusal? s = none ↔ ∃ p, Pattern.read s = .ok p := by
  unfold Pattern.refusal?
  split <;> simp_all

/-- `refusal?` is the error of `Pattern.read`. -/
theorem Pattern.refusal?_eq_some_iff {s : String} {e : PatternError} :
    Pattern.refusal? s = some e ↔ Pattern.read s = .error e := by
  unfold Pattern.refusal?
  split <;> simp_all

/-! ## Readings of a value -/

namespace Value

variable {v : Value}

/-- `scalar?` reads scalars. -/
private theorem scalar?_eq_some_iff {s : Scalar} : v.scalar? = some s ↔ v = .scalar s := by
  cases v <;> simp [scalar?]

/-- `scalars?` reads lists of scalars. -/
private theorem scalars?_eq_some_iff {items : List Scalar} :
    v.scalars? = some items ↔ v = .list (items.map .scalar) := by
  cases v with
  | list values =>
    simp only [scalars?, list.injEq]
    -- item by item: the reading ends at the first that is no scalar
    induction values generalizing items with
    | nil => cases items <;> simp
    | cons v rest ih =>
      cases v with
      | scalar s =>
        simp only [List.mapM_cons, scalar?, Option.pure_def, Option.bind_eq_bind, Option.bind_some]
        cases items with
        | nil => cases rest.mapM scalar? <;> simp
        | cons t items =>
          simp only [List.map_cons, List.cons.injEq, Value.scalar.injEq, ← ih]
          cases rest.mapM scalar? <;> simp
      | _ => cases items <;> simp [scalar?]
  | _ => simp [scalars?]

/-- `namedTag?` reads the names of type tags. -/
private theorem namedTag?_eq_some_iff {t : TypeTag} : v.namedTag? = some t ↔ v = .text t.name := by
  cases v with
  | scalar s => cases s <;> simp [namedTag?, TypeTag.ofName?_eq_some_iff]
  | _ => simp [namedTag?]

/-- `pattern?` reads texts that compile. -/
private theorem pattern?_eq_some_iff {p : Pattern} :
    v.pattern? = .ok (some p) ↔ ∃ s, v = .text s ∧ Pattern.read s = .ok p := by
  cases v with
  | scalar s =>
    cases s with
    | text s =>
      simp only [pattern?]
      split <;> simp_all
    | _ => simp [pattern?]
  | _ => simp [pattern?]

/-- `pattern?` has no answer for a text that is refused for a reason that is not its syntax. -/
private theorem pattern?_eq_error_iff {e : PatternError} :
    v.pattern? = .error e ↔ ∃ s, v = .text s ∧ Pattern.read s = .error e ∧ e ≠ .malformed := by
  cases v with
  | scalar s =>
    cases s with
    | text s =>
      simp only [pattern?]
      split
      · simp_all
      · simp_all
      -- a reason that is not `malformed` is passed on
      · rename_i e' hreason hread
        constructor
        · rintro ⟨⟩
          exact ⟨s, rfl, hread, hreason⟩
        · rintro ⟨_, ⟨⟩, hread', -⟩
          rw [hread] at hread'
          rw [Except.error.inj hread']
    | _ => simp [pattern?]
  | _ => simp [pattern?]

end Value

/-! ## Tests -/

namespace Query

/-- The operands that each operator on a field takes, and the test that it makes with each. -/
inductive Operand : FieldOperator → Value → Test → Prop where
  | flag (b : Bool) : Operand .present (.bool b) (.present b)
  | flagZero : Operand .present (.int 0) (.present false)
  | flagOne : Operand .present (.int 1) (.present true)
  | equal (s : Scalar) : Operand .equal (.scalar s) (.equal s)
  | notEqual (s : Scalar) : Operand .notEqual (.scalar s) (.notEqual s)
  | number {op : FieldOperator} {r : Relation} (order : op.relation? = some r) (n : Number) :
    Operand op (.scalar (.number n)) (.ordered r (.number n))
  | text {op : FieldOperator} {r : Relation} (order : op.relation? = some r) (s : String) :
    Operand op (.text s) (.ordered r (.text s))
  | oneOf (items : List Scalar) : Operand .oneOf (.list (items.map .scalar)) (.oneOf items)
  | noneOf (items : List Scalar) : Operand .noneOf (.list (items.map .scalar)) (.noneOf items)
  | includes (s : Scalar) : Operand .includes (.scalar s) (.includes s)
  | pattern {s : String} {p : Pattern} (compiles : Pattern.read s = .ok p) :
    Operand .like (.text s) (.like p)
  | tag (t : TypeTag) : Operand .hasType (.text t.name) (.hasType t)

/-- `bound?` reads operands of the operators that ask for an order. -/
theorem operand_of_bound? {op : FieldOperator} {r : Relation} (order : op.relation? = some r)
    {v : Value} {bound : Bound} (h : v.bound? = some bound) :
    Operand op v (.ordered r bound) := by
  unfold Value.bound? at h
  split at h <;> cases h
  · exact .number order _
  · exact .text order _

/-- `flag?` reads operands of the test for presence: a truth value, or 0 or 1. -/
theorem operand_of_flag? {v : Value} {b : Bool} (h : v.flag? = some b) :
    Operand .present v (.present b) := by
  unfold Value.flag? at h
  split at h
  · cases h
    exact .flag _
  -- of the integers, only 0 and 1 are flags
  · split at h
    · rename_i hzero
      subst hzero
      cases h
      exact .flagZero
    · split at h
      · rename_i hone
        subst hone
        cases h
        exact .flagOne
      · cases h
  · cases h

/-- `test?` takes the operands of its operator's kind and no others. -/
theorem test?_eq_some_iff {op : FieldOperator} {v : Value} {t : Test} :
    op.test? v = .ok (some t) ↔ Operand op v t := by
  constructor
  · intro h
    -- each operator has one reading of its operand, which `Operand` spells out
    cases op with
    | like =>
      simp only [FieldOperator.test?] at h
      split at h
      · rename_i found hfound
        obtain ⟨p, rfl, rfl⟩ := Option.map_eq_some_iff.1 (Except.ok.inj h)
        obtain ⟨s, rfl, hs⟩ := Value.pattern?_eq_some_iff.1 hfound
        exact .pattern hs
      · cases h
    | present =>
      obtain ⟨b, hb, rfl⟩ := Option.map_eq_some_iff.1 (Except.ok.inj h)
      exact operand_of_flag? hb
    | equal =>
      obtain ⟨s, hs, rfl⟩ := Option.map_eq_some_iff.1 (Except.ok.inj h)
      rw [Value.scalar?_eq_some_iff.1 hs]
      exact .equal s
    | notEqual =>
      obtain ⟨s, hs, rfl⟩ := Option.map_eq_some_iff.1 (Except.ok.inj h)
      rw [Value.scalar?_eq_some_iff.1 hs]
      exact .notEqual s
    | includes =>
      obtain ⟨s, hs, rfl⟩ := Option.map_eq_some_iff.1 (Except.ok.inj h)
      rw [Value.scalar?_eq_some_iff.1 hs]
      exact .includes s
    | greater | greaterOrEqual | less | lessOrEqual =>
      obtain ⟨bound, hbound, rfl⟩ := Option.map_eq_some_iff.1 (Except.ok.inj h)
      exact operand_of_bound? rfl hbound
    | oneOf =>
      obtain ⟨items, hitems, rfl⟩ := Option.map_eq_some_iff.1 (Except.ok.inj h)
      rw [Value.scalars?_eq_some_iff.1 hitems]
      exact .oneOf items
    | noneOf =>
      obtain ⟨items, hitems, rfl⟩ := Option.map_eq_some_iff.1 (Except.ok.inj h)
      rw [Value.scalars?_eq_some_iff.1 hitems]
      exact .noneOf items
    | hasType =>
      obtain ⟨t, ht, rfl⟩ := Option.map_eq_some_iff.1 (Except.ok.inj h)
      rw [Value.namedTag?_eq_some_iff.1 ht]
      exact .tag t
  · intro h
    cases h with
    | number order n => cases op <;> cases order <;> rfl
    | text order s => cases op <;> cases order <;> rfl
    | oneOf items => simp [FieldOperator.test?, Value.scalars?_eq_some_iff.2 rfl]
    | noneOf items => simp [FieldOperator.test?, Value.scalars?_eq_some_iff.2 rfl]
    | pattern compiles =>
      simp [FieldOperator.test?, Value.pattern?_eq_some_iff.2 ⟨_, rfl, compiles⟩]
    | tag t => simp [FieldOperator.test?, Value.namedTag?_eq_some_iff.2 rfl]
    | _ => rfl

/-- `test?` has no answer for patterns alone: for those that are refused for a reason that is not
their syntax. -/
theorem test?_eq_error_iff {op : FieldOperator} {v : Value} {e : PatternError} :
    op.test? v = .error e ↔
      op = .like ∧ ∃ s, v = .text s ∧ Pattern.read s = .error e ∧ e ≠ .malformed := by
  rw [← Value.pattern?_eq_error_iff]
  cases op with
  | like =>
    simp only [FieldOperator.test?, true_and]
    split
    · rename_i found hfound
      simp [hfound]
    · rename_i e' he
      simp [he]
  | _ => simp [FieldOperator.test?]

/-- `test?` says that an operand of too many digits is not taken: no pattern is in it. -/
theorem test?_eq_none {op : FieldOperator} {v : Value} (misfit : ∀ t, ¬ Operand op v t)
    (long : v.fits = false) : op.test? v = .ok none := by
  cases h : op.test? v with
  | error e =>
    obtain ⟨-, s, rfl, -⟩ := test?_eq_error_iff.1 h
    cases long
  | ok found =>
    cases found with
    | none => rfl
    | some t => exact absurd (test?_eq_some_iff.1 h) (misfit t)

end Query

end DocStore
