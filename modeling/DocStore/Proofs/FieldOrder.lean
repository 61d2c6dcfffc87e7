import DocStore.Proofs.FieldEquality
import DocStore.Query.Evaluation
import Mathlib.Data.String.Basic
import Mathlib.Data.Sum.Order
import Mathlib.Tactic.NormNum

/-!
# The order of what a field holds

Numbers are ordered by exact value and texts by code points; a number and a text are not ordered,
nor is any other value, nor is not-a-number. So every value that has an order has a rank among the
points of two lines that stand side by side, and the four order tests and the test for equality
compare ranks. What holds of the tests is then what holds of a partial order that is linear on each
line.

## Key results

- `textOrder_eq_compare`: texts are compared as the lists of their code points
- `Test.holds_ordered_iff`: what an order test says is a relation between ranks
- `Query.matchesDocument_testing_iff_below`: the tests of a field come from one order
-/

namespace DocStore

/-! ## Texts -/

/-- `textOrder` finds every text equal to itself. -/
private theorem textOrder_self (cs : List Char) : textOrder cs cs = .eq := by
  induction cs with
  | nil => rfl
  | cons c rest ih => simp [textOrder, ih]

/-- `textOrder` finds a list of characters less that is less code point by code point. -/
private theorem textOrder_of_lt {as bs : List Char} (h : as < bs) : textOrder as bs = .lt := by
  induction as generalizing bs with
  | nil =>
    cases bs with
    | nil => exact absurd h (List.not_lt_nil _)
    | cons b bs => rfl
  | cons a as ih =>
    cases bs with
    | nil => exact absurd h (List.not_lt_nil _)
    | cons b bs =>
      -- the first characters differ and decide, or they are equal and the rest decides
      rcases List.cons_lt_cons_iff.1 h with hab | ⟨rfl, hrest⟩
      · have hcode : a.toNat < b.toNat := hab
        rw [textOrder, if_pos hcode]
      · simp [textOrder, ih hrest]

/-- `textOrder` finds it greater in the same way. -/
private theorem textOrder_of_gt {as bs : List Char} (h : bs < as) : textOrder as bs = .gt := by
  induction as generalizing bs with
  | nil => exact absurd h (List.not_lt_nil _)
  | cons a as ih =>
    cases bs with
    | nil => rfl
    | cons b bs =>
      rcases List.cons_lt_cons_iff.1 h with hba | ⟨rfl, hrest⟩
      · have hcode : b.toNat < a.toNat := hba
        rw [textOrder, if_neg (Nat.lt_asymm hcode), if_pos hcode]
      · simp [textOrder, ih hrest]

/-- `textOrder` compares texts as the lists of their code points. -/
theorem textOrder_eq_compare (s t : String) : textOrder s.toList t.toList = compare s t := by
  rcases lt_trichotomy s t with h | rfl | h
  · rw [compare_lt_iff_lt.2 h, textOrder_of_lt h]
  · rw [compare_eq_iff_eq.2 rfl, textOrder_self]
  · rw [compare_gt_iff_gt.2 h, textOrder_of_gt h]

/-! ## Ranks -/

/-- A point of one of two lines that stand side by side. -/
abbrev Rank : Type := ExtendedRational ⊕ String

/-- Where a value stands: a number at its exact value on the one line, a text on the other. All
other values and not-a-number stand nowhere. -/
def Value.rank? : Value → Option Rank
  | .scalar (.number n) => n.value?.map .inl
  | .scalar (.text s) => some (.inr s)
  | _ => none

/-- Two values have ranks, and these are in a relation. -/
def Value.Ranked (R : Rank → Rank → Prop) (a b : Value) : Prop :=
  ∃ p q, a.rank? = some p ∧ b.rank? = some q ∧ R p q

/-- One value is below another, on the line of both. -/
def Value.Below : Value → Value → Prop := Value.Ranked (· < ·)

/-- A relation as one between the points of an order. -/
def Relation.Relates {α : Type} [LE α] [LT α] : Relation → α → α → Prop
  | .greater, x, y => y < x
  | .greaterOrEqual, x, y => y ≤ x
  | .less, x, y => x < y
  | .lessOrEqual, x, y => x ≤ y

/-- `Relation.holds` of a comparison is the relation between the points compared. -/
private theorem Relation.holds_compare_iff {α : Type} [LinearOrder α] (r : Relation) (x y : α) :
    r.holds (compare x y) = true ↔ r.Relates x y := by
  rcases lt_trichotomy x y with h | rfl | h
  · rw [compare_lt_iff_lt.2 h]
    cases r <;> simp [holds, Relates, h, h.le, h.not_ge, h.not_gt]
  · rw [compare_eq_iff_eq.2 rfl]
    cases r <;> simp [holds, Relates]
  · rw [compare_gt_iff_gt.2 h]
    cases r <;> simp [holds, Relates, h, h.le, h.not_ge, h.not_gt]

section Lines

variable {α β : Type} [LE α] [LT α] [LE β] [LT β] {r : Relation} {x x' : α} {y y' : β}

/-- `Relates` on points of the first line is that line's relation. -/
private theorem Relation.relates_inl :
    r.Relates (Sum.inl x : α ⊕ β) (.inl x') ↔ r.Relates x x' := by
  cases r <;> simp [Relates]

/-- `Relates` on points of the second line is that line's relation. -/
private theorem Relation.relates_inr :
    r.Relates (Sum.inr y : α ⊕ β) (.inr y') ↔ r.Relates y y' := by
  cases r <;> simp [Relates]

/-- `Relates` holds of no point of the first line and one of the second. -/
private theorem Relation.not_relates_inl_inr : ¬ r.Relates (Sum.inl x : α ⊕ β) (.inr y) := by
  cases r <;> simp [Relates]

/-- `Relates` holds of no point of the second line and one of the first. -/
private theorem Relation.not_relates_inr_inl : ¬ r.Relates (Sum.inr y : α ⊕ β) (.inl x) := by
  cases r <;> simp [Relates]

end Lines

/-! ## Order tests -/

/-- The value that a bound is made of. -/
def Bound.toValue : Bound → Value
  | .number n => .scalar (.number n)
  | .text s => .text s

/-- `bound?` makes a bound of the value that the bound is made of. -/
private theorem Value.bound?_eq_some_iff {v : Value} {b : Bound} :
    v.bound? = some b ↔ v = b.toValue := by
  cases v with
  | scalar s => cases s <;> cases b <;> simp [bound?, Bound.toValue]
  | _ => cases b <;> simp [bound?, Bound.toValue]

/-- A value without a `bound?` has no `rank?`. -/
private theorem Value.rank?_of_bound?_eq_none {v : Value} (h : v.bound? = none) :
    v.rank? = none := by
  cases v with
  | scalar s =>
    cases s with
    | number n => cases h
    | text s => cases h
    | _ => rfl
  | _ => rfl

/-- An order test holds by what `Bound.order?` says. -/
private theorem Test.holds_ordered_iff_order? {r : Relation} {b : Bound} {v : Value} :
    (Test.ordered r b).holds v = true ↔ ∃ o, Bound.order? v b = some o ∧ r.holds o = true := by
  rw [holds]
  cases Bound.order? v b <;> simp

/-- `Test.ordered` of two numbers is a relation between their exact values. -/
private theorem Test.holds_ordered_number_iff {r : Relation} {m n : Number} :
    (Test.ordered r (.number n)).holds (.scalar (.number m)) = true ↔
      ∃ x y, m.value? = some x ∧ n.value? = some y ∧ r.Relates x y := by
  rw [holds_ordered_iff_order?]
  simp only [Bound.order?, Number.cmp?_eq_some_iff]
  constructor
  · intro h
    obtain ⟨o, ⟨x, y, hx, hy, rfl⟩, ho⟩ := h
    exact ⟨x, y, hx, hy, (r.holds_compare_iff x y).1 ho⟩
  · intro h
    obtain ⟨x, y, hx, hy, hxy⟩ := h
    exact ⟨_, ⟨x, y, hx, hy, rfl⟩, (r.holds_compare_iff x y).2 hxy⟩

/-- `Test.ordered` of two texts is a relation between the texts. -/
private theorem Test.holds_ordered_text_iff {r : Relation} {s t : String} :
    (Test.ordered r (.text t)).holds (.text s) = true ↔ r.Relates s t := by
  rw [holds_ordered_iff_order?, ← r.holds_compare_iff, ← textOrder_eq_compare]
  simp [Bound.order?]

/-- `Test.ordered` holds by a relation between ranks. -/
theorem Test.holds_ordered_iff {r : Relation} {b : Bound} {v : Value} :
    (Test.ordered r b).holds v = true ↔ v.Ranked r.Relates b.toValue := by
  unfold Value.Ranked
  cases b with
  | number n =>
    cases v with
    | scalar s =>
      cases s with
      | number m =>
        rw [holds_ordered_number_iff]
        simp [Value.rank?, Bound.toValue, Relation.relates_inl]
      | text s =>
        simp [holds, Bound.order?, Value.rank?, Bound.toValue, Relation.not_relates_inr_inl]
      | _ => simp [holds, Bound.order?, Value.rank?]
    | _ => simp [holds, Bound.order?, Value.rank?]
  -- the same for texts, which stand on the other line
  | text t =>
    cases v with
    | scalar s =>
      cases s with
      | number m =>
        simp [holds, Bound.order?, Value.rank?, Bound.toValue, Relation.not_relates_inl_inr]
      | text s =>
        rw [holds_ordered_text_iff]
        simp [Value.rank?, Bound.toValue, Relation.relates_inr]
      | _ => simp [holds, Bound.order?, Value.rank?]
    | _ => simp [holds, Bound.order?, Value.rank?]

/-! ## Kinds -/

/-- Not-a-number, the one number without a value. -/
abbrev Value.nan : Value := .scalar (.number (.float .nan))

namespace Value

variable {v a b : Value} {p q : Rank}

/-- `Ranked` can be read from either side. -/
theorem Ranked.swap {R : Rank → Rank → Prop} :
    Ranked R v a ↔ Ranked (fun p q => R q p) a v := by
  constructor
  · intro h
    obtain ⟨p, q, hp, hq, hpq⟩ := h
    exact ⟨q, p, hq, hp, hpq⟩
  · intro h
    obtain ⟨p, q, hp, hq, hpq⟩ := h
    exact ⟨q, p, hq, hp, hpq⟩

/-- `Below` is transitive. -/
theorem Below.trans (h : Below v a) (h' : Below a b) : Below v b := by
  obtain ⟨p, q, hp, hq, hpq⟩ := h
  obtain ⟨q', r, hq', hr, hqr⟩ := h'
  -- the value in the middle has one rank
  obtain rfl := Option.some.inj (hq.symm.trans hq')
  exact ⟨p, r, hp, hr, hpq.trans hqr⟩

/-- `Ranked` is a relation between the ranks that the values have. -/
private theorem ranked_iff {R : Rank → Rank → Prop} (hp : v.rank? = some p)
    (hq : a.rank? = some q) :
    Ranked R v a ↔ R p q := by
  simp [Ranked, hp, hq]

/-- A relation that holds one way or the other holds so of values that are `Ranked`. -/
private theorem ranked_or {R S T : Rank → Rank → Prop} (h : ∀ p q, R p q ↔ S p q ∨ T p q) :
    Ranked R v a ↔ Ranked S v a ∨ Ranked T v a := by
  constructor
  · intro hR
    obtain ⟨p, q, hp, hq, hpq⟩ := hR
    exact ((h p q).1 hpq).imp (⟨p, q, hp, hq, ·⟩) (⟨p, q, hp, hq, ·⟩)
  · intro hST
    rcases hST with ⟨p, q, hp, hq, hpq⟩ | ⟨p, q, hp, hq, hpq⟩
    · exact ⟨p, q, hp, hq, (h p q).2 (.inl hpq)⟩
    · exact ⟨p, q, hp, hq, (h p q).2 (.inr hpq)⟩

/-- Not-a-number has no rank, and so is `Ranked` with nothing. -/
private theorem not_ranked_of_nan {R : Rank → Rank → Prop} (h : v = nan ∨ a = nan) :
    ¬ Ranked R v a := by
  rintro ⟨p, q, hp, hq, -⟩
  rcases h with rfl | rfl
  · cases hp
  · cases hq

/-- `sameOrderKind` holds of two numbers and of two texts. -/
private theorem sameOrderKind_iff :
    v.sameOrderKind a = true ↔
      (∃ m n : Number, v = .scalar (.number m) ∧ a = .scalar (.number n)) ∨
        ∃ s t : String, v = .text s ∧ a = .text t := by
  cases v with
  | scalar s =>
    cases a with
    | scalar t => cases s <;> cases t <;> simp [sameOrderKind, isNumber, isText]
    | _ => simp [sameOrderKind, isNumber, isText]
  | _ => simp [sameOrderKind, isNumber, isText]

/-- `sameOrderKind` holds of scalars only. -/
private theorem exists_scalar_of_sameOrderKind (kind : v.sameOrderKind a = true) :
    ∃ s : Scalar, a = .scalar s := by
  rcases sameOrderKind_iff.1 kind with ⟨m, n, -, rfl⟩ | ⟨s, t, -, rfl⟩
  · exact ⟨_, rfl⟩
  · exact ⟨_, rfl⟩

/-- `Ranked` values are of one kind: only such values stand on one line. -/
private theorem sameOrderKind_of_ranked {r : Relation} (h : Ranked r.Relates v a) :
    v.sameOrderKind a = true := by
  obtain ⟨p, q, hp, hq, hpq⟩ := h
  rw [sameOrderKind_iff]
  unfold rank? at hp hq
  -- a number and a text stand on different lines, where no relation holds
  split at hp
  · split at hq
    · exact .inl ⟨_, _, rfl, rfl⟩
    · obtain ⟨x, -, rfl⟩ := Option.map_eq_some_iff.1 hp
      cases hq
      exact absurd hpq Relation.not_relates_inl_inr
    · cases hq
  · split at hq
    · obtain ⟨x, -, rfl⟩ := Option.map_eq_some_iff.1 hq
      cases hp
      exact absurd hpq Relation.not_relates_inr_inl
    · exact .inr ⟨_, _, rfl, rfl⟩
    · cases hq
  · cases hp

/-- `rank?` puts two values of one kind, neither of them not-a-number, in order one way or the
other. -/
private theorem exists_rank_of_sameOrderKind (kind : v.sameOrderKind a = true) (hv : v ≠ nan)
    (ha : a ≠ nan) :
    ∃ p q, v.rank? = some p ∧ a.rank? = some q ∧ (p < q ∨ p = q ∨ q < p) := by
  rcases sameOrderKind_iff.1 kind with ⟨m, n, rfl, rfl⟩ | ⟨s, t, rfl, rfl⟩
  -- both numbers have exact values, which can be compared
  · have hm : m.value? ≠ none := fun h => hv (by rw [Number.value?_eq_none_iff.1 h])
    have hn : n.value? ≠ none := fun h => ha (by rw [Number.value?_eq_none_iff.1 h])
    obtain ⟨x, hx⟩ := Option.ne_none_iff_exists'.1 hm
    obtain ⟨y, hy⟩ := Option.ne_none_iff_exists'.1 hn
    refine ⟨.inl x, .inl y, by simp [rank?, hx], by simp [rank?, hy], ?_⟩
    rw [Sum.inl_lt_inl_iff, Sum.inl_lt_inl_iff, Sum.inl.injEq]
    exact lt_trichotomy x y
  · refine ⟨.inr s, .inr t, rfl, rfl, ?_⟩
    rw [Sum.inr_lt_inr_iff, Sum.inr_lt_inr_iff, Sum.inr.injEq]
    exact lt_trichotomy s t

/-- `strictEq` holds of values of one kind that are at one point. -/
private theorem strictEq_iff_ranked (kind : v.sameOrderKind a = true) :
    v.strictEq a = true ↔ Ranked (· = ·) v a := by
  unfold Ranked
  rcases sameOrderKind_iff.1 kind with ⟨m, n, rfl, rfl⟩ | ⟨s, t, rfl, rfl⟩
  · simp only [rank?, Option.map_eq_some_iff]
    -- two numbers are equal by exact value
    have hequal : (Value.scalar (.number m)).strictEq (.scalar (.number n)) = m.same n := by
      rw [strictEq_eq, same_scalar]
      rfl
    rw [hequal, Number.same_iff]
    constructor
    · intro h
      obtain ⟨x, hm, hn⟩ := h
      exact ⟨.inl x, .inl x, ⟨x, hm, rfl⟩, ⟨x, hn, rfl⟩, rfl⟩
    · intro h
      obtain ⟨_, _, ⟨x, hm, rfl⟩, ⟨y, hn, rfl⟩, hxy⟩ := h
      obtain rfl := Sum.inl.inj hxy
      exact ⟨x, hm, hn⟩
  · rw [strictEq_text, beq_iff_eq]
    simp [rank?]

end Value

/-! ## Queries -/

namespace Query

variable {d : Document} {name : String} {v : Value}

/-- `test?` makes an order test of an operand that has a bound. -/
private theorem test?_of_relation? {op : FieldOperator} {r : Relation}
    (order : op.relation? = some r) (a : Value) : op.test? a = .ok (a.bound?.map (.ordered r)) := by
  cases op <;> cases order <;> rfl

/-- An order test is answered with an operand that is a number or a text, and with every other one
that an error can show. -/
def CanBeOrdered (a : Value) : Prop := a.bound?.isSome = true ∨ a.fits = true

/-- A value with a `rank?` can be ordered. -/
private theorem canBeOrdered_of_rank? {a : Value} (h : a.rank? ≠ none) : CanBeOrdered a := by
  refine .inl (Option.isSome_iff_ne_none.2 fun hbound => h ?_)
  exact Value.rank?_of_bound?_eq_none hbound

/-- What is `Below` another value can be ordered, and so can the other. -/
private theorem canBeOrdered_of_below {a b : Value} (h : b.Below a) :
    CanBeOrdered b ∧ CanBeOrdered a := by
  obtain ⟨p, q, hp, hq, -⟩ := h
  exact ⟨canBeOrdered_of_rank? (by simp [hp]), canBeOrdered_of_rank? (by simp [hq])⟩

/-- `CanBeOrdered` holds of an operand of the kind of what the field holds: it is a number or a
text. -/
private theorem canBeOrdered_of_sameOrderKind {a : Value} (kind : v.sameOrderKind a = true) :
    CanBeOrdered a := by
  rcases Value.sameOrderKind_iff.1 kind with ⟨m, n, -, rfl⟩ | ⟨s, t, -, rfl⟩
  · exact .inl rfl
  · exact .inl rfl

/-- `testing` with an order test tells how what the field holds is `Ranked` to the operand, of
whatever kind. -/
private theorem tells_ordered (isField : name.toList.head? ≠ some '$')
    (hv : d.get? (.text name) = some v) {op : FieldOperator} {r : Relation}
    (order : op.relation? = some r) {a : Value} (ha : CanBeOrdered a) :
    Tells (matchesDocument d (testing name op a)) (v.Ranked r.Relates a) := by
  cases hbound : a.bound? with
  | some b =>
    refine ⟨_, matchesDocument_testing isField (operand_of_bound? order hbound) d, ?_⟩
    rw [hv, holds_passes_some, Value.bound?_eq_some_iff.1 hbound, ← Test.holds_ordered_iff]
    simp
  | none =>
    -- the operand is refused, and has no rank either
    have hnot : op.test? a = .ok none := by
      rw [test?_of_relation? order, hbound]
      rfl
    have hshown : a.fits = true := ha.resolve_left (by simp [hbound])
    refine ⟨false, ?_, by simp [Value.Ranked, Value.rank?_of_bound?_eq_none hbound]⟩
    rw [matchesDocument_testing_of_not_taken isField hnot, if_pos hshown]

/-- `matchesDocument` does not answer an order test with any other operand. -/
private theorem matchesDocument_of_not_canBeOrdered (isField : name.toList.head? ≠ some '$')
    {op : FieldOperator} {r : Relation} (order : op.relation? = some r) {a : Value}
    (ha : ¬ CanBeOrdered a) (d : Document) :
    matchesDocument d (testing name op a) = .error .unwritable := by
  obtain ⟨hbound, hlong⟩ := not_or.1 ha
  have hnot : op.test? a = .ok none := by
    rw [test?_of_relation? order, Option.not_isSome_iff_eq_none.1 hbound]
    rfl
  rw [matchesDocument_testing_of_not_taken isField hnot, if_neg hlong]

/-- `testing` for equality tells whether operand and field are at one point, if they are of the same
kind. -/
private theorem tells_equal_of_sameOrderKind (isField : name.toList.head? ≠ some '$')
    (hv : d.get? (.text name) = some v) {a : Value} (kind : v.sameOrderKind a = true) :
    Tells (matchesDocument d (testing name .equal a)) (v.Ranked (· = ·) a) := by
  obtain ⟨s, rfl⟩ := Value.exists_scalar_of_sameOrderKind kind
  refine ⟨_, matchesDocument_testing isField (.equal s) d, ?_⟩
  rw [hv, holds_passes_some, ← Value.strictEq_iff_ranked kind]
  simp [Test.holds]

/-- Of three questions one is answered with yes, and the others are answered with no. -/
def OneOfThree (x y z : Except QueryBreak Bool) : Prop :=
  (x = .ok true ∧ y = .ok false ∧ z = .ok false) ∨
    (x = .ok false ∧ y = .ok true ∧ z = .ok false) ∨
      (x = .ok false ∧ y = .ok false ∧ z = .ok true)

/-- The order tests of a field of a document, told from what the field holds. -/
structure TestsFollowBelow (d : Document) (name : String) (v : Value) : Prop where
  /-- What is greater is above the operand: numbers by exact value, texts by code points. -/
  greater : ∀ a, CanBeOrdered a → Tells (matchesDocument d (testing name .greater a)) (a.Below v)
  less : ∀ a, CanBeOrdered a → Tells (matchesDocument d (testing name .less a)) (v.Below a)
  /-- With an operand of the same kind, the weak tests add equality to the strict ones. -/
  greaterOrEqual : ∀ a, v.sameOrderKind a = true →
    Tells (matchesDocument d (testing name .greaterOrEqual a))
      (matchesDocument d (testing name .greater a) = .ok true ∨
        matchesDocument d (testing name .equal a) = .ok true)
  lessOrEqual : ∀ a, v.sameOrderKind a = true →
    Tells (matchesDocument d (testing name .lessOrEqual a))
      (matchesDocument d (testing name .less a) = .ok true ∨
        matchesDocument d (testing name .equal a) = .ok true)
  trichotomy : ∀ a, v.sameOrderKind a = true → v ≠ .nan → a ≠ .nan →
    OneOfThree (matchesDocument d (testing name .less a))
      (matchesDocument d (testing name .equal a)) (matchesDocument d (testing name .greater a))
  /-- Not-a-number is neither equal to any number nor in order with it. -/
  notANumber : ∀ a, v.sameOrderKind a = true → v = .nan ∨ a = .nan →
    ∀ asked ∈ [asking name a, testing name .equal a, testing name .greater a,
      testing name .greaterOrEqual a, testing name .less a, testing name .lessOrEqual a],
      matchesDocument d asked = .ok false
  /-- What is greater than one operand is greater than every operand below. -/
  lower : ∀ a b, b.Below a → matchesDocument d (testing name .greater a) = .ok true →
    matchesDocument d (testing name .greater b) = .ok true
  /-- What is less than one operand is less than every operand above. -/
  higher : ∀ a b, b.Below a → matchesDocument d (testing name .less b) = .ok true →
    matchesDocument d (testing name .less a) = .ok true
  /-- What is not of the kind of the operand, or of a kind without an order, passes no test. -/
  otherKind : ∀ a, v.sameOrderKind a = false → CanBeOrdered a →
    ∀ op ∈ [FieldOperator.greater, .greaterOrEqual, .less, .lessOrEqual],
      matchesDocument d (testing name op a) = .ok false
  /-- An operand that is no number and no text, and that no error can show, gets no answer. -/
  unanswered : ∀ a, ¬ CanBeOrdered a →
    ∀ op ∈ [FieldOperator.greater, .greaterOrEqual, .less, .lessOrEqual],
      matchesDocument d (testing name op a) = .error .unwritable

/-- `matchesDocument` answers the order tests of a field by one order, whatever the field holds and
whatever the operands are. -/
theorem matchesDocument_testing_iff_below (isField : name.toList.head? ≠ some '$')
    (hv : d.get? (.text name) = some v) : TestsFollowBelow d name v := by
  have hordered (op : FieldOperator) (r : Relation) (order : op.relation? = some r) {a : Value}
      (ha : CanBeOrdered a) := tells_ordered isField hv order ha
  have hequal (a : Value) (kind : v.sameOrderKind a = true) :=
    tells_equal_of_sameOrderKind isField hv kind
  have hsame {a : Value} (kind : v.sameOrderKind a = true) := canBeOrdered_of_sameOrderKind kind
  -- the strict tests are `Below`, from either side
  have hless (a : Value) (ha : CanBeOrdered a) :
      Tells (matchesDocument d (testing name .less a)) (v.Below a) :=
    hordered .less .less rfl ha
  have hgreater (a : Value) (ha : CanBeOrdered a) :
      Tells (matchesDocument d (testing name .greater a)) (a.Below v) :=
    (hordered .greater .greater rfl ha).congr Value.Ranked.swap
  constructor
  case greater => exact hgreater
  case less => exact hless
  case greaterOrEqual =>
    intro a kind
    -- a weak relation is a strict one or equality
    refine (hordered .greaterOrEqual .greaterOrEqual rfl (hsame kind)).congr ?_
    rw [(hordered .greater .greater rfl (hsame kind)).eq_true_iff, (hequal a kind).eq_true_iff]
    exact Value.ranked_or fun p q => le_iff_lt_or_eq.trans (or_congr_right eq_comm)
  case lessOrEqual =>
    intro a kind
    refine (hordered .lessOrEqual .lessOrEqual rfl (hsame kind)).congr ?_
    rw [(hordered .less .less rfl (hsame kind)).eq_true_iff, (hequal a kind).eq_true_iff]
    exact Value.ranked_or fun p q => le_iff_lt_or_eq
  case trichotomy =>
    intro a kind hnan hnan'
    -- neither of the two is not-a-number, so both have ranks
    obtain ⟨p, q, hp, hq, horder⟩ := Value.exists_rank_of_sameOrderKind kind hnan hnan'
    have hbelow : v.Below a ↔ p < q := Value.ranked_iff hp hq
    have habove : a.Below v ↔ q < p := Value.ranked_iff hq hp
    have hequals : v.Ranked (· = ·) a ↔ p = q := Value.ranked_iff hp hq
    have hstrict := hless a (hsame kind)
    have hstrict' := hgreater a (hsame kind)
    -- the three questions are which of two ranks on one line is the greater
    rw [OneOfThree, hstrict.eq_true_iff, hstrict.eq_false_iff, (hequal a kind).eq_true_iff,
      (hequal a kind).eq_false_iff, hstrict'.eq_true_iff, hstrict'.eq_false_iff, hbelow, habove,
      hequals]
    rcases horder with h | rfl | h
    · exact .inl ⟨h, h.ne, h.asymm⟩
    · exact .inr (.inl ⟨lt_irrefl p, rfl, lt_irrefl p⟩)
    · exact .inr (.inr ⟨h.asymm, h.ne', h⟩)
  case notANumber =>
    intro a kind hnan
    -- not-a-number has no rank, so no relation holds of it
    have hnone (op : FieldOperator) (r : Relation) (order : op.relation? = some r) :
        matchesDocument d (testing name op a) = .ok false :=
      (hordered op r order (hsame kind)).eq_false_iff.2 (Value.not_ranked_of_nan hnan)
    have hunequal : matchesDocument d (testing name .equal a) = .ok false :=
      (hequal a kind).eq_false_iff.2 (Value.not_ranked_of_nan hnan)
    obtain ⟨s, rfl⟩ := Value.exists_scalar_of_sameOrderKind kind
    simp only [List.forall_mem_cons, List.not_mem_nil, false_implies, implies_true, and_true]
    exact ⟨(matchesDocument_comparison isField s d).trans hunequal, hunequal,
      hnone .greater _ rfl, hnone .greaterOrEqual _ rfl, hnone .less _ rfl,
      hnone .lessOrEqual _ rfl⟩
  case lower =>
    intro a b hba h
    obtain ⟨hb, ha⟩ := canBeOrdered_of_below hba
    rw [(hgreater a ha).eq_true_iff] at h
    rw [(hgreater b hb).eq_true_iff]
    exact hba.trans h
  case higher =>
    intro a b hba h
    obtain ⟨hb, ha⟩ := canBeOrdered_of_below hba
    rw [(hless b hb).eq_true_iff] at h
    rw [(hless a ha).eq_true_iff]
    exact h.trans hba
  case otherKind =>
    intro a kind ha
    -- what is on another line, or on none, is in no relation
    have hnone (op : FieldOperator) (r : Relation) (order : op.relation? = some r) :
        matchesDocument d (testing name op a) = .ok false := by
      rw [(hordered op r order ha).eq_false_iff]
      intro h
      rw [Value.sameOrderKind_of_ranked h] at kind
      cases kind
    simp only [List.forall_mem_cons, List.not_mem_nil, false_implies, implies_true, and_true]
    exact ⟨hnone .greater _ rfl, hnone .greaterOrEqual _ rfl, hnone .less _ rfl,
      hnone .lessOrEqual _ rfl⟩
  case unanswered =>
    intro a ha
    have hnone (op : FieldOperator) (r : Relation) (order : op.relation? = some r) :=
      matchesDocument_of_not_canBeOrdered isField order ha d
    simp only [List.forall_mem_cons, List.not_mem_nil, false_implies, implies_true, and_true]
    exact ⟨hnone .greater _ rfl, hnone .greaterOrEqual _ rfl, hnone .less _ rfl,
      hnone .lessOrEqual _ rfl⟩

/-- The double of value 2 ^ 53. From there on not every integer is a double. -/
def lastExact : Double := .finite false ⟨1076 * 2 ^ 52, by decide⟩

/-- `lastExact` has the rank of the integer that it is. -/
private theorem rank?_lastExact :
    (Value.scalar (.number (.float lastExact))).rank? = (Value.int (2 ^ 53)).rank? := by
  have hmagnitude : Double.magnitude (1076 * 2 ^ 52) = ((2 ^ 53 : ℤ) : ℚ) := by
    norm_num [Double.magnitude, Double.exponentField, Double.fractionField]
  rw [Value.rank?, Value.rank?, Number.value?, ← hmagnitude]
  rfl

/-- The integer that follows. -/
def pastExact : Document := .ofList [(.text "n", .int (2 ^ 53 + 1))]

/-- On `pastExact` the integer is not rounded to be compared. It is below infinity, in no order with
not-a-number, and in none with a truth value. -/
theorem matchesDocument_testing_iff_below_pastExact :
    matchesDocument pastExact (testing "n" .greater (.scalar (.number (.float lastExact)))) =
      .ok true ∧
    matchesDocument pastExact (testing "n" .lessOrEqual
      (.scalar (.number (.float (.infinite false))))) = .ok true ∧
    matchesDocument pastExact (testing "n" .lessOrEqual .nan) = .ok false ∧
    matchesDocument pastExact (testing "n" .greater (.bool true)) = .ok false := by
  have horders := matchesDocument_testing_iff_below (show "n".toList.head? ≠ some '$' by decide)
    (show pastExact.get? (.text "n") = some (.int (2 ^ 53 + 1)) by rfl)
  refine ⟨?_, ?_, ?_, ?_⟩
  · rw [(horders.greater _ (.inl rfl)).eq_true_iff]
    refine ⟨.inl _, .inl _, rank?_lastExact, rfl, ?_⟩
    -- both stand on the line of numbers, one unit apart
    have hvalues : ((2 ^ 53 : ℤ) : ℚ) < ((2 ^ 53 + 1 : ℤ) : ℚ) := Int.cast_lt.2 (lt_add_one _)
    exact Sum.inl_lt_inl_iff.2 (WithBot.coe_lt_coe.2 (WithTop.coe_lt_coe.2 hvalues))
  · rw [(horders.lessOrEqual _ rfl).eq_true_iff, (horders.less _ (.inl rfl)).eq_true_iff]
    refine .inl ⟨.inl _, .inl _, rfl, rfl, ?_⟩
    exact Sum.inl_lt_inl_iff.2 (WithBot.coe_lt_coe.2 (WithTop.coe_lt_top _))
  · exact horders.notANumber _ rfl (.inr rfl) _ (by simp)
  · exact horders.otherKind _ rfl (.inr rfl) _ (by simp)

end Query

end DocStore
