import DocStore.Proofs.FieldTests
import DocStore.Proofs.QueryRefusal
import Mathlib.Data.List.Perm.Basic
import Mathlib.Logic.Relation

/-!
# The order inside a query

A query is read in order and its first fault counts; a document is put to it in order, and the first
part that fails ends the test. Of a query neither shows. Where every pattern compiles or breaks the
rules of its syntax, a value and the same value with the keys of a query, the operands of a
junction, the operators of a field or the items of a membership test in another order are both
queries or both not, and they select the same ids.

Of a value that is no query the order can show in one way. If it has two faults, and only one of
them can be shown, then the fault that comes first decides whether the value is refused or the call
ends.

One reordering, at whatever depth, is `Query.Reordering`; `Query.Reordered` is any number of them.

## Key results

- `Query.Reordering.keepsMeaning`: what is read after one reordering means the same documents
- `Query.Reordering.hasPattern_iff`: one reordering takes no pattern away and adds none
- `Query.Reordering.holds_iff`: nor does it with the integers
- `Query.sameAnswers_of_reordered`: reordered values are accepted alike and select the same ids,
  where their faults can be shown
-/

namespace DocStore

namespace Query

/-! ## Reorderings -/

mutual

/-- One reordering in a query. -/
inductive Reordering : Value → Value → Prop where
  /-- The keys are reordered. -/
  | keys {entries entries' : List (Key × Value)} (perm : entries.Perm entries') :
    Reordering (.object entries) (.object entries')
  /-- The reordering is inside one of the entries. -/
  | clause {before after : List (Key × Value)} {c c' : Key × Value}
    (inside : ClauseReordering c c') :
    Reordering (.object (before ++ c :: after)) (.object (before ++ c' :: after))

/-- The same in an entry of a query. -/
inductive ClauseReordering : Key × Value → Key × Value → Prop where
  /-- The operands of a conjunction or a disjunction are reordered. -/
  | operands {name : String} {us vs : List Value} (sign : name = "$and" ∨ name = "$or")
    (perm : us.Perm vs) : ClauseReordering (.text name, .list us) (.text name, .list vs)
  /-- The reordering is inside one of the operands. -/
  | operand {name : String} {before after : List Value} {u v : Value}
    (sign : name = "$and" ∨ name = "$or") (inside : Reordering u v) :
    ClauseReordering (.text name, .list (before ++ u :: after))
      (.text name, .list (before ++ v :: after))
  | negated {u v : Value} (inside : Reordering u v) :
    ClauseReordering (.text "$not", u) (.text "$not", v)
  /-- The operators of a field are reordered. -/
  | operators {field : String} {tests tests' : List (Key × Value)}
    (isField : field.toList.head? ≠ some '$') (perm : tests.Perm tests') :
    ClauseReordering (.text field, .object tests) (.text field, .object tests')
  /-- The items of a membership test of a field are reordered. -/
  | items {field op : String} {before after : List (Key × Value)} {us vs : List Value}
    (isField : field.toList.head? ≠ some '$') (membership : op = "$in" ∨ op = "$nin")
    (perm : us.Perm vs) :
    ClauseReordering (.text field, .object (before ++ (.text op, .list us) :: after))
      (.text field, .object (before ++ (.text op, .list vs) :: after))

end

/-- Any number of reorderings one after another. -/
def Reordered : Value → Value → Prop := Relation.ReflTransGen Reordering

mutual

/-- `Reordering` can be taken back by another. -/
theorem Reordering.symm : ∀ {v w : Value}, Reordering v w → Reordering w v
  | _, _, .keys perm => .keys perm.symm
  | _, _, .clause inside => .clause inside.symm

/-- `ClauseReordering` can be taken back by another. -/
theorem ClauseReordering.symm :
    ∀ {c c' : Key × Value}, ClauseReordering c c' → ClauseReordering c' c
  | _, _, .operands sign perm => .operands sign perm.symm
  | _, _, .operand sign inside => .operand sign inside.symm
  | _, _, .negated inside => .negated inside.symm
  | _, _, .operators isField perm => .operators isField perm.symm
  | _, _, .items isField membership perm => .items isField membership perm.symm

end

/-- `Reordered` values can be reordered back. -/
theorem Reordered.symm {v w : Value} (h : Reordered v w) : Reordered w v := by
  induction h with
  | refl => exact .refl
  | tail _ step ih => exact .head step.symm ih

/-! ## What is read after a reordering -/

/-- Where the one is read, the other is too, and what they are read as is in a relation. -/
def KeepsUpTo {β : Type} (S : β → β → Prop) (x y : Except QueryFault β) : Prop :=
  ∀ b, x = .ok b → ∃ b', y = .ok b' ∧ S b b'

section Lists

variable {α β : Type} {one : α → Except QueryFault β} {many : List α → Except QueryFault (List β)}
  {S : β → β → Prop} {T : List β → List β → Prop} {as as' before after : List α} {a a' : α}
  {bs : List β}

/-- What is read of a list with another in the place of one member is the same up to that place. -/
private theorem exists_forall₂_replaced (hrefl : ∀ b, S b b) (h : KeepsUpTo S (one a) (one a'))
    (hbs : List.Forall₂ (fun a b => one a = .ok b) (before ++ a :: after) bs) :
    ∃ bs', List.Forall₂ (fun a b => one a = .ok b) (before ++ a' :: after) bs' ∧
      List.Forall₂ S bs bs' := by
  -- by the members before the place, which are read as before
  induction before generalizing bs with
  | nil =>
    cases hbs with
    | cons hab hafter =>
      obtain ⟨b', hb', hsame⟩ := h _ hab
      exact ⟨_, .cons hb' hafter, .cons hsame (List.forall₂_same.2 fun b _ => hrefl b)⟩
  | cons x before ih =>
    cases hbs with
    | cons hx hrest =>
      obtain ⟨bs', hread, hsame⟩ := ih hrest
      exact ⟨_, .cons hx hread, .cons (hrefl _) hsame⟩

/-- `KeepsUpTo` of what is read member by member: of a list in another order, it is read in the
other order. -/
private theorem KeepsUpTo.of_perm
    (hmany : ∀ as bs, many as = .ok bs ↔ List.Forall₂ (fun a b => one a = .ok b) as bs)
    (hT : ∀ bs bs', bs.Perm bs' → T bs bs') (perm : as.Perm as') :
    KeepsUpTo T (many as) (many as') := by
  intro bs hbs
  obtain ⟨bs', hbs', hperm⟩ := List.perm_comp_forall₂ perm.symm ((hmany as bs).1 hbs)
  exact ⟨bs', (hmany as' bs').2 hbs', hT bs bs' hperm.symm⟩

/-- `KeepsUpTo` of what is read member by member: of a list with another member, it is the same but
for this member. -/
private theorem KeepsUpTo.of_replaced
    (hmany : ∀ as bs, many as = .ok bs ↔ List.Forall₂ (fun a b => one a = .ok b) as bs)
    (hT : ∀ bs bs', List.Forall₂ S bs bs' → T bs bs') (hrefl : ∀ b, S b b)
    (h : KeepsUpTo S (one a) (one a')) :
    KeepsUpTo T (many (before ++ a :: after)) (many (before ++ a' :: after)) := by
  intro bs hbs
  obtain ⟨bs', hbs', hsame⟩ := exists_forall₂_replaced hrefl h ((hmany _ bs).1 hbs)
  exact ⟨bs', (hmany _ bs').2 hbs', hT bs bs' hsame⟩

end Lists

/-! ## Tests -/

/-- Two lists of tests are passed by the same fields; a field may be missing. -/
def SameTests (ts ts' : List Test) : Prop :=
  ∀ o, (Condition.passes ts).holds o = (Condition.passes ts').holds o

/-- Two tests are passed by the same values, and both or neither ask for the absence of the
field. -/
structure SameTest (t t' : Test) : Prop where
  holds : ∀ v, t.holds v = t'.holds v
  absence : t = .present false ↔ t' = .present false

/-- Every test is the `SameTest` as itself. -/
theorem SameTest.refl (t : Test) : SameTest t t := ⟨fun _ => rfl, .rfl⟩

/-- `SameTests` in another order. -/
private theorem SameTests.of_perm (ts ts' : List Test) (perm : ts.Perm ts') : SameTests ts ts' := by
  intro o
  cases o with
  | some v => rw [holds_passes_some, holds_passes_some, perm.all_eq]
  | none =>
    -- a single test has only one order
    rw [Bool.eq_iff_iff, holds_passes_none_iff, holds_passes_none_iff]
    constructor
    · intro h
      subst h
      exact (List.singleton_perm.1 perm).symm
    · intro h
      subst h
      exact List.perm_singleton.1 perm

/-- `SameTests` if they are the same one by one. -/
private theorem SameTests.of_forall₂ (ts ts' : List Test) (h : List.Forall₂ SameTest ts ts') :
    SameTests ts ts' := by
  intro o
  cases o with
  | some v =>
    rw [holds_passes_some, holds_passes_some]
    induction h with
    | nil => rfl
    | cons ht _ ih => rw [List.all_cons, List.all_cons, ht.holds v, ih]
  | none =>
    rw [Bool.eq_iff_iff, holds_passes_none_iff, holds_passes_none_iff]
    cases h with
    | nil => rfl
    | cons ht hrest =>
      -- the test for absence counts only where there is no other
      cases hrest with
      | nil => simp [ht.absence]
      | cons _ _ => simp

/-- Scalars in another order, under `map`, are scalars in another order. -/
private theorem exists_map_scalar_of_perm {items : List Scalar} {vs : List Value}
    (perm : (items.map Value.scalar).Perm vs) :
    ∃ items', vs = items'.map Value.scalar ∧ items.Perm items' := by
  have hcomp : Relation.Comp (· = List.map Value.scalar ·) List.Perm vs items := by
    rw [List.eq_map_comp_perm]
    exact perm.symm
  obtain ⟨items', hvs, hperm⟩ := hcomp
  exact ⟨items', hvs, hperm.symm⟩

/-- `readTest` of a membership test does not see the order of its items. -/
private theorem keeps_readTest {field : String} {key : Key} {us vs : List Value}
    (perm : us.Perm vs) :
    KeepsUpTo SameTest (readTest field key (.list us)) (readTest field key (.list vs)) := by
  intro t h
  obtain ⟨op, hkey, operand⟩ := readTest_eq_ok_iff.1 h
  -- only the two membership tests take a list
  cases operand with
  | oneOf items =>
    obtain ⟨items', rfl, hperm⟩ := exists_map_scalar_of_perm perm
    refine ⟨.oneOf items', readTest_eq_ok_iff.2 ⟨_, hkey, .oneOf items'⟩, ?_, by simp⟩
    intro v
    simp only [Test.holds, hperm.any_eq]
  | noneOf items =>
    obtain ⟨items', rfl, hperm⟩ := exists_map_scalar_of_perm perm
    refine ⟨.noneOf items', readTest_eq_ok_iff.2 ⟨_, hkey, .noneOf items'⟩, ?_, by simp⟩
    intro v
    simp only [Test.holds, hperm.any_eq]

/-! ## Queries -/

/-- Two queries mean the same documents. -/
def Same (q r : Query) : Prop := ∀ d, q.holds d = r.holds d

/-- Every query is the `Same` as itself. -/
theorem Same.refl (q : Query) : Same q q := fun _ => rfl

/-- Two lists of queries mean the same documents, all together and each for itself. -/
structure SameJoined (qs rs : List Query) : Prop where
  all : Same (.all qs) (.all rs)
  any : Same (.any qs) (.any rs)

/-- `SameJoined` in another order. -/
private theorem SameJoined.of_perm (qs rs : List Query) (h : qs.Perm rs) : SameJoined qs rs where
  all d := by simp only [holds, allHold_eq_all, h.all_eq]
  any d := by simp only [holds, anyHolds_eq_any, h.any_eq]

/-- `SameJoined` if they are the same one by one. -/
private theorem SameJoined.of_forall₂ (qs rs : List Query) (h : List.Forall₂ Same qs rs) :
    SameJoined qs rs := by
  induction h with
  | nil => exact ⟨fun _ => rfl, fun _ => rfl⟩
  | cons hqr _ ih =>
    constructor
    · intro d
      -- the other queries taken together are the same, and so is the first
      have hrest := ih.all d
      simp only [holds] at hrest
      simp only [holds, allHold, hqr d, hrest]
    · intro d
      have hrest := ih.any d
      simp only [holds] at hrest
      simp only [holds, anyHolds, hqr d, hrest]

/-- `readClause` of a junction keeps its meaning when its operands keep theirs. -/
private theorem keeps_junction {name : String} {us vs : List Value}
    (h : KeepsUpTo SameJoined (readItems us) (readItems vs)) :
    KeepsUpTo Same (readClause name (.list us)) (readClause name (.list vs)) := by
  intro q hq
  cases readClause_eq_ok_iff.1 hq with
  | conjunction operands =>
    obtain ⟨rs, hrs, hsame⟩ := h _ operands
    exact ⟨.all rs, readClause_eq_ok_iff.2 (.conjunction hrs), hsame.all⟩
  | disjunction operands =>
    obtain ⟨rs, hrs, hsame⟩ := h _ operands
    exact ⟨.any rs, readClause_eq_ok_iff.2 (.disjunction hrs), hsame.any⟩
  | negation operand => cases operand
  | field _ asked => cases asked

/-- `readClause` of a negation keeps its meaning when its operand keeps its own. -/
private theorem keeps_negation {u v : Value} (h : KeepsUpTo Same (ofValue u) (ofValue v)) :
    KeepsUpTo Same (readClause "$not" u) (readClause "$not" v) := by
  intro q hq
  -- the sign as a variable, so that the four ways of reading can be told apart
  generalize hname : "$not" = name at hq
  cases readClause_eq_ok_iff.1 hq with
  | conjunction => simp at hname
  | disjunction => simp at hname
  | negation operand =>
    obtain ⟨r, hr, hsame⟩ := h _ operand
    refine ⟨.except r, readClause_eq_ok_iff.2 (.negation hr), fun d => ?_⟩
    rw [holds, holds, hsame d]
  | field isField => exact absurd (hname ▸ rfl) isField

/-- `readClause` of a field keeps its meaning when its tests are passed alike. -/
private theorem keeps_tests {field : String} {tests tests' : List (Key × Value)}
    (isField : field.toList.head? ≠ some '$')
    (h : KeepsUpTo SameTests (readTests field tests) (readTests field tests')) :
    KeepsUpTo Same (readClause field (.object tests)) (readClause field (.object tests')) := by
  intro q hq
  cases readClause_eq_ok_iff.1 hq with
  | negation => exact absurd rfl isField
  | field _ asked =>
    obtain ⟨ts, hts, rfl⟩ := exists_of_map_eq_ok asked
    obtain ⟨ts', hts', hsame⟩ := h ts hts
    have asked' : readCondition field (.object tests') = .ok (.passes ts') := by
      rw [readCondition, hts']
      rfl
    refine ⟨.field field (.passes ts'), readClause_eq_ok_iff.2 (.field isField asked'), fun d => ?_⟩
    rw [holds, holds, hsame]

/-- `ofValue` of an object keeps its meaning when its entries keep theirs. -/
private theorem keeps_object {entries entries' : List (Key × Value)}
    (h : KeepsUpTo SameJoined (readEntries entries) (readEntries entries')) :
    KeepsUpTo Same (ofValue (.object entries)) (ofValue (.object entries')) := by
  intro q hq
  obtain ⟨qs, hqs, rfl⟩ := ofValue_object_eq_ok_iff.1 hq
  obtain ⟨rs, hrs, hsame⟩ := h qs hqs
  exact ⟨.all rs, ofValue_object_eq_ok_iff.2 ⟨rs, hrs, rfl⟩, hsame.all⟩

mutual

/-- `ofValue` after one reordering means the same documents. -/
theorem Reordering.keepsMeaning : ∀ {v w : Value}, Reordering v w →
    KeepsUpTo Same (ofValue v) (ofValue w)
  | _, _, .keys perm =>
    keeps_object (.of_perm (fun _ _ => readEntries_eq_ok_iff) SameJoined.of_perm perm)
  | _, _, .clause inside =>
    keeps_object (.of_replaced (fun _ _ => readEntries_eq_ok_iff) SameJoined.of_forall₂ Same.refl
      inside.keepsMeaning)

/-- `readEntry` after one reordering means the same documents. -/
theorem ClauseReordering.keepsMeaning : ∀ {c c' : Key × Value}, ClauseReordering c c' →
    KeepsUpTo Same (readEntry c) (readEntry c')
  | _, _, .operands _ perm =>
    keeps_junction (.of_perm (fun _ _ => readItems_eq_ok_iff) SameJoined.of_perm perm)
  | _, _, .operand _ inside =>
    keeps_junction (.of_replaced (fun _ _ => readItems_eq_ok_iff) SameJoined.of_forall₂ Same.refl
      inside.keepsMeaning)
  | _, _, .negated inside => keeps_negation inside.keepsMeaning
  | _, _, .operators isField perm =>
    keeps_tests isField (.of_perm (fun _ _ => readTests_eq_ok_iff) SameTests.of_perm perm)
  | _, _, .items isField _ perm =>
    keeps_tests isField (.of_replaced (fun _ _ => readTests_eq_ok_iff) SameTests.of_forall₂
      SameTest.refl (keeps_readTest perm))

end

/-- `ofValue` after any number of reorderings means the same documents. -/
theorem Reordered.keepsMeaning {v w : Value} (h : Reordered v w) :
    KeepsUpTo Same (ofValue v) (ofValue w) := by
  induction h with
  | refl => exact fun q hq => ⟨q, hq, Same.refl q⟩
  | tail _ step ih =>
    intro q hq
    -- what the value before the last one is read as stands between the two
    obtain ⟨r, hr, hqr⟩ := ih q hq
    obtain ⟨r', hr', hrr'⟩ := step.keepsMeaning r hr
    exact ⟨r', hr', fun d => (hqr d).trans (hrr' d)⟩

/-! ## Patterns -/

section Patterns

variable {s : String}

/-- `HasPattern` of an object: the pattern stands in one of the entries. -/
private theorem hasPattern_object_iff {entries : List (Key × Value)} :
    HasPattern s (.object entries) ↔ ∃ c ∈ entries, HasPattern s (.object [c]) := by
  constructor
  · intro h
    -- an entry is looked at as an object of its own, so that it can be put back among others
    cases h with
    | tests clause isField test => exact ⟨_, clause, .tests List.mem_cons_self isField test⟩
    | junction clause sign operand inside =>
      exact ⟨_, clause, .junction List.mem_cons_self sign operand inside⟩
    | negation clause inside => exact ⟨_, clause, .negation List.mem_cons_self inside⟩
  · intro h
    obtain ⟨c, hc, h⟩ := h
    cases h with
    | tests clause isField test => exact .tests (List.mem_singleton.1 clause ▸ hc) isField test
    | junction clause sign operand inside =>
      exact .junction (List.mem_singleton.1 clause ▸ hc) sign operand inside
    | negation clause inside => exact .negation (List.mem_singleton.1 clause ▸ hc) inside

/-- `HasPattern` of a junction: the pattern stands in one of the operands. -/
private theorem hasPattern_junction_iff {name : String} (sign : name = "$and" ∨ name = "$or")
    {us : List Value} :
    HasPattern s (.object [(.text name, .list us)]) ↔ ∃ u ∈ us, HasPattern s u := by
  constructor
  · intro h
    -- the only clause is a junction, so the pattern is in one of its operands
    cases h with
    | tests clause => simp at clause
    | junction clause _ operand inside =>
      obtain ⟨-, rfl⟩ := by simpa using clause
      exact ⟨_, operand, inside⟩
    | negation clause =>
      obtain ⟨rfl, -⟩ := by simpa using clause
      simp at sign
  · intro h
    obtain ⟨u, operand, inside⟩ := h
    exact .junction List.mem_cons_self sign operand inside

/-- `HasPattern` of a negation: the pattern stands in its operand. -/
private theorem hasPattern_negation_iff {v : Value} :
    HasPattern s (.object [(.text "$not", v)]) ↔ HasPattern s v := by
  constructor
  · intro h
    -- the only clause is a negation, so the pattern is in its operand
    cases h with
    | tests clause isField =>
      obtain ⟨rfl, -⟩ := by simpa using clause
      exact absurd rfl isField
    | junction clause sign =>
      obtain ⟨rfl, -⟩ := by simpa using clause
      simp at sign
    | negation clause inside =>
      obtain rfl := by simpa using clause
      exact inside
  · exact .negation List.mem_cons_self

/-- `HasPattern` of tests: the pattern stands under the sign of its operator. -/
private theorem hasPattern_tests_iff {field : String} (isField : field.toList.head? ≠ some '$')
    {tests : List (Key × Value)} :
    HasPattern s (.object [(.text field, .object tests)]) ↔
      (.text FieldOperator.like.sign, .text s) ∈ tests := by
  constructor
  · intro h
    cases h with
    | tests clause _ test =>
      obtain ⟨-, rfl⟩ := by simpa using clause
      exact test
    | junction clause => simp at clause
    | negation clause =>
      obtain ⟨rfl, -⟩ := by simpa using clause
      exact absurd rfl isField
  · exact .tests List.mem_cons_self isField

/-- `∃ x ∈ l, P x` with another in the place of one member, of which `P` says the same. -/
private theorem exists_mem_replaced_iff {α : Type} {P : α → Prop} {before after : List α} {a a' : α}
    (h : P a ↔ P a') :
    (∃ x ∈ before ++ a :: after, P x) ↔ ∃ x ∈ before ++ a' :: after, P x := by
  simp [or_and_right, exists_or, h]

mutual

/-- `Reordering` takes no pattern away and adds none. -/
theorem Reordering.hasPattern_iff : ∀ {v w : Value}, Reordering v w →
    (HasPattern s v ↔ HasPattern s w)
  | _, _, .keys perm => by
    rw [hasPattern_object_iff, hasPattern_object_iff]
    simp only [perm.mem_iff]
  | _, _, .clause inside => by
    rw [hasPattern_object_iff, hasPattern_object_iff]
    exact exists_mem_replaced_iff inside.hasPattern_iff

/-- `ClauseReordering` takes no pattern away and adds none. -/
theorem ClauseReordering.hasPattern_iff : ∀ {c c' : Key × Value}, ClauseReordering c c' →
    (HasPattern s (.object [c]) ↔ HasPattern s (.object [c']))
  | _, _, .operands sign perm => by
    rw [hasPattern_junction_iff sign, hasPattern_junction_iff sign]
    simp only [perm.mem_iff]
  | _, _, .operand sign inside => by
    rw [hasPattern_junction_iff sign, hasPattern_junction_iff sign]
    exact exists_mem_replaced_iff inside.hasPattern_iff
  | _, _, .negated inside => by
    rw [hasPattern_negation_iff, hasPattern_negation_iff]
    exact inside.hasPattern_iff
  | _, _, .operators isField perm => by
    rw [hasPattern_tests_iff isField, hasPattern_tests_iff isField]
    exact perm.mem_iff
  | _, _, .items isField _ _ => by
    rw [hasPattern_tests_iff isField, hasPattern_tests_iff isField]
    simp

end

/-- `Reordered` values have the same patterns. -/
theorem Reordered.hasPattern_iff {v w : Value} (h : Reordered v w) :
    HasPattern s v ↔ HasPattern s w := by
  induction h with
  | refl => exact .rfl
  | tail _ step ih => exact ih.trans step.hasPattern_iff

end Patterns

/-! ## Integers -/

section Integers

variable {n : Int}

mutual

/-- `Reordering` takes no integer away and adds none. -/
theorem Reordering.holds_iff : ∀ {v w : Value}, Reordering v w → (v.Holds n ↔ w.Holds n)
  | _, _, .keys perm => by
    rw [Value.holds_object_iff, Value.holds_object_iff]
    simp only [perm.mem_iff]
  | _, _, .clause inside => by
    rw [Value.holds_object_iff, Value.holds_object_iff]
    exact exists_mem_replaced_iff inside.holds_iff

/-- `ClauseReordering` leaves the key of an entry and the integers in its value. -/
theorem ClauseReordering.holds_iff : ∀ {c c' : Key × Value}, ClauseReordering c c' →
    (c.1 = .int n ∨ c.2.Holds n ↔ c'.1 = .int n ∨ c'.2.Holds n)
  | _, _, .operands _ perm => by
    simp only [Value.holds_list_iff, perm.mem_iff]
  | _, _, .operand _ inside => by
    simp only [Value.holds_list_iff]
    exact or_congr_right (exists_mem_replaced_iff inside.holds_iff)
  | _, _, .negated inside => or_congr_right inside.holds_iff
  | _, _, .operators _ perm => by
    simp only [Value.holds_object_iff, perm.mem_iff]
  | _, _, .items _ _ perm => by
    simp only [Value.holds_object_iff]
    refine or_congr_right (exists_mem_replaced_iff (or_congr_right ?_))
    simp only [Value.holds_list_iff, perm.mem_iff]

end

/-- `Reordered` values keep the limit of digits both or neither, since they have the same integers.
-/
private theorem Reordered.fits_eq {v w : Value} (h : Reordered v w) : v.fits = w.fits := by
  rw [Bool.eq_iff_iff, Value.fits_iff, Value.fits_iff]
  induction h with
  | refl => exact .rfl
  | tail _ step ih => simp only [ih, step.holds_iff]

end Integers

/-! ## Any number of reorderings -/

/-- `Settled` is kept by reordering. -/
theorem Reordered.settled {v w : Value} (h : Reordered v w) (hv : Settled v) : Settled w :=
  fun s inside => hv s (h.hasPattern_iff.2 inside)

/-- `IsQuery` is kept by reordering. -/
private theorem Reordered.isQuery {v w : Value} (h : Reordered v w) (hv : IsQuery v) :
    IsQuery w := by
  obtain ⟨q, hq⟩ := exists_ofValue_iff.2 hv
  obtain ⟨r, hr, -⟩ := h.keepsMeaning q hq
  exact exists_ofValue_iff.1 ⟨r, hr⟩

/-- Two values are both queries or both not, and select the same ids in the same order, where their
faults can be shown. -/
structure SameAnswers (v w : Value) : Prop where
  accepted : (∃ q, ofValue v = .ok q) ↔ ∃ q, ofValue w = .ok q
  selected : ¬ Breaks .unwritable v → ¬ Breaks .unwritable w → ∀ docs : Collection, docs.IsKeyed →
    ∃ found, selectValue docs v = .ok found ∧ selectValue docs w = .ok found
  /-- One that breaks is no query, and neither is the other; it is not answered. -/
  unanswered : ∀ u ∈ [v, w], Breaks .unwritable u →
    ¬ IsQuery v ∧ ¬ IsQuery w ∧ ∀ docs, selectValue docs u = .error .unwritable
  /-- Neither breaks if no integer in them has too many digits. -/
  shown : v.fits = true → ¬ Breaks .unwritable v ∧ ¬ Breaks .unwritable w

/-- `SameAnswers` after any reordering, as far as no pattern ends the call: a value is accepted if
it was accepted before, and it selects the same ids in the same order from every collection of
documents under their own ids. Of a value that is no query the order decides which fault comes
first; it counts where that one cannot be shown. -/
theorem sameAnswers_of_reordered {v w : Value} (h : Reordered v w) (hv : Settled v) :
    SameAnswers v w := by
  have haccepted : IsQuery v ↔ IsQuery w := ⟨h.isQuery, h.symm.isQuery⟩
  constructor
  case accepted => rw [exists_ofValue_iff, exists_ofValue_iff, haccepted]
  case selected =>
    intro hshown hshown' docs hdocs
    by_cases hquery : IsQuery v
    -- both are read, and what they are read as means the same documents
    · obtain ⟨q, hq⟩ := exists_ofValue_iff.2 hquery
      obtain ⟨r, hr, hsame⟩ := h.keepsMeaning q hq
      have hfound : selectValue docs w = .ok (docs.keys.filter (q.holdsAt docs)) := by
        apply selectValue_eq_filter hdocs hr
        intro id d hget
        rw [holdsAt_of_get? hget, hsame d]
      exact ⟨_, selectValue_eq_filter_keys hdocs hq, hfound⟩
    · -- neither is a query, and nothing keeps either from being refused
      have hquery' : ¬ IsQuery w := fun hw => hquery (haccepted.2 hw)
      obtain ⟨x, hnothing⟩ := exists_meansNothing hquery (hv.not_breaks hshown)
      obtain ⟨y, hnothing'⟩ := exists_meansNothing hquery' ((h.settled hv).not_breaks hshown')
      exact ⟨[], hnothing.select docs, hnothing'.select docs⟩
  case unanswered =>
    intro u hu hbreaks
    -- what breaks is no query, and then neither of them is one
    have hnone : ¬ IsQuery v ∧ ¬ IsQuery w := by
      simp only [List.mem_cons, List.not_mem_nil, or_false] at hu
      rcases hu with rfl | rfl
      · exact ⟨hbreaks.not_isQuery, fun hw => hbreaks.not_isQuery (haccepted.2 hw)⟩
      · exact ⟨fun hquery => hbreaks.not_isQuery (haccepted.1 hquery), hbreaks.not_isQuery⟩
    exact ⟨hnone.1, hnone.2, hbreaks.interrupts.select⟩
  case shown =>
    intro hfits
    exact ⟨not_breaks_unwritable hfits, not_breaks_unwritable (h.fits_eq ▸ hfits)⟩

/-- A query with tests of a field and a disjunction. -/
def testsAndChoice (tests : List (Key × Value)) (operands : List Value) : Value :=
  .object [(.text "n", .object tests), (.text "$or", .list operands)]

/-- One of two values that is there, and one id or a text that begins so. -/
def memberAndNamed : Value :=
  testsAndChoice [(.text "$in", .list [.int 1, .null]), (.text "$exists", .bool true)]
    [.object [(.text idField, .text "c")],
      .object [(.text "s", .object [(.text "$like", .text "^a")])]]

/-- The same with everything the other way round. -/
def namedAndMember : Value :=
  .object [(.text "$or", .list [.object [(.text "s", .object [(.text "$like", .text "^a")])],
      .object [(.text idField, .text "c")]]),
    (.text "n", .object [(.text "$exists", .bool true), (.text "$in", .list [.null, .int 1])])]

/-- `Reordered` in four steps: inside a test, its tests, the operands and the keys. -/
private theorem reordered_memberAndNamed : Reordered memberAndNamed namedAndMember := by
  have hitems (operands : List Value) : Reordering
      (testsAndChoice [(.text "$in", .list [.int 1, .null]), (.text "$exists", .bool true)]
        operands)
      (testsAndChoice [(.text "$in", .list [.null, .int 1]), (.text "$exists", .bool true)]
        operands) :=
    @Reordering.clause [] _ _ _
      (@ClauseReordering.items "n" "$in" [] _ _ _ (by decide) (.inl rfl) (.swap _ _ _))
  have hoperators (t t' : Key × Value) (operands : List Value) :
      Reordering (testsAndChoice [t, t'] operands) (testsAndChoice [t', t] operands) :=
    @Reordering.clause [] _ _ _ (.operators (by decide) (.swap _ _ _))
  have hoperands (tests : List (Key × Value)) (u v : Value) :
      Reordering (testsAndChoice tests [u, v]) (testsAndChoice tests [v, u]) :=
    @Reordering.clause [_] _ _ _ (.operands (.inr rfl) (.swap _ _ _))
  have hkeys (c c' : Key × Value) : Reordering (.object [c, c']) (.object [c', c]) :=
    .keys (.swap _ _ _)
  -- the items of `$in`, the operators, the operands of `$or`, and last the keys
  exact .head (hitems _) (.head (hoperators _ _ _) (.head (hoperands _ _ _) (.single (hkeys _ _))))

/-- `Settled`, since its only pattern compiles. -/
private theorem settled_memberAndNamed : Settled memberAndNamed := by
  intro s h
  have hs : s = "^a" := by
    rw [memberAndNamed, testsAndChoice, hasPattern_object_iff] at h
    obtain ⟨c, hc, h⟩ := h
    simp only [List.mem_cons, List.not_mem_nil, or_false] at hc
    -- the tests of the number hold no pattern, and of the operands only the second does
    rcases hc with rfl | rfl
    · rw [hasPattern_tests_iff (by decide)] at h
      simp [FieldOperator.sign] at h
    · rw [hasPattern_junction_iff (.inr rfl)] at h
      obtain ⟨u, hu, inside⟩ := h
      simp only [List.mem_cons, List.not_mem_nil, or_false] at hu
      rcases hu with rfl | rfl
      · cases inside with
        | tests clause => simp at clause
        | junction clause => simp at clause
        | negation clause => simp [idField] at clause
      · exact inside.eq_of_single (by decide)
  subst hs
  exact .inl (Pattern.refusal?_eq_none_iff.1 (by decide +kernel))

/-- `selectValue` finds the third document either way. -/
theorem sameAnswers_of_reordered_memberAndNamed :
    Reordered memberAndNamed namedAndMember ∧ Settled memberAndNamed ∧
    (∃ q, ofValue namedAndMember = .ok q) ∧
    selectValue threeNumbered memberAndNamed = .ok ["c"] ∧
    selectValue threeNumbered namedAndMember = .ok ["c"] := by
  have hfound : selectValue threeNumbered memberAndNamed = .ok ["c"] := by decide +kernel
  have hsame := sameAnswers_of_reordered reordered_memberAndNamed settled_memberAndNamed
  obtain ⟨hshown, hshown'⟩ := hsame.shown (by decide +kernel)
  obtain ⟨found, hv, hw⟩ := hsame.selected hshown hshown' threeNumbered (show ∀ e ∈ _, _ by decide)
  refine ⟨reordered_memberAndNamed, settled_memberAndNamed, hsame.accepted.1 ?_, hfound, ?_⟩
  · exact ⟨_, rfl⟩
  · rw [hw, ← hv, hfound]

/-- A key that is no operator, and an operand that cannot be shown. -/
def twoFaults : Value :=
  .object [(.text "$bad", .int 1), (.text "a", .object [(.text "$exists", unshownInteger)])]

/-- The same with the keys the other way round. -/
def twoFaultsReordered : Value :=
  .object [(.text "a", .object [(.text "$exists", unshownInteger)]), (.text "$bad", .int 1)]

/-- `twoFaults` is refused for its key and selects nothing, `twoFaultsReordered` is not answered. -/
theorem not_sameAnswers_twoFaults :
    Reordered twoFaults twoFaultsReordered ∧ (∀ s, ¬ HasPattern s twoFaults) ∧
      selectValue .empty twoFaults = .ok [] ∧
      selectValue .empty twoFaultsReordered = .error .unwritable := by
  refine ⟨.single (.keys (.swap _ _ _)), fun s h => ?_, rfl, ?_⟩
  · rw [twoFaults, hasPattern_object_iff] at h
    obtain ⟨c, hc, h⟩ := h
    simp only [List.mem_cons, List.not_mem_nil, or_false] at hc
    rcases hc with rfl | rfl
    · cases h <;> simp_all
    · rw [hasPattern_tests_iff (by decide)] at h
      simp [FieldOperator.sign] at h
  · refine (Breaks.interrupts ?_).select .empty
    refine .object (List.nil_append _).symm (by simp) (.tests (by decide) ?_)
    exact ⟨[], _, [], rfl, by simp, testBreaks_unshownInteger⟩

end Query

end DocStore
