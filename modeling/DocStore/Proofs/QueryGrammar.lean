import DocStore.Proofs.LongIntegers
import DocStore.Proofs.QueryOperands

/-!
# The grammar of queries

Which values are queries, said without reading any: `Query.IsQuery`. A query is an object of
clauses; a clause stands under a group operator over queries, or under the name of a field over a
scalar or over an object of tests, each with an operand of its kind. Reading keeps to this grammar
in both directions.

The only values on which it gives no verdict are those of `Query.Breaks`: the first thing in them
that is not as it should be is a pattern that is refused for a reason of its own, or a key or an
operand that the error cannot show, since an integer in it has too many digits.

## Key results

- `Query.exists_ofValue_iff`: `ofValue` accepts the values of the grammar and no others
- `Query.ofValue_eq_broken_iff`: `ofValue` ends without a verdict just on the values that break
- `Query.exists_rejected_iff`: `ofValue` rejects all other values
-/

namespace DocStore

-- powers are those of the core library, whatever else is imported
attribute [local instance (high)] instPowNat

namespace Query

/-! ## The grammar -/

/-- The entries of an object of tests. -/
inductive IsTest : Key × Value → Prop where
  | operator {op : FieldOperator} {v : Value} {t : Test} (operand : Operand op v t) :
    IsTest (.text op.sign, v)

mutual

/-- The values that are queries. -/
inductive IsQuery : Value → Prop where
  | object {entries : List (Key × Value)} (each : ∀ c ∈ entries, IsClause c) :
    IsQuery (.object entries)

/-- The entries of a query. -/
inductive IsClause : Key × Value → Prop where
  /-- A conjunction or a disjunction of queries. -/
  | junction {name : String} {operands : List Value} (sign : name = "$and" ∨ name = "$or")
    (each : ∀ v ∈ operands, IsQuery v) : IsClause (.text name, .list operands)
  | negation {v : Value} (operand : IsQuery v) : IsClause (.text "$not", v)
  /-- A field that is compared with a scalar. -/
  | comparison {field : String} (isField : field.toList.head? ≠ some '$') (s : Scalar) :
    IsClause (.text field, .scalar s)
  /-- A field that is tested. -/
  | tests {field : String} {tests : List (Key × Value)} (isField : field.toList.head? ≠ some '$')
    (each : ∀ t ∈ tests, IsTest t) : IsClause (.text field, .object tests)

end

/-! ## What is in the way of a verdict -/

/-- A test on which there is no verdict. -/
inductive TestBreaks : QueryBreak → Key × Value → Prop where
  /-- The pattern is refused for a reason that is not its syntax. -/
  | pattern {s : String} {e : PatternError} (refused : Pattern.read s = .error e)
    (reason : e ≠ .malformed) : TestBreaks (.pattern e) (.text FieldOperator.like.sign, .text s)
  /-- The key is no operator, and cannot be shown. -/
  | key {key : Key} {v : Value} (long : key.fits = false) : TestBreaks .unwritable (key, v)
  /-- The operator does not take the operand, which cannot be shown. -/
  | operand {op : FieldOperator} {v : Value} (misfit : ∀ t, ¬ Operand op v t)
    (long : v.fits = false) : TestBreaks .unwritable (.text op.sign, v)

/-- Some member of a list breaks, and all before it are as they should be. -/
def FirstBreaks {α : Type} (good broken : α → Prop) (l : List α) : Prop :=
  ∃ before a after, l = before ++ a :: after ∧ (∀ b ∈ before, good b) ∧ broken a

mutual

/-- A value on which there is no verdict: everything before some clause is well formed, and there is
no verdict on the clause. -/
inductive Breaks : QueryBreak → Value → Prop where
  | object {b : QueryBreak} {entries before after : List (Key × Value)} {c : Key × Value}
    (split : entries = before ++ c :: after) (good : ∀ d ∈ before, IsClause d)
    (broken : ClauseBreaks b c) : Breaks b (.object entries)

/-- The same for an entry of a query. -/
inductive ClauseBreaks : QueryBreak → Key × Value → Prop where
  /-- The key is no name, and cannot be shown. -/
  | key {key : Key} {v : Value} (long : key.fits = false) : ClauseBreaks .unwritable (key, v)
  | junction {b : QueryBreak} {name : String} {operands before after : List Value} {v : Value}
    (sign : name = "$and" ∨ name = "$or") (split : operands = before ++ v :: after)
    (good : ∀ w ∈ before, IsQuery w) (broken : Breaks b v) :
    ClauseBreaks b (.text name, .list operands)
  | negation {b : QueryBreak} {v : Value} (broken : Breaks b v) : ClauseBreaks b (.text "$not", v)
  | tests {b : QueryBreak} {field : String} {tests : List (Key × Value)}
    (isField : field.toList.head? ≠ some '$') (broken : FirstBreaks IsTest (TestBreaks b) tests) :
    ClauseBreaks b (.text field, .object tests)

end

/-- A text stands in a value as the pattern of a test. -/
inductive HasPattern (s : String) : Value → Prop where
  | tests {entries tests : List (Key × Value)} {field : String}
    (clause : (.text field, .object tests) ∈ entries) (isField : field.toList.head? ≠ some '$')
    (test : (.text FieldOperator.like.sign, .text s) ∈ tests) : HasPattern s (.object entries)
  | junction {entries : List (Key × Value)} {name : String} {operands : List Value} {v : Value}
    (clause : (.text name, .list operands) ∈ entries) (sign : name = "$and" ∨ name = "$or")
    (operand : v ∈ operands) (inside : HasPattern s v) : HasPattern s (.object entries)
  | negation {entries : List (Key × Value)} {v : Value} (clause : (.text "$not", v) ∈ entries)
    (inside : HasPattern s v) : HasPattern s (.object entries)

/-- Every pattern in a value compiles or breaks the rules of its syntax. -/
def Settled (v : Value) : Prop :=
  ∀ s, HasPattern s v → (∃ p, Pattern.read s = .ok p) ∨ Pattern.read s = .error .malformed

/-! ## Verdicts -/

/-- What is known of a reading: it succeeds just where something is good, and it ends without a
verdict just where something is broken. -/
structure Verdict {α : Type} (r : Except QueryFault α) (good : Prop)
    (broken : QueryBreak → Prop) : Prop where
  accepted : (∃ a, r = .ok a) ↔ good
  unsettled : ∀ b, r = .error (.broken b) ↔ broken b

section Verdict

variable {α β : Type} {good good' : Prop} {broken broken' : QueryBreak → Prop}

/-- `FirstBreaks` nowhere in the empty list. -/
theorem FirstBreaks.nil {good broken : α → Prop} : ¬ FirstBreaks good broken [] := by
  rintro ⟨before, a, after, hsplit, -⟩
  simp at hsplit

/-- `FirstBreaks` at the first member, or that one is as it should be and some later one breaks. -/
theorem firstBreaks_cons {good broken : α → Prop} {a : α} {rest : List α} :
    FirstBreaks good broken (a :: rest) ↔
      broken a ∨ good a ∧ FirstBreaks good broken rest := by
  constructor
  · rintro ⟨before, b, after, hsplit, hgood, hbroken⟩
    -- the broken one stands at the front, or behind a front that is good
    cases before with
    | nil =>
      cases hsplit
      exact .inl hbroken
    | cons c before =>
      cases hsplit
      refine .inr ⟨hgood _ List.mem_cons_self, before, b, after, rfl, ?_, hbroken⟩
      exact fun d hd => hgood d (List.mem_cons_of_mem _ hd)
  · rintro (hbroken | ⟨hgood, before, b, after, rfl, hbefore, hbroken⟩)
    · exact ⟨[], a, rest, rfl, by simp, hbroken⟩
    · refine ⟨a :: before, b, after, rfl, ?_, hbroken⟩
      exact List.forall_mem_cons.2 ⟨hgood, hbefore⟩

/-- `Verdict` of a reading that succeeds. -/
theorem Verdict.ok (a : α) (h : good) (h' : ∀ b, ¬ broken b) :
    Verdict (.ok a : Except QueryFault α) good broken where
  accepted := ⟨fun _ => h, fun _ => ⟨a, rfl⟩⟩
  unsettled b := ⟨nofun, fun hb => absurd hb (h' b)⟩

/-- `Verdict` of a reading that raises an error: the error rejects, unless its text cannot be
made. -/
theorem Verdict.raised (x : QueryError) (h : ¬ good)
    (h' : ∀ b, broken b ↔ b = .unwritable ∧ x.fits = false) :
    Verdict (.error x.raised : Except QueryFault α) good broken where
  accepted := ⟨nofun, fun hg => absurd hg h⟩
  unsettled b := by
    rw [h' b, QueryError.raised]
    cases x.fits <;> simp [eq_comm]

/-- `Verdict` of a reading that raises an error which can always be shown. -/
theorem Verdict.rejected (x : QueryError) (hfits : x.fits = true) (h : ¬ good)
    (h' : ∀ b, ¬ broken b) : Verdict (.error x.raised : Except QueryFault α) good broken :=
  .raised x h fun b => by simp [h' b, hfits]

/-- A function of what is read does not change the `Verdict`. -/
theorem Verdict.map {r : Except QueryFault α} (h : Verdict r good broken) (f : α → β) :
    Verdict (r.map f) good broken := by
  obtain ⟨haccepted, hunsettled⟩ := h
  cases r with
  | ok a => exact ⟨by simpa [Except.map] using haccepted, by simpa [Except.map] using hunsettled⟩
  | error x => exact ⟨by simpa [Except.map] using haccepted, by simpa [Except.map] using hunsettled⟩

/-- `Verdict` in other words for what is good and what is broken. -/
theorem Verdict.congr {r : Except QueryFault α} (h : Verdict r good broken)
    (hgood : good ↔ good') (hbroken : ∀ b, broken b ↔ broken' b) : Verdict r good' broken' :=
  ⟨h.accepted.trans hgood, fun b => (h.unsettled b).trans (hbroken b)⟩

/-- `Verdict` of a first part and the rest: the rest counts only after the first part is good. -/
theorem Verdict.cons {r : Except QueryFault α} {s : Except QueryFault (List α)}
    (h : Verdict r good broken) (h' : Verdict s good' broken') :
    Verdict (r.bind fun a => s.map (a :: ·)) (good ∧ good')
      fun b => broken b ∨ good ∧ broken' b := by
  cases r with
  | ok a =>
    have hgood : good := h.accepted.1 ⟨a, rfl⟩
    have hbroken (b) : ¬ broken b := fun hb => nomatch (h.unsettled b).2 hb
    refine (h'.map (a :: ·)).congr (by simp [hgood]) fun b => ?_
    simp [hgood, hbroken b]
  | error x =>
    -- the first part has an error, which is that of the whole
    have hgood : ¬ good := fun hg => by
      obtain ⟨a, ha⟩ := h.accepted.2 hg
      cases ha
    exact ⟨by simpa [Except.bind] using fun hg => absurd hg hgood,
      fun b => by simpa [Except.bind, hgood] using h.unsettled b⟩

end Verdict

/-! ## Tests -/

/-- `IsTest` of what stands under the sign of an operator: the operator takes it. -/
private theorem isTest_sign_iff {op : FieldOperator} {v : Value} :
    IsTest (.text op.sign, v) ↔ ∃ t, op.test? v = .ok (some t) := by
  simp only [test?_eq_some_iff]
  constructor
  · generalize hkey : Key.text op.sign = key
    rintro ⟨operand⟩
    rw [FieldOperator.sign_injective (Key.text.inj hkey)]
    exact ⟨_, operand⟩
  · rintro ⟨t, operand⟩
    exact .operator operand

/-- `TestBreaks` of what stands under the sign of an operator: the operator gives no answer, or
refuses what cannot be shown. -/
private theorem testBreaks_sign_iff {b : QueryBreak} {op : FieldOperator} {v : Value} :
    TestBreaks b (.text op.sign, v) ↔ (∃ e, b = .pattern e ∧ op.test? v = .error e) ∨
      b = .unwritable ∧ op.test? v = .ok none ∧ v.fits = false := by
  constructor
  -- the key is not decomposed by cases, since a sign is a function of its operator
  · generalize hkey : Key.text op.sign = key
    intro h
    cases h with
    | pattern refused reason =>
      refine .inl ⟨_, rfl, test?_eq_error_iff.2 ?_⟩
      exact ⟨FieldOperator.sign_injective (Key.text.inj hkey), _, rfl, refused, reason⟩
    | key long =>
      subst hkey
      cases long
    | operand misfit long =>
      rw [FieldOperator.sign_injective (Key.text.inj hkey)]
      exact .inr ⟨rfl, test?_eq_none misfit long, long⟩
  · rintro (⟨e, rfl, htest⟩ | ⟨rfl, htest, long⟩)
    · obtain ⟨rfl, s, rfl, refused, reason⟩ := test?_eq_error_iff.1 htest
      exact .pattern refused reason
    · refine .operand (fun t ht => ?_) long
      rw [test?_eq_some_iff.2 ht] at htest
      cases htest

/-- `Verdict` on one operator of a field. -/
private theorem verdict_readTest (field : String) (key : Key) (v : Value) :
    Verdict (readTest field key v) (IsTest (key, v)) (TestBreaks · (key, v)) := by
  unfold readTest
  split
  · -- the key is no operator
    rename_i hkey
    have hnot (op : FieldOperator) : key ≠ .text op.sign := fun h => by
      rw [FieldOperator.ofKey?_eq_some_iff.2 h] at hkey
      cases hkey
    refine .raised _ ?_ fun b => ⟨?_, ?_⟩
    · rintro ⟨operand⟩
      exact hnot _ rfl
    · intro h
      cases h with
      | pattern => exact absurd rfl (hnot _)
      | key long => exact ⟨rfl, long⟩
      | operand => exact absurd rfl (hnot _)
    · rintro ⟨rfl, long⟩
      exact .key long
  · rename_i op hop
    obtain rfl := FieldOperator.ofKey?_eq_some_iff.1 hop
    -- for an operator the verdict is that of its operand
    suffices h : Verdict _ (∃ t, op.test? v = .ok (some t)) _ from
      h.congr isTest_sign_iff.symm fun _ => testBreaks_sign_iff.symm
    split
    · rename_i e he
      exact ⟨by simp [he], fun b => by simpa [he] using eq_comm⟩
    · rename_i hnone
      exact .raised _ (by simp [hnone]) (by simp [hnone, QueryError.fits])
    · rename_i t ht
      exact .ok _ ⟨t, ht⟩ (by simp [ht])

/-- `readTests` reads the first operator, and then the rest. -/
theorem readTests_cons (field : String) (key : Key) (v : Value) (rest : List (Key × Value)) :
    readTests field ((key, v) :: rest) =
      (readTest field key v).bind fun t => (readTests field rest).map (t :: ·) := by
  rw [readTests]
  cases readTest field key v <;> rfl

/-- `Verdict` on the operators of a field. -/
theorem verdict_readTests (field : String) (tests : List (Key × Value)) :
    Verdict (readTests field tests) (∀ t ∈ tests, IsTest t)
      (fun b => FirstBreaks IsTest (TestBreaks b) tests) := by
  induction tests with
  | nil => exact .ok _ (by simp) fun _ => FirstBreaks.nil
  | cons t rest ih =>
    obtain ⟨key, v⟩ := t
    rw [readTests_cons]
    exact ((verdict_readTest field key v).cons ih).congr List.forall_mem_cons.symm
      fun _ => firstBreaks_cons.symm

/-! ## Clauses -/

section Clauses

variable {name : String} {v : Value} {b : QueryBreak}

/-- The operator sign is in front of the names of junctions. -/
theorem head?_of_junction (sign : name = "$and" ∨ name = "$or") : name.toList.head? = some '$' := by
  rcases sign with rfl | rfl <;> rfl

/-- `IsClause` of a junction: its operand is a list of queries. -/
private theorem isClause_junction_iff (sign : name = "$and" ∨ name = "$or") :
    IsClause (.text name, v) ↔ ∃ items, v = .list items ∧ ∀ w ∈ items, IsQuery w := by
  constructor
  · intro h
    cases h with
    | junction _ each => exact ⟨_, rfl, each⟩
    | negation => simp at sign
    | comparison isField => exact absurd (head?_of_junction sign) isField
    | tests isField => exact absurd (head?_of_junction sign) isField
  · rintro ⟨items, rfl, each⟩
    exact .junction sign each

/-- `ClauseBreaks` of a junction: its operand is a list, of which the first that is no query breaks.
-/
private theorem clauseBreaks_junction_iff (sign : name = "$and" ∨ name = "$or") :
    ClauseBreaks b (.text name, v) ↔
      ∃ items, v = .list items ∧ FirstBreaks IsQuery (Breaks b) items := by
  constructor
  · intro h
    cases h with
    | key long => cases long
    | junction _ split good broken => exact ⟨_, rfl, _, _, _, split, good, broken⟩
    | negation => simp at sign
    | tests isField => exact absurd (head?_of_junction sign) isField
  · rintro ⟨items, rfl, before, w, after, split, good, broken⟩
    exact .junction sign split good broken

/-- `IsClause` of a negation: its operand is a query. -/
private theorem isClause_negation_iff : IsClause (.text "$not", v) ↔ IsQuery v := by
  constructor
  · intro h
    cases h with
    | junction sign => simp at sign
    | negation operand => exact operand
    | comparison isField => exact absurd rfl isField
    | tests isField => exact absurd rfl isField
  · exact .negation

/-- `ClauseBreaks` of a negation: its operand breaks. -/
private theorem clauseBreaks_negation_iff : ClauseBreaks b (.text "$not", v) ↔ Breaks b v := by
  constructor
  · intro h
    cases h with
    | key long => cases long
    | junction sign => simp at sign
    | negation broken => exact broken
    | tests isField => exact absurd rfl isField
  · exact .negation

/-- `IsClause` of a field: a scalar, or an object of tests. -/
private theorem isClause_field_iff (isField : name.toList.head? ≠ some '$') :
    IsClause (.text name, v) ↔
      (∃ s, v = .scalar s) ∨ ∃ tests, v = .object tests ∧ ∀ t ∈ tests, IsTest t := by
  constructor
  · intro h
    cases h with
    | junction sign => exact absurd (head?_of_junction sign) isField
    | negation => exact absurd rfl isField
    | comparison _ s => exact .inl ⟨s, rfl⟩
    | tests _ each => exact .inr ⟨_, rfl, each⟩
  · rintro (⟨s, rfl⟩ | ⟨tests, rfl, each⟩)
    · exact .comparison isField s
    · exact .tests isField each

/-- `ClauseBreaks` of a field: an object, of which the first entry that is no test breaks. -/
private theorem clauseBreaks_field_iff (isField : name.toList.head? ≠ some '$') :
    ClauseBreaks b (.text name, v) ↔
      ∃ tests, v = .object tests ∧ FirstBreaks IsTest (TestBreaks b) tests := by
  constructor
  · intro h
    cases h with
    | key long => cases long
    | junction sign => exact absurd (head?_of_junction sign) isField
    | negation => exact absurd rfl isField
    | tests _ broken => exact ⟨_, rfl, broken⟩
  · rintro ⟨tests, rfl, broken⟩
    exact .tests isField broken

/-- `ofName?` finds the group operator that a name is, and none for all other names. -/
theorem ofName?_cases (name : String) :
    (name = "$and" ∧ GroupOperator.ofName? name = some .all) ∨
      (name = "$or" ∧ GroupOperator.ofName? name = some .any) ∨
      (name = "$not" ∧ GroupOperator.ofName? name = some .except) ∨
      (¬ (name = "$and" ∨ name = "$or") ∧ name ≠ "$not" ∧ GroupOperator.ofName? name = none) := by
  by_cases hand : name = "$and"
  · exact .inl ⟨hand, hand ▸ rfl⟩
  by_cases hor : name = "$or"
  · exact .inr (.inl ⟨hor, hor ▸ rfl⟩)
  by_cases hnot : name = "$not"
  · exact .inr (.inr (.inl ⟨hnot, hnot ▸ rfl⟩))
  refine .inr (.inr (.inr ⟨by simp [hand, hor], hnot, ?_⟩))
  simp [GroupOperator.ofName?, GroupOperator.sign, Ne.symm hand, Ne.symm hor, Ne.symm hnot]

/-! ## Reading -/

/-- Reads one entry of a query. -/
def readClause (name : String) (v : Value) : Except QueryFault Query :=
  match GroupOperator.ofName? name with
  | some .except => (ofValue v).map .except
  | some op =>
    match v with
    | .list items => (readItems items).map (if op = .all then .all else .any)
    | _ => .error (QueryError.notAList op v).raised
  | none =>
    if isOperatorName name then .error (QueryError.unknownOperator name).raised
    else (readCondition name v).map (.field name)

/-- `readEntries` reads the first entry, and then the rest. -/
theorem readEntries_cons (name : String) (v : Value) (rest : List (Key × Value)) :
    readEntries ((.text name, v) :: rest) =
      (readClause name v).bind fun q => (readEntries rest).map (q :: ·) := by
  rw [readEntries]
  rfl

/-- `readItems` reads the first item, and then the rest. -/
theorem readItems_cons (v : Value) (rest : List Value) :
    readItems (v :: rest) = (ofValue v).bind fun q => (readItems rest).map (q :: ·) := by
  rw [readItems]
  cases ofValue v <;> rfl

/-- `map` of a reading succeeds only where the reading has. -/
theorem exists_of_map_eq_ok {α β : Type} {r : Except QueryFault α} {f : α → β} {b : β}
    (h : r.map f = .ok b) : ∃ a, r = .ok a ∧ b = f a := by
  cases r with
  | error e => cases h
  | ok a =>
    cases h
    exact ⟨a, rfl, rfl⟩

/-- What is read in order, by `bind` and `map`, is the first part and then the rest. -/
theorem bind_map_cons_eq_ok {α : Type} {r : Except QueryFault α} {s : Except QueryFault (List α)}
    {l : List α} (h : (r.bind fun a => s.map (a :: ·)) = .ok l) :
    ∃ a rest, r = .ok a ∧ s = .ok rest ∧ l = a :: rest := by
  cases r with
  | error e => cases h
  | ok a =>
    obtain ⟨rest, hrest, hl⟩ := exists_of_map_eq_ok h
    exact ⟨a, rest, rfl, hrest, hl⟩

/-- `Verdict` on what is asked of a field. -/
private theorem verdict_readCondition (isField : name.toList.head? ≠ some '$') (v : Value) :
    Verdict (readCondition name v) (IsClause (.text name, v)) (ClauseBreaks · (.text name, v)) := by
  suffices h : Verdict _ _ _ from
    h.congr (isClause_field_iff isField).symm fun _ => (clauseBreaks_field_iff isField).symm
  cases v with
  | scalar s => exact .ok _ (by simp) (by simp)
  | list items => exact .rejected _ rfl (by simp) (by simp)
  | object tests =>
    exact ((verdict_readTests name tests).map Condition.passes).congr (by simp) (by simp)

/-- `Verdict` on a junction, which is read as the list of its operands. -/
private theorem verdict_readJunction (sign : name = "$and" ∨ name = "$or") {op : GroupOperator}
    {f : List Query → Query}
    (hitems : ∀ items, v = .list items → Verdict (readItems items) (∀ w ∈ items, IsQuery w)
      fun b => FirstBreaks IsQuery (Breaks b) items) :
    Verdict (match v with
        | .list items => (readItems items).map f
        | _ => .error (QueryError.notAList op v).raised)
      (IsClause (.text name, v)) (ClauseBreaks · (.text name, v)) := by
  suffices h : Verdict _ _ _ from
    h.congr (isClause_junction_iff sign).symm fun _ => (clauseBreaks_junction_iff sign).symm
  cases v with
  | list items => exact ((hitems items rfl).map f).congr (by simp) (by simp)
  | _ => exact .rejected _ rfl (by simp) (by simp)

/-- `Verdict` on an entry of a query, from those on its operands. -/
private theorem verdict_readClause (name : String)
    (hquery : Verdict (ofValue v) (IsQuery v) (Breaks · v))
    (hitems : ∀ items, v = .list items → Verdict (readItems items) (∀ w ∈ items, IsQuery w)
      fun b => FirstBreaks IsQuery (Breaks b) items) :
    Verdict (readClause name v) (IsClause (.text name, v)) (ClauseBreaks · (.text name, v)) := by
  unfold readClause
  -- the three groups, then names of fields and names that are no operators
  rcases ofName?_cases name with ⟨hname, hop⟩ | ⟨hname, hop⟩ | ⟨hname, hop⟩ | ⟨hjunction, hnot, hop⟩
  · rw [hop]
    exact verdict_readJunction (.inl hname) hitems
  · rw [hop]
    exact verdict_readJunction (.inr hname) hitems
  · subst hname
    rw [hop]
    exact (hquery.map Query.except).congr isClause_negation_iff.symm
      fun _ => clauseBreaks_negation_iff.symm
  · rw [hop]
    dsimp only
    split
    · -- a name with the operator sign that is none of the three
      rename_i hoperator
      have hfield : name.toList.head? = some '$' := by simpa [isOperatorName] using hoperator
      refine .rejected _ rfl ?_ ?_
      · intro h
        cases h with
        | junction sign => exact hjunction sign
        | negation => exact hnot rfl
        | comparison isField => exact isField hfield
        | tests isField => exact isField hfield
      · intro b h
        cases h with
        | key long => cases long
        | junction sign => exact hjunction sign
        | negation => exact hnot rfl
        | tests isField => exact isField hfield
    · rename_i hoperator
      have isField : name.toList.head? ≠ some '$' := by simpa [isOperatorName] using hoperator
      exact (verdict_readCondition isField v).map (Query.field name)

/-- `Verdict` on a key that is no name: it is refused where it is met. -/
private theorem verdict_keyNotText {key : Key} (hkey : ∀ name, key ≠ .text name)
    (rest : List (Key × Value)) :
    Verdict (.error (QueryError.keyNotText key).raised : Except QueryFault (List Query))
      (∀ c ∈ (key, v) :: rest, IsClause c)
      fun b => FirstBreaks IsClause (ClauseBreaks b) ((key, v) :: rest) := by
  have hclause : ¬ IsClause (key, v) := by
    intro h
    cases h <;> exact hkey _ rfl
  -- no clause has such a key, so what breaks here is the key and nothing behind it
  refine .raised _ (fun h => hclause (h _ List.mem_cons_self)) fun b => ?_
  rw [firstBreaks_cons]
  constructor
  · rintro (hbroken | ⟨hgood, -⟩)
    · cases hbroken with
      | key long => exact ⟨rfl, long⟩
      | junction => exact absurd rfl (hkey _)
      | negation => exact absurd rfl (hkey _)
      | tests => exact absurd rfl (hkey _)
    · exact absurd hgood hclause
  · rintro ⟨rfl, long⟩
    exact .inl (.key long)

end Clauses

mutual

/-- `Verdict` on a value. -/
private theorem verdict_ofValue : ∀ v : Value, Verdict (ofValue v) (IsQuery v) (Breaks · v)
  | .scalar s => .rejected _ rfl nofun nofun
  | .list items => .rejected _ rfl nofun nofun
  | .object entries => by
    refine ((verdict_readEntries entries).map Query.all).congr ?_ fun b => ?_
    · exact ⟨.object, fun ⟨each⟩ => each⟩
    · constructor
      · rintro ⟨before, c, after, split, good, broken⟩
        exact .object split good broken
      · rintro ⟨split, good, broken⟩
        exact ⟨_, _, _, split, good, broken⟩

/-- `Verdict` on the entries of an object. -/
private theorem verdict_readEntries : ∀ entries : List (Key × Value),
    Verdict (readEntries entries) (∀ c ∈ entries, IsClause c)
      fun b => FirstBreaks IsClause (ClauseBreaks b) entries
  | [] => .ok _ (by simp) fun _ => FirstBreaks.nil
  | (.text name, v) :: rest => by
    rw [readEntries_cons]
    have hclause : Verdict (readClause name v) _ _ :=
      verdict_readClause name (verdict_ofValue v) fun items _ => verdict_readItems items
    exact (hclause.cons (verdict_readEntries rest)).congr List.forall_mem_cons.symm
      fun _ => firstBreaks_cons.symm
  | (.int n, v) :: rest => verdict_keyNotText (by simp) rest
  | (.null, v) :: rest => verdict_keyNotText (by simp) rest

/-- `Verdict` on the items of a list. -/
theorem verdict_readItems : ∀ items : List Value,
    Verdict (readItems items) (∀ w ∈ items, IsQuery w)
      fun b => FirstBreaks IsQuery (Breaks b) items
  | [] => .ok _ (by simp) fun _ => FirstBreaks.nil
  | v :: rest => by
    rw [readItems_cons]
    exact ((verdict_ofValue v).cons (verdict_readItems rest)).congr List.forall_mem_cons.symm
      fun _ => firstBreaks_cons.symm

end

/-- `ofValue` accepts the values of the grammar and no others. -/
theorem exists_ofValue_iff {v : Value} : (∃ q, ofValue v = .ok q) ↔ IsQuery v :=
  (verdict_ofValue v).accepted

/-- `ofValue` ends without a verdict just on the values that break. -/
theorem ofValue_eq_broken_iff {v : Value} {b : QueryBreak} :
    ofValue v = .error (.broken b) ↔ Breaks b v :=
  (verdict_ofValue v).unsettled b

/-- `ofValue` rejects every other value. -/
theorem exists_rejected_iff {v : Value} :
    (∃ x, ofValue v = .error (.rejected x)) ↔ ¬ IsQuery v ∧ ∀ b, ¬ Breaks b v := by
  rw [← exists_ofValue_iff]
  simp only [← ofValue_eq_broken_iff]
  cases ofValue v with
  | ok q => simp
  | error fault => cases fault <;> simp

/-- `Breaks` holds of no query. -/
theorem Breaks.not_isQuery {b : QueryBreak} {v : Value} (h : Breaks b v) : ¬ IsQuery v := by
  intro hquery
  obtain ⟨q, hq⟩ := exists_ofValue_iff.2 hquery
  rw [ofValue_eq_broken_iff.2 h] at hq
  cases hq

/-! ## What it is that breaks -/

/-- What a value breaks with stands in it: a pattern that is refused for a reason that is not its
syntax, or an integer of too many digits. -/
def StandsIn : QueryBreak → Value → Prop
  | .pattern e, v => ∃ s, HasPattern s v ∧ Pattern.read s = .error e ∧ e ≠ .malformed
  | .unwritable, v => ∃ n, v.Holds n ∧ 10 ^ digitLimit ≤ n.natAbs

/-- `StandsIn` goes from an operand of a group to the query. -/
theorem StandsIn.entry {b : QueryBreak} {v w : Value} {entries : List (Key × Value)}
    {k : Key} (mem : (k, w) ∈ entries) (h : StandsIn b v)
    (pattern : ∀ s, HasPattern s v → HasPattern s (.object entries))
    (inside : ∀ n, v.Holds n → w.Holds n) : StandsIn b (.object entries) := by
  cases b with
  | pattern e =>
    obtain ⟨s, hs, refused⟩ := h
    exact ⟨s, pattern s hs, refused⟩
  | unwritable =>
    obtain ⟨n, hn, long⟩ := h
    exact ⟨n, .entry mem (inside n hn), long⟩

/-- `StandsIn` holds in the query of what a test in it breaks with. -/
theorem TestBreaks.standsIn {b : QueryBreak} {t : Key × Value} (h : TestBreaks b t) {field : String}
    (isField : field.toList.head? ≠ some '$') {entries tests : List (Key × Value)}
    (clause : (.text field, .object tests) ∈ entries) (test : t ∈ tests) :
    StandsIn b (.object entries) := by
  cases h with
  | pattern refused reason => exact ⟨_, .tests clause isField test, refused, reason⟩
  | key long =>
    obtain ⟨n, rfl, hn⟩ := Key.exists_int_of_fits_eq_false long
    exact ⟨n, .entry clause (.key test), hn⟩
  | operand misfit long =>
    obtain ⟨n, inside, hn⟩ := Value.exists_holds_of_fits_eq_false long
    exact ⟨n, .entry clause (.entry test inside), hn⟩

-- by induction on the way to the fault, which goes through values and clauses in turn
mutual

/-- `StandsIn` holds in a value of what it breaks with. -/
theorem Breaks.standsIn {b : QueryBreak} {v : Value} : Breaks b v → StandsIn b v
  | .object split _ broken =>
    broken.standsIn (split ▸ List.mem_append_right _ List.mem_cons_self)

/-- `StandsIn` holds in the query of what an entry of it breaks with. -/
theorem ClauseBreaks.standsIn {b : QueryBreak} {c : Key × Value} {entries : List (Key × Value)} :
    ClauseBreaks b c → c ∈ entries → StandsIn b (.object entries)
  | .key long, mem => by
    obtain ⟨n, rfl, hn⟩ := Key.exists_int_of_fits_eq_false long
    exact ⟨n, .key mem, hn⟩
  | .junction sign split _ broken, mem =>
    have operand := split ▸ List.mem_append_right _ List.mem_cons_self
    .entry mem broken.standsIn (fun _ inside => .junction mem sign operand inside)
      fun _ inside => .item operand inside
  | .negation broken, mem =>
    .entry mem broken.standsIn (fun _ inside => .negation mem inside) fun _ inside => inside
  | .tests isField ⟨_, _, _, split, _, broken⟩, mem =>
    broken.standsIn isField mem (split ▸ List.mem_append_right _ List.mem_cons_self)

end

/-- Every pattern that `HasPattern` finds in a query compiles. -/
theorem IsQuery.compiles {v : Value} {s : String} (hv : IsQuery v) (h : HasPattern s v) :
    ∃ p, Pattern.read s = .ok p := by
  -- down to the test that holds the pattern: in a query its operand compiles
  induction h with
  | tests clause isField test =>
    obtain ⟨each⟩ := hv
    rcases (isClause_field_iff isField).1 (each _ clause) with ⟨s, hs⟩ | ⟨_, ⟨⟩, hall⟩
    · cases hs
    · obtain ⟨t, ht⟩ := isTest_sign_iff.1 (hall _ test)
      cases test?_eq_some_iff.1 ht with
      | text order => cases order
      | pattern compiles => exact ⟨_, compiles⟩
  | junction clause sign operand inside ih =>
    obtain ⟨each⟩ := hv
    obtain ⟨_, ⟨⟩, hall⟩ := (isClause_junction_iff sign).1 (each _ clause)
    exact ih (hall _ operand)
  | negation clause inside ih =>
    obtain ⟨each⟩ := hv
    exact ih (isClause_negation_iff.1 (each _ clause))

end Query

end DocStore
