import DocStore.Proofs.QueryGrammar
import Mathlib.Data.List.Forall2

/-!
# What the parts of a query are read as

Reading takes the entries of a query, the operands of a junction and the tests of a field one after
another, each for itself; so a list is read if each of its members is, as the list of what these are
read as. An entry is read in one of four ways.

## Key results

- `Query.readEntries_eq_ok_iff`, `Query.readItems_eq_ok_iff`, `Query.readTests_eq_ok_iff`: lists are
  read member by member
- `Query.readTest_eq_ok_iff`: the operands with which an operator is read
- `Query.readClause_eq_ok_iff`: the four ways in which an entry is read
-/

namespace DocStore

namespace Query

/-! ## Lists -/

/-- What reads a list in order, by `bind` and `map`, reads each of its members for itself. -/
private theorem eq_ok_iff_forall₂ {α β : Type} (one : α → Except QueryFault β)
    (many : List α → Except QueryFault (List β)) (hnil : many [] = .ok [])
    (hcons : ∀ a as, many (a :: as) = (one a).bind fun b => (many as).map (b :: ·))
    {as : List α} {bs : List β} :
    many as = .ok bs ↔ List.Forall₂ (fun a b => one a = .ok b) as bs := by
  -- the list that is read grows with the one that it is read from
  induction as generalizing bs with
  | nil =>
    rw [hnil, List.forall₂_nil_left_iff]
    exact ⟨fun h => (Except.ok.inj h).symm, fun h => congrArg Except.ok h.symm⟩
  | cons a rest ih =>
    rw [hcons, List.forall₂_cons_left_iff]
    constructor
    · intro h
      obtain ⟨b, bs', hb, hrest, rfl⟩ := bind_map_cons_eq_ok h
      exact ⟨b, bs', hb, ih.1 hrest, rfl⟩
    · intro h
      obtain ⟨b, bs', hb, hrest, rfl⟩ := h
      rw [hb, ih.2 hrest]
      rfl

/-- Reads one entry of a query, whatever its key. -/
def readEntry : Key × Value → Except QueryFault Query
  | (.text name, v) => readClause name v
  | (key, _) => .error (QueryError.keyNotText key).raised

/-- `readEntries` reads the entries of a query one by one. -/
theorem readEntries_eq_ok_iff {entries : List (Key × Value)} {qs : List Query} :
    readEntries entries = .ok qs ↔ List.Forall₂ (fun c q => readEntry c = .ok q) entries qs := by
  apply eq_ok_iff_forall₂ readEntry readEntries rfl
  intro c rest
  obtain ⟨key, v⟩ := c
  cases key with
  | text name => exact readEntries_cons name v rest
  | _ => rfl

/-- `readItems` reads the operands of a junction one by one. -/
theorem readItems_eq_ok_iff {items : List Value} {qs : List Query} :
    readItems items = .ok qs ↔ List.Forall₂ (fun v q => ofValue v = .ok q) items qs :=
  eq_ok_iff_forall₂ ofValue readItems rfl readItems_cons

/-- `readTest` reads an operator with an operand of its kind, and nothing else. -/
theorem readTest_eq_ok_iff {field : String} {key : Key} {v : Value} {t : Test} :
    readTest field key v = .ok t ↔ ∃ op : FieldOperator, key = .text op.sign ∧ Operand op v t := by
  constructor
  · intro h
    unfold readTest at h
    -- the operator of the key, then its operand
    split at h
    · cases h
    · rename_i op hop
      split at h
      · cases h
      · cases h
      · rename_i htest
        cases h
        exact ⟨op, FieldOperator.ofKey?_eq_some_iff.1 hop, test?_eq_some_iff.1 htest⟩
  · intro h
    obtain ⟨op, rfl, operand⟩ := h
    simp only [readTest, FieldOperator.ofKey?_eq_some_iff.2 rfl, test?_eq_some_iff.2 operand]

/-- `readTests` reads the tests of a field one by one. -/
theorem readTests_eq_ok_iff {field : String} {tests : List (Key × Value)} {ts : List Test} :
    readTests field tests = .ok ts ↔
      List.Forall₂ (fun t test => readTest field t.1 t.2 = .ok test) tests ts :=
  eq_ok_iff_forall₂ (fun t => readTest field t.1 t.2) (readTests field) rfl
    fun t => readTests_cons field t.1 t.2

/-- `ofValue` reads an object as the conjunction of its entries. -/
theorem ofValue_object_eq_ok_iff {entries : List (Key × Value)} {q : Query} :
    ofValue (.object entries) = .ok q ↔ ∃ qs, readEntries entries = .ok qs ∧ q = .all qs := by
  rw [ofValue]
  constructor
  · exact exists_of_map_eq_ok
  · intro h
    obtain ⟨qs, hqs, rfl⟩ := h
    rw [hqs]
    rfl

/-! ## Entries -/

/-- The ways in which an entry is read. -/
inductive ReadsAs : String → Value → Query → Prop where
  | conjunction {items : List Value} {qs : List Query} (operands : readItems items = .ok qs) :
    ReadsAs "$and" (.list items) (.all qs)
  | disjunction {items : List Value} {qs : List Query} (operands : readItems items = .ok qs) :
    ReadsAs "$or" (.list items) (.any qs)
  | negation {v : Value} {q : Query} (operand : ofValue v = .ok q) :
    ReadsAs "$not" v (.except q)
  | field {name : String} {v : Value} {c : Condition} (isField : name.toList.head? ≠ some '$')
    (asked : readCondition name v = .ok c) : ReadsAs name v (.field name c)

/-- `readClause` reads an entry in one of the four ways. -/
theorem readClause_eq_ok_iff {name : String} {v : Value} {q : Query} :
    readClause name v = .ok q ↔ ReadsAs name v q := by
  constructor
  · intro h
    unfold readClause at h
    -- the name decides the way, and the reading of the operand says whether it can be gone
    rcases ofName?_cases name with ⟨rfl, hop⟩ | ⟨rfl, hop⟩ | ⟨rfl, hop⟩ | ⟨-, -, hop⟩
    · rw [hop] at h
      cases v with
      | list items =>
        obtain ⟨qs, hqs, rfl⟩ := exists_of_map_eq_ok h
        exact .conjunction hqs
      | _ => cases h
    · rw [hop] at h
      cases v with
      | list items =>
        obtain ⟨qs, hqs, rfl⟩ := exists_of_map_eq_ok h
        exact .disjunction hqs
      | _ => cases h
    · rw [hop] at h
      obtain ⟨q, hq, rfl⟩ := exists_of_map_eq_ok h
      exact .negation hq
    · rw [hop] at h
      dsimp only at h
      split at h
      · cases h
      · rename_i hoperator
        obtain ⟨c, hc, rfl⟩ := exists_of_map_eq_ok h
        exact .field (by simpa [isOperatorName] using hoperator) hc
  · intro h
    cases h with
    | conjunction operands => simp [readClause, GroupOperator.ofName?, GroupOperator.sign, operands,
        Except.map]
    | disjunction operands => simp [readClause, GroupOperator.ofName?, GroupOperator.sign, operands,
        Except.map]
    | negation operand => simp [readClause, GroupOperator.ofName?, GroupOperator.sign, operand,
        Except.map]
    -- the names of the group operators are no names of fields
    | field isField asked =>
      rcases ofName?_cases name with ⟨rfl, -⟩ | ⟨rfl, -⟩ | ⟨rfl, -⟩ | ⟨-, -, hop⟩
      · exact absurd rfl isField
      · exact absurd rfl isField
      · exact absurd rfl isField
      · simp [readClause, hop, isOperatorName, isField, asked, Except.map]

end Query

end DocStore
