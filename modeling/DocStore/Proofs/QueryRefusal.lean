import DocStore.Proofs.QueryGrammar
import DocStore.Proofs.Selection
import DocStore.Store

/-!
# Values that are no queries

A value that is no query is refused as a whole, wherever its fault lies: no document is looked at,
every call answers that nothing is meant, nothing changes, and one warning says why. There are two
exceptions: a pattern that is refused for a reason that is not its syntax, and a fault that the
warning cannot show, since an integer in it has too many digits. Where one of them comes before
every other fault of the query, no call answers, not even on the empty collection.

## Key results

- `Query.accepts_grammar_and_refuses_rest`: without such patterns, the grammar is accepted and all
  else is refused, but for the faults that cannot be shown
- `Query.answers_unless_breaks`: with them, exactly when a value is answered
-/

namespace DocStore

-- powers are those of the core library, whatever else is imported
attribute [local instance (high)] instPowNat

namespace Query

/-- A value means nothing anywhere, and one warning says so. -/
structure MeansNothing (v : Value) (w : Log.Record) : Prop where
  complaints : complaints v = [w]
  isWarning : w.level = .warning
  document (d : Document) : matchesDocument d v = .ok false
  select (docs : Collection) : selectValue docs v = .ok []
  selectFirst (docs : Collection) : selectFirstValue docs v = .ok none

/-- A value is accepted or rejected, and all that is asked with it is answered. -/
structure Answers (v : Value) : Prop where
  verdict : (∃ q, ofValue v = .ok q) ∨ ∃ x, ofValue v = .error (.rejected x)
  document (d : Document) : ∃ b, matchesDocument d v = .ok b
  select (docs : Collection) :
    ∃ found, selectValue docs v = .ok found ∧ selectFirstValue docs v = .ok found.head?

end Query

namespace StoreState

/-- Every call with a value answers that nothing is meant, leaves the documents, the files and the
ids as they are, and gives one record. -/
structure Refuses (s : StoreState) (v : Value) (w : Log.Record) : Prop where
  count : s.count v = ⟨.ok 0, s, [w]⟩
  find (projection : Option Value) : s.find v projection = ⟨.ok [], s, [w]⟩
  findFirst (projection : Option Value) : s.findFirst v projection = ⟨.ok none, s, [w]⟩
  update (change : Value) (multi skipSave : Bool) :
    s.update v change multi skipSave = ⟨.ok 0, s, [w]⟩
  remove (multi skipSave : Bool) : s.remove v multi skipSave = ⟨.ok 0, s, [w]⟩

/-- No call with a value is answered: each ends with a failure, leaves the documents, the files and
the ids as they are, and gives no record. -/
structure FailsOn (s : StoreState) (v : Value) (f : Failure) : Prop where
  count : s.count v = .fail f s
  find (projection : Option Value) : s.find v projection = .fail f s
  findFirst (projection : Option Value) : s.findFirst v projection = .fail f s
  update (change : Value) (multi skipSave : Bool) : s.update v change multi skipSave = .fail f s
  remove (multi skipSave : Bool) : s.remove v multi skipSave = .fail f s

end StoreState

/-- A value is neither accepted nor rejected, and nothing that is asked with it is answered. -/
structure Query.Interrupts (b : QueryBreak) (v : Value) : Prop where
  verdict : ofValue v = .error (.broken b)
  document (d : Document) : matchesDocument d v = .error b
  select (docs : Collection) : selectValue docs v = .error b
  selectFirst (docs : Collection) : selectFirstValue docs v = .error b
  calls (s : StoreState) : s.FailsOn v b.failure

namespace Query

variable {v : Value} {w : Log.Record}

/-! ## Rejected values -/

/-- A value that `ofValue` rejects means nothing. -/
private theorem meansNothing_of_rejected {x : QueryError} (h : ofValue v = .error (.rejected x)) :
    MeansNothing v ⟨.warning, .query, "query rejected: " ++ x.message⟩ where
  complaints := by rw [complaints, h]
  isWarning := rfl
  document := matchesDocument_of_rejected h
  select docs := by simp [selectValue, admitted?, h, Except.map]
  selectFirst docs := by simp [selectFirstValue, admitted?, h, Except.map]

/-- With nothing selected, a call through `StoreState.select` has nothing to do. -/
private theorem MeansNothing.select_eq {α : Type} (h : MeansNothing v w) (s : StoreState)
    (f : List String → Outcome StoreState α) : s.select v f = (f []).after [w] := by
  simp only [StoreState.select, h.select, h.complaints]

/-- `MeansNothing` makes every call of a store refuse the value. -/
theorem MeansNothing.refuses (h : MeansNothing v w) (s : StoreState) : s.Refuses v w where
  count := h.select_eq s _
  find projection := by
    -- without documents the mask is not looked at
    have hview (mask : Value) : StoreState.view s.store.docs mask [] = .ok [] := by
      unfold StoreState.view
      split <;> rfl
    simp [StoreState.find, h.select_eq, hview, Outcome.after, Outcome.answer]
  findFirst projection := by
    simp [StoreState.findFirst, h.selectFirst, h.complaints, Outcome.after, Outcome.answer]
  update change multi skipSave := h.select_eq s _
  remove multi skipSave := h.select_eq s _

/-- `MeansNothing` holds of a value that is no query, if it does not break. -/
theorem exists_meansNothing (hquery : ¬ IsQuery v) (hbreaks : ∀ b, ¬ Breaks b v) :
    ∃ w, MeansNothing v w := by
  obtain ⟨x, hx⟩ := exists_rejected_iff.2 ⟨hquery, hbreaks⟩
  exact ⟨_, meansNothing_of_rejected hx⟩

/-! ## Values that break -/

/-- `Breaks` ends every question and every call. -/
theorem Breaks.interrupts {b : QueryBreak} (h : Breaks b v) : Interrupts b v := by
  have hv : ofValue v = .error (.broken b) := ofValue_eq_broken_iff.2 h
  have hadmitted : admitted? v = .error b := by rw [admitted?, hv]
  have hselect (docs : Collection) : selectValue docs v = .error b := by
    rw [selectValue, hadmitted]
    rfl
  have hfirst (docs : Collection) : selectFirstValue docs v = .error b := by
    rw [selectFirstValue, hadmitted]
    rfl
  -- all calls but the one for the first document go through `select`
  have hcall {α : Type} (s : StoreState) (f : List String → Outcome StoreState α) :
      s.select v f = .fail b.failure s := by
    rw [StoreState.select, hselect]
  refine ⟨hv, fun d => ?_, hselect, hfirst, fun s => ?_⟩
  · rw [matchesDocument, hadmitted]
    rfl
  · refine ⟨hcall s _, fun _ => hcall s _, fun _ => ?_, fun _ _ _ => hcall s _,
      fun _ _ => hcall s _⟩
    rw [StoreState.findFirst, hfirst]

/-- `Settled` values do not break with a pattern. -/
private theorem Settled.not_breaks_pattern (settled : Settled v) (e : PatternError) :
    ¬ Breaks (.pattern e) v := by
  intro h
  obtain ⟨s, inside, refused, reason⟩ := h.standsIn
  rcases settled s inside with ⟨p, hp⟩ | hmalformed
  · rw [hp] at refused
    cases refused
  · rw [hmalformed] at refused
    exact reason (Except.error.inj refused).symm

/-- `Settled` values do not break at all, if they do not break with what cannot be shown. -/
theorem Settled.not_breaks (settled : Settled v) (hshown : ¬ Breaks .unwritable v)
    (b : QueryBreak) :
    ¬ Breaks b v := by
  cases b with
  | pattern e => exact settled.not_breaks_pattern e
  | unwritable => exact hshown

/-- `Breaks` with what cannot be shown needs an integer of too many digits. -/
theorem not_breaks_unwritable (hfits : v.fits = true) : ¬ Breaks .unwritable v := by
  intro h
  obtain ⟨n, inside, long⟩ := h.standsIn
  exact absurd ((Value.fits_iff v).1 hfits n inside) (Nat.not_lt.2 long)

/-- `ofValue` accepts the values of the grammar, where every pattern compiles or breaks the rules of
its syntax. All others are rejected and refused by every call on every store: nothing is meant,
nothing changes, and one warning is given. The exceptions are the values whose first fault cannot be
shown, since an integer in it has too many digits: they are neither accepted nor rejected, and every
call ends with a failure, though nothing changes. -/
theorem accepts_grammar_and_refuses_rest (settled : Settled v) :
    ((∃ q, ofValue v = .ok q) ↔ IsQuery v) ∧
    ((∃ x, ofValue v = .error (.rejected x)) ↔ ¬ IsQuery v ∧ ¬ Breaks .unwritable v) ∧
    (¬ IsQuery v → ¬ Breaks .unwritable v →
      ∃ w, MeansNothing v w ∧ ∀ s : StoreState, s.Refuses v w) ∧
    (Breaks .unwritable v → ¬ IsQuery v ∧ Interrupts .unwritable v ∧
      ∃ n, v.Holds n ∧ 10 ^ digitLimit ≤ n.natAbs) := by
  have hbreaks : (∀ b, ¬ Breaks b v) ↔ ¬ Breaks .unwritable v :=
    ⟨fun h => h .unwritable, settled.not_breaks⟩
  refine ⟨exists_ofValue_iff, ?_, fun hquery hshown => ?_, fun h => ?_⟩
  · rw [exists_rejected_iff, hbreaks]
  · obtain ⟨w, hw⟩ := exists_meansNothing hquery (hbreaks.2 hshown)
    exact ⟨w, hw, hw.refuses⟩
  · exact ⟨h.not_isQuery, h.interrupts, h.standsIn⟩

/-- A query but for a pattern that stands below a negation, in a disjunction that holds without
it. -/
def hiddenFault : Value :=
  .object [(.text "t", .object [(.text "$like", .text "^a")]),
    (.text "$or", .list [.object [],
      .object [(.text "$not", .object [(.text "s", .object [(.text "$like", .text "(")])])]])]

/-- `HasPattern` finds the only pattern of a query with one test. -/
theorem HasPattern.eq_of_single {s p field : String} (isField : field.toList.head? ≠ some '$')
    (h : HasPattern s (.object [(.text field,
      .object [(.text FieldOperator.like.sign, .text p)])])) : s = p := by
  cases h with
  | tests clause _ test =>
    simp only [List.mem_singleton, Prod.mk.injEq, Value.object.injEq] at clause
    rw [clause.2] at test
    simpa using test
  | junction clause => simp at clause
  | negation clause =>
    simp only [List.mem_singleton, Prod.mk.injEq, Key.text.injEq] at clause
    rw [← clause.1] at isField
    exact absurd rfl isField

/-- `hiddenFault` has two patterns. -/
private theorem hasPattern_hiddenFault {s : String} (h : HasPattern s hiddenFault) :
    s = "^a" ∨ s = "(" := by
  unfold hiddenFault at h
  cases h with
  | tests clause _ test =>
    simp only [List.mem_cons, Prod.mk.injEq, Value.object.injEq, reduceCtorEq, and_false,
      List.not_mem_nil, or_false] at clause
    rw [clause.2] at test
    exact .inl (by simpa [FieldOperator.sign] using test)
  | junction clause _ operand inside =>
    simp only [List.mem_cons, Prod.mk.injEq, reduceCtorEq, and_false, Value.list.injEq,
      List.not_mem_nil, or_false, false_or] at clause
    simp only [clause.2, List.mem_cons, List.not_mem_nil, or_false] at operand
    -- the first operand has no entries, the second is a negation with the other pattern in it
    rcases operand with rfl | rfl
    · cases inside <;> contradiction
    · cases inside with
      | negation clause inside =>
        simp only [List.mem_singleton, Prod.mk.injEq, true_and] at clause
        subst clause
        exact .inr (inside.eq_of_single (by decide))
      | tests clause isField =>
        simp only [List.mem_singleton, Prod.mk.injEq, Key.text.injEq] at clause
        rw [clause.1] at isField
        exact absurd rfl isField
      | junction clause => simp at clause
  | negation clause => simp at clause

/-- `hiddenFault` is refused for its pattern, although no document would ever meet it. -/
theorem accepts_grammar_and_refuses_hiddenFault :
    Settled hiddenFault ∧ ¬ IsQuery hiddenFault ∧
    ∃ w, MeansNothing hiddenFault w ∧ ∀ s : StoreState, s.Refuses hiddenFault w := by
  have hbegin : ∃ p, Pattern.read "^a" = .ok p :=
    Pattern.refusal?_eq_none_iff.1 (by decide +kernel)
  have hopen : Pattern.read "(" = .error .malformed :=
    Pattern.refusal?_eq_some_iff.1 (by decide +kernel)
  have hsettled : Settled hiddenFault := by
    intro s h
    rcases hasPattern_hiddenFault h with rfl | rfl
    · exact .inl hbegin
    · exact .inr hopen
  have hquery : ¬ IsQuery hiddenFault := by
    intro h
    -- in a query the pattern would compile, however deep it stands
    have inside : HasPattern "(" hiddenFault := by
      refine .junction (.tail _ (.head _)) (.inr rfl) (.tail _ (.head _)) ?_
      refine .negation (.head _) ?_
      exact .tests (.head _) (by decide) (.head _)
    obtain ⟨p, hp⟩ := h.compiles inside
    rw [hopen] at hp
    cases hp
  have hshown : ¬ Breaks .unwritable hiddenFault := fun h => by
    exact not_breaks_unwritable (by decide +kernel) h
  exact ⟨hsettled, hquery, (accepts_grammar_and_refuses_rest hsettled).2.2.1 hquery hshown⟩

/-- The flags that `$exists` takes have few digits. -/
private theorem Operand.fits_of_present {t : Test} (h : Operand .present v t) : v.fits = true := by
  cases h with
  | flag b => rfl
  | flagZero => decide
  | flagOne => decide
  | number order => cases order
  | text order => cases order

/-- An operand that `$exists` does not take and no error can show. -/
theorem testBreaks_unshownInteger :
    TestBreaks .unwritable (.text FieldOperator.present.sign, unshownInteger) := by
  have long := fits_unshownInteger
  refine .operand (fun t ht => ?_) long
  rw [ht.fits_of_present] at long
  cases long

/-- A query but for its only operand. -/
def unshownOperand : Value :=
  .object [(.text "a", .object [(.text "$exists", unshownInteger)])]

/-- `unshownOperand` is refused, but not with an error, and no call is answered. -/
theorem not_refused_unshownOperand :
    (∀ s, ¬ HasPattern s unshownOperand) ∧ ¬ IsQuery unshownOperand ∧
      Interrupts .unwritable unshownOperand := by
  have hbreaks : Breaks .unwritable unshownOperand := by
    -- the only clause has one test, and its operand cannot be shown
    refine .object (List.nil_append _).symm (by simp) (.tests (by decide) ?_)
    exact ⟨[], _, [], rfl, by simp, testBreaks_unshownInteger⟩
  refine ⟨fun s h => ?_, hbreaks.not_isQuery, hbreaks.interrupts⟩
  unfold unshownOperand at h
  -- the only operator of the query takes no pattern
  cases h with
  | tests clause _ test =>
    simp only [List.mem_singleton, Prod.mk.injEq, Value.object.injEq] at clause
    rw [clause.2] at test
    simp [FieldOperator.sign] at test
  | junction clause => simp at clause
  | negation clause => simp at clause

/-! ## Patterns that do not compile -/

/-- `Answers` every question where the value does not break. -/
private theorem answers_of_not_breaks (h : ∀ b, ¬ Breaks b v) : Answers v := by
  -- a query is answered by what it means, any other value means nothing
  by_cases hquery : IsQuery v
  · obtain ⟨q, hv⟩ := exists_ofValue_iff.2 hquery
    have hadmitted : admitted? v = .ok (some q) := by rw [admitted?, hv]
    refine ⟨.inl ⟨q, hv⟩, fun d => ⟨q.holds d, ?_⟩, fun docs => ⟨q.select docs, ?_, ?_⟩⟩
    · exact matchesDocument_of_ofValue hv d
    · rw [selectValue, hadmitted]
      rfl
    · rw [selectFirstValue, hadmitted]
      exact congrArg Except.ok (q.selectFirst_eq_head? docs)
  · obtain ⟨x, hx⟩ := exists_rejected_iff.2 ⟨hquery, h⟩
    have hnothing := meansNothing_of_rejected hx
    exact ⟨.inr ⟨x, hx⟩, fun d => ⟨false, hnothing.document d⟩,
      fun docs => ⟨[], hnothing.select docs, hnothing.selectFirst docs⟩⟩

/-- A value is accepted or rejected, and every question with it is answered, unless it `Breaks`;
then no question is answered, and what it breaks with stands in it: a pattern that is refused for a
reason that is not its syntax, or an integer of more digits than an error can show. Any pattern that
does not compile keeps the value from being a query, and where the value does not break, it means
nothing. -/
theorem answers_unless_breaks (v : Value) :
    ((∀ b, ¬ Breaks b v) → Answers v) ∧
    (∀ b, Breaks b v → Interrupts b v ∧ StandsIn b v) ∧
    (∀ s, HasPattern s v → (∀ p, Pattern.read s ≠ .ok p) →
      ¬ IsQuery v ∧ ((∀ b, ¬ Breaks b v) → ∃ w, MeansNothing v w)) := by
  refine ⟨answers_of_not_breaks, fun b h => ⟨h.interrupts, h.standsIn⟩, fun s inside hread => ?_⟩
  have hquery : ¬ IsQuery v := fun h => by
    obtain ⟨p, hp⟩ := h.compiles inside
    exact hread p hp
  exact ⟨hquery, exists_meansNothing hquery⟩

/-- A repetition count that is too large `Interrupts` every question: the pattern is no bad operand.
-/
theorem not_answers_repeatTooLarge :
    Interrupts (.pattern .repeatTooLarge)
      (.object [(.text "s", .object [(.text "$like", .text "a\x7b4294967295\x7d")])]) ∧
    ¬ Answers (.object [(.text "s", .object [(.text "$like", .text "a\x7b4294967295\x7d")])]) := by
  have refused : Pattern.read "a\x7b4294967295\x7d" = .error .repeatTooLarge :=
    Pattern.refusal?_eq_some_iff.1 (by decide +kernel)
  have hbreaks : Breaks (.pattern .repeatTooLarge)
      (.object [(.text "s", .object [(.text "$like", .text "a\x7b4294967295\x7d")])]) := by
    refine .object (List.nil_append _).symm (by simp) (.tests (by decide) ?_)
    exact ⟨[], _, [], rfl, by simp, .pattern refused (by decide)⟩
  refine ⟨hbreaks.interrupts, fun h => ?_⟩
  obtain ⟨found, hfound, -⟩ := h.select .empty
  rw [hbreaks.interrupts.select] at hfound
  cases hfound

end Query

end DocStore
