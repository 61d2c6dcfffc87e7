import DocStore.Proofs.FieldEquality
import DocStore.Proofs.UpdateSequence

/-!
# What queries see of updates

What an update has written, a query finds: a field that was assigned equals what it was assigned, a
list that was appended to includes the new item, a field that was added to is a number, and one that
was removed is not there. Under a new name a field passes the same tests as under the old one. Only
not-a-number is written and then not found, for it equals nothing, itself included.

## Key results

- `Scalar.equals_self`: every scalar but not-a-number equals itself
- `Update.apply_of_yields`: an update of one field that changes a document is a step that does
- `Query.matchesDocument_object_congr`: fields with one value pass the same tests
- `Query.matchesDocument_of_yields`: what each of the five operators writes, a query sees
-/

namespace DocStore

/-! ## What a step leaves in its fields -/

namespace Edit.Changes

variable {d d' : Document} {field : Key} {v : Value}

/-- `get?` after an assignment finds the value. -/
private theorem get?_of_assign (h : Changes d ⟨.assign, field, v⟩ d') : d'.get? field = some v := by
  cases h with
  | assign storable => exact Table.get?_insert_self _ _ _

/-- `get?` after a push finds a list with the value at its end. -/
private theorem get?_of_push (h : Changes d ⟨.push, field, v⟩ d') :
    ∃ items, d'.get? field = some (.list (items ++ [v])) := by
  cases h with
  | pushMissing missing => exact ⟨[], Table.get?_insert_self _ _ _⟩
  | push present => exact ⟨_, Table.get?_insert_self _ _ _⟩

/-- `get?` after an increment finds a number. -/
private theorem get?_of_increment (h : Changes d ⟨.increment, field, v⟩ d') :
    ∃ n, d'.get? field = some (.scalar (.number n)) := by
  cases h with
  | incrementMissing missing => exact ⟨_, Table.get?_insert_self _ _ _⟩
  | increment present add => exact ⟨_, Table.get?_insert_self _ _ _⟩

/-- `get?` after a removal finds nothing. -/
private theorem get?_of_unset (h : Changes d ⟨.unset, field, v⟩ d') : d'.get? field = none := by
  cases h with
  | unset truthy present => exact Table.get?_erase_self _ _

/-- `get?` after a renaming finds under the new name what was under the old one, and there nothing.
-/
private theorem get?_of_rename {name : String} (h : Changes d ⟨.rename, field, .text name⟩ d') :
    name.toList.head? ≠ some '$' ∧ d'.get? field = none ∧
      ∃ w, d.get? field = some w ∧ d'.get? (.text name) = some w := by
  cases h with
  | @rename _ _ w notId isName free present =>
    -- the new name was free and the old one was not
    have hne : Key.text name ≠ field := by
      intro heq
      rw [← heq, free] at present
      cases present
    have hfield : (Key.text name).isFieldName = true := isName
    obtain ⟨_, heq, -, hplain⟩ := Key.isFieldName_iff.1 hfield
    cases heq
    refine ⟨hplain, ?_, w, present, ?_⟩
    · exact Table.get?_erase_self _ _
    · rw [Table.get?_erase, if_neg hne, Table.get?_insert_self]

end Edit.Changes

/-! ## Updates of one field -/

namespace Update

/-- An update comes to its end and says that it has changed a document, and what it leaves. -/
def Yields (update : Value) (d d' : Document) : Prop :=
  (run update d).failure = none ∧ (run update d).changed = true ∧ (run update d).document = d'

variable {d d' : Document} {e : Edit}

/-- `apply` of its step is what an update of one field does that changes a document. -/
theorem apply_of_yields (h : Yields e.toUpdate d d') : e.apply d = .changed d' := by
  obtain ⟨hends, hchanged, hdocument⟩ := h
  rcases (UpdateStep.edit e).takes_or_fails d with ⟨d₁, c, ws, htakes⟩ | ⟨e', f, heq, hfails⟩
  · obtain ⟨-, rfl, rfl⟩ := run_toUpdate htakes
    rw [hchanged, hdocument] at htakes
    cases htakes with
    | changed carriedOut => exact carriedOut
  · cases heq
    have hearly : Ends e.toUpdate d d f := .early (steps_toUpdate e) (.done d) hfails
    rw [(run_of_ends hearly).1] at hends
    cases hends

/-- `Yields` is about a field that a query can ask for. -/
private theorem changes_of_yields (h : Yields e.toUpdate d d') :
    ∃ name : String, e.field = .text name ∧ name.toList.head? ≠ some '$' ∧ e.Changes d d' := by
  obtain ⟨-, hfield, hchanges⟩ := Edit.changes_of_apply (apply_of_yields h)
  obtain ⟨name, hname, -, hplain⟩ := Key.isFieldName_iff.1 hfield
  exact ⟨name, hname, hplain, hchanges⟩

end Update

/-! ## What a query finds -/

/-- `Equals` holds of every scalar and itself but of not-a-number. -/
theorem Scalar.equals_self {s : Scalar} (h : s ≠ .number (.float .nan)) : s.Equals s := by
  cases s with
  | null => exact .null
  | bool b => exact .bool b
  | text t => exact .text t
  | number n =>
    cases hvalue : n.value? with
    | none => exact absurd (congrArg Scalar.number (Number.value?_eq_none_iff.1 hvalue)) h
    | some x => exact .number hvalue hvalue

/-- `strictEq` holds of every scalar and itself but of not-a-number. -/
private theorem Value.strictEq_self {s : Scalar} (h : s ≠ .number (.float .nan)) :
    (Value.scalar s).strictEq (.scalar s) = true :=
  strictEq_scalar_iff.2 ⟨s, rfl, Scalar.equals_self h⟩

namespace Query

open Update (Yields changes_of_yields)

variable {d d' : Document} {name newName : String} {s : Scalar}

/-- `matchesDocument` of two fields that are asked for at once. -/
private theorem matchesDocument_two (isField : name.toList.head? ≠ some '$')
    (isField' : newName.toList.head? ≠ some '$') {asked asked' : Value} {c c' : Condition}
    (h : readCondition name asked = .ok c) (h' : readCondition newName asked' = .ok c')
    (d : Document) :
    matchesDocument d (.object [(.text name, asked), (.text newName, asked')]) =
      .ok (c.holds (d.get? (.text name)) && c'.holds (d.get? (.text newName))) := by
  have hfirst : readClause name asked = .ok (.field name c) :=
    readClause_eq_ok_iff.2 (.field isField h)
  have hsecond : readClause newName asked' = .ok (.field newName c') :=
    readClause_eq_ok_iff.2 (.field isField' h')
  have hread : readEntries [(.text name, asked), (.text newName, asked')] =
      .ok [.field name c, .field newName c'] :=
    readEntries_eq_ok_iff.2 (.cons hfirst (.cons hsecond .nil))
  rw [matchesDocument_of_ofValue (ofValue_object_eq_ok_iff.2 ⟨_, hread, rfl⟩)]
  simp only [holds, allHold, Bool.and_true]

/-- `matchesDocument` is the same of fields with one value, whatever the tests. -/
theorem matchesDocument_object_congr (isField : name.toList.head? ≠ some '$')
    (isField' : newName.toList.head? ≠ some '$') {tests : List (Key × Value)}
    (htests : ∀ t ∈ tests, IsTest t) (hget : d'.get? (.text newName) = d.get? (.text name)) :
    ∃ b, matchesDocument d' (asking newName (.object tests)) = .ok b ∧
      matchesDocument d (asking name (.object tests)) = .ok b := by
  obtain ⟨ts, hts⟩ := (verdict_readTests name tests).accepted.2 htests
  -- the name of a field is of no account for what its tests are
  have hts' : readTests newName tests = .ok ts := by
    rw [readTests_eq_ok_iff] at hts ⊢
    refine hts.imp fun t test htest => ?_
    rw [readTest_eq_ok_iff] at htest ⊢
    exact htest
  refine ⟨_, matchesDocument_asking isField' (readCondition_object hts') d', ?_⟩
  rw [hget, matchesDocument_asking isField (readCondition_object hts)]

/-- `readCondition` of a list: whether it includes a scalar, and whether it is one. -/
private theorem readCondition_includes (name : String) (s : Scalar) :
    readCondition name
        (.object [(.text "$includes", .scalar s), (.text "$type", .text "array")]) =
      .ok (.passes [.includes s, .hasType .array]) := by
  have hincludes : readTest name (.text "$includes") (.scalar s) = .ok (.includes s) :=
    readTest_eq_ok_iff.2 ⟨.includes, rfl, .includes s⟩
  have htype : readTest name (.text "$type") (.text "array") = .ok (.hasType .array) :=
    readTest_eq_ok_iff.2 ⟨.hasType, rfl, .tag .array⟩
  exact readCondition_object (readTests_eq_ok_iff.2 (.cons hincludes (.cons htype .nil)))

/-- What queries see of an update of one field that changes a document. -/
structure MatchesWritten (d : Document) (field : Key) (s : Scalar) : Prop where
  /-- A field that was assigned a scalar equals it. -/
  assigned : ∀ d', Yields (Edit.toUpdate ⟨.assign, field, .scalar s⟩) d d' →
    matchesDocument d' (.object [(field, .scalar s)]) = .ok true
  /-- A field to which a scalar was appended is a list and includes it. -/
  pushed : ∀ d', Yields (Edit.toUpdate ⟨.push, field, .scalar s⟩) d d' →
    matchesDocument d' (.object [(field, .object [(.text "$includes", .scalar s),
      (.text "$type", .text "array")])]) = .ok true
  /-- A field that was added to is a number. -/
  increased : ∀ d', Yields (Edit.toUpdate ⟨.increment, field, .scalar s⟩) d d' →
    matchesDocument d' (.object [(field, .object [(.text "$type", .text "number")])]) = .ok true
  /-- A field that was removed, with whatever flag, is not there. -/
  removed : ∀ flag d', Yields (Edit.toUpdate ⟨.unset, field, flag⟩) d d' →
    matchesDocument d' (.object [(field, .object [(.text "$exists", .bool false)])]) = .ok true
  /-- A field that was renamed is not there; it is there under the new name. -/
  renamed : ∀ name d', Yields (Edit.toUpdate ⟨.rename, field, .text name⟩) d d' →
    matchesDocument d' (.object [(field, .object [(.text "$exists", .bool false)]),
      (.text name, .object [(.text "$exists", .bool true)])]) = .ok true
  /-- It passes the same tests under the new name as before under the old one. -/
  alike : ∀ name d', Yields (Edit.toUpdate ⟨.rename, field, .text name⟩) d d' →
    ∀ tests : List (Key × Value), (∀ t ∈ tests, IsTest t) →
      ∃ b, matchesDocument d' (.object [(.text name, .object tests)]) = .ok b ∧
        matchesDocument d (.object [(field, .object tests)]) = .ok b

/-- `matchesDocument` sees what each of the five operators writes, for every scalar but
not-a-number. -/
theorem matchesDocument_of_yields (hs : s ≠ .number (.float .nan)) (d : Document) (field : Key) :
    MatchesWritten d field s := by
  -- for each operator: what the update leaves in the field, and the query's answer to that
  constructor
  case assigned =>
    intro d' hyields
    obtain ⟨name, rfl, hname, hchanges⟩ := changes_of_yields hyields
    show matchesDocument d' (asking name (.scalar s)) = .ok true
    rw [matchesDocument_asking hname rfl, hchanges.get?_of_assign, Condition.holds,
      Value.strictEq_self hs]
  case pushed =>
    intro d' hyields
    obtain ⟨name, rfl, hname, hchanges⟩ := changes_of_yields hyields
    obtain ⟨items, hget⟩ := hchanges.get?_of_push
    show matchesDocument d' (asking name _) = .ok true
    rw [matchesDocument_asking hname (readCondition_includes name s), hget, holds_passes_some]
    simp [Test.holds, Value.includes, Value.typeTag, Value.strictEq_self hs]
  case increased =>
    intro d' hyields
    obtain ⟨name, rfl, hname, hchanges⟩ := changes_of_yields hyields
    obtain ⟨n, hget⟩ := hchanges.get?_of_increment
    show matchesDocument d' (testing name .hasType (.text TypeTag.number.name)) = .ok true
    rw [matchesDocument_testing hname (.tag .number), hget]
    rfl
  case removed =>
    intro flag d' hyields
    obtain ⟨name, rfl, hname, hchanges⟩ := changes_of_yields hyields
    show matchesDocument d' (testing name .present (.bool false)) = .ok true
    rw [matchesDocument_testing hname (.flag false), hchanges.get?_of_unset]
    rfl
  case renamed =>
    intro newName d' hyields
    obtain ⟨name, rfl, hname, hchanges⟩ := changes_of_yields hyields
    obtain ⟨hnew, hgone, v, -, hmoved⟩ := hchanges.get?_of_rename
    have htwo := matchesDocument_two hname hnew (readCondition_operand (.flag false))
      (readCondition_operand (.flag true)) d'
    rw [hgone, hmoved] at htwo
    exact htwo
  case alike =>
    intro newName d' hyields tests htests
    obtain ⟨name, rfl, hname, hchanges⟩ := changes_of_yields hyields
    obtain ⟨hnew, -, v, hbefore, hmoved⟩ := hchanges.get?_of_rename
    exact matchesDocument_object_congr hname hnew htests (hmoved.trans hbefore.symm)

/-- A number, and a list of one truth value. -/
def shown : Document :=
  .ofList [(.text idField, .text "1"), (.text "n", .int 1), (.text "tags", .list [.bool true])]

/-- `matchesDocument` after each of the five operators on `shown`. A number goes behind a truth
value that it is not equal to, and a field takes a name that is free. Not-a-number is written, and a
query for it finds nothing. -/
theorem matchesDocument_of_yields_shown :
    (.number (.int 1) : Scalar) ≠ .number (.float .nan) ∧
    (∀ field, MatchesWritten shown field (.number (.int 1))) ∧
    (∀ e ∈ ([⟨.assign, .text "n", .int 1⟩, ⟨.push, .text "tags", .int 1⟩,
      ⟨.increment, .text "n", .int 1⟩, ⟨.unset, .text "n", .bool true⟩,
      ⟨.rename, .text "n", .text "m"⟩] : List Edit),
      (Update.run e.toUpdate shown).changed = true) ∧
    matchesDocument (Update.run (Edit.toUpdate ⟨.push, .text "tags", .int 1⟩) shown).document
      (.object [(.text "tags", .object [(.text "$includes", .int 1),
        (.text "$type", .text "array")])]) = .ok true ∧
    matchesDocument (Update.run (Edit.toUpdate ⟨.rename, .text "n", .text "m"⟩) shown).document
      (.object [(.text "n", .object [(.text "$exists", .bool false)]),
        (.text "m", .object [(.text "$exists", .bool true)])]) = .ok true ∧
    matchesDocument
      (Update.run (Edit.toUpdate ⟨.assign, .text "n", .scalar (.number (.float .nan))⟩)
        shown).document
      (.object [(.text "n", .scalar (.number (.float .nan)))]) = .ok false := by
  have hone : (.number (.int 1) : Scalar) ≠ .number (.float .nan) := by decide
  have hshows := matchesDocument_of_yields hone shown
  exact ⟨hone, hshows, by decide, (hshows _).pushed _ ⟨rfl, rfl, rfl⟩,
    (hshows _).renamed "m" _ ⟨rfl, rfl, rfl⟩, rfl⟩

end Query

end DocStore
