import DocStore.Proofs.QueryReading
import DocStore.Proofs.ProjectedFields

/-!
# The fields that a query asks about

A query sees of a document the fields that it names, at whatever depth, and nothing else: not the
other fields, nor the order. A field that is not there is seen as well, since a test may ask for
that. So two documents with the same under these names are meant both or neither, and a document may
be cut down to them before the query is asked.

## Key results

- `Query.holds_congr`: a query means both or neither of two documents that agree on its fields
- `Query.mem_fields_iff`: the fields of what is read are those that the value names
- `Query.dependsOnNamed_of_isQuery`: the same for the values that are queries, with projections
-/

namespace DocStore

namespace Query

variable {d d' : Document} {name : String}

/-! ## Queries -/

mutual

/-- The fields that a query asks about. -/
def fields : Query → List String
  | .field name _ => [name]
  | .all queries => fieldsOfAll queries
  | .any queries => fieldsOfAll queries
  | .except query => query.fields

/-- The fields that several queries ask about. -/
def fieldsOfAll : List Query → List String
  | [] => []
  | q :: rest => q.fields ++ fieldsOfAll rest

end

mutual

/-- `holds` is the same of two documents that agree on the query's `fields`. -/
theorem holds_congr : ∀ q : Query, (∀ name ∈ q.fields, d.get? (.text name) = d'.get? (.text name)) →
    q.holds d = q.holds d'
  | .field name c, h => by
    rw [holds, holds, h name (by simp [fields])]
  | .all queries, h => by
    rw [holds, holds]
    exact allHold_congr queries h
  | .any queries, h => by
    rw [holds, holds]
    exact anyHolds_congr queries h
  | .except query, h => by
    rw [holds, holds]
    exact congrArg not (holds_congr query h)

/-- `allHold` is the same of two documents that agree on the `fieldsOfAll` the queries. -/
private theorem allHold_congr : ∀ queries : List Query,
    (∀ name ∈ fieldsOfAll queries, d.get? (.text name) = d'.get? (.text name)) →
    allHold d queries = allHold d' queries
  | [], _ => rfl
  | q :: rest, h => by
    rw [fieldsOfAll, List.forall_mem_append] at h
    rw [allHold, allHold, holds_congr q h.1, allHold_congr rest h.2]

/-- `anyHolds` is the same of two documents that agree on the `fieldsOfAll` the queries. -/
private theorem anyHolds_congr : ∀ queries : List Query,
    (∀ name ∈ fieldsOfAll queries, d.get? (.text name) = d'.get? (.text name)) →
    anyHolds d queries = anyHolds d' queries
  | [], _ => rfl
  | q :: rest, h => by
    rw [fieldsOfAll, List.forall_mem_append] at h
    rw [anyHolds, anyHolds, holds_congr q h.1, anyHolds_congr rest h.2]

end

/-! ## Values -/

mutual

/-- A name stands in a value as the name of a field that is asked about. -/
inductive NamesField (name : String) : Value → Prop where
  | object {entries : List (Key × Value)} {c : Key × Value} (clause : c ∈ entries)
    (inside : ClauseNamesField name c) : NamesField name (.object entries)

/-- The same for an entry of a query. -/
inductive ClauseNamesField (name : String) : Key × Value → Prop where
  | field {v : Value} (isField : name.toList.head? ≠ some '$') :
    ClauseNamesField name (.text name, v)
  | junction {op : String} {operands : List Value} {v : Value} (sign : op = "$and" ∨ op = "$or")
    (operand : v ∈ operands) (inside : NamesField name v) :
    ClauseNamesField name (.text op, .list operands)
  | negation {v : Value} (inside : NamesField name v) : ClauseNamesField name (.text "$not", v)

end

/-- `NamesField` of an object: one of its entries names the field. -/
private theorem namesField_object_iff {entries : List (Key × Value)} :
    NamesField name (.object entries) ↔ ∃ c ∈ entries, ClauseNamesField name c :=
  ⟨fun ⟨clause, inside⟩ => ⟨_, clause, inside⟩, fun ⟨_, clause, inside⟩ => .object clause inside⟩

/-- `ClauseNamesField` of a junction: one of its operands names the field. -/
private theorem clauseNamesField_junction_iff {op : String} (sign : op = "$and" ∨ op = "$or")
    {operands : List Value} :
    ClauseNamesField name (.text op, .list operands) ↔ ∃ v ∈ operands, NamesField name v := by
  constructor
  · intro h
    -- the sign of a junction is no name of a field
    cases h with
    | field isField => exact absurd (head?_of_junction sign) isField
    | junction _ operand inside => exact ⟨_, operand, inside⟩
    | negation => simp at sign
  · intro h
    obtain ⟨v, operand, inside⟩ := h
    exact .junction sign operand inside

/-- `ClauseNamesField` of a negation: its operand names the field. -/
private theorem clauseNamesField_negation_iff {v : Value} :
    ClauseNamesField name (.text "$not", v) ↔ NamesField name v := by
  constructor
  · intro h
    cases h with
    | field isField => exact absurd rfl isField
    | junction sign => simp at sign
    | negation inside => exact inside
  · exact .negation

/-- `ClauseNamesField` of a field: it names this field and no other, whatever is asked. -/
private theorem clauseNamesField_field_iff {field : String}
    (isField : field.toList.head? ≠ some '$') {v : Value} :
    ClauseNamesField name (.text field, v) ↔ name = field := by
  constructor
  · intro h
    cases h with
    | field => rfl
    | junction sign => exact absurd (head?_of_junction sign) isField
    | negation => exact absurd rfl isField
  · intro h
    subst h
    exact .field isField

/-- `fields` of what an entry is read as, told from what its parts are read as. -/
theorem ReadsAs.mem_fields_iff {key : String} {v : Value} {q : Query} (h : ReadsAs key v q)
    (hvalue : ∀ q, ofValue v = .ok q → (name ∈ q.fields ↔ NamesField name v))
    (hitems : ∀ items qs, v = .list items → readItems items = .ok qs →
      (name ∈ fieldsOfAll qs ↔ ∃ w ∈ items, NamesField name w)) :
    name ∈ q.fields ↔ ClauseNamesField name (.text key, v) := by
  cases h with
  | conjunction operands =>
    rw [fields, clauseNamesField_junction_iff (.inl rfl)]
    exact hitems _ _ rfl operands
  | disjunction operands =>
    rw [fields, clauseNamesField_junction_iff (.inr rfl)]
    exact hitems _ _ rfl operands
  | negation operand =>
    rw [fields, clauseNamesField_negation_iff]
    exact hvalue _ operand
  | field isField asked =>
    rw [fields, clauseNamesField_field_iff isField, List.mem_singleton]

mutual

/-- `fields` of the query that a value is are those that the value names. -/
theorem mem_fields_iff : ∀ (v : Value) (q : Query), ofValue v = .ok q →
    (name ∈ q.fields ↔ NamesField name v)
  | .scalar s, q, h => nomatch h
  | .list items, q, h => nomatch h
  | .object entries, q, h => by
    obtain ⟨qs, hqs, rfl⟩ := ofValue_object_eq_ok_iff.1 h
    rw [fields, namesField_object_iff]
    exact mem_fieldsOfAll_readEntries entries qs hqs

/-- `fieldsOfAll` of what entries are read as are those that the entries name. -/
private theorem mem_fieldsOfAll_readEntries : ∀ (entries : List (Key × Value)) (qs : List Query),
    readEntries entries = .ok qs →
    (name ∈ fieldsOfAll qs ↔ ∃ c ∈ entries, ClauseNamesField name c)
  | [], qs, h => by
    obtain rfl := Except.ok.inj h
    simp [fieldsOfAll]
  | (.text key, v) :: rest, qs, h => by
    rw [readEntries_cons] at h
    obtain ⟨q, qs', hq, hrest, rfl⟩ := bind_map_cons_eq_ok h
    -- the operands of this entry are smaller values, so they are settled already
    have hclause := (readClause_eq_ok_iff.1 hq).mem_fields_iff (mem_fields_iff v)
      fun items qs _ => mem_fieldsOfAll_readItems items qs
    rw [fieldsOfAll, List.mem_append, hclause, mem_fieldsOfAll_readEntries rest qs' hrest]
    simp
  | (.int n, v) :: rest, qs, h => nomatch h
  | (.null, v) :: rest, qs, h => nomatch h

/-- `fieldsOfAll` of what items are read as are those that the items name. -/
private theorem mem_fieldsOfAll_readItems : ∀ (items : List Value) (qs : List Query),
    readItems items = .ok qs → (name ∈ fieldsOfAll qs ↔ ∃ v ∈ items, NamesField name v)
  | [], qs, h => by
    obtain rfl := Except.ok.inj h
    simp [fieldsOfAll]
  | v :: rest, qs, h => by
    rw [readItems_cons] at h
    obtain ⟨q, qs', hq, hrest, rfl⟩ := bind_map_cons_eq_ok h
    rw [fieldsOfAll, List.mem_append, mem_fields_iff v q hq,
      mem_fieldsOfAll_readItems rest qs' hrest]
    simp

end

/-! ## What a query depends on -/

/-- Whether a value means a document depends on the fields that it names, and on nothing else. -/
structure DependsOnNamed (v : Value) : Prop where
  /-- Two documents that have the same under these names, or both nothing, are both meant or both
  not. -/
  agree : ∀ d d' : Document,
    (∀ name, NamesField name v → d.get? (.text name) = d'.get? (.text name)) →
    ∃ b, matchesDocument d v = .ok b ∧ matchesDocument d' v = .ok b
  /-- So nothing is lost by a projection that keeps these fields, perhaps with others. -/
  projected : ∀ flags : List (String × Value),
    (∀ f ∈ flags, Projection.flagOf? f.2 = some true) →
    (∀ name, NamesField name v → name ∈ flags.map Prod.fst) →
    ∀ d : Document, ∃ d' b, Projection.applyValue? d (Projection.mask flags) = .ok (some d') ∧
      matchesDocument d v = .ok b ∧ matchesDocument d' v = .ok b

/-- `applyValue?` with a mask that has the names asked about leaves these fields as they were. -/
private theorem exists_applyValue?_mask {flags : List (String × Value)}
    (h : ∀ f ∈ flags, Projection.flagOf? f.2 = some true) (d : Document) :
    ∃ d', Projection.applyValue? d (Projection.mask flags) = .ok (some d') ∧
      ∀ name ∈ flags.map Prod.fst, d.get? (.text name) = d'.get? (.text name) := by
  by_cases hne : flags = []
  · -- without names, everything is kept
    subst hne
    exact ⟨d, rfl, by simp⟩
  · refine ⟨(Projection.keep (flags.map Prod.fst)).apply d, ?_, ?_⟩
    · rw [Projection.applyValue?, Projection.ofValue_mask hne h]
    · intro name hname
      rw [Projection.get?_apply_keep, if_pos hname]

/-- `matchesDocument` of a query depends on the fields that the query names, as `DependsOnNamed`
says. -/
theorem dependsOnNamed_of_isQuery {v : Value} (hv : IsQuery v) : DependsOnNamed v := by
  obtain ⟨q, hq⟩ := exists_ofValue_iff.2 hv
  -- a query has an answer for every document, so only the answers are left to compare
  have hmatches (d : Document) : matchesDocument d v = .ok (q.holds d) := by
    rw [matchesDocument, admitted?, hq]
    rfl
  have hagree (d d' : Document)
      (h : ∀ name, NamesField name v → d.get? (.text name) = d'.get? (.text name)) :
      q.holds d = q.holds d' :=
    holds_congr q fun name hname => h name ((mem_fields_iff v q hq).1 hname)
  constructor
  · intro d d' h
    exact ⟨q.holds d, hmatches d, by rw [hmatches, hagree d d' h]⟩
  · intro flags hflags hnamed d
    obtain ⟨d', happly, hkept⟩ := exists_applyValue?_mask hflags d
    have hholds := hagree d d' fun name hname => hkept name (hnamed name hname)
    exact ⟨d', q.holds d, happly, hmatches d, by rw [hmatches, hholds]⟩

/-- A query for the absence of one field, or the value of another. -/
def absentOrOne : Value :=
  .object [(.text "$or", .list [.object [(.text "a", .object [(.text "$exists", .bool false)])],
    .object [(.text "$not", .object [(.text "b", .object [(.text "$ne", .int 1)])])]])]

/-- `absentOrOne` names two fields. -/
private theorem namesField_absentOrOne_iff :
    NamesField name absentOrOne ↔ name = "a" ∨ name = "b" := by
  rw [← mem_fields_iff absentOrOne _ rfl]
  simp [fields, fieldsOfAll]

/-- A document with one of these fields and another one. -/
def otherAndTwo : Document := .ofList [(.text "z", .int 9), (.text "b", .int 2)]

/-- The same field of the two, in another place. -/
def twoAndOther : Document := .ofList [(.text "b", .int 2), (.text "y", .null)]

/-- `absentOrOne` means both documents, as the other field is in neither; and so it means what is
left of the first when it has been cut down to the two. -/
theorem dependsOnNamed_of_isQuery_absentOrOne :
    IsQuery absentOrOne ∧
    matchesDocument otherAndTwo absentOrOne = .ok true ∧
    matchesDocument twoAndOther absentOrOne = .ok true ∧
    ∃ d, Projection.applyValue? otherAndTwo
        (Projection.mask [("b", .int 1), ("a", .bool true)]) = .ok (some d) ∧
      matchesDocument d absentOrOne = .ok true := by
  have hv : IsQuery absentOrOne := exists_ofValue_iff.1 ⟨_, rfl⟩
  have hmeant : matchesDocument otherAndTwo absentOrOne = .ok true := rfl
  -- the two documents differ in fields that the query does not name
  have hsame : ∀ name, NamesField name absentOrOne →
      otherAndTwo.get? (.text name) = twoAndOther.get? (.text name) := by
    intro name hname
    rcases namesField_absentOrOne_iff.1 hname with rfl | rfl
    · rfl
    · rfl
  -- the mask names all fields of the query, and in another order
  have hnamed : ∀ name, NamesField name absentOrOne →
      name ∈ [("b", Value.int 1), ("a", .bool true)].map Prod.fst := by
    intro name hname
    rcases namesField_absentOrOne_iff.1 hname with rfl | rfl
    · simp
    · simp
  obtain ⟨hagree, hprojected⟩ := dependsOnNamed_of_isQuery hv
  refine ⟨hv, hmeant, ?_, ?_⟩
  · obtain ⟨b, hfirst, hsecond⟩ := hagree _ _ hsame
    rw [hsecond, ← hfirst, hmeant]
  · obtain ⟨d, b, happly, hfirst, hcut⟩ :=
      hprojected _ (by simp [Projection.flagOf?]) hnamed otherAndTwo
    exact ⟨d, happly, by rw [hcut, ← hfirst, hmeant]⟩

end Query

end DocStore
