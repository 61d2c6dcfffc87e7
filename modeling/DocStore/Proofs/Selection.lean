import DocStore.Query.Reading

/-!
# Selection without short cuts

Selection answers some queries without looking at the documents: the one that asks for nothing, and
the one that asks for an id and nothing else. The first document meant is found on a path of its
own. All of these agree with the plain scan, as long as every document stands under its own id.

## Key results

- `Query.select_eq_scan`: a selection is the scan of the collection
- `Query.selectFirst_eq_head?`: the first document meant is the first one selected
- `Query.selectValue_agrees`: the same for every value that is answered at all
-/

namespace DocStore

/-- Every document of a collection stands under its own id. -/
def Collection.IsKeyed (docs : Collection) : Prop := ∀ e ∈ docs.entries, e.2.id? = some e.1

/-- `strictEq` of texts is their equality. -/
theorem Value.strictEq_text (s t : String) : (Value.text s).strictEq (.text t) = (s == t) := by
  rw [Bool.eq_iff_iff, beq_iff_eq]
  simp [strictEq_eq, same_scalar, Scalar.same, Scalar.numeric?, typeTag, Scalar.typeTag]

namespace Query

variable {docs : Collection} {d : Document} {q : Query} {v : Value}

/-! ## Queries -/

/-- The ids of the documents that a query means, found by looking at every document. -/
def scan (q : Query) (docs : Collection) : List String :=
  (docs.entries.filter fun e => q.holds e.2).map Prod.fst

/-- `soleId?` finds the id that a query asks for if that is all there is in it. -/
private theorem soleId?_eq_some_iff {id : String} :
    q.soleId? = some id ↔ q = .all [.field idField (.equals (.text id))] := by
  constructor
  · intro h
    unfold soleId? at h
    split at h
    · split at h
      · rename_i hname
        cases h
        rw [hname]
      · cases h
    · cases h
  · rintro rfl
    rfl

/-- `holds` of a query for an id: the document is the one with that id. -/
private theorem holds_soleId {key id : String} (hd : d.id? = some key) :
    holds d (.all [.field idField (.equals (.text id))]) = (key == id) := by
  have hget := Document.id?_eq_some_iff.1 hd
  simp only [holds, allHold, hget, Condition.holds, Bool.and_true]
  exact Value.strictEq_text key id

/-- `scan` for an id finds it if it is there. -/
private theorem scan_soleId (hdocs : docs.IsKeyed) (id : String) :
    scan (.all [.field idField (.equals (.text id))]) docs =
      if docs.contains id then [id] else [] := by
  have hfilter : (docs.entries.filter fun e =>
      holds e.2 (.all [.field idField (.equals (.text id))])) =
        docs.entries.filter ((· == id) ∘ Prod.fst) :=
    List.filter_congr fun e he => holds_soleId (hdocs e he)
  have hcount : List.count id docs.keys = if id ∈ docs.keys then 1 else 0 := docs.nodup_keys.count
  -- the keys are distinct, so one of them at most is the id
  rw [scan, hfilter, ← List.filter_map]
  change docs.keys.filter (· == id) = _
  rw [List.filter_beq, hcount, Table.contains_eq_decide_mem]
  by_cases hmem : id ∈ docs.keys
  · have hmem' : id ∈ docs := hmem
    simp [hmem, hmem']
  · have hmem' : id ∉ docs := hmem
    simp [hmem, hmem']

/-- `select` is the scan of the collection, whichever way it is made. -/
theorem select_eq_scan (hdocs : docs.IsKeyed) (q : Query) : q.select docs = q.scan docs := by
  unfold select
  split
  · -- nothing is asked, so everything is meant
    have hall : (docs.entries.filter fun _ => true) = docs.entries :=
      List.filter_eq_self.2 fun _ _ => rfl
    simp only [scan, holds, allHold, hall]
    rfl
  split
  · rename_i id hsole
    rw [soleId?_eq_some_iff.1 hsole, scan_soleId hdocs]
  · rfl

/-- `selectFirst` is the first one selected, in any collection. -/
theorem selectFirst_eq_head? (q : Query) (docs : Collection) :
    q.selectFirst docs = (q.select docs).head? := by
  unfold selectFirst select
  split
  -- asked for one id, both look it up
  · rename_i id hsole
    rw [soleId?_eq_some_iff.1 hsole]
    simp only [soleId?, if_true]
    split <;> rfl
  · rename_i hsole
    split
    · -- the search for the first one has no short cut where nothing is asked
      cases hentries : docs.entries with
      | nil => simp [Table.keys, hentries]
      | cons e rest => simp [Table.keys, hentries, holds, allHold]
    · rw [hsole]
      simp only
      rw [List.head?_map, List.head?_filter]

/-- `holds` of a test of the id field for equality is that of comparing it. -/
private theorem holds_equal (d : Document) (name : String) (s : Scalar) :
    holds d (.all [.field name (.passes [.equal s])]) =
      holds d (.all [.field name (.equals s)]) := by
  simp only [holds, allHold]
  cases d.get? (.text name) with
  | none => rfl
  | some v => simp [Condition.holds, Test.holds]

/-! ## Values -/

/-- `matchesDocument` has an answer for every document, if the value is a query. -/
theorem matchesDocument_of_ofValue {q : Query} (h : ofValue v = .ok q) (d : Document) :
    matchesDocument d v = .ok (q.holds d) := by
  rw [matchesDocument, admitted?, h]
  rfl

/-- `matchesDocument` of a value that is rejected means no document. -/
theorem matchesDocument_of_rejected {x : QueryError}
    (h : ofValue v = .error (.rejected x)) (d : Document) : matchesDocument d v = .ok false := by
  rw [matchesDocument, admitted?, h]
  rfl

/-- A value is answered unless reading it ends without a verdict. -/
def IsAnswered (v : Value) : Prop := ∀ b, ofValue v ≠ .error (.broken b)

/-- Whether a value means a document; a call that ends without an answer has not meant it. -/
def means (v : Value) (d : Document) : Bool :=
  match matchesDocument d v with
  | .ok b => b
  | .error _ => false

/-- `IsAnswered` holds of queries, and of values that are rejected and mean nothing. -/
theorem IsAnswered.cases (h : IsAnswered v) :
    (∃ q, admitted? v = .ok (some q) ∧ ∀ d, matchesDocument d v = .ok (q.holds d)) ∨
      (admitted? v = .ok none ∧ ∀ d, matchesDocument d v = .ok false) := by
  -- the third outcome, an end without a verdict, is excluded
  cases hv : ofValue v with
  | ok q =>
    have hadmitted : admitted? v = .ok (some q) := by rw [admitted?, hv]
    exact .inl ⟨q, hadmitted, matchesDocument_of_ofValue hv⟩
  | error fault =>
    cases fault with
    | broken b => exact absurd hv (h b)
    | rejected e =>
      have hadmitted : admitted? v = .ok none := by rw [admitted?, hv]
      exact .inr ⟨hadmitted, matchesDocument_of_rejected hv⟩

/-- `selectValue` selects the ids of the documents that the value means, in their order. -/
theorem selectValue_eq_scan (h : IsAnswered v) (hdocs : docs.IsKeyed) :
    selectValue docs v = .ok ((docs.entries.filter fun e => means v e.2).map Prod.fst) := by
  rcases h.cases with ⟨q, hadmitted, hmatches⟩ | ⟨hadmitted, hmatches⟩
  · have hmeans : (fun e : String × Document => means v e.2) = fun e => q.holds e.2 := by
      funext e
      rw [means, hmatches]
    rw [selectValue, hadmitted, hmeans]
    exact congrArg Except.ok (q.select_eq_scan hdocs)
  · have hmeans : (fun e : String × Document => means v e.2) = fun _ => false := by
      funext e
      rw [means, hmatches]
    -- what is rejected means no document, and the scan keeps none
    have hnone : (docs.entries.filter fun _ => false) = [] := by
      rw [List.filter_eq_nil_iff]
      simp
    rw [selectValue, hadmitted, hmeans, hnone]
    rfl

/-- `selectFirstValue` is the first id selected, in any collection. -/
theorem selectFirstValue_eq_head? (docs : Collection) (v : Value) :
    selectFirstValue docs v = (selectValue docs v).map List.head? := by
  unfold selectFirstValue selectValue
  cases admitted? v with
  | error e => rfl
  | ok q =>
    cases q with
    | none => rfl
    | some q => exact congrArg Except.ok (q.selectFirst_eq_head? docs)

/-- `ofValue` of a value that compares the id, and of one that tests it for equality. -/
private theorem ofValue_id (s : Scalar) :
    ofValue (.object [(.text idField, .scalar s)]) =
        .ok (.all [.field idField (.equals s)]) ∧
      ofValue (.object [(.text idField, .object [(.text "$eq", .scalar s)])]) =
        .ok (.all [.field idField (.passes [.equal s])]) := by
  have hgroup : GroupOperator.ofName? idField = none := by decide
  have hname : isOperatorName idField = false := by decide
  have hequal : FieldOperator.ofKey? (.text "$eq") = some .equal := by decide
  refine ⟨?_, ?_⟩
  · simp [ofValue, readEntries, hgroup, hname, readCondition, Except.map, Except.bind]
  · simp [ofValue, readEntries, hgroup, hname, readCondition, readTests, readTest, hequal,
      FieldOperator.test?, Value.scalar?, Except.map, Except.bind]

/-- Every way of answering a value agrees with the scan. In a collection of documents under their
own ids, `selectValue` finds the ids of the documents that the value means, in their order;
`selectFirstValue` finds the head of these in any collection; and an id that is compared selects
what it selects when it is tested for equality. -/
theorem selectValue_agrees (hv : IsAnswered v) (docs : Collection) :
    (docs.IsKeyed →
      selectValue docs v = .ok ((docs.entries.filter fun e => means v e.2).map Prod.fst)) ∧
    (∃ found, selectValue docs v = .ok found ∧ selectFirstValue docs v = .ok found.head?) ∧
    (docs.IsKeyed → ∀ s : Scalar,
      selectValue docs (.object [(.text idField, .scalar s)]) =
        selectValue docs (.object [(.text idField, .object [(.text "$eq", .scalar s)])])) := by
  refine ⟨selectValue_eq_scan hv, ?_, fun hdocs s => ?_⟩
  -- an answered value is a query, or it is refused and selects nothing
  · have hfirst := selectFirstValue_eq_head? docs v
    rcases hv.cases with ⟨q, hadmitted, -⟩ | ⟨hadmitted, -⟩
    · have hselect : selectValue docs v = .ok (q.select docs) := by
        rw [selectValue, hadmitted]
        rfl
      exact ⟨q.select docs, hselect, by rw [hfirst, hselect]; rfl⟩
    · have hselect : selectValue docs v = .ok [] := by
        rw [selectValue, hadmitted]
        rfl
      exact ⟨[], hselect, by rw [hfirst, hselect]; rfl⟩
  · -- the one is answered by a look-up and the other by a scan; both are the scan
    obtain ⟨hcompare, htest⟩ := ofValue_id s
    have hscan : (Query.all [.field idField (.equals s)]).select docs =
        (Query.all [.field idField (.passes [.equal s])]).select docs := by
      rw [select_eq_scan hdocs, select_eq_scan hdocs, scan, scan]
      simp only [holds_equal]
    simp only [selectValue, admitted?, hcompare, htest]
    exact congrArg Except.ok hscan

/-- `selectValue` finds the one of two documents with the id, and `selectFirstValue` finds it too.
-/
theorem selectValue_agrees_second :
    selectValue (Table.ofList [("a", Table.ofList [(.text "_id", .text "a")]),
        ("b", Table.ofList [(.text "n", .int 1), (.text "_id", .text "b")])])
      (.object [(.text "_id", .text "b")]) = .ok ["b"] ∧
    selectFirstValue (Table.ofList [("a", Table.ofList [(.text "_id", .text "a")]),
        ("b", Table.ofList [(.text "n", .int 1), (.text "_id", .text "b")])])
      (.object [(.text "_id", .text "b")]) = .ok (some "b") := by
  have hv : IsAnswered (.object [(.text "_id", .text "b")]) := by
    intro b hb
    rw [show Key.text "_id" = .text idField from rfl, (ofValue_id (.text "b")).1] at hb
    cases hb
  obtain ⟨hscan, ⟨found, hselect, hfirst⟩, -⟩ := selectValue_agrees hv
    (Table.ofList [("a", Table.ofList [(.text "_id", .text "a")]),
      ("b", Table.ofList [(.text "n", .int 1), (.text "_id", .text "b")])])
  have hfound := hscan (show ∀ e ∈ _, _ by decide)
  rw [hselect] at hfound
  cases hfound
  exact ⟨hselect, hfirst⟩

end Query

end DocStore
