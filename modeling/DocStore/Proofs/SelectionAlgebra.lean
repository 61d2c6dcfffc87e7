import DocStore.Proofs.QueryReading
import DocStore.Proofs.Selection

/-!
# The algebra of selections

A conjunction of queries selects what all of them select, a disjunction what one of them selects,
and a negation what its operand does not. Two queries without a common key, put into one object,
select what both select. Each operand may be answered on a short cut where it stands alone, and is
scanned within the group; so the collection has to keep every document under its own id.

## Key results

- `Query.scan_eq_filter_keys`: a scan asks of each id whether the query means its document
- `Query.readEntries_append`: entries are read one after another
- `Query.selectsBoolean_of_isKeyed`: selection turns the group operators into those on sets of ids
-/

namespace DocStore

namespace Query

variable {docs : Collection} {d : Document} {id : String} {v : Value} {vs : List Value} {q : Query}
  {qs : List Query}

/-! ## Groups as values -/

/-- The conjunction of values. -/
def conjunction (vs : List Value) : Value := .object [(.text GroupOperator.all.sign, .list vs)]

/-- The disjunction of values. -/
def disjunction (vs : List Value) : Value := .object [(.text GroupOperator.any.sign, .list vs)]

/-- The negation of a value. -/
def negation (v : Value) : Value := .object [(.text GroupOperator.except.sign, v)]

/-- Two objects put into one: the entries of the second are written over those of the first. -/
def merged (first second : List (Key × Value)) : Value :=
  .object (Table.ofList (first ++ second)).entries

/-- `readEntries` reads entries one after another. -/
theorem readEntries_append (es fs : List (Key × Value)) :
    readEntries (es ++ fs) =
      (readEntries es).bind fun qs => (readEntries fs).map (qs ++ ·) := by
  induction es with
  | nil =>
    rw [List.nil_append, readEntries]
    cases readEntries fs <;> rfl
  | cons e rest ih =>
    obtain ⟨key, v⟩ := e
    cases key with
    | text name =>
      rw [List.cons_append, readEntries_cons, readEntries_cons, ih]
      -- the first fault is that of the whole, wherever the list is divided
      cases readClause name v with
      | error x => rfl
      | ok q =>
        cases readEntries rest with
        | error x => rfl
        | ok qs => cases readEntries fs <;> rfl
    | int n => rfl
    | null => rfl

/-- `ofValue` of a `conjunction` of values. -/
theorem ofValue_conjunction (h : readItems vs = .ok qs) :
    ofValue (conjunction vs) = .ok (.all [.all qs]) := by
  have hop : GroupOperator.ofName? GroupOperator.all.sign = some .all := by decide
  simp [conjunction, ofValue, readEntries, hop, h, Except.bind, Except.map]

/-- `ofValue` of a `disjunction` of values. -/
private theorem ofValue_disjunction (h : readItems vs = .ok qs) :
    ofValue (disjunction vs) = .ok (.all [.any qs]) := by
  have hop : GroupOperator.ofName? GroupOperator.any.sign = some .any := by decide
  simp [disjunction, ofValue, readEntries, hop, h, Except.bind, Except.map]

/-- `ofValue` of the `negation` of a value. -/
private theorem ofValue_negation (h : ofValue v = .ok q) :
    ofValue (negation v) = .ok (.all [.except q]) := by
  have hop : GroupOperator.ofName? GroupOperator.except.sign = some .except := by decide
  simp [negation, ofValue, readEntries, hop, h, Except.bind, Except.map]

/-- `ofValue` reads objects without a common key that are `merged` as the entries of the one and
then those of the other. -/
private theorem ofValue_merged {first second : List (Key × Value)} {qs rs : List Query}
    (hdistinct : ((first ++ second).map Prod.fst).Nodup) (hfirst : readEntries first = .ok qs)
    (hsecond : readEntries second = .ok rs) :
    ofValue (merged first second) = .ok (.all (qs ++ rs)) := by
  rw [merged, Table.entries_ofList hdistinct, ofValue, readEntries_append, hfirst, hsecond]
  rfl

/-! ## Selections id by id -/

/-- Whether a query means the document with an id. -/
def holdsAt (q : Query) (docs : Collection) (id : String) : Bool := (docs.get? id).any (q.holds ·)

/-- `holdsAt` an id is `holds` of its document. -/
theorem holdsAt_of_get? (h : docs.get? id = some d) (q : Query) :
    q.holdsAt docs id = q.holds d := by
  rw [holdsAt, h, Option.any_some]

/-- `get?` finds a document under every id. -/
theorem exists_get?_of_mem_keys (h : id ∈ docs.keys) : ∃ d, docs.get? id = some d := by
  obtain ⟨⟨key, d⟩, hentry, rfl⟩ := List.mem_map.1 h
  exact ⟨d, (Table.get?_eq_some_iff_mem docs).2 hentry⟩

/-- `scan` asks of each id whether the query means its document. -/
theorem scan_eq_filter_keys (q : Query) (docs : Collection) :
    q.scan docs = docs.keys.filter (q.holdsAt docs) := by
  rw [scan, Table.keys, List.filter_map]
  refine congrArg (List.map Prod.fst) (List.filter_congr fun e he => ?_)
  have hget : docs.get? e.1 = some e.2 := (Table.get?_eq_some_iff_mem docs).2 he
  exact (holdsAt_of_get? hget q).symm

/-- `selectValue` of a query selects the ids whose documents it means. -/
theorem selectValue_eq_filter_keys (hdocs : docs.IsKeyed) (hv : ofValue v = .ok q) :
    selectValue docs v = .ok (docs.keys.filter (q.holdsAt docs)) := by
  have hadmitted : admitted? v = .ok (some q) := by rw [admitted?, hv]
  rw [selectValue, hadmitted, ← scan_eq_filter_keys, ← select_eq_scan hdocs]
  rfl

/-- Whether a value selects an id. -/
def selects (docs : Collection) (v : Value) (id : String) : Bool :=
  match selectValue docs v with
  | .ok found => found.contains id
  | .error _ => false

/-- `selects` an id if the query means its document. -/
private theorem selects_eq_holdsAt (hdocs : docs.IsKeyed) (hv : ofValue v = .ok q) (id : String) :
    selects docs v id = q.holdsAt docs id := by
  have hkey : q.holdsAt docs id = true → id ∈ docs.keys := by
    intro h
    obtain ⟨d, hget, -⟩ := Option.any_eq_true _ _ |>.1 h
    exact Table.mem_of_get?_eq_some hget
  rw [selects, selectValue_eq_filter_keys hdocs hv, Bool.eq_iff_iff, List.contains_iff_mem,
    List.mem_filter]
  exact ⟨And.right, fun h => ⟨hkey h, h⟩⟩

/-- `selects` by every one of several values: every one of their queries means the document. -/
private theorem all_selects_eq (hdocs : docs.IsKeyed) (h : readItems vs = .ok qs) (id : String) :
    vs.all (selects docs · id) = qs.all (·.holdsAt docs id) := by
  induction vs generalizing qs with
  | nil =>
    cases h
    rfl
  | cons v rest ih =>
    rw [readItems_cons] at h
    obtain ⟨q, qs', hv, hrest, rfl⟩ := bind_map_cons_eq_ok h
    rw [List.all_cons, List.all_cons, selects_eq_holdsAt hdocs hv, ih hrest]

/-- `selects` by one of several values: one of their queries means the document. -/
private theorem any_selects_eq (hdocs : docs.IsKeyed) (h : readItems vs = .ok qs) (id : String) :
    vs.any (selects docs · id) = qs.any (·.holdsAt docs id) := by
  induction vs generalizing qs with
  | nil =>
    cases h
    rfl
  | cons v rest ih =>
    rw [readItems_cons] at h
    obtain ⟨q, qs', hv, hrest, rfl⟩ := bind_map_cons_eq_ok h
    rw [List.any_cons, List.any_cons, selects_eq_holdsAt hdocs hv, ih hrest]

/-- `selectValue` of a query, told from what it asks of a document. -/
theorem selectValue_eq_filter (hdocs : docs.IsKeyed) (hv : ofValue v = .ok q)
    {p : String → Bool} (hp : ∀ id d, docs.get? id = some d → q.holds d = p id) :
    selectValue docs v = .ok (docs.keys.filter p) := by
  rw [selectValue_eq_filter_keys hdocs hv]
  refine congrArg Except.ok (List.filter_congr fun id hid => ?_)
  obtain ⟨d, hget⟩ := exists_get?_of_mem_keys hid
  rw [holdsAt_of_get? hget, hp id d hget]

/-! ## The group operators -/

/-- `selectValue` of a conjunction: the ids that all its parts select. -/
private theorem selectValue_conjunction (hdocs : docs.IsKeyed) (hvs : ∀ v ∈ vs, IsQuery v) :
    selectValue docs (conjunction vs) =
      .ok (docs.keys.filter fun id => vs.all (selects docs · id)) := by
  obtain ⟨qs, hread⟩ := (verdict_readItems vs).accepted.2 hvs
  refine selectValue_eq_filter hdocs (ofValue_conjunction hread) fun id d hget => ?_
  rw [all_selects_eq hdocs hread]
  simp only [holds, allHold, allHold_eq_all, Bool.and_true, holdsAt_of_get? hget]

/-- `selectValue` of a disjunction: the ids that one of its parts selects. -/
private theorem selectValue_disjunction (hdocs : docs.IsKeyed) (hvs : ∀ v ∈ vs, IsQuery v) :
    selectValue docs (disjunction vs) =
      .ok (docs.keys.filter fun id => vs.any (selects docs · id)) := by
  obtain ⟨qs, hread⟩ := (verdict_readItems vs).accepted.2 hvs
  refine selectValue_eq_filter hdocs (ofValue_disjunction hread) fun id d hget => ?_
  rw [any_selects_eq hdocs hread]
  simp only [holds, allHold, anyHolds_eq_any, Bool.and_true, holdsAt_of_get? hget]

/-- `selectValue` of a negation: the ids that its part does not select. -/
private theorem selectValue_negation (hdocs : docs.IsKeyed) (hv : IsQuery v) :
    selectValue docs (negation v) = .ok (docs.keys.filter fun id => !selects docs v id) := by
  obtain ⟨q, hread⟩ := exists_ofValue_iff.2 hv
  refine selectValue_eq_filter hdocs (ofValue_negation hread) fun id d hget => ?_
  rw [selects_eq_holdsAt hdocs hread, holdsAt_of_get? hget]
  simp only [holds, allHold, Bool.and_true]

/-- `selectValue` of a query: the ids that it `selects`, in their order. -/
private theorem selectValue_eq_filter_selects (hdocs : docs.IsKeyed) (hv : IsQuery v) :
    selectValue docs v = .ok (docs.keys.filter (selects docs v)) := by
  obtain ⟨q, hread⟩ := exists_ofValue_iff.2 hv
  refine selectValue_eq_filter hdocs hread fun id d hget => ?_
  rw [selects_eq_holdsAt hdocs hread, holdsAt_of_get? hget]

/-- `selectValue` of merged objects: the ids that both select. -/
private theorem selectValue_merged (hdocs : docs.IsKeyed) {first second : List (Key × Value)}
    (hfirst : IsQuery (.object first)) (hsecond : IsQuery (.object second))
    (hdistinct : ((first ++ second).map Prod.fst).Nodup) :
    selectValue docs (merged first second) =
      .ok (docs.keys.filter fun id =>
        selects docs (.object first) id && selects docs (.object second) id) := by
  obtain ⟨q, hq⟩ := exists_ofValue_iff.2 hfirst
  obtain ⟨r, hr⟩ := exists_ofValue_iff.2 hsecond
  obtain ⟨qs, hqs, rfl⟩ := ofValue_object_eq_ok_iff.1 hq
  obtain ⟨rs, hrs, rfl⟩ := ofValue_object_eq_ok_iff.1 hr
  refine selectValue_eq_filter hdocs (ofValue_merged hdistinct hqs hrs) fun id d hget => ?_
  rw [selects_eq_holdsAt hdocs hq, selects_eq_holdsAt hdocs hr, holdsAt_of_get? hget,
    holdsAt_of_get? hget]
  simp only [holds, allHold_eq_all, List.all_append]

/-- Selection from a collection turns the group operators into those on sets of ids. -/
structure SelectsBoolean (docs : Collection) : Prop where
  /-- A conjunction selects the ids that all of its operands select, in the order of the
  collection. -/
  conjunction : ∀ vs, (∀ v ∈ vs, IsQuery v) →
    selectValue docs (Query.conjunction vs) =
      .ok (docs.keys.filter fun id => vs.all (selects docs · id))
  /-- With no operand that is every id. -/
  conjunction_nil : selectValue docs (Query.conjunction []) = .ok docs.keys
  /-- A disjunction selects the ids that at least one of its operands selects. -/
  disjunction : ∀ vs, (∀ v ∈ vs, IsQuery v) →
    selectValue docs (Query.disjunction vs) =
      .ok (docs.keys.filter fun id => vs.any (selects docs · id))
  /-- With no operand that is none. -/
  disjunction_nil : selectValue docs (Query.disjunction []) = .ok []
  /-- A negation selects the ids that its operand does not, so the two part the collection. -/
  negation : ∀ v, IsQuery v → ∃ found rest,
    selectValue docs v = .ok found ∧ selectValue docs (Query.negation v) = .ok rest ∧
      rest = docs.keys.filter (fun id => !found.contains id) ∧ (found ++ rest).Perm docs.keys
  /-- Two queries without a common key, put into one object, select what both select. -/
  merged : ∀ first second, IsQuery (.object first) → IsQuery (.object second) →
    (first.map Prod.fst).Nodup → (second.map Prod.fst).Nodup →
    (∀ e ∈ first, ∀ f ∈ second, e.1 ≠ f.1) →
    selectValue docs (Query.merged first second) =
      .ok (docs.keys.filter fun id =>
        selects docs (.object first) id && selects docs (.object second) id)

/-- `selectValue` turns the group operators into those on sets of ids, in every collection of
documents under their own ids. -/
theorem selectsBoolean_of_isKeyed (hdocs : docs.IsKeyed) : SelectsBoolean docs where
  conjunction _ hvs := selectValue_conjunction hdocs hvs
  conjunction_nil := by
    rw [selectValue_conjunction hdocs (by simp)]
    simp
  disjunction _ hvs := selectValue_disjunction hdocs hvs
  disjunction_nil := by
    rw [selectValue_disjunction hdocs (by simp)]
    simp
  negation v hv := by
    have hfound := selectValue_eq_filter_selects hdocs hv
    have hselects (id : String) :
        selects docs v id = (docs.keys.filter (selects docs v)).contains id := by
      rw [selects, hfound]
    -- what is selected and what is left make up the collection
    refine ⟨_, _, hfound, selectValue_negation hdocs hv, ?_, List.filter_append_perm _ _⟩
    simp only [← hselects]
  merged first second hfirst hsecond hnodup hnodup' hdisjoint := by
    refine selectValue_merged hdocs hfirst hsecond ?_
    rw [List.map_append, List.nodup_append]
    refine ⟨hnodup, hnodup', fun a ha b hb => ?_⟩
    obtain ⟨e, he, rfl⟩ := List.mem_map.1 ha
    obtain ⟨f, hf, rfl⟩ := List.mem_map.1 hb
    exact hdisjoint e he f hf

/-- Three documents. The second one has no number, the third one has none that is a number. -/
def threeNumbered : Collection := Table.ofList
  [("a", .ofList [(.text idField, .text "a"), (.text "n", .int 1)]),
    ("b", .ofList [(.text idField, .text "b")]),
    ("c", .ofList [(.text "n", .null), (.text idField, .text "c")])]

/-- `selectValue` with each group operator: a missing field fails the test for being unequal, so the
negation of that test selects it. -/
theorem selectsBoolean_of_isKeyed_threeNumbered :
    threeNumbered.IsKeyed ∧
    selectValue threeNumbered (conjunction [.object [],
      .object [(.text "n", .object [(.text "$exists", .bool true)])]]) = .ok ["a", "c"] ∧
    selectValue threeNumbered (disjunction [.object [(.text idField, .text "b")],
      .object [(.text "n", .int 1)]]) = .ok ["a", "b"] ∧
    selectValue threeNumbered (negation (.object [(.text "n", .object [(.text "$ne", .int 1)])])) =
      .ok ["a", "b"] ∧
    selectValue threeNumbered (merged [(.text idField, .text "a")] [(.text "n", .int 1)]) =
      .ok ["a"] := by
  have hkeyed : threeNumbered.IsKeyed := show ∀ e ∈ _, _ by decide
  have hboolean := selectsBoolean_of_isKeyed hkeyed
  refine ⟨hkeyed, ?_, ?_, ?_, ?_⟩
  · rw [hboolean.conjunction]
    · exact congrArg Except.ok (by decide +kernel)
    · simp only [List.forall_mem_cons, List.not_mem_nil, false_implies, implies_true, and_true]
      exact ⟨exists_ofValue_iff.1 ⟨_, rfl⟩, exists_ofValue_iff.1 ⟨_, rfl⟩⟩
  · rw [hboolean.disjunction]
    · exact congrArg Except.ok (by decide +kernel)
    · simp only [List.forall_mem_cons, List.not_mem_nil, false_implies, implies_true, and_true]
      exact ⟨exists_ofValue_iff.1 ⟨_, rfl⟩, exists_ofValue_iff.1 ⟨_, rfl⟩⟩
  -- the complement is taken in what is there, so the document without the field is in it
  · have hunequal : IsQuery (.object [(.text "n", .object [(.text "$ne", .int 1)])]) :=
      exists_ofValue_iff.1 ⟨_, rfl⟩
    obtain ⟨found, rest, hfound, hrest, rfl, -⟩ := hboolean.negation _ hunequal
    rw [selectValue_eq_filter_selects hkeyed hunequal] at hfound
    rw [← Except.ok.inj hfound] at hrest
    exact hrest.trans (congrArg Except.ok (by decide +kernel))
  · rw [hboolean.merged _ _ (exists_ofValue_iff.1 ⟨_, rfl⟩) (exists_ofValue_iff.1 ⟨_, rfl⟩)
      (by decide) (by decide) (by decide)]
    exact congrArg Except.ok (by decide +kernel)

end Query

end DocStore
