import DocStore.Proofs.Selection
import DocStore.Proofs.UpdateCompletion
import DocStore.Store

/-!
# Updates of a store

The update of a store is the update of each document that is selected, in their order, and then one
save. The one thing that keeps it from its end is a document on which the update itself ends early:
the documents before stay as they have been changed, that document stays as far as its update has
come, those behind are not touched, and nothing is saved.

## Key results

- `StoreState.updateOutcome_update`: what the update of a store can come to
-/

namespace DocStore

/-! ## Selected ids -/

/-- `selectValue` selects ids of the collection, in its order. -/
theorem Query.sublist_keys_of_selectValue {docs : Collection} {v : Value} {found : List String}
    (h : selectValue docs v = .ok found) : found.Sublist docs.keys := by
  -- everything, the one id that is asked for, or what a scan finds
  unfold selectValue at h
  cases hv : admitted? v with
  | error e =>
    rw [hv] at h
    cases h
  | ok q =>
    rw [hv] at h
    cases h
    cases q with
    | none => exact List.nil_sublist _
    | some q =>
      change (q.select docs).Sublist docs.keys
      unfold select
      split
      · exact List.Sublist.refl _
      split
      · split
        · rename_i id _ hid
          rw [List.singleton_sublist]
          rw [Table.contains_eq_decide_mem] at hid
          exact of_decide_eq_true hid
        · exact List.nil_sublist _
      · exact List.filter_sublist.map Prod.fst

/-! ## The documents of a collection -/

namespace Collection

/-- The collection with the documents of some ids updated. -/
def updated (docs : Collection) (update : Value) (ids : List String) : Collection :=
  docs.map fun id d => if id ∈ ids then (Update.run update d).document else d

/-- How many of the documents of some ids an update changes. -/
def countChanged (docs : Collection) (update : Value) (ids : List String) : Nat :=
  (ids.filterMap docs.get?).countP fun d => (Update.run update d).changed

variable {docs : Collection} {update : Value} {id : String} {d : Document} {ids : List String}

/-- `updated` for no ids changes nothing. -/
theorem updated_nil (docs : Collection) (update : Value) : docs.updated update [] = docs :=
  Table.ext_entries (by simp [updated, Table.map])

/-- `countChanged` counts one document after another. -/
private theorem countChanged_cons (hget : docs.get? id = some d) (ids : List String) :
    docs.countChanged update (id :: ids) =
      (Update.run update d).changed.toNat + docs.countChanged update ids := by
  simp only [countChanged, List.filterMap_cons, hget, List.countP_cons]
  cases (Update.run update d).changed <;> simp [Nat.add_comm]

/-- `updated` leaves a document as it was that is not among the ones named. -/
theorem get?_updated_of_not_mem (h : id ∉ ids) :
    (docs.updated update ids).get? id = docs.get? id := by
  rw [updated, Table.get?_map]
  simp [h]

/-- `updated` goes on with one more document, which is written in its place. -/
private theorem insert_updated (hget : docs.get? id = some d) :
    (docs.updated update ids).insert id (Update.run update d).document =
      docs.updated update (ids ++ [id]) := by
  -- the id has a document, which keeps its place
  have hmem : id ∈ docs.updated update ids := by
    change id ∈ (docs.map _).keys
    rw [Table.keys_map]
    exact Table.mem_of_get?_eq_some hget
  rw [Table.insert_of_mem hmem]
  refine Table.ext_entries ?_
  simp only [updated, Table.map, List.map_map]
  refine List.map_congr_left fun e he => ?_
  by_cases hid : e.1 = id
  · -- the keys are distinct, so this is the document with the id
    have he' : docs.get? id = some e.2 := by
      rw [Table.get?_eq_some_iff_mem, ← hid]
      exact he
    have hd : e.2 = d := Option.some.inj (he'.symm.trans hget)
    simp [hid, hd]
  · simp [hid]

end Collection

/-! ## The documents one after another -/

namespace StoreState

variable {docs : Collection} {update : Value} {w : Sweep} {done ids : List String}

/-- `Nodup` keeps a member from standing in the list before. -/
theorem not_mem_of_nodup {before after : List String} {id : String}
    (h : (before ++ id :: after).Nodup) : id ∉ before := by
  intro hmem
  exact (List.nodup_append.1 h).2.2 id hmem id List.mem_cons_self rfl

/-- `Sweep.advance` by a document that is there. -/
private theorem Sweep.advance_of_get? {id : String} {d : Document} (hw : w.failure = none)
    (hget : w.docs.get? id = some d) :
    w.advance update id =
      ⟨w.docs.insert id (Update.run update d).document,
        w.changed + (Update.run update d).changed.toNat,
        w.records ++ Update.records (Update.run update d), (Update.run update d).failure⟩ := by
  simp [advance, hw, hget]

/-- `advance` does nothing behind a document on which the update ends early. -/
theorem Sweep.foldl_of_failure (hw : w.failure ≠ none) (ids : List String) :
    ids.foldl (advance update) w = w := by
  refine List.foldlRecOn (motive := (· = w)) ids (advance update) rfl fun v hv id _ => ?_
  subst hv
  simp [advance, Option.isSome_iff_ne_none.2 hw]

/-- `advance` updates each document from what it was, whatever has become of those before it. -/
theorem Sweep.foldl_of_carried (hw : w.failure = none) (hdocs : w.docs = docs.updated update done)
    (hnodup : (done ++ ids).Nodup)
    (hids : ∀ id ∈ ids, ∃ d, docs.get? id = some d ∧ (Update.run update d).failure = none) :
    ∃ records, ids.foldl (advance update) w =
      ⟨docs.updated update (done ++ ids), w.changed + docs.countChanged update ids, records,
        none⟩ := by
  induction ids generalizing w done with
  | nil =>
    obtain ⟨docs', n, records, failure⟩ := w
    cases hw
    cases hdocs
    exact ⟨records, by rw [List.append_nil]; rfl⟩
  | cons id rest ih =>
    obtain ⟨d, hget, hcarried⟩ := hids id List.mem_cons_self
    -- its turn comes once, so it has not been written before
    have hfresh : id ∉ done := not_mem_of_nodup hnodup
    have hget' : w.docs.get? id = some d := by
      rw [hdocs, Collection.get?_updated_of_not_mem hfresh, hget]
    have hassoc : done ++ id :: rest = done ++ [id] ++ rest := by simp
    rw [List.foldl_cons, advance_of_get? hw hget', hdocs, Collection.insert_updated hget, hcarried,
      hassoc]
    obtain ⟨records, hrest⟩ := ih (w := ⟨docs.updated update (done ++ [id]), _, _, none⟩) rfl rfl
      (hassoc ▸ hnodup) fun id' hid' => hids id' (List.mem_cons_of_mem _ hid')
    refine ⟨records, ?_⟩
    rw [hrest, Collection.countChanged_cons hget, Nat.add_assoc]

/-- A document with an id on which an update takes all of its steps. -/
def TakesAllOn (docs : Collection) (update : Value) (id : String) : Prop :=
  ∃ d, docs.get? id = some d ∧ Update.TakesAll update d

/-- What the update of a store can come to. -/
inductive UpdateOutcome (s : StoreState) (query update : Value) (multi skipSave : Bool) :
    Outcome StoreState Nat → Prop where
  /-- The query ends the call before any document is selected. -/
  | unanswered {b : QueryBreak} (unselected : Query.selectValue s.store.docs query = .error b) :
    UpdateOutcome s query update multi skipSave (.fail b.failure s)
  /-- No document is selected, or more are than may be updated. -/
  | untouched {found : List String} {records : List Log.Record}
    (selected : Query.selectValue s.store.docs query = .ok found)
    (idle : found = [] ∨ 1 < found.length ∧ multi = false) :
    UpdateOutcome s query update multi skipSave ⟨.ok 0, s, records⟩
  /-- All selected documents are updated, and then the store is saved if any of them has changed. -/
  | completed {found : List String} {records : List Log.Record} {n : Nat}
    (selected : Query.selectValue s.store.docs query = .ok found)
    (allowed : found.length ≤ 1 ∨ multi = true)
    (each : ∀ id ∈ found, TakesAllOn s.store.docs update id)
    (count : n = s.store.docs.countChanged update found) :
    UpdateOutcome s query update multi skipSave
      ((saveThen (s.withDocs (s.store.docs.updated update found)) (skipSave || n == 0) n).after
        records)
  /-- On one of the selected documents the update ends early. This one stays as far as it has come,
  those before it as they have been changed, and those behind it as they were; nothing is saved. -/
  | stopped {before after : List String} {id : String} {d : Document} {f : UpdateFailure}
    {records : List Log.Record}
    (selected : Query.selectValue s.store.docs query = .ok (before ++ id :: after))
    (allowed : (before ++ id :: after).length ≤ 1 ∨ multi = true)
    (each : ∀ b ∈ before, TakesAllOn s.store.docs update b)
    (present : s.store.docs.get? id = some d)
    (ends : Update.Ends update d (Update.run update d).document f) :
    UpdateOutcome s query update multi skipSave
      ⟨.error f.failure, s.withDocs (s.store.docs.updated update (before ++ [id])), records⟩

/-- Whether an update ends early on the document with an id. -/
def endsOn (docs : Collection) (update : Value) (id : String) : Bool :=
  (docs.get? id).any fun d => (Update.run update d).failure.isSome

/-- `TakesAllOn` a document where the update does not end early. -/
private theorem takesAllOn_of_endsOn {id : String} (hmem : id ∈ docs.keys)
    (h : endsOn docs update id = false) :
    (∃ d, docs.get? id = some d ∧ (Update.run update d).failure = none) ∧
      TakesAllOn docs update id := by
  obtain ⟨⟨key, d⟩, hentry, rfl⟩ := List.mem_map.1 hmem
  have hget : docs.get? key = some d := (Table.get?_eq_some_iff_mem docs).2 hentry
  have hcarried : (Update.run update d).failure = none := by simpa [endsOn, hget] using h
  exact ⟨⟨d, hget, hcarried⟩, d, hget, Update.takesAll_of_run hcarried⟩

/-- `advance` goes from document to document up to the last, or to the first on which the update
ends early. -/
private theorem Sweep.foldl_cases {found : List String} (hfound : found.Sublist docs.keys) :
    (∀ id ∈ found, TakesAllOn docs update id) ∧
      (∃ records, found.foldl (advance update) ⟨docs, 0, [], none⟩ =
        ⟨docs.updated update found, docs.countChanged update found, records, none⟩) ∨
    ∃ before id after d f, found = before ++ id :: after ∧
      (∀ b ∈ before, TakesAllOn docs update b) ∧ docs.get? id = some d ∧
      Update.Ends update d (Update.run update d).document f ∧
      ∃ n records, found.foldl (advance update) ⟨docs, 0, [], none⟩ =
        ⟨docs.updated update (before ++ [id]), n, records, some f⟩ := by
  have hnodup : found.Nodup := hfound.nodup docs.nodup_keys
  have hstart : docs = docs.updated update [] := (Collection.updated_nil docs update).symm
  cases hfirst : found.find? (endsOn docs update) with
  | none =>
    have hids : ∀ id ∈ found, _ := fun id hid =>
      takesAllOn_of_endsOn (hfound.mem hid) (by simpa using List.find?_eq_none.1 hfirst id hid)
    obtain ⟨records, hsweep⟩ := foldl_of_carried (w := ⟨docs, 0, [], none⟩) rfl hstart hnodup
      fun id hid => (hids id hid).1
    refine .inl ⟨fun id hid => (hids id hid).2, records, ?_⟩
    rw [hsweep, List.nil_append, Nat.zero_add]
  | some id =>
    obtain ⟨hends, before, after, rfl, hbefore⟩ := List.find?_eq_some_iff_append.1 hfirst
    have hids : ∀ b ∈ before, _ := fun b hb =>
      takesAllOn_of_endsOn (hfound.mem (List.mem_append_left _ hb)) (by simpa using hbefore b hb)
    obtain ⟨d, hget, hisSome⟩ : ∃ d, docs.get? id = some d ∧
        (Update.run update d).failure.isSome = true := by
      simpa [endsOn, Option.any_eq_true] using hends
    obtain ⟨f, hfailure⟩ := Option.isSome_iff_exists.1 hisSome
    refine .inr ⟨before, id, after, d, f, rfl, fun b hb => (hids b hb).2, hget,
      Update.ends_of_run hfailure, ?_⟩
    -- the documents before are updated whole, this one as far as it goes, and no others
    have hfresh : id ∉ before := not_mem_of_nodup hnodup
    obtain ⟨records, hsweep⟩ := foldl_of_carried (w := ⟨docs, 0, [], none⟩) rfl hstart
      (List.nodup_append.1 hnodup).1 fun b hb => (hids b hb).1
    have hget' : (docs.updated update ([] ++ before)).get? id = some d := by
      rw [List.nil_append, Collection.get?_updated_of_not_mem hfresh, hget]
    rw [List.foldl_append, hsweep, List.foldl_cons, advance_of_get? rfl hget', hfailure,
      foldl_of_failure (by simp), List.nil_append, Collection.insert_updated hget]
    exact ⟨_, _, rfl⟩

/-- `UpdateOutcome` of every `update`. -/
theorem updateOutcome_update (s : StoreState) (query update : Value) (multi skipSave : Bool) :
    UpdateOutcome s query update multi skipSave (s.update query update multi skipSave) := by
  unfold StoreState.update updateBy select
  cases hfound : Query.selectValue s.store.docs query with
  | error b => exact .unanswered hfound
  | ok found =>
    dsimp only
    split
    · rename_i hempty
      exact .untouched hfound (.inl (List.isEmpty_iff.1 hempty))
    split
    · rename_i hmany
      exact .untouched hfound (.inr (by simpa using hmany))
    rename_i hfew
    -- several documents are changed only if that is meant
    have hallowed : found.length ≤ 1 ∨ multi = true := by
      by_cases hmulti : multi = true
      · exact .inr hmulti
      · have hone : ¬ 1 < found.length := fun hmany => hfew ⟨hmany, hmulti⟩
        exact .inl (by omega)
    rcases Sweep.foldl_cases (Query.sublist_keys_of_selectValue hfound) with
      ⟨hall, records, hsweep⟩ |
      ⟨before, id, after, d, f, rfl, hbefore, hget, hearly, n, records, hsweep⟩
    · rw [hsweep]
      have hcompleted (all : List Log.Record) : UpdateOutcome s query update multi skipSave
          (Outcome.after all _) := .completed hfound hallowed hall rfl
      simpa [Outcome.after] using hcompleted (Query.complaints query ++ records)
    · rw [hsweep]
      exact .stopped hfound hallowed hbefore hget hearly

/-- `run` takes all steps of an update on a document, unless it comes to one that ends it: a number
is to be added to a number, one of them is a double, and the other is an integer beyond the doubles;
or the step cannot be carried out for something that its error cannot show. The `update` of a store
is that of the documents selected, in their order, and it comes to the last of them, and to the
save, unless on one of them it comes to such a step. -/
theorem update_completes_or_stops (s : StoreState) (query update : Value)
    (multi skipSave : Bool) :
    (∀ d, (¬ ∃ d' f, Update.Ends update d d' f) →
      (Update.run update d).failure = none ∧ Update.TakesAll update d) ∧
    (∀ d d' f, Update.Ends update d d' f →
      (Update.run update d).failure = some f ∧ (Update.run update d).document = d') ∧
    UpdateOutcome s query update multi skipSave (s.update query update multi skipSave) := by
  refine ⟨fun d hends => ?_, fun d d' f => Update.run_of_ends, updateOutcome_update ..⟩
  rcases Update.run_carried_or_ends update d with htakes | ⟨f, -, hearly⟩
  · exact htakes
  · exact absurd ⟨_, f, hearly⟩ hends

/-- The least integer beyond the doubles is to be added to a field, then 1 to a field behind it. -/
def twoIncrements : Value :=
  .object [(.text "$inc", .object [(.text "n", .int (.ofNat Double.limit)), (.text "m", .int 1)])]

/-- Three documents; only the one in the middle holds a double. -/
def threeDocuments : StoreState :=
  let document (id : String) (n : Number) : String × Document :=
    (id, .ofList [(.text idField, .text id), (.text "n", .scalar (.number n))])
  ⟨⟨⟨⟨"s", by decide, by decide⟩, Path.ofString "d", .bool false, .bool true, .bool false⟩,
    .ofList [document "a" (.int 1), document "b" (.float (.finite false ⟨1, by decide⟩)),
      document "c" (.int 1)]⟩, ⟨.empty, []⟩, .counted "id" 4 []⟩

/-- A number in a document of a collection. -/
def numberAt (docs : Collection) (id field : String) : Option Number := do
  (← (← docs.get? id).get? (.text field)).number?

/-- `update` ends early on the document in the middle: the field behind is not looked at, the
document before it has changed and the one behind it has not, and nothing is saved. -/
theorem update_threeDocuments_stops :
    let o := threeDocuments.update (.object []) twoIncrements true false
    (o.result matches .error .overflow) ∧
    numberAt o.state.store.docs "a" "m" = some (.int 1) ∧
    numberAt o.state.store.docs "b" "m" = none ∧
    numberAt o.state.store.docs "c" "m" = none ∧
    o.state.disk.files.contents.isEmpty := by
  decide +kernel

/-- A field is to be renamed to an integer that cannot be shown, and another one to be written. -/
def unshownName : Value :=
  .object [(.text "$rename", .object [(.text "n", unshownInteger)]),
    (.text "$set", .object [(.text "m", .int 1)])]

/-- The renaming is refused, but not with a warning: the update ends, and the other field is not
written. -/
example :
    let o := threeDocuments.update (.object []) unshownName true false
    (o.result matches .error .unwritable) ∧ o.records = [] ∧
    numberAt o.state.store.docs "a" "m" = none := by
  decide +kernel

end StoreState

end DocStore
