import DocStore.Proofs.StoreHistory

/-!
# Updates all at once

The documents of a store are updated one after another, in the very collection that they were
selected from, and an update may change what the query asks for. Where the call is answered, this
comes to the same as to update all selected documents at once, each from what it was before, and
the order in which they are taken makes no difference.

## Key results

- `Collection.updatedAtOnce_updated`: documents of some ids are updated at once
- `StoreState.update_atOnce`: so the update of a store does
-/

namespace DocStore

namespace StoreState

variable {docs : Collection} {change : Value} {ids : List String}

/-- An update takes all of its steps on the document with an id. -/
def CarriedOn (docs : Collection) (change : Value) (id : String) : Prop :=
  ∃ d, docs.get? id = some d ∧ (Update.run change d).failure = none

/-- `TakesAllOn` a document makes the update come to its end there. -/
private theorem TakesAllOn.carriedOn {id : String} (h : TakesAllOn docs change id) :
    CarriedOn docs change id := by
  obtain ⟨d, hget, ws, htaken, -⟩ := h
  exact ⟨d, hget, (Update.run_of_carried htaken).1⟩

/-- Nothing has been updated yet. -/
def Sweep.start (docs : Collection) : Sweep := ⟨docs, 0, [], none⟩

/-- `Sweep` over distinct ids: where each update comes to its end, the documents are updated and the
changed ones counted. -/
theorem Sweep.foldl_start (hnodup : ids.Nodup) (hids : ∀ id ∈ ids, CarriedOn docs change id) :
    ∃ records, ids.foldl (advance change) (start docs) =
      ⟨docs.updated change ids, docs.countChanged change ids, records, none⟩ := by
  have hstart : (start docs).docs = docs.updated change [] := (Collection.updated_nil ..).symm
  obtain ⟨records, hsweep⟩ := foldl_of_carried rfl hstart hnodup hids
  exact ⟨records, by rw [hsweep, List.nil_append, start, Nat.zero_add]⟩

end StoreState

/-! ## Collections -/

namespace Collection

open StoreState (CarriedOn Sweep)

variable {docs docs' : Collection} {change : Value} {ids ids' : List String} {n : Nat}

/-- What a collection becomes where the documents of some ids are updated all at once, `n` of which
change. -/
structure UpdatedAtOnce (docs docs' : Collection) (change : Value) (ids : List String) (n : Nat) :
    Prop where
  /-- No id comes, goes or moves. -/
  keys : docs'.keys = docs.keys
  /-- Of each document to be updated there is what the update makes of it as it was. -/
  selected : ∀ id ∈ ids, ∃ d, docs.get? id = some d ∧ (Update.run change d).failure = none ∧
    docs'.get? id = some (Update.run change d).document
  /-- All other documents are as they were. -/
  others : ∀ id, id ∉ ids → docs'.get? id = docs.get? id
  /-- The documents that change are counted as they were. -/
  count : n = docs.countChanged change ids
  /-- In whatever order the documents are taken, it comes to the same. -/
  anyOrder : ∀ ids' : List String, ids'.Perm ids → ∃ records,
    ids'.foldl (Sweep.advance change) (.start docs) = ⟨docs', n, records, none⟩

/-- `updated` does not depend on the order in which the documents are named. -/
private theorem updated_perm (h : ids'.Perm ids) (docs : Collection) (change : Value) :
    docs.updated change ids' = docs.updated change ids := by
  simp only [updated, h.mem_iff]

/-- `countChanged` does not depend on the order in which the documents are named. -/
private theorem countChanged_perm (h : ids'.Perm ids) (docs : Collection) (change : Value) :
    docs.countChanged change ids' = docs.countChanged change ids :=
  (h.filterMap docs.get?).countP_eq _

/-- `updated` leaves of a named document what the update makes of it. -/
private theorem get?_updated_of_mem {id : String} {d : Document} (h : id ∈ ids)
    (hget : docs.get? id = some d) :
    (docs.updated change ids).get? id = some (Update.run change d).document := by
  rw [updated, Table.get?_map, hget, Option.map_some, if_pos h]

/-- `UpdatedAtOnce` are the documents of some ids where the update comes to its end on each. -/
theorem updatedAtOnce_updated (hnodup : ids.Nodup) (hids : ∀ id ∈ ids, CarriedOn docs change id) :
    UpdatedAtOnce docs (docs.updated change ids) change ids (docs.countChanged change ids) where
  keys := Table.keys_map ..
  selected id hid := by
    obtain ⟨d, hget, hcarried⟩ := hids id hid
    exact ⟨d, hget, hcarried, get?_updated_of_mem hid hget⟩
  others id hid := get?_updated_of_not_mem hid
  count := rfl
  anyOrder ids' hperm := by
    have hids' : ∀ id ∈ ids', CarriedOn docs change id := fun id hid => hids id (hperm.subset hid)
    obtain ⟨records, hsweep⟩ := Sweep.foldl_start (hperm.nodup_iff.2 hnodup) hids'
    refine ⟨records, ?_⟩
    rw [hsweep, updated_perm hperm, countChanged_perm hperm]

end Collection

/-! ## Stores -/

namespace StoreState

open Collection (UpdatedAtOnce updatedAtOnce_updated)

variable {s : StoreState} {query change : Value} {multi skipSave : Bool}

/-- `update` that is answered selects once. If more than one document is selected and it was meant
for one, nothing changes. Else all selected documents are updated at once, and the answer is how
many of them change. -/
theorem update_atOnce {n : Nat} (h : (s.update query change multi skipSave).result = .ok n) :
    ∃ found, Query.selectValue s.store.docs query = .ok found ∧
      (1 < found.length → multi = false →
        n = 0 ∧ (s.update query change multi skipSave).state = s) ∧
      (found.length ≤ 1 ∨ multi = true →
        UpdatedAtOnce s.store.docs (s.update query change multi skipSave).state.store.docs change
          found n) := by
  have houtcome := updateOutcome_update s query change multi skipSave
  generalize s.update query change multi skipSave = o at h houtcome
  cases houtcome with
  | unanswered => cases h
  | @untouched found records selected idle =>
    obtain rfl : 0 = n := Except.ok.inj h
    refine ⟨found, selected, fun _ _ => ⟨rfl, rfl⟩, fun hallowed => ?_⟩
    -- what was allowed and yet not done is to update no document
    obtain rfl : found = [] := idle.resolve_right fun ⟨hmany, hone⟩ =>
      not_allowed hmany hone hallowed
    have hnone : UpdatedAtOnce s.store.docs (s.store.docs.updated change []) change [] 0 :=
      updatedAtOnce_updated List.nodup_nil fun id hid => absurd hid List.not_mem_nil
    rwa [Collection.updated_nil] at hnone
  | @completed found records m selected allowed each count =>
    obtain rfl : n = m := eq_of_saveThen h
    refine ⟨found, selected, fun hmany hone => absurd allowed (not_allowed hmany hone), fun _ => ?_⟩
    have hnodup : found.Nodup :=
      (Query.sublist_keys_of_selectValue selected).nodup s.store.docs.nodup_keys
    have hdocs : ((saveThen (s.withDocs (s.store.docs.updated change found))
        (skipSave || n == 0) n).after records).state.store.docs =
          s.store.docs.updated change found :=
      congrArg Store.docs (saveThen_store _ _ n)
    rw [hdocs, count]
    exact updatedAtOnce_updated hnodup fun id hid => (each id hid).carriedOn
  | stopped => cases h

/-- Three documents under the ids `a`, `b` and `c`, each with a state. -/
def threeStates (name : StoreName) (a b c : String) : StoreState :=
  let document (id state : String) : String × Document :=
    (id, .ofList [(.text idField, .text id), (.text "state", .text state)])
  ⟨⟨⟨name, Path.ofString "d", .bool true, .bool true, .bool false⟩,
    .ofList [document "a" a, document "b" b, document "c" c]⟩, ⟨.empty, []⟩, .counted "id" 4 []⟩

/-- `update` closes and numbers what is open. The document that was closed before is not selected,
so it gets no number, although the others have come to stand as it does. -/
theorem update_atOnce_open :
    let change : Value := .object [(.text "$set", .object [(.text "state", .text "closed")]),
      (.text "$inc", .object [(.text "n", .int 1)])]
    let s := threeStates ⟨"s", by decide, by decide⟩ "open" "closed" "open"
    let t := (s.update (.object [(.text "state", .text "open")]) change true false).state
    UpdatedAtOnce s.store.docs t.store.docs change ["a", "c"] 2 ∧
      ["a", "b", "c"].map (numberAt t.store.docs · "n") = [some (.int 1), none, some (.int 1)] := by
  intro change s t
  have hselected : Query.selectValue s.store.docs (.object [(.text "state", .text "open")]) =
      .ok ["a", "c"] := rfl
  have hanswer : (s.update (.object [(.text "state", .text "open")]) change true false).result =
      .ok 2 := rfl
  obtain ⟨found, hfound, -, hupdated⟩ := update_atOnce hanswer
  rw [hselected] at hfound
  cases hfound
  exact ⟨hupdated (.inr rfl), by decide +kernel⟩

end StoreState

end DocStore
