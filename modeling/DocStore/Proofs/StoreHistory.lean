import DocStore.Proofs.GeneratedIds
import DocStore.Proofs.KeyHistory
import DocStore.Proofs.Selection
import DocStore.Proofs.StoreInvariant
import DocStore.Proofs.StoreUpdates

/-!
# The history of a store

Insertions and removals tell which documents a store holds and in which order: those that were
inserted and have not been removed since, oldest insertion first. Updates take no part in this. Ids
that are drawn may meet ids in use, an id may be used again after a removal, and a removal of
several documents that was meant for one does not happen.

## Key results

- `StoreState.keys_insert`, `StoreState.keys_update`, `StoreState.keys_remove`: what one call does
  to the ids of a store
- `StoreState.History.keys`: the ids of a store are those that its history leaves
- `StoreState.History.keepsAccount`: so are those that it finds
-/

namespace DocStore

/-- A part of a list of distinct members and what `filter` leaves without it make up its length. -/
private theorem length_filter_not_mem {l part : List String} (hpart : part.Sublist l)
    (hl : l.Nodup) :
    (l.filter (· ∉ part)).length + part.length = l.length := by
  have hperm : (l.filter (· ∈ part)).Perm part := by
    refine (List.perm_ext_iff_of_nodup (hl.filter _) (hpart.nodup hl)).2 fun a => ?_
    simp only [List.mem_filter, decide_eq_true_eq, and_iff_right_iff_imp]
    exact fun ha => hpart.mem ha
  have hsplit := (List.filter_append_perm (fun a => decide (a ∈ part)) l).length_eq
  rw [List.length_append, hperm.length_eq] at hsplit
  simp only [decide_not]
  omega

/-- `erase` of several keys one after another leaves the entries with other keys. -/
theorem Table.entries_foldl_erase {κ : Type u} {ν : Type v} [DecidableEq κ] (t : Table κ ν)
    (ks : List κ) : (ks.foldl erase t).entries = t.entries.filter fun e => e.1 ∉ ks := by
  induction ks generalizing t with
  | nil => exact (List.filter_eq_self.2 fun _ _ => by simp).symm
  | cons k rest ih =>
    rw [List.foldl_cons, ih, erase, filter, List.filter_filter]
    refine List.filter_congr fun e _ => ?_
    simp [Bool.and_comm]

/-- `map` of an outcome has an answer only where there was one. -/
theorem Outcome.exists_of_map_eq_ok {σ α β : Type} {o : Outcome σ α} {f : α → β} {b : β}
    (h : (o.map f).result = .ok b) : ∃ a, o.result = .ok a ∧ f a = b := by
  unfold Outcome.map at h
  cases hresult : o.result with
  | error e =>
    rw [hresult] at h
    cases h
  | ok a =>
    rw [hresult] at h
    cases h
    exact ⟨a, rfl, rfl⟩

namespace StoreState

variable {s : StoreState} {query : Value} {multi skipSave : Bool}

/-! ## Calls -/

/-- `saveThen` answers what it was given, if it answers. -/
theorem eq_of_saveThen {α : Type} {a b : α} (h : (s.saveThen skipSave a).result = .ok b) :
    b = a := by
  unfold saveThen at h
  split at h
  · cases h
    rfl
  · obtain ⟨done, -, rfl⟩ := Outcome.exists_of_map_eq_ok h
    rfl

/-- `multi` is asked for by every change of several documents that is allowed. -/
theorem not_allowed {k : Nat} (hmany : 1 < k) (hone : multi = false) : ¬(k ≤ 1 ∨ multi = true) := by
  simp [hone, Nat.not_le.2 hmany]

/-- `insert` adds an id that was not in use, as the last; a value that is refused leaves the ids as
they are. -/
theorem keys_insert {v : Value} {answer : Option String}
    (h : (s.insert v skipSave).result = .ok answer) :
    (∀ id ∈ answer, id ∉ s.store.docs.keys) ∧
      (s.insert v skipSave).state.store.docs.keys = s.store.docs.keys ++ answer.toList := by
  unfold StoreState.insert at *
  split at *
  · cases h
    exact ⟨nofun, (List.append_nil _).symm⟩
  · rename_i r hr
    obtain ⟨hfresh, hkeys⟩ := Collection.keys_insertValue hr
    rw [eq_of_saveThen h, saveThen_store]
    refine ⟨fun id hid => ?_, hkeys⟩
    cases hid
    exact hfresh

/-- `update` leaves the ids as they are, in their order, however it ends. -/
theorem keys_update (s : StoreState) (query change : Value) (multi skipSave : Bool) :
    (s.update query change multi skipSave).state.store.docs.keys = s.store.docs.keys := by
  generalize ho : s.update query change multi skipSave = o
  cases ho ▸ updateOutcome_update s query change multi skipSave with
  | unanswered => rfl
  | untouched => rfl
  | completed =>
    change (saveThen _ _ _).state.store.docs.keys = _
    rw [saveThen_store]
    exact Table.keys_map ..
  | stopped => exact Table.keys_map ..

/-- The ids that a removal takes away: those that are selected, unless they are several and it was
meant for one. -/
def removedIds (s : StoreState) (query : Value) (multi : Bool) : List String :=
  match Query.selectValue s.store.docs query with
  | .ok found => if 1 < found.length ∧ ¬multi then [] else found
  | .error _ => []

/-- `removedIds` are ids of the store, in their order. -/
private theorem removedIds_sublist (s : StoreState) (query : Value) (multi : Bool) :
    (s.removedIds query multi).Sublist s.store.docs.keys := by
  unfold removedIds
  split
  · rename_i found hfound
    split
    · exact List.nil_sublist _
    · exact Query.sublist_keys_of_selectValue hfound
  · exact List.nil_sublist _

/-- `erase` of several ids leaves the others, in their order. -/
theorem keys_foldl_erase (docs : Collection) (ids : List String) :
    (ids.foldl Table.erase docs).keys = docs.keys.filter (· ∉ ids) := by
  rw [Table.keys, Table.entries_foldl_erase, Table.keys, List.filter_map]
  rfl

/-- `remove` takes away what it is said to, moves no other id, and answers how many are gone. -/
theorem keys_remove {n : Nat} (h : (s.remove query multi skipSave).result = .ok n) :
    (s.remove query multi skipSave).state.store.docs.keys =
        s.store.docs.keys.filter (· ∉ s.removedIds query multi) ∧
      n = (s.removedIds query multi).length := by
  have hnone (l : List String) : l.filter (· ∉ ([] : List String)) = l :=
    List.filter_eq_self.2 fun _ _ => by simp
  unfold StoreState.remove select removedIds at *
  cases hfound : Query.selectValue s.store.docs query with
  | error e =>
    rw [hfound] at h
    cases h
  | ok found =>
    simp only [hfound, Outcome.after] at h ⊢
    split at h
    -- nothing is selected, so nothing goes
    · rename_i hempty
      obtain rfl := List.isEmpty_iff.1 hempty
      cases h
      exact ⟨(hnone _).symm, rfl⟩
    rename_i hempty
    rw [if_neg hempty]
    split at h
    -- more is selected than may go, so nothing goes
    · rename_i hmany
      cases h
      simp only [if_pos hmany]
      exact ⟨(hnone _).symm, rfl⟩
    · rename_i hfew
      simp only [if_neg hfew, saveThen_store]
      exact ⟨keys_foldl_erase _ found, eq_of_saveThen h⟩

end StoreState

/-! ## Runs -/

/-- What an answered call does to the ids of a store. -/
def StoreCall.events (s : StoreState) : StoreCall → StoreAnswer → List (KeyEvent String)
  | .insert .., .inserted (some id) => [.entered id]
  | .insert .., _ => []
  | .update .., _ => []
  | .remove query multi _, _ => (s.removedIds query multi).map .left
  | .save, _ => []

namespace StoreState

variable {s : StoreState} {history : List (KeyEvent String)}

/-- The states that a store which was created empty can come to as long as every call is answered,
each with what has happened to its ids. The disk and the id source may change at any time. -/
inductive History : StoreState → List (KeyEvent String) → Prop where
  | created (options : Options) (disk : Disk) (ids : IdSource) :
    History ⟨⟨options, .empty⟩, disk, ids⟩ []
  | called {s : StoreState} {history : List (KeyEvent String)} (before : History s history)
    (c : StoreCall) (answer : StoreAnswer) (answered : (c.outcome s).result = .ok answer) :
    History (c.outcome s).state (history ++ c.events s answer)
  | elsewhere {s : StoreState} {history : List (KeyEvent String)} (before : History s history)
    (disk : Disk) (ids : IdSource) : History { s with disk := disk, ids := ids } history

end StoreState

/-- `outcome` of an answered call does to the ids of a store what its events say. -/
private theorem StoreCall.keys_outcome {s : StoreState} {history : List (KeyEvent String)}
    {c : StoreCall} {answer : StoreAnswer} (h : s.store.docs.keys = KeyEvent.present history)
    (ha : (c.outcome s).result = .ok answer) :
    (c.outcome s).state.store.docs.keys = KeyEvent.present (history ++ c.events s answer) := by
  cases c with
  | insert v skipSave =>
    obtain ⟨id?, hresult, rfl⟩ := Outcome.exists_of_map_eq_ok ha
    obtain ⟨hfresh, hkeys⟩ := StoreState.keys_insert hresult
    refine hkeys.trans ?_
    -- a value that is refused is no event, one that is taken enters under a new id
    cases id? with
    | none => simp [events, h]
    | some id =>
      rw [events, KeyEvent.present_concat_entered, ← h, if_neg (hfresh id rfl)]
      rfl
  | update query change multi skipSave =>
    refine (s.keys_update query change multi skipSave).trans (h.trans ?_)
    rw [events, List.append_nil]
  | remove query multi skipSave =>
    obtain ⟨n, hresult, -⟩ := Outcome.exists_of_map_eq_ok ha
    refine (StoreState.keys_remove hresult).1.trans ?_
    rw [events, KeyEvent.present_append_left, h]
  | save =>
    refine (congrArg (fun store : Store => store.docs.keys) s.save_store).trans (h.trans ?_)
    rw [events, List.append_nil]

namespace StoreState

variable {s : StoreState} {history : List (KeyEvent String)}

/-- `History` leaves the ids of a store, in the order of their insertion. -/
theorem History.keys (h : History s history) : s.store.docs.keys = KeyEvent.present history := by
  induction h with
  | created => rfl
  | called before c answer answered ih => exact StoreCall.keys_outcome ih answered
  | elsewhere before disk ids ih => exact ih

/-- `History` leaves every document under its own id. -/
private theorem History.isKeyed (h : History s history) : s.store.docs.IsKeyed := by
  suffices s.store.docs.Keeps fun _ => True from fun e he => (this e he).1
  induction h with
  | created => exact Collection.keeps_empty
  | @called s history before c answer answered ih =>
    have hc : c.Brings fun _ => True := by cases c <;> trivial
    exact c.keeps_outcome Value.hereditary_true ih hc
  | elsewhere before disk ids ih => exact ih

/-- `find` with the query for everything finds every document as it is. -/
private theorem find_everything (s : StoreState) :
    (s.find (.object []) none).result = .ok s.store.docs.values := by
  have hall : Query.selectValue s.store.docs (.object []) = .ok s.store.docs.keys := rfl
  have hshown : (s.store.docs.keys.filterMap s.store.docs.get?).map Projection.everything.apply =
      s.store.docs.values :=
    (List.map_id _).trans s.store.docs.filterMap_get?_keys
  have hview : view s.store.docs (.object []) s.store.docs.keys = .ok s.store.docs.values :=
    congrArg Except.ok hshown
  unfold find select
  rw [hall]
  simp only [projectionOr, Option.getD_none, hview]
  rfl

/-- What a store with a history holds, and what the next call makes of it. -/
structure KeepsAccount (s : StoreState) (history : List (KeyEvent String)) : Prop where
  /-- The query for everything selects the ids that the history leaves, in their order. -/
  selected : Query.selectValue s.store.docs (.object []) = .ok (KeyEvent.present history)
  /-- It finds one document for each of them. -/
  found : ∃ documents, (s.find (.object []) none).result = .ok documents ∧
    documents.map Document.id? = (KeyEvent.present history).map some
  /-- No id is listed twice. -/
  distinct : (KeyEvent.present history).Nodup
  /-- A document is inserted under an id that is not listed, and goes last. -/
  inserted : ∀ v skipSave id, (s.insert v skipSave).result = .ok (some id) →
    id ∉ KeyEvent.present history ∧
      (s.insert v skipSave).state.store.docs.keys = KeyEvent.present history ++ [id]
  /-- An update adds, drops and moves nothing. -/
  updated : ∀ query change multi skipSave,
    (s.update query change multi skipSave).state.store.docs.keys = KeyEvent.present history
  /-- A removal answers by how many the documents have become fewer. -/
  removed : ∀ query multi skipSave n, (s.remove query multi skipSave).result = .ok n →
    (s.remove query multi skipSave).state.size + n = s.size

/-- `History` loses, doubles and moves no document. -/
theorem History.keepsAccount (h : History s history) : KeepsAccount s history where
  selected := congrArg Except.ok h.keys
  found := by
    refine ⟨s.store.docs.values, find_everything s, ?_⟩
    rw [← h.keys, Table.values, Table.keys, List.map_map, List.map_map]
    exact List.map_congr_left fun e he => h.isKeyed e he
  distinct := h.keys ▸ s.store.docs.nodup_keys
  inserted v skipSave id hresult := by
    obtain ⟨hfresh, hkeys⟩ := keys_insert hresult
    rw [← h.keys]
    exact ⟨hfresh id rfl, hkeys⟩
  updated query change multi skipSave := (s.keys_update query change multi skipSave).trans h.keys
  removed query multi skipSave n hresult := by
    obtain ⟨hkeys, rfl⟩ := keys_remove hresult
    -- documents are counted by their ids
    have hsize (t : StoreState) : t.size = t.store.docs.keys.length := List.length_map _ |>.symm
    rw [hsize, hsize, hkeys]
    exact length_filter_not_mem (s.removedIds_sublist query multi) s.store.docs.nodup_keys

/-- A document with an id and nothing else. -/
def documentWithId (id : String) : Value := .object [(.text idField, .text id)]

/-- The first id that is drawn is in use and is drawn in vain. Of three documents none is removed by
a `remove` meant for one; then the first one goes, and comes back behind the others. -/
theorem History.keepsAccount_reinserted :
    ∃ s history, History s history ∧ KeyEvent.present history = ["id0000", "b", "a"] ∧
      KeepsAccount s history := by
  have hcreated : History ⟨⟨⟨⟨"s", by decide, by decide⟩, Path.ofString "d", .bool true,
      .bool true, .bool false⟩, .empty⟩, ⟨.empty, []⟩, .counted "id" 4 ["a"]⟩ [] := .created _ _ _
  have hfirst := hcreated.called (.insert (documentWithId "a") false) (.inserted (some "a")) rfl
  have hdrawn := hfirst.called (.insert (.object []) false) (.inserted (some "id0000")) rfl
  have hthird := hdrawn.called (.insert (documentWithId "b") false) (.inserted (some "b")) rfl
  have hkept := hthird.called (.remove (.object []) false false) (.counted 0) rfl
  have hgone := hkept.called (.remove (documentWithId "a") false false) (.counted 1) rfl
  have hback := hgone.called (.insert (documentWithId "a") false) (.inserted (some "a")) rfl
  exact ⟨_, _, hback, rfl, hback.keepsAccount⟩

end StoreState

end DocStore
