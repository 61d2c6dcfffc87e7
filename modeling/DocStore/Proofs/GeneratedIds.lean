import DocStore.Insertion

/-!
# Generated ids

Ids are drawn from a source until one is not in use. The source delivers its queue and then ids that
are all distinct, so it runs ahead of every collection: of as many draws as there are ids in the
queue and in the collection together, and one more, at least one is not in use.

## Key results

- `IdSource.exists_drawUnused`: what has been drawn in vain is in use
- `IdSource.exists_upcoming_not_mem`: of as many draws as the bound allows one is not in use
- `IdSource.unused_not_mem`: the id that is found is not in use
- `Collection.of_insertValue_eq_ok`: what is inserted, and under which id
- `Collection.keys_insertValue`: it goes last, under an id that was not in use
-/

namespace DocStore

namespace IdSource

variable {docs : Collection} {src : IdSource}

/-- The ids that a source has yet to deliver, by their number. -/
def upcoming (src : IdSource) (i : Nat) : String :=
  src.queue[i]?.getD (src.supply (src.taken + (i - src.queue.length)))

/-- `draw` delivers the first of the ids to come. -/
theorem draw_fst (src : IdSource) : src.draw.1 = src.upcoming 0 := by
  obtain ⟨queue, supply, injective, taken⟩ := src
  cases queue <;> rfl

/-- `upcoming` after a `draw` are the ids behind the first. -/
theorem upcoming_draw (src : IdSource) (i : Nat) :
    src.draw.2.upcoming i = src.upcoming (i + 1) := by
  obtain ⟨queue, supply, injective, taken⟩ := src
  cases queue with
  | nil => simp [draw, upcoming, Nat.add_assoc, Nat.add_comm 1]
  | cons id rest => simp [draw, upcoming]

/-- `upcoming` behind the queue are the ids of the supply. -/
theorem upcoming_length_add (src : IdSource) (i : Nat) :
    src.upcoming (src.queue.length + i) = src.supply (src.taken + i) := by
  simp [upcoming]

/-- `drawUnused` has drawn in vain what is in use, and goes on as long as it may and has found
nothing but that. -/
theorem exists_drawUnused (docs : Collection) (again : Nat) (src : IdSource) :
    ∃ k ≤ again, (drawUnused docs again src).1 = src.upcoming k ∧
      (∀ i < k, src.upcoming i ∈ docs) ∧ (k < again → src.upcoming k ∉ docs) := by
  -- the id that is found is the first one, or the rest of the search has found it
  induction again generalizing src with
  | zero => exact ⟨0, Nat.le_refl 0, draw_fst src, nofun, nofun⟩
  | succ again ih =>
    have hfirst : docs.contains src.draw.1 = decide (src.upcoming 0 ∈ docs) := by
      rw [draw_fst, Table.contains_eq_decide_mem]
    simp only [drawUnused, hfirst, decide_eq_true_eq]
    split
    · rename_i hused
      obtain ⟨k, hk, hid, hbefore, hlast⟩ := ih src.draw.2
      rw [upcoming_draw] at hid hlast
      refine ⟨k + 1, Nat.succ_le_succ hk, hid, fun i hi => ?_, fun h => hlast (by omega)⟩
      cases i with
      | zero => exact hused
      | succ i =>
        rw [← upcoming_draw]
        exact hbefore i (by omega)
    · rename_i hunused
      exact ⟨0, Nat.zero_le _, draw_fst src, nofun, fun _ => hunused⟩

/-- The ids of the supply among which the search ends. -/
def supplied (src : IdSource) (n : Nat) : List String :=
  (List.range (n + 1)).map fun i => src.supply (src.taken + i)

/-- No id is `supplied` twice. -/
private theorem nodup_supplied (src : IdSource) (n : Nat) : (src.supplied n).Nodup := by
  refine List.Pairwise.map _ ?_ List.nodup_range
  intro i j hne heq
  have := src.supply_injective _ _ heq
  omega

/-- `upcoming` has an id that is not in use among the first ones: they are more than the documents.
-/
theorem exists_upcoming_not_mem (docs : Collection) (src : IdSource) :
    ∃ i ≤ src.queue.length + docs.size, src.upcoming i ∉ docs := by
  refine Classical.byContradiction fun hnone => ?_
  -- there would be one document more than there are
  have hsub : src.supplied docs.size ⊆ docs.keys := by
    intro id hid
    obtain ⟨i, hi, rfl⟩ := List.mem_map.1 hid
    rw [← upcoming_length_add]
    refine Decidable.byContradiction fun hunused => hnone ⟨_, ?_, hunused⟩
    exact Nat.add_le_add_left (Nat.lt_succ_iff.1 (List.mem_range.1 hi)) _
  have hlen := (src.nodup_supplied docs.size).length_le_of_subset hsub
  simp only [supplied, List.length_map, List.length_range, Table.keys, Table.size] at hlen
  omega

/-- `unused` finds an id that is not in use. -/
theorem unused_not_mem (docs : Collection) (src : IdSource) : (src.unused docs).1 ∉ docs := by
  obtain ⟨k, hk, hid, hbefore, hlast⟩ :=
    exists_drawUnused docs (src.queue.length + docs.size) src
  obtain ⟨i, hi, hunused⟩ := exists_upcoming_not_mem docs src
  change (src.unused docs).1 = src.upcoming k at hid
  rw [hid]
  -- the search ends before its bound, where it has found one, or at it
  rcases Nat.lt_or_ge k (src.queue.length + docs.size) with hlt | hge
  · exact hlast hlt
  · -- the search has drawn all that it may, so the id at `i` comes last
    have hik : ¬i < k := fun hlt => hunused (hbefore i hlt)
    obtain rfl : i = k := by omega
    exact hunused

/-- `unused` finds the first id to come that is not in use. -/
theorem exists_unused (docs : Collection) (src : IdSource) :
    ∃ k, (src.unused docs).1 = src.upcoming k ∧ ∀ i < k, src.upcoming i ∈ docs := by
  obtain ⟨k, -, hid, hbefore, -⟩ := exists_drawUnused docs (src.queue.length + docs.size) src
  exact ⟨k, hid, hbefore⟩

end IdSource

/-! ## Insertion -/

/-- The id that a document comes with: the text in its id field, if it is not empty. -/
def Document.givenId? (d : Document) : Option String := d.id?.filter (· ≠ "")

/-- `givenId?` is the text in the id field, if it is not empty. -/
theorem Document.givenId?_eq_some_iff {d : Document} {id : String} :
    d.givenId? = some id ↔ d.get? idField = some (.text id) ∧ id ≠ "" := by
  rw [givenId?, Option.filter_eq_some_iff, id?_eq_some_iff, decide_eq_true_eq]

/-- `insert` of what stands there changes nothing. -/
private theorem Table.insert_of_get? {κ : Type u} {ν : Type v} [DecidableEq κ] {t : Table κ ν}
    {k : κ} {v : ν} (h : t.get? k = some v) : t.insert k v = t := by
  have hentry : (k, v) ∈ t.entries := t.get?_eq_some_iff_mem.1 h
  have hmem : k ∈ t := List.mem_map_of_mem (f := Prod.fst) hentry
  rw [insert_of_mem hmem]
  refine ext_entries ((List.map_congr_left fun e he => ?_).trans (List.map_id t.entries))
  change (e.1, if e.1 = k then v else e.2) = e
  by_cases hk : e.1 = k
  · -- the keys are distinct, so this is the entry
    have hread : t.get? k = some e.2 := t.get?_eq_some_iff_mem.2 (hk ▸ he)
    rw [h] at hread
    rw [if_pos hk, Option.some.inj hread]
  · rw [if_neg hk]

namespace Collection

variable {docs : Collection} {ids : IdSource} {v : Value}

/-- `insertValue` of a document: one with an id goes in under it unless that is in use, and any
other under the id that `unused` finds, which is written into it. -/
theorem insertValue_of_document {d : Document} (h : Document.ofValue? v = .ok d) :
    docs.insertValue ids v =
      match d.givenId? with
      | some id =>
        if docs.contains id then .error (.duplicateId id) else .ok ⟨id, docs.insert id d, ids⟩
      | none =>
        .ok ⟨(ids.unused docs).1, docs.insert (ids.unused docs).1
          (d.insert idField (.text (ids.unused docs).1)), (ids.unused docs).2⟩ := by
  unfold insertValue
  rw [h]
  -- an id field without a text, with the empty text, or with an id
  cases hid : d.id? with
  | none =>
    have hgiven : d.givenId? = none := by rw [Document.givenId?, hid]; rfl
    simp only [hgiven, hid]
  | some id =>
    have hgiven : d.givenId? = if id = "" then none else some id := by
      simp [Document.givenId?, hid, Option.filter]
    by_cases hempty : id = ""
    · rw [if_pos hempty] at hgiven
      simp only [hgiven, hid, if_pos hempty]
    · rw [if_neg hempty] at hgiven
      simp only [hgiven, hid, if_neg hempty]

/-- `insertValue` takes nothing but documents. One goes in under the id that it comes with or else
the first one drawn that is not in use, and holds this id. -/
theorem of_insertValue_eq_ok {r : Inserted} (h : docs.insertValue ids v = .ok r) :
    ∃ d, Document.ofValue? v = .ok d ∧ r.id ∉ docs ∧
      r.docs = docs.insert r.id (d.insert idField (.text r.id)) ∧
      r.id = d.givenId?.getD (ids.unused docs).1 := by
  cases hd : Document.ofValue? v with
  | error e => simp [insertValue, hd] at h
  | ok d =>
    rw [insertValue_of_document hd] at h
    refine ⟨d, rfl, ?_⟩
    cases hgiven : d.givenId? with
    | none =>
      rw [hgiven] at h
      cases h
      exact ⟨ids.unused_not_mem docs, rfl, rfl⟩
    | some id =>
      simp only [hgiven] at h
      split at h
      · cases h
      · rename_i hunused
        cases h
        -- the document holds the id already
        rw [Table.contains_eq_decide_mem, decide_eq_true_eq] at hunused
        have hsame := Table.insert_of_get? (Document.givenId?_eq_some_iff.1 hgiven).1
        exact ⟨hunused, by rw [hsame], rfl⟩

/-- `insertValue` adds its document last, under an id that has not been in use. -/
theorem keys_insertValue {r : Inserted} (h : docs.insertValue ids v = .ok r) :
    r.id ∉ docs.keys ∧ r.docs.keys = docs.keys ++ [r.id] := by
  obtain ⟨d, -, hunused, hdocs, -⟩ := of_insertValue_eq_ok h
  exact ⟨hunused, by rw [hdocs, Table.keys_insert, if_neg hunused]⟩

end Collection

end DocStore
