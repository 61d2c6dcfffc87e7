/-!
# Insertion-ordered tables

A `Table` maps distinct keys to values and remembers the order in which the keys arrived:
writing to a present key keeps its place, a new key goes last. Collections of documents, the
fields of a document and the open stores of a registry are tables.

The view is `get?`, and each operation has one equation through it (`get?_insert`, `get?_erase`,
`get?_map`); the order is the list `entries`, for which `entries_insert_of_not_mem` and
`keys_insert_of_mem` say what a write does.
-/

namespace DocStore

/-- Keys with values, in order of arrival, no key twice. -/
structure Table (κ : Type u) (ν : Type v) where
  /-- The key-value pairs, oldest key first. -/
  entries : List (κ × ν)
  /-- No key occurs twice. -/
  nodup_keys : (entries.map Prod.fst).Nodup

namespace Table

variable {κ : Type u} {ν : Type v} {ω : Type w}

/-- Tables are told apart by their `entries`. -/
theorem ext_entries {s t : Table κ ν} (h : s.entries = t.entries) : s = t := by
  cases s; cases t; simp_all

instance [DecidableEq κ] [DecidableEq ν] : DecidableEq (Table κ ν) := fun s t =>
  if h : s.entries = t.entries then .isTrue (ext_entries h)
  else .isFalse fun e => h (e ▸ rfl)

/-- The table without entries. -/
def empty : Table κ ν := ⟨[], List.nodup_nil⟩

instance : Inhabited (Table κ ν) := ⟨empty⟩

/-- The keys in order of arrival. -/
def keys (t : Table κ ν) : List κ := t.entries.map Prod.fst

/-- The values in the order of their keys. -/
def values (t : Table κ ν) : List ν := t.entries.map Prod.snd

/-- The number of entries. -/
def size (t : Table κ ν) : Nat := t.entries.length

/-- Whether the table has no entry. -/
def isEmpty (t : Table κ ν) : Bool := t.entries.isEmpty

/-- Keeps the entries that pass the test. -/
def filter (t : Table κ ν) (p : κ → ν → Bool) : Table κ ν where
  entries := t.entries.filter fun e => p e.1 e.2
  nodup_keys := (List.filter_sublist.map Prod.fst).nodup t.nodup_keys

/-- Changes every value in place. -/
def map (t : Table κ ν) (f : κ → ν → ω) : Table κ ω where
  entries := t.entries.map fun e => (e.1, f e.1 e.2)
  nodup_keys := by simpa [List.map_map, Function.comp_def] using t.nodup_keys

/-- `empty` has no entries. -/
@[simp] theorem entries_empty : (empty : Table κ ν).entries = [] := rfl

/-- `map` keeps the keys. -/
@[simp] theorem keys_map (t : Table κ ν) (f : κ → ν → ω) : (t.map f).keys = t.keys := by
  simp [keys, map, List.map_map, Function.comp_def]

/-- No entry occurs twice, since no key does. -/
theorem nodup_entries (t : Table κ ν) : t.entries.Nodup :=
  List.Pairwise.of_map Prod.fst (fun _ _ hkeys heq => hkeys (congrArg Prod.fst heq)) t.nodup_keys

variable [DecidableEq κ]

/-- The value of a key. -/
def get? (t : Table κ ν) (k : κ) : Option ν := t.entries.lookup k

/-- Whether the key is present. -/
def contains (t : Table κ ν) (k : κ) : Bool := (t.get? k).isSome

instance : Membership κ (Table κ ν) := ⟨fun t k => k ∈ t.keys⟩

instance (k : κ) (t : Table κ ν) : Decidable (k ∈ t) := inferInstanceAs (Decidable (k ∈ t.keys))

/-- Writes a value in a list of pairs: over the first entry of the key, else at the end. -/
def upsert (k : κ) (v : ν) : List (κ × ν) → List (κ × ν)
  | [] => [(k, v)]
  | e :: rest => if e.1 = k then (k, v) :: rest else e :: upsert k v rest

/-- `upsert` puts a new key last and moves no other. -/
theorem map_fst_upsert (k : κ) (v : ν) (l : List (κ × ν)) :
    (upsert k v l).map Prod.fst =
      if k ∈ l.map Prod.fst then l.map Prod.fst else l.map Prod.fst ++ [k] := by
  induction l with
  | nil => simp [upsert]
  | cons e rest ih =>
    by_cases h : e.1 = k
    · simp [upsert, h]
    · simp only [upsert, h, ↓reduceIte, List.map_cons, ih, List.mem_cons, Ne.symm h, false_or]
      split <;> rfl

/-- Writes the value of a key; a new key goes last. -/
def insert (t : Table κ ν) (k : κ) (v : ν) : Table κ ν where
  entries := upsert k v t.entries
  nodup_keys := by
    rw [map_fst_upsert]
    have h := t.nodup_keys
    split
    · exact h
    · rename_i hk
      exact List.nodup_append.2 ⟨h, by simp, by
        intro a ha b hb e
        simp only [List.mem_singleton] at hb
        exact hk (hb ▸ e ▸ ha)⟩

/-- Removes a key with its value. -/
def erase (t : Table κ ν) (k : κ) : Table κ ν := t.filter fun k' _ => k' ≠ k

/-- Writes the pairs one after another into the empty table: of two values for one key the later
one stays, in the place of the earlier. -/
def ofList (l : List (κ × ν)) : Table κ ν := l.foldl (fun t e => t.insert e.1 e.2) empty

/-! ## Look-ups -/

/-- `get?` finds nothing in the empty table. -/
@[simp] theorem get?_empty (k : κ) : (empty : Table κ ν).get? k = none := rfl

/-- `lookup` finds the first entry with the key, or looks behind it. -/
theorem lookup_cons_eq (k a : κ) (b : ν) (l : List (κ × ν)) :
    ((a, b) :: l).lookup k = if k = a then some b else l.lookup k := by
  rw [List.lookup_cons]
  by_cases h : k = a
  · simp [h]
  · rw [beq_false_of_ne h, if_neg h]

/-- `lookup` after an `upsert` finds the value under its key, and under others what it found before.
-/
theorem lookup_upsert (k k' : κ) (v : ν) (l : List (κ × ν)) :
    (upsert k v l).lookup k' = if k' = k then some v else l.lookup k' := by
  induction l with
  | nil => simp [upsert, lookup_cons_eq]
  | cons e rest ih =>
    obtain ⟨a, b⟩ := e
    by_cases hk : a = k
    · subst hk
      by_cases h : k' = a <;> simp [upsert, lookup_cons_eq, h]
    · by_cases h : k' = k
      · subst h
        simp [upsert, hk, lookup_cons_eq, ih, Ne.symm hk]
      · simp [upsert, hk, lookup_cons_eq, ih, h]

/-- `get?` after an `insert` finds the value under its key, and under others what it found before.
-/
theorem get?_insert (t : Table κ ν) (k k' : κ) (v : ν) :
    (t.insert k v).get? k' = if k' = k then some v else t.get? k' :=
  lookup_upsert k k' v t.entries

/-- `get?` finds what has just been written. -/
@[simp] theorem get?_insert_self (t : Table κ ν) (k : κ) (v : ν) :
    (t.insert k v).get? k = some v := by
  rw [get?_insert, if_pos rfl]

/-- `lookup` among the entries of some keys. -/
theorem lookup_filter_fst (p : κ → Bool) (l : List (κ × ν)) (k : κ) :
    (l.filter fun e => p e.1).lookup k = if p k then l.lookup k else none := by
  induction l with
  | nil => simp
  | cons e rest ih =>
    obtain ⟨a, b⟩ := e
    by_cases hk : k = a
    · subst hk
      by_cases hp : p k <;> simp [hp, ih]
    · by_cases hp : p a <;> simp [hp, lookup_cons_eq, hk, ih]

/-- `get?` after an `erase` finds nothing under its key, and under others what it found before. -/
theorem get?_erase (t : Table κ ν) (k k' : κ) :
    (t.erase k).get? k' = if k' = k then none else t.get? k' := by
  have h := lookup_filter_fst (fun a => decide (a ≠ k)) t.entries k'
  simp only [get?, erase, filter]
  rw [h]
  by_cases hk : k' = k <;> simp [hk]

/-- `get?` does not find what has just been removed. -/
@[simp] theorem get?_erase_self (t : Table κ ν) (k : κ) : (t.erase k).get? k = none := by
  rw [get?_erase, if_pos rfl]

/-- `lookup` among changed values finds the changed one. -/
theorem lookup_map_snd (f : κ → ν → ω) (l : List (κ × ν)) (k : κ) :
    (l.map fun e => (e.1, f e.1 e.2)).lookup k = (l.lookup k).map (f k) := by
  induction l with
  | nil => rfl
  | cons e rest ih =>
    obtain ⟨a, b⟩ := e
    by_cases hk : k = a
    · subst hk; simp
    · simp [lookup_cons_eq, hk, ih]

/-- `get?` after a `map` finds the changed value. -/
theorem get?_map (t : Table κ ν) (f : κ → ν → ω) (k : κ) :
    (t.map f).get? k = (t.get? k).map (f k) :=
  lookup_map_snd f t.entries k

/-- `contains` decides whether a key is present. -/
theorem contains_eq_decide_mem (t : Table κ ν) (k : κ) : t.contains k = decide (k ∈ t) := by
  rw [Bool.eq_iff_iff, decide_eq_true_iff, contains, get?, List.lookup_isSome_iff]
  change _ ↔ k ∈ t.entries.map Prod.fst
  simp

/-! ## Entries -/

/-- `lookup` finds what stands beside a key, if no key comes twice. -/
theorem lookup_eq_some_iff_mem {k : κ} {v : ν} {l : List (κ × ν)} (h : (l.map Prod.fst).Nodup) :
    l.lookup k = some v ↔ (k, v) ∈ l := by
  induction l with
  | nil => simp
  | cons e rest ih =>
    obtain ⟨a, b⟩ := e
    rw [List.map_cons, List.nodup_cons] at h
    rw [lookup_cons_eq, List.mem_cons, Prod.mk.injEq]
    by_cases hk : k = a
    · -- the key does not occur again
      subst hk
      have hnot : (k, v) ∉ rest := fun hm => h.1 (List.mem_map.2 ⟨(k, v), hm, rfl⟩)
      simp [hnot, eq_comm]
    · simp [hk, ih h.2]

/-- `get?` finds what stands beside a key. -/
theorem get?_eq_some_iff_mem (t : Table κ ν) {k : κ} {v : ν} :
    t.get? k = some v ↔ (k, v) ∈ t.entries :=
  lookup_eq_some_iff_mem t.nodup_keys

/-- Look-ups of all keys yield all values. -/
theorem filterMap_get?_keys (t : Table κ ν) : t.keys.filterMap t.get? = t.values := by
  have hread : t.keys.map t.get? = t.values.map some := by
    rw [keys, values, List.map_map, List.map_map]
    exact List.map_congr_left fun e he => t.get?_eq_some_iff_mem.2 he
  calc t.keys.filterMap t.get?
      = (t.keys.map t.get?).filterMap id := by rw [List.filterMap_map]; rfl
    _ = t.values := by rw [hread, List.filterMap_map]; exact List.filterMap_some

/-- Tables with the same keys in the same order and the same values under them are equal. -/
theorem ext_get? {s t : Table κ ν} (hkeys : s.keys = t.keys) (hget : ∀ k, s.get? k = t.get? k) :
    s = t := by
  have hvalues : s.values = t.values := by
    rw [← filterMap_get?_keys, ← filterMap_get?_keys, hkeys, funext hget]
  apply ext_entries
  calc s.entries
      = s.keys.zip s.values := List.zip_of_prod rfl rfl
    _ = t.keys.zip t.values := by rw [hkeys, hvalues]
    _ = t.entries := (List.zip_of_prod rfl rfl).symm

/-- A key under which something is read is present. -/
theorem mem_of_get?_eq_some {t : Table κ ν} {k : κ} {v : ν} (h : t.get? k = some v) : k ∈ t :=
  List.mem_map_of_mem (f := Prod.fst) (t.get?_eq_some_iff_mem.1 h)

/-- `upsert` adds no entry but the one written. -/
theorem mem_upsert {k : κ} {v : ν} {l : List (κ × ν)} {e : κ × ν} (h : e ∈ upsert k v l) :
    e = (k, v) ∨ e ∈ l := by
  induction l with
  | nil => simpa [upsert] using h
  | cons a rest ih =>
    rw [upsert] at h
    split at h
    · rcases List.mem_cons.1 h with rfl | hr
      · exact .inl rfl
      · exact .inr (List.mem_cons_of_mem _ hr)
    · rcases List.mem_cons.1 h with rfl | hr
      · exact .inr List.mem_cons_self
      · exact (ih hr).imp_right (List.mem_cons_of_mem _)

/-- An entry after a write is the one written or one from before. -/
theorem mem_entries_insert {t : Table κ ν} {k : κ} {v : ν} {e : κ × ν}
    (h : e ∈ (t.insert k v).entries) : e = (k, v) ∨ e ∈ t.entries :=
  mem_upsert h

/-- An entry after a removal is one from before under another key. -/
theorem mem_entries_erase {t : Table κ ν} {k : κ} {e : κ × ν} :
    e ∈ (t.erase k).entries ↔ e ∈ t.entries ∧ e.1 ≠ k := by
  simp [erase, filter]

/-- To remove a key that is not there changes nothing. -/
theorem erase_of_get?_eq_none {t : Table κ ν} {k : κ} (h : t.get? k = none) : t.erase k = t := by
  apply ext_entries
  apply List.filter_eq_self.2
  intro e he
  have hne : e.1 ≠ k := by
    rintro rfl
    rw [t.get?_eq_some_iff_mem.2 he] at h
    cases h
  simpa using hne

/-- `contains` is false of the keys under which `get?` finds nothing. -/
theorem contains_eq_false_iff {t : Table κ ν} {k : κ} : t.contains k = false ↔ t.get? k = none := by
  simp [contains]

/-! ## Order -/

/-- `insert` puts a new key last and moves no other. -/
theorem keys_insert (t : Table κ ν) (k : κ) (v : ν) :
    (t.insert k v).keys = if k ∈ t then t.keys else t.keys ++ [k] :=
  map_fst_upsert k v t.entries

/-- Writing adds the key that is written and no other. -/
theorem mem_insert_iff {t : Table κ ν} {k k' : κ} {v : ν} :
    k' ∈ t.insert k v ↔ k' = k ∨ k' ∈ t := by
  show k' ∈ (t.insert k v).keys ↔ k' = k ∨ k' ∈ t.keys
  rw [keys_insert]
  split
  · rename_i hk
    exact (or_iff_right_of_imp fun heq => heq ▸ hk).symm
  · rw [List.mem_append, List.mem_singleton, or_comm]

/-- Writing to a present key moves no key. -/
theorem keys_insert_of_mem {t : Table κ ν} {k : κ} (h : k ∈ t) (v : ν) :
    (t.insert k v).keys = t.keys := by
  rw [keys_insert, if_pos h]

/-- A removal moves no other key. -/
theorem keys_erase (t : Table κ ν) (k : κ) : (t.erase k).keys = t.keys.filter (· ≠ k) := by
  rw [keys, keys, List.filter_map]
  rfl

/-- `upsert` under a key that is there changes the value in place. -/
theorem upsert_of_mem {k : κ} {v : ν} {l : List (κ × ν)} (hl : (l.map Prod.fst).Nodup)
    (h : k ∈ l.map Prod.fst) :
    upsert k v l = l.map fun e => (e.1, if e.1 = k then v else e.2) := by
  induction l with
  | nil => cases h
  | cons e rest ih =>
    rw [List.map_cons, List.nodup_cons] at hl
    by_cases hk : e.1 = k
    · -- the key stands here, so in no later entry
      have hrest : (rest.map fun e => (e.1, if e.1 = k then v else e.2)) = rest := by
        refine (List.map_congr_left fun f hf => ?_).trans (List.map_id rest)
        have hne : f.1 ≠ k := fun hfk => hl.1 (hk ▸ hfk ▸ List.mem_map_of_mem hf)
        simp [hne]
      simp [upsert, hk, hrest]
    · have hmem : k ∈ rest.map Prod.fst := by simpa [Ne.symm hk] using h
      simp [upsert, hk, ih hl.2 hmem]

/-- Writing to a present key changes its value in place. -/
theorem insert_of_mem {t : Table κ ν} {k : κ} (h : k ∈ t) (v : ν) :
    t.insert k v = t.map fun k' w => if k' = k then v else w :=
  ext_entries (upsert_of_mem t.nodup_keys h)

/-- `upsert` under a new key adds an entry at the end. -/
theorem upsert_of_not_mem {k : κ} {v : ν} {l : List (κ × ν)} (h : k ∉ l.map Prod.fst) :
    upsert k v l = l ++ [(k, v)] := by
  induction l with
  | nil => rfl
  | cons e rest ih =>
    simp only [List.map_cons, List.mem_cons, not_or] at h
    simp [upsert, Ne.symm h.1, ih h.2]

/-- A new key goes last. -/
theorem entries_insert_of_not_mem {t : Table κ ν} {k : κ} (h : k ∉ t) (v : ν) :
    (t.insert k v).entries = t.entries ++ [(k, v)] :=
  upsert_of_not_mem h

/-- `upsert` twice under one key: the later one counts. -/
theorem upsert_upsert (k : κ) (v w : ν) (l : List (κ × ν)) :
    upsert k v (upsert k w l) = upsert k v l := by
  induction l with
  | nil => simp [upsert]
  | cons e rest ih =>
    by_cases h : e.1 = k
    · simp [upsert, h]
    · simp [upsert, h, ih]

/-- Of two writes to one key the later one counts. -/
theorem insert_insert (t : Table κ ν) (k : κ) (v w : ν) :
    (t.insert k w).insert k v = t.insert k v :=
  ext_entries (upsert_upsert k v w t.entries)

/-- A new key goes away without a trace. -/
theorem erase_insert_of_not_mem {t : Table κ ν} {k : κ} (h : k ∉ t) (v : ν) :
    (t.insert k v).erase k = t := by
  refine ext_entries ?_
  have hother : ∀ e ∈ t.entries, decide (e.1 ≠ k) = true := by
    rintro e he
    refine decide_eq_true fun hk => h ?_
    exact hk ▸ List.mem_map_of_mem he
  have hentries : (t.insert k v).entries = t.entries ++ [(k, v)] := entries_insert_of_not_mem h v
  simp only [erase, filter, hentries, List.filter_append, List.filter_eq_self.2 hother]
  simp

/-- `insert` of pairs with distinct new keys adds them as they stand. -/
theorem entries_foldl_insert (l : List (κ × ν)) (t : Table κ ν)
    (h : ((t.entries ++ l).map Prod.fst).Nodup) :
    (l.foldl (fun t e => t.insert e.1 e.2) t).entries = t.entries ++ l := by
  induction l generalizing t with
  | nil => simp
  | cons e rest ih =>
    -- the head is not in the table yet, so it goes last
    have he : e.1 ∉ t := by
      intro hm
      rw [List.map_append, List.nodup_append] at h
      exact h.2.2 e.1 hm e.1 (by simp) rfl
    have hi := entries_insert_of_not_mem he e.2
    rw [List.foldl_cons, ih (t.insert e.1 e.2) (by rw [hi]; simpa using h), hi]
    simp

/-- Distinct keys make a table of their pairs as they stand. -/
theorem entries_ofList {l : List (κ × ν)} (h : (l.map Prod.fst).Nodup) : (ofList l).entries = l :=
  entries_foldl_insert l empty h

/-- `insert` of some pairs adds no entry but these. -/
theorem mem_entries_foldl_insert {l : List (κ × ν)} {t : Table κ ν} {e : κ × ν}
    (h : e ∈ (l.foldl (fun t e => t.insert e.1 e.2) t).entries) : e ∈ l ∨ e ∈ t.entries := by
  induction l generalizing t with
  | nil => exact .inr h
  | cons a rest ih =>
    rcases ih h with hr | ht
    · exact .inl (List.mem_cons_of_mem a hr)
    · rcases mem_entries_insert ht with rfl | ht
      · exact .inl List.mem_cons_self
      · exact .inr ht

/-- An entry of the table made from pairs is one of the pairs. -/
theorem mem_entries_ofList {l : List (κ × ν)} {e : κ × ν} (h : e ∈ (ofList l).entries) : e ∈ l :=
  (mem_entries_foldl_insert h).resolve_right List.not_mem_nil

/-- A table is made again from its entries. -/
theorem ofList_entries (t : Table κ ν) : ofList t.entries = t :=
  ext_entries (entries_ofList t.nodup_keys)

end Table

end DocStore
