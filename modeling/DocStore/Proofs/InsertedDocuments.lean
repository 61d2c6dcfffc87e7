import DocStore.Proofs.GeneratedIds
import DocStore.Proofs.StoreInvariant
import Mathlib.Data.Nat.Find

/-!
# Inserted documents

Which values a collection takes, and what it holds when it has taken one. The rules are said without
asking the gates of the program: what a field may hold is `Value.InModel`, and the values that are
refused are those of `Collection.Unfit`.

Ids may come in any order and any number of times. All that is asked of a stream of ids is that one
of them is not in use; a source delivers it if the ids that it has yet to deliver begin like it.

## Key results

- `Value.inModel_iff`: what a field may hold
- `Collection.exists_error_iff`: a value is refused just where it is unfit
- `Collection.settled_of_exists_unused`: an insertion from its value to what it leaves
-/

namespace DocStore

/-! ## The value model -/

/-- The values that may stand inside an object: scalars and lists of scalars. -/
inductive Value.IsPlain : Value → Prop where
  | scalar (s : Scalar) : IsPlain (.scalar s)
  | list (scalars : List Scalar) : IsPlain (.list (scalars.map Value.scalar))

/-- The values that a field may hold: plain ones, and objects of plain ones under names. -/
inductive Value.InModel : Value → Prop where
  | plain {v : Value} (isPlain : v.IsPlain) : InModel v
  | object (entries : List (String × Value)) (each : ∀ e ∈ entries, e.2.IsPlain) :
    InModel (.object (entries.map fun e => (.text e.1, e.2)))

namespace Value

/-- Items for which `isScalar` holds throughout are a list of scalars. -/
private theorem exists_map_scalar {items : List Value} (h : ∀ v ∈ items, v.isScalar = true) :
    ∃ scalars : List Scalar, items = scalars.map Value.scalar := by
  induction items with
  | nil => exact ⟨[], rfl⟩
  | cons v rest ih =>
    obtain ⟨hv, hrest⟩ := List.forall_mem_cons.1 h
    obtain ⟨scalars, rfl⟩ := ih hrest
    cases v with
    | scalar s => exact ⟨s :: scalars, rfl⟩
    | list items => cases hv
    | object entries => cases hv

/-- `isFlat` decides which values are plain. -/
private theorem isPlain_iff {v : Value} : v.IsPlain ↔ v.isFlat = true := by
  constructor
  · intro h
    cases h with
    | scalar s => rfl
    | list scalars => simp [isFlat, isScalar]
  · intro h
    cases v with
    | scalar s => exact .scalar s
    | list items =>
      rw [isFlat, List.all_eq_true] at h
      obtain ⟨scalars, rfl⟩ := exists_map_scalar h
      exact .list scalars
    | object entries => cases h

/-- `isStorable` decides which values a field may hold. -/
theorem inModel_iff {v : Value} : v.InModel ↔ v.isStorable = true := by
  constructor
  · intro h
    cases h with
    | plain h =>
      cases h with
      | scalar s => rfl
      | list scalars => exact isPlain_iff.1 (.list scalars)
    | object entries each =>
      simp only [isStorable, List.all_map, List.all_eq_true]
      intro e he
      simp [Key.isText, isPlain_iff.1 (each e he)]
  · intro h
    cases v with
    | scalar s => exact .plain (.scalar s)
    | list items => exact .plain (isPlain_iff.2 h)
    | object entries =>
      -- the test asks that each key be a text, so that the entries have names
      simp only [isStorable, List.all_eq_true, Bool.and_eq_true] at h
      obtain ⟨named, rfl⟩ := exists_map_text fun e he => (h e he).1
      refine .object named fun e he => isPlain_iff.2 ?_
      exact (h _ (List.mem_map_of_mem he)).2

end Value

/-! ## Streams of ids -/

namespace IdSource

variable {docs : Collection} {src : IdSource} {stream : Nat → String} {n : Nat}

/-- The ids to come begin like a stream, as far as a place in it. -/
def Delivers (src : IdSource) (stream : Nat → String) (n : Nat) : Prop :=
  ∀ i ≤ n, src.upcoming i = stream i

/-- `Delivers` can be had for every stream, as far as is asked: from a source with a queue. -/
private theorem exists_delivers (stream : Nat → String) (n : Nat) :
    ∃ src : IdSource, src.Delivers stream n := by
  refine ⟨.counted "" 0 ((List.range (n + 1)).map stream), fun i hi => ?_⟩
  have hlt : i < n + 1 := by omega
  simp [upcoming, counted, hlt]

/-- The place of the first id of a stream that is not in use. -/
structure FirstUnused (docs : Collection) (stream : Nat → String) (n : Nat) : Prop where
  unused : stream n ∉ docs
  before : ∀ i < n, stream i ∈ docs

/-- `FirstUnused` has a place if the stream has an id at all that is not in use. -/
theorem exists_firstUnused (h : ∃ i, stream i ∉ docs) : ∃ n, FirstUnused docs stream n :=
  ⟨Nat.find h, Nat.find_spec h, fun _ hi => Decidable.not_not.1 (Nat.find_min h hi)⟩

/-- `FirstUnused` has no more than one place. -/
theorem FirstUnused.unique {k : Nat} (hk : FirstUnused docs stream k)
    (hn : FirstUnused docs stream n) : k = n := by
  -- the id at the lesser place would be in use
  rcases Nat.lt_trichotomy k n with hlt | heq | hgt
  · exact absurd (hn.before k hlt) hk.unused
  · exact heq
  · exact absurd (hk.before n hgt) hn.unused

/-- `unused` finds the first id of the stream that is not in use. -/
private theorem unused_of_delivers (h : FirstUnused docs stream n) (hsrc : src.Delivers stream n) :
    (src.unused docs).1 = stream n := by
  obtain ⟨k, hid, hbefore⟩ := src.exists_unused docs
  -- it finds the first of the source, and up to there the source is the stream
  have hfound : FirstUnused docs src.upcoming k := by
    refine ⟨?_, hbefore⟩
    rw [← hid]
    exact src.unused_not_mem docs
  have hdelivered : FirstUnused docs src.upcoming n := by
    constructor
    · rw [hsrc n (Nat.le_refl n)]
      exact h.unused
    · intro i hi
      rw [hsrc i (Nat.le_of_lt hi)]
      exact h.before i hi
  rw [hid, hfound.unique hdelivered]
  exact hsrc n (Nat.le_refl n)

end IdSource

/-! ## What is refused -/

namespace Collection

variable {docs : Collection} {src : IdSource} {v : Value} {drawn : String}

/-- The values that a collection does not take. -/
inductive Unfit (docs : Collection) : Value → Prop where
  | scalar (s : Scalar) : Unfit docs (.scalar s)
  | list (items : List Value) : Unfit docs (.list items)
  /-- Some key is no text, is empty or has the operator sign in front. -/
  | key {entries : List (Key × Value)} {e : Key × Value} (mem : e ∈ entries)
    (noName : ∀ name : String, e.1 = .text name → name = "" ∨ name.toList.head? = some '$') :
    Unfit docs (.object entries)
  /-- Some field other than that of the id holds what no field may hold. -/
  | value {entries : List (Key × Value)} {e : Key × Value} (mem : e ∈ entries)
    (other : e.1 ≠ .text idField) (outside : ¬ e.2.InModel) : Unfit docs (.object entries)
  /-- The document comes with an id that is in use. -/
  | id {entries : List (Key × Value)} {id : String}
    (given : (Table.ofList entries).get? (.text idField) = some (.text id)) (nonempty : id ≠ "")
    (used : id ∈ docs) : Unfit docs (.object entries)

/-- `insertValue` takes a document unless it comes with an id that is in use. -/
private theorem exists_error_of_document_iff {d : Document} (h : Document.ofValue? v = .ok d) :
    (∃ e, docs.insertValue src v = .error e) ↔ ∃ id, d.givenId? = some id ∧ id ∈ docs := by
  rw [insertValue_of_document h]
  cases d.givenId? with
  | none => simp
  | some id =>
    by_cases hused : id ∈ docs
    · simp [Table.contains_eq_decide_mem, hused]
    · simp [Table.contains_eq_decide_mem, hused]

/-- `ofValue?` refuses only what is unfit. -/
private theorem unfit_of_ofValue?_eq_error {e : DocumentError}
    (h : Document.ofValue? v = .error e) :
    Unfit docs v := by
  cases v with
  | scalar s => exact .scalar s
  | list items => exact .list items
  | object entries =>
    by_contra hfit
    -- no entry is at fault, so it would be a document
    have hall : ∀ f ∈ entries, Document.entryError? f = none := by
      intro f hf
      rw [Document.entryError?_eq_none_iff, Key.isFieldName_iff]
      constructor
      · by_contra hname
        refine hfit (.key hf fun name hkey => ?_)
        by_contra hgood
        rw [not_or] at hgood
        exact hname ⟨name, hkey, hgood⟩
      · by_contra hvalue
        rw [not_or] at hvalue
        exact hfit (.value hf hvalue.1 fun hmodel => hvalue.2 (Value.inModel_iff.1 hmodel))
    rw [Document.ofValue?_eq_ok_iff.2 ⟨entries, rfl, hall, rfl⟩] at h
    cases h

/-- `insertValue` refuses a value just where it is unfit. -/
theorem exists_error_iff : (∃ e, docs.insertValue src v = .error e) ↔ Unfit docs v := by
  cases hd : Document.ofValue? v with
  | error e =>
    have herror : docs.insertValue src v = .error (.invalid e) := by rw [insertValue, hd]
    exact ⟨fun _ => unfit_of_ofValue?_eq_error hd, fun _ => ⟨_, herror⟩⟩
  | ok d =>
    obtain ⟨entries, rfl, hall, rfl⟩ := Document.ofValue?_eq_ok_iff.1 hd
    rw [exists_error_of_document_iff hd]
    constructor
    · rintro ⟨id, hgiven, hused⟩
      obtain ⟨hget, hnonempty⟩ := Document.givenId?_eq_some_iff.1 hgiven
      exact .id hget hnonempty hused
    -- each of the faults goes against what holds of a document, but for that of the id
    · intro h
      cases h with
      | @key _ e mem noName =>
        obtain ⟨name, hkey, hnonempty, hplain⟩ :=
          Key.isFieldName_iff.1 (Document.entryError?_eq_none_iff.1 (hall e mem)).1
        exact absurd (noName name hkey) (not_or.2 ⟨hnonempty, hplain⟩)
      | @value _ e mem other outside =>
        have hvalue := (Document.entryError?_eq_none_iff.1 (hall e mem)).2
        exact absurd (Value.inModel_iff.2 (hvalue.resolve_left other)) outside
      | @id _ id given nonempty used =>
        exact ⟨id, Document.givenId?_eq_some_iff.2 ⟨given, nonempty⟩, used⟩

/-! ## What is taken -/

/-- What an insertion leaves of a document that has been taken, where an id has been drawn for it in
case it comes with none. The document given is the table of an object's entries; with distinct keys
these are its entries as they stand (`Table.entries_ofList`). -/
structure Taken (docs : Collection) (given stored : Document) (drawn : String) (r : Inserted) :
    Prop where
  /-- The id has not been in use. -/
  unused : r.id ∉ docs
  /-- An id that the document comes with is kept. -/
  ownId : ∀ id, given.get? (.text idField) = some (.text id) → id ≠ "" → r.id = id
  /-- Any other is replaced with the one that has been drawn. -/
  drawnId : (∀ id, given.get? (.text idField) = some (.text id) → id = "") → r.id = drawn
  /-- The document goes last, and all entries before it are as they were. -/
  last : r.docs.entries = docs.entries ++ [(r.id, stored)]
  /-- It holds its id, -/
  id : stored.get? (.text idField) = some (.text r.id)
  /-- and every other field is as it was given. -/
  fields : ∀ key, key ≠ .text idField → stored.get? key = given.get? key
  /-- The fields are in the order in which they were given; an id field that was not goes last. -/
  order : stored.keys =
    if .text idField ∈ given then given.keys else given.keys ++ [.text idField]

/-- What `insertValue` has inserted has been taken as it was given. -/
private theorem taken_of_insertValue_eq_ok {r : Inserted} (h : docs.insertValue src v = .ok r) :
    ∃ entries, v = .object entries ∧
      ∃ stored, Taken docs (.ofList entries) stored (src.unused docs).1 r := by
  obtain ⟨given, hd, hunused, hdocs, hid⟩ := of_insertValue_eq_ok h
  obtain ⟨entries, rfl, -, rfl⟩ := Document.ofValue?_eq_ok_iff.1 hd
  -- stored is the given document with the id that it got, at the end of the collection
  refine ⟨entries, rfl, (Table.ofList entries).insert (.text idField) (.text r.id), ?_⟩
  exact {
    unused := hunused
    ownId := fun id hget hnonempty => by
      rw [hid, Document.givenId?_eq_some_iff.2 ⟨hget, hnonempty⟩, Option.getD_some]
    drawnId := fun hempty => by
      have hnone : Document.givenId? (.ofList entries) = none := by
        rw [Option.eq_none_iff_forall_ne_some]
        intro id hgiven
        obtain ⟨hget, hnonempty⟩ := Document.givenId?_eq_some_iff.1 hgiven
        exact hnonempty (hempty id hget)
      rw [hid, hnone, Option.getD_none]
    last := by rw [hdocs, Table.entries_insert_of_not_mem hunused]
    id := Table.get?_insert_self _ _ _
    fields := fun key hkey => by rw [Table.get?_insert, if_neg hkey]
    order := Table.keys_insert .. }

/-- What an insertion comes to, where an id has been drawn in case it is needed. -/
structure Settled (docs : Collection) (src : IdSource) (v : Value) (drawn : String) : Prop where
  /-- The values that are refused are the unfit ones. -/
  refused : (∃ e, docs.insertValue src v = .error e) ↔ Unfit docs v
  /-- A store says so and is as it was. -/
  untouched : Unfit docs v → ∀ s : StoreState, s.store.docs = docs → s.ids = src →
    ∀ skipSave, ∃ e : InsertError, s.insert v skipSave = ⟨.ok none, s, [e.record]⟩
  /-- All others are taken. -/
  taken : ¬ Unfit docs v → ∃ entries stored r, v = .object entries ∧
    docs.insertValue src v = .ok r ∧ Taken docs (.ofList entries) stored drawn r
  /-- A store then holds what the insertion has left. -/
  held : ∀ r, docs.insertValue src v = .ok r → ∀ s : StoreState, s.store.docs = docs →
    s.ids = src → ∀ skipSave, (s.insert v skipSave).state.store.docs = r.docs

/-- `Settled` holds of the id that `unused` draws. -/
private theorem settled_unused (docs : Collection) (src : IdSource) (v : Value) :
    Settled docs src v (src.unused docs).1 where
  refused := exists_error_iff
  untouched hunfit s hdocs hids skipSave := by
    subst hdocs hids
    have herror : ∃ e, s.store.docs.insertValue s.ids v = .error e := exists_error_iff.2 hunfit
    obtain ⟨e, he⟩ := herror
    exact ⟨e, by simp only [StoreState.insert, he, Outcome.after, Outcome.answer, List.append_nil]⟩
  taken hfit := by
    -- what is fit is not refused, so it has been taken
    cases hr : docs.insertValue src v with
    | error e => exact absurd (exists_error_iff.1 ⟨e, hr⟩) hfit
    | ok r =>
      obtain ⟨entries, rfl, stored, htaken⟩ := taken_of_insertValue_eq_ok hr
      exact ⟨entries, stored, r, rfl, rfl, htaken⟩
  held r hr s hdocs hids skipSave := by
    subst hdocs hids
    simp only [StoreState.insert, hr]
    rw [StoreState.saveThen_store]
    rfl

/-- From any stream of ids of which one is not in use, the first of these is drawn; a source that
delivers the stream as far as that settles an insertion with it, as `Settled` says. -/
theorem settled_of_exists_unused {stream : Nat → String} (docs : Collection) (v : Value)
    (h : ∃ i, stream i ∉ docs) :
    ∃ n, IdSource.FirstUnused docs stream n ∧ (∃ src : IdSource, src.Delivers stream n) ∧
      ∀ src : IdSource, src.Delivers stream n → Settled docs src v (stream n) := by
  obtain ⟨n, hfirst⟩ := IdSource.exists_firstUnused h
  refine ⟨n, hfirst, IdSource.exists_delivers stream n, fun src hsrc => ?_⟩
  rw [← IdSource.unused_of_delivers hfirst hsrc]
  exact settled_unused docs src v

/-- Three draws are in vain, two of them of the same id. The fourth is taken, and `insertValue` puts
it in the place of the number in the middle of the document. -/
theorem settled_after_collisions :
    let docs : Collection := .ofList [("a", .empty), ("b", .empty)]
    let stream (i : Nat) : String := if i < 2 then "b" else if i = 2 then "a" else "c"
    let v : Value :=
      .object [(.text "x", .int 1), (.text idField, .int 7), (.text "y", .list [.text "z"])]
    (∃ i, stream i ∉ docs) ∧ ∃ src : IdSource, Settled docs src v "c" ∧
      (docs.insertValue src v).toOption.map (fun r => r.docs.entries.map fun e =>
        (e.1, e.2.keys, e.2.id?)) =
      some [("a", [], none), ("b", [], none),
        ("c", [.text "x", .text idField, .text "y"], some "c")] := by
  intro docs stream v
  have hunused : ∃ i, stream i ∉ docs := ⟨3, by decide⟩
  obtain ⟨n, hfirst, -, hsettled⟩ := settled_of_exists_unused docs v hunused
  -- three draws are in vain, two of them of the same id
  obtain rfl : n = 3 := hfirst.unique ⟨by decide, by decide⟩
  have hdelivers : (IdSource.counted "id" 4 ["b", "b", "a", "c"]).Delivers stream 3 := by
    intro i hi
    match i, hi with
    | 0, _ | 1, _ | 2, _ | 3, _ => rfl
  exact ⟨hunused, _, hsettled _ hdelivers, by decide⟩

end Collection

end DocStore
