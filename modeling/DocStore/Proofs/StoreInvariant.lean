import DocStore.Proofs.GeneratedIds
import DocStore.Proofs.UpdateSteps
import DocStore.Store

/-!
# What every collection keeps

A store changes its collection by inserting, updating and removing documents. Whatever it is asked
to do, every document stays valid and stays under its own id.

The proofs carry along an arbitrary property `Q` of field values, as long as no operation can lose
it (`Value.Hereditary`): the invariant itself is the case where `Q` asks for nothing.

## Key results

- `Document.Keeps.run`: an update leaves a valid document valid
- `Collection.keeps_of_load`: what is loaded is valid
- `StoreCall.keeps_outcome`: no call of a store loses the invariant
- `StoreState.Reachable.isSound`: the invariant in every reachable state
-/

namespace DocStore

/-- A property of field values that the operations of a store cannot lose: scalars have it, the
values in an object that has it have it, and a list keeps it when a scalar is appended. -/
structure Value.Hereditary (Q : Value → Prop) : Prop where
  scalar : ∀ s, Q (.scalar s)
  entry : ∀ {entries}, Q (.object entries) → ∀ e ∈ entries, Q e.2
  singleton : ∀ s, Q (.list [.scalar s])
  append : ∀ {items} s, Q (.list items) → Q (.list (items ++ [.scalar s]))

/-- `Hereditary` is what holds of every value. -/
theorem Value.hereditary_true : Value.Hereditary fun _ => True :=
  ⟨fun _ => trivial, fun _ _ _ => trivial, fun _ => trivial, fun _ _ => trivial⟩

/-! ## Documents -/

namespace Document

/-- Every entry of a document passes the check of documents, and its value has a property. -/
def Keeps (Q : Value → Prop) (d : Document) : Prop :=
  ∀ f ∈ d.entries, entryError? f = none ∧ Q f.2

variable {Q : Value → Prop} {d d' : Document} {key : Key} {v : Value}

/-- `ofValue?` takes a document that keeps to the rules as it is. -/
theorem Keeps.ofValue? (h : d.Keeps Q) : Document.ofValue? d.toValue = .ok d :=
  ofValue?_eq_ok_iff.2 ⟨d.entries, rfl, fun f hf => (h f hf).1, (Table.ofList_entries d).symm⟩

/-- `ofValue?` makes of a value with the property a document that keeps it. -/
private theorem keeps_of_ofValue? (hQ : Value.Hereditary Q) (hv : Q v)
    (h : Document.ofValue? v = .ok d) : d.Keeps Q := by
  obtain ⟨entries, rfl, hall, rfl⟩ := ofValue?_eq_ok_iff.1 h
  intro f hf
  have hmem := Table.mem_entries_ofList hf
  exact ⟨hall f hmem, hQ.entry hv f hmem⟩

/-- `Keeps` has storable values in all fields but that of the id. -/
theorem Keeps.isStorable (h : d.Keeps Q) (hget : d.get? key = some v)
    (hid : key ≠ .text idField) : v.isStorable = true ∧ Q v := by
  obtain ⟨hcheck, hv⟩ := h (key, v) ((Table.get?_eq_some_iff_mem d).1 hget)
  exact ⟨(entryError?_eq_none_iff.1 hcheck).2.resolve_left hid, hv⟩

/-- `insert` of a field that passes its check keeps a document to the rules. -/
theorem Keeps.insert (h : d.Keeps Q) (hcheck : entryError? (key, v) = none) (hv : Q v) :
    Keeps Q (d.insert key v) := by
  intro f hf
  rcases Table.mem_entries_insert hf with rfl | hf
  · exact ⟨hcheck, hv⟩
  · exact h f hf

/-- `erase` of a field keeps a document to the rules. -/
theorem Keeps.erase (h : d.Keeps Q) : Keeps Q (d.erase key) :=
  fun f hf => h f (Table.mem_entries_erase.1 hf).1

/-- `isStorable` of a list is kept by one more scalar. -/
private theorem isStorable_append {items : List Value} (s : Scalar)
    (h : (Value.list items).isStorable = true) :
    (Value.list (items ++ [.scalar s])).isStorable = true := by
  simp only [Value.isStorable, Value.isFlat, List.all_append, Bool.and_eq_true] at h ⊢
  exact ⟨h, rfl⟩

/-- `apply` of a step keeps a document to the rules. -/
theorem Keeps.apply (hQ : Value.Hereditary Q) (h : d.Keeps Q) {e : Edit} (hv : Q e.argument)
    (happly : e.apply d = .changed d') : d'.Keeps Q := by
  obtain ⟨hid, hname, hchanges⟩ := Edit.changes_of_apply happly
  -- what is written is a scalar, a list made longer, a value that moves, or one that was checked
  cases hchanges with
  | incrementMissing =>
    exact h.insert (entryError?_eq_none_iff.2 ⟨hname, .inr rfl⟩) (hQ.scalar _)
  | increment =>
    exact h.insert (entryError?_eq_none_iff.2 ⟨hname, .inr rfl⟩) (hQ.scalar _)
  | pushMissing =>
    exact h.insert (entryError?_eq_none_iff.2 ⟨hname, .inr rfl⟩) (hQ.singleton _)
  | @push field s items present =>
    obtain ⟨hitems, hq⟩ := h.isStorable present hid
    have hstorable := isStorable_append s hitems
    exact h.insert (entryError?_eq_none_iff.2 ⟨hname, .inr hstorable⟩) (hQ.append s hq)
  | @rename field name w notId isName free present =>
    obtain ⟨hstorable, hq⟩ := h.isStorable present hid
    have hcheck : entryError? (.text name, w) = none :=
      entryError?_eq_none_iff.2 ⟨isName, .inr hstorable⟩
    exact (h.insert hcheck hq).erase
  | assign storable => exact h.insert (entryError?_eq_none_iff.2 ⟨hname, .inr storable⟩) hv
  | unset => exact h.erase

/-- `run` of an update keeps a document to the rules. -/
theorem Keeps.run (hQ : Value.Hereditary Q) (h : d.Keeps Q) {update : Value} (hv : Q update) :
    (Update.run update d).document.Keeps Q := by
  refine Update.run_invariant h fun e d₁ d₂ he h₁ happly => h₁.apply hQ ?_ happly
  -- the argument of a step stands two objects deep in the update
  obtain ⟨entries, k, operand, rfl, hmem, -, harg⟩ := Update.exists_operand_of_mem_steps he
  exact hQ.entry (hQ.entry hv _ hmem) _ harg

end Document

/-- `run` of an update leaves the id as it is. -/
private theorem Update.run_id? (update : Value) (d : Document) :
    (run update d).document.id? = d.id? := by
  have h : (run update d).document.get? idField = d.get? idField :=
    run_invariant (P := fun d' => d'.get? idField = d.get? idField) rfl
      fun e d₁ d₂ _ h₁ happly => (Edit.get?_idField_of_apply happly).trans h₁
  rw [Document.id?, h, Document.id?]

/-! ## Collections -/

namespace Collection

/-- Every document of a collection stands under its own id and keeps to the rules, and its values
have a property. -/
def Keeps (Q : Value → Prop) (docs : Collection) : Prop :=
  ∀ e ∈ docs.entries, e.2.id? = some e.1 ∧ e.2.Keeps Q

variable {Q : Value → Prop} {docs : Collection} {id : String} {d : Document}

/-- `Keeps` holds of the empty collection. -/
theorem keeps_empty : Keeps Q .empty :=
  fun _ he => absurd he List.not_mem_nil

/-- `insert` of a document under its own id keeps a collection to the rules. -/
theorem Keeps.insert (h : docs.Keeps Q) (hid : d.id? = some id) (hd : d.Keeps Q) :
    Keeps Q (docs.insert id d) := by
  intro e he
  rcases Table.mem_entries_insert he with rfl | he
  · exact ⟨hid, hd⟩
  · exact h e he

/-- `erase` of a document keeps a collection to the rules. -/
theorem Keeps.erase (h : docs.Keeps Q) : Keeps Q (docs.erase id) :=
  fun e he => h e (Table.mem_entries_erase.1 he).1

/-- `insertValue` adds a document under its own id, be it given or drawn. -/
theorem Keeps.insertValue (hQ : Value.Hereditary Q) (h : docs.Keeps Q) {ids : IdSource}
    {v : Value} (hv : Q v) {r : Inserted} (hr : docs.insertValue ids v = .ok r) :
    Keeps Q r.docs := by
  obtain ⟨d, hvalue, -, hdocs, -⟩ := of_insertValue_eq_ok hr
  have hd := Document.keeps_of_ofValue? hQ hv hvalue
  rw [hdocs]
  refine h.insert (Document.id?_eq_some_iff.2 ?_) (hd.insert ?_ (hQ.scalar _))
  · exact Table.get?_insert_self _ _ _
  · exact Document.entryError?_eq_none_iff.2 ⟨rfl, .inl rfl⟩

end Collection

/-! ## Loading -/

namespace Snapshot

/-- `readDocuments` reads documents that stand under their own ids, and each is that of a value in
the file. -/
private theorem mem_of_readDocuments {entries : List (Key × Value)} {l : List (String × Document)}
    (h : readDocuments entries = .ok l) :
    ∀ e ∈ l, e.2.id? = some e.1 ∧
      ∃ v, (.text e.1, v) ∈ entries ∧ Document.ofValue? v = .ok e.2 := by
  -- the reading stops at the first document that is refused or does not carry its id
  induction entries generalizing l with
  | nil =>
    cases h
    simp
  | cons a rest ih =>
    obtain ⟨key, v⟩ := a
    simp only [readDocuments] at h
    split at h
    · cases h
    rename_i d hd
    split at h
    · rename_i name id hid
      split at h
      · rename_i heq
        subst heq
        cases hrest : readDocuments rest with
        | error e => rw [hrest] at h; cases h
        | ok more =>
          rw [hrest] at h
          cases h
          intro e he
          rcases List.mem_cons.1 he with rfl | he
          · exact ⟨hid, v, List.mem_cons_self, hd⟩
          · obtain ⟨hid', w, hw, hdw⟩ := ih hrest e he
            exact ⟨hid', w, List.mem_cons_of_mem _ hw, hdw⟩
      · cases h
    · cases h

/-- `ofValue` makes of a value with a property a collection that keeps it. -/
theorem keeps_of_ofValue {Q : Value → Prop} (hQ : Value.Hereditary Q) {p : Path} {v : Value}
    (hv : Q v) {docs : Collection} (h : ofValue p v = .ok docs) : docs.Keeps Q := by
  unfold ofValue at h
  split at h
  · rename_i entries
    split at h
    · rename_i documents hdocuments
      -- the value with the documents has the property, also where there is none
      have hq : ∀ e ∈ documents, Q e.2 := by
        cases hlookup : entries.lookup (.text "documents") with
        | none =>
          rw [hlookup] at hdocuments
          cases hdocuments
          simp
        | some w =>
          rw [hlookup] at hdocuments
          cases hdocuments
          obtain ⟨l₁, l₂, rfl, -⟩ := List.lookup_eq_some_iff.1 hlookup
          exact hQ.entry (hQ.entry hv (.text "documents", .object documents) (by simp))
      cases hread : readDocuments documents with
      | error e => rw [hread] at h; cases h
      | ok l =>
        rw [hread] at h
        cases h
        intro e he
        obtain ⟨hid, w, hw, hd⟩ := mem_of_readDocuments hread e (Table.mem_entries_ofList he)
        exact ⟨hid, Document.keeps_of_ofValue? hQ (hq _ hw) hd⟩
    · cases h
  · cases h

/-- `load` keeps a collection to the rules. -/
theorem keeps_of_load {files : FileSystem} {p : Path} {docs : Collection}
    (h : load files p = .ok docs) : docs.Keeps fun _ => True := by
  unfold load at h
  split at h
  · cases h
  split at h
  · unfold ofContent at h
    split at h
    · exact keeps_of_ofValue Value.hereditary_true trivial h
    · cases h
  · cases h

end Snapshot

/-! ## Calls -/

/-- What a call that may change a store answers. -/
inductive StoreAnswer where
  /-- The id of the document that was inserted, if it was. -/
  | inserted (id : Option String)
  /-- How many documents were changed or removed. -/
  | counted (n : Nat)
  /-- Whether the disk took the store. -/
  | saved (done : Bool)

/-- A call that may change a store, with its arguments. -/
inductive StoreCall where
  | insert (v : Value) (skipSave : Bool)
  | update (query change : Value) (multi skipSave : Bool)
  | remove (query : Value) (multi skipSave : Bool)
  | save

namespace StoreCall

/-- Carries out a call. -/
def outcome : StoreCall → StoreState → Outcome StoreState StoreAnswer
  | .insert v skipSave, s => (s.insert v skipSave).map .inserted
  | .update query change multi skipSave, s => (s.update query change multi skipSave).map .counted
  | .remove query multi skipSave, s => (s.remove query multi skipSave).map .counted
  | .save, s => s.save.map .saved

/-- The values that a call brings into a store have a property. -/
def Brings (Q : Value → Prop) : StoreCall → Prop
  | .insert v _ => Q v
  | .update _ change _ _ => Q change
  | _ => True

end StoreCall

namespace StoreState

variable {Q : Value → Prop} {s : StoreState}

/-- `save` leaves the store as it is, whatever comes of it. -/
theorem save_store (s : StoreState) : s.save.state.store = s.store := by
  simp only [save]
  split
  · rfl
  · split <;> rfl

/-- `saveThen` leaves the store as it is, whatever comes of it. -/
theorem saveThen_store {α : Type} (s : StoreState) (skipSave : Bool) (a : α) :
    (s.saveThen skipSave a).state.store = s.store := by
  unfold saveThen
  split
  · rfl
  · exact save_store s

/-- `select` leads where the selected ids lead, or nothing is done. -/
theorem select_state {α : Type} {P : StoreState → Prop} {query : Value}
    {f : List String → Outcome StoreState α} (hs : P s)
    (hf : ∀ found, Query.selectValue s.store.docs query = .ok found → P (f found).state) :
    P (s.select query f).state := by
  unfold select
  split
  · exact hs
  · rename_i found hfound
    exact hf found hfound

/-- `find` leaves the state as it is. -/
theorem find_state (s : StoreState) (query : Value) (projection : Option Value) :
    (s.find query projection).state = s := by
  refine select_state (P := fun s' => s' = s) rfl fun _ _ => ?_
  dsimp only
  split <;> rfl

/-- So does `findFirst`. -/
theorem findFirst_state (s : StoreState) (query : Value) (projection : Option Value) :
    (s.findFirst query projection).state = s := by
  unfold findFirst
  split
  · rfl
  · simp only [Outcome.after]
    split
    · rfl
    · split <;> rfl

/-- `StoreState.insert` keeps a collection to the rules. -/
private theorem keeps_insert (hQ : Value.Hereditary Q) (h : s.store.docs.Keeps Q) {v : Value}
    (hv : Q v) (skipSave : Bool) : (s.insert v skipSave).state.store.docs.Keeps Q := by
  unfold insert
  split
  · exact h
  · rename_i r hr
    rw [saveThen_store]
    exact h.insertValue hQ hv hr

/-- `advance` updates one document and keeps it under its id. -/
private theorem Sweep.keeps_advance (hQ : Value.Hereditary Q) {update : Value} (hv : Q update)
    {w : Sweep} (h : w.docs.Keeps Q) (id : String) : (w.advance update id).docs.Keeps Q := by
  unfold Sweep.advance
  split
  · exact h
  split
  · exact h
  · rename_i d hget
    obtain ⟨hid, hd⟩ := h (id, d) ((Table.get?_eq_some_iff_mem w.docs).1 hget)
    exact h.insert ((Update.run_id? update d).trans hid) (hd.run hQ hv)

/-- `StoreState.update` keeps a collection to the rules. -/
private theorem keeps_update (hQ : Value.Hereditary Q) (h : s.store.docs.Keeps Q) (query : Value)
    {update : Value} (hv : Q update) (multi skipSave : Bool) :
    (s.update query update multi skipSave).state.store.docs.Keeps Q := by
  unfold StoreState.update updateBy
  refine select_state (P := fun s => s.store.docs.Keeps Q) h fun found _ => ?_
  split
  · exact h
  split
  · exact h
  have hsweep : (found.foldl (Sweep.advance update) ⟨s.store.docs, 0, [], none⟩).docs.Keeps Q :=
    List.foldlRecOn (motive := fun w : Sweep => w.docs.Keeps Q) _ _ h
      fun w hw id _ => w.keeps_advance hQ hv hw id
  -- an update that ends early leaves behind what it has done
  simp only [Outcome.after]
  split
  · exact hsweep
  · rw [saveThen_store]
    exact hsweep

/-- `StoreState.remove` keeps a collection to the rules. -/
private theorem keeps_remove (h : s.store.docs.Keeps Q) (query : Value) (multi skipSave : Bool) :
    (s.remove query multi skipSave).state.store.docs.Keeps Q := by
  unfold remove
  refine select_state (P := fun s => s.store.docs.Keeps Q) h fun found _ => ?_
  split
  · exact h
  split
  · exact h
  rw [saveThen_store]
  exact List.foldlRecOn (motive := fun docs : Collection => docs.Keeps Q) _ _ h
    fun docs hdocs id _ => hdocs.erase

end StoreState

/-- `outcome` of a call loses nothing that a collection keeps, whether it succeeds or fails. -/
theorem StoreCall.keeps_outcome {Q : Value → Prop} (hQ : Value.Hereditary Q) {s : StoreState}
    (h : s.store.docs.Keeps Q) {c : StoreCall} (hc : c.Brings Q) :
    (c.outcome s).state.store.docs.Keeps Q := by
  cases c with
  | insert v skipSave => exact StoreState.keeps_insert hQ h hc skipSave
  | update query change multi skipSave => exact StoreState.keeps_update hQ h query hc multi skipSave
  | remove query multi skipSave => exact StoreState.keeps_remove h query multi skipSave
  | save =>
    have hstore : (StoreCall.save.outcome s).state.store = s.store := StoreState.save_store s
    rw [hstore]
    exact h

/-! ## Runs -/

/-- The invariant of collections. -/
structure Collection.IsSound (docs : Collection) : Prop where
  /-- Every document carries the id that it stands under. -/
  id : ∀ e ∈ docs.entries, e.2.get? idField = some (.text e.1)
  /-- Every document is accepted as one, and as itself. -/
  valid : ∀ e ∈ docs.entries, Document.ofValue? e.2.toValue = .ok e.2
  /-- Every field has a name that is not empty and not that of an operator, and holds a scalar, a
  list of scalars, or an object of these under names. -/
  fields : ∀ e ∈ docs.entries, ∀ f ∈ e.2.entries, ∃ name : String, f.1 = .text name ∧ name ≠ "" ∧
    name.toList.head? ≠ some '$' ∧ f.2.isStorable = true
  /-- No two documents carry one id. -/
  distinct : (docs.values.map Document.id?).Nodup

/-- `IsSound` is a collection that keeps to the rules. -/
theorem Collection.isSound_of_keeps {Q : Value → Prop} {docs : Collection} (h : docs.Keeps Q) :
    docs.IsSound where
  id e he := Document.id?_eq_some_iff.1 (h e he).1
  valid e he := (h e he).2.ofValue?
  fields e he f hf := by
    obtain ⟨hname, hvalue⟩ := Document.entryError?_eq_none_iff.1 ((h e he).2 f hf).1
    obtain ⟨name, hkey, hnonempty, hplain⟩ := Key.isFieldName_iff.1 hname
    refine ⟨name, hkey, hnonempty, hplain, hvalue.elim (fun hid => ?_) id⟩
    -- the id field holds a text
    have hget := (Table.get?_eq_some_iff_mem e.2).2 hf
    rw [hid, Document.id?_eq_some_iff.1 (h e he).1] at hget
    rw [← Option.some.inj hget]
    rfl
  distinct := by
    have hids : docs.values.map Document.id? = docs.keys.map some := by
      rw [Table.values, Table.keys, List.map_map, List.map_map]
      exact List.map_congr_left fun e he => (h e he).1
    rw [hids]
    exact List.Pairwise.map some (fun a b hne heq => hne (Option.some.inj heq)) docs.nodup_keys

namespace StoreState

/-- The states that a store can come to: it is new or loaded, then calls follow one another, with
whatever arguments and however they end. The disk and the id source may change at any time. -/
inductive Reachable : StoreState → Prop where
  | created (options : Options) (disk : Disk) (ids : IdSource) :
    Reachable ⟨⟨options, .empty⟩, disk, ids⟩
  | loaded {files : FileSystem} {p : Path} {docs : Collection} (options : Options) (disk : Disk)
    (ids : IdSource) (load : Snapshot.load files p = .ok docs) :
    Reachable ⟨⟨options, docs⟩, disk, ids⟩
  | called {s : StoreState} (before : Reachable s) (c : StoreCall) : Reachable (c.outcome s).state
  | elsewhere {s : StoreState} (before : Reachable s) (disk : Disk) (ids : IdSource) :
    Reachable { s with disk := disk, ids := ids }

/-- `Reachable` states have valid documents only, each under its own id, and no id occurs twice. -/
theorem Reachable.isSound {s : StoreState} (h : Reachable s) : s.store.docs.IsSound := by
  -- the induction is on the run; soundness follows from what every step keeps
  suffices s.store.docs.Keeps fun _ => True from Collection.isSound_of_keeps this
  induction h with
  | created => exact Collection.keeps_empty
  | loaded options disk ids hload => exact Snapshot.keeps_of_load hload
  | called before c ih =>
    have hc : c.Brings fun _ => True := by cases c <;> trivial
    exact c.keeps_outcome Value.hereditary_true ih hc
  | elsewhere before disk ids ih => exact ih

/-- An insertion whose save fails, then an update that an overflow ends between two fields: what was
done before the overflow stands, and the store `IsSound`. -/
theorem Reachable.isSound_after_overflow :
    ∃ s : StoreState, Reachable s ∧
      ((s.store.docs.get? "id0000").bind fun d => (d.get? (.text "n")).bind Value.number?) =
        some (.int 2) ∧
      s.store.docs.IsSound := by
  have hcreated : Reachable ⟨⟨⟨⟨"s", by decide, by decide⟩, Path.ofString "d", .bool false,
      .bool true, .bool false⟩, .empty⟩, ⟨.empty, [some .replace]⟩, .counted "id" 4 []⟩ :=
    .created _ _ _
  have hinserted := hcreated.called (.insert (.object [(.text "n", .int 1),
    (.text "x", .scalar (.number (.float (.finite false ⟨1, by decide⟩))))]) false)
  have hended := hinserted.called (.update (.object []) (.object [(.text "$inc", .object
    [(.text "n", .int 1), (.text "x", .int (10 ^ 200 * 10 ^ 200))])]) false false)
  exact ⟨_, hended, by decide +kernel, hended.isSound⟩

end StoreState

end DocStore
