import DocStore.Proofs.DistinctKeys
import DocStore.Proofs.FileReplacement

/-!
# Saving and loading

A collection that is saved is loaded again as it was: the same documents in the same order, with
the same fields in the same order and the same values.

## Key results

- `Snapshot.ofContent_text`: the text of a store file holds the collection it was written from
- `Snapshot.save_eq_ok`: what a save that succeeds does to the disk
- `Snapshot.load_of_save`: what is saved is what is loaded, and where nothing is in the way a save
  succeeds
-/

namespace DocStore

/-! ## Values -/

namespace Json

/-- `asRead` gives back a document with names for keys, if its values come back as they are. -/
private theorem asRead_toValue {d : Document} (htext : ∀ f ∈ d.entries, f.1.isText = true)
    (hvalues : ∀ f ∈ d.entries, asRead f.2 = f.2) : asRead d.toValue = d.toValue :=
  asRead_object d.nodup_keys htext hvalues

/-- `asRead` gives back the documents of a collection as they are. -/
private theorem asRead_documentsValue {docs : Collection} (h : docs.Keeps Value.DistinctKeys) :
    asRead (Snapshot.documentsValue docs) = Snapshot.documentsValue docs := by
  -- the ids are distinct texts, and so are the keys of every document
  refine asRead_object ?_ ?_ ?_
  · have hkeys : (docs.entries.map fun e => (Key.text e.1, e.2.toValue)).map Prod.fst =
        docs.keys.map Key.text := by
      rw [Table.keys, List.map_map, List.map_map]
      rfl
    rw [hkeys]
    exact List.Pairwise.map Key.text (fun a b hne heq => hne (Key.text.inj heq)) docs.nodup_keys
  · intro e he
    obtain ⟨a, -, rfl⟩ := List.mem_map.1 he
    rfl
  · intro e he
    obtain ⟨a, ha, rfl⟩ := List.mem_map.1 he
    have hsound := Collection.isSound_of_keeps h
    refine asRead_toValue (fun f hf => ?_) fun f hf => ?_
    · obtain ⟨name, hname, -⟩ := hsound.fields a ha f hf
      rw [hname]
      rfl
    · obtain ⟨-, -, -, -, hstorable⟩ := hsound.fields a ha f hf
      exact asRead_of_isStorable hstorable ((h a ha).2 f hf).2

end Json

namespace Snapshot

/-! ## The text -/

/-- `readDocuments` reads the documents of a collection as they are. -/
private theorem readDocuments_entries {Q : Value → Prop} {l : List (String × Document)}
    (h : ∀ e ∈ l, e.2.id? = some e.1 ∧ e.2.Keeps Q) :
    readDocuments (l.map fun e => (.text e.1, e.2.toValue)) = .ok l := by
  -- a document that keeps to the rules is accepted as it is, under the id that it carries
  induction l with
  | nil => rfl
  | cons e rest ih =>
    obtain ⟨hid, hkeeps⟩ := h e List.mem_cons_self
    have hrest := ih fun e he => h e (List.mem_cons_of_mem _ he)
    simp only [List.map_cons, readDocuments, hkeeps.ofValue?, hid, hrest, ↓reduceIte]
    rfl

/-- `ofValue` finds in the value of a store file the collection it was made from. -/
private theorem ofValue_asRead {docs : Collection} (h : docs.Keeps Value.DistinctKeys)
    (options : Value) (p : Path) :
    ofValue p (Json.asRead (.object [(.text "options", options),
      (.text "documents", documentsValue docs)])) = .ok docs := by
  have hread : Json.asRead (.object [(.text "options", options),
      (.text "documents", documentsValue docs)]) = .object [(.text "options", Json.asRead options),
      (.text "documents", documentsValue docs)] := by
    simp [Json.asRead, Json.entriesAsRead, Json.keyName, Table.upsert,
      Json.asRead_documentsValue h]
  have hdocuments := readDocuments_entries h
  -- the options are passed over
  have hlookup : [(Key.text "options", Json.asRead options),
      (.text "documents", documentsValue docs)].lookup (.text "documents") =
        some (documentsValue docs) := by
    simp [Table.lookup_cons_eq]
  rw [hread, ofValue, hlookup]
  simp only [Option.getD_some, documentsValue]
  rw [hdocuments, Except.map, Table.ofList_entries]

/-- `fromUTF8?` gives back every text from its bytes. -/
theorem fromUTF8?_toUTF8 (s : String) : String.fromUTF8? s.toUTF8 = some s := by
  have hvalid : s.toUTF8.IsValidUTF8 := s.isValidUTF8
  rw [String.fromUTF8?, dif_pos hvalid]
  rfl

/-- `ofContent` finds in the text of a store file the collection it was written from. -/
theorem ofContent_text {docs : Collection} (h : docs.Keeps Value.DistinctKeys) {options : Value}
    {text : List Char} (htext : text? options (documentsValue docs) = some text) (p : Path) :
    ofContent p (String.ofList text).toUTF8 = .ok docs := by
  have hread := Json.read?_of_write? htext
  rw [ofContent, fromUTF8?_toUTF8, Option.bind_some, String.toList_ofList, hread]
  exact ofValue_asRead h options p

/-! ## The disk -/

variable {disk disk' : Disk} {p : Path} {sync : Bool} {options documents : Value}

/-- `save` that succeeds writes the whole text to where the path leads. -/
theorem wrote_of_save (h : save disk p sync options documents = (.ok (), disk')) :
    p.hasNul = false ∧ ∃ text there, text? options documents = some text ∧
      Disk.Wrote disk.files disk'.files p (String.ofList text).toUTF8 there := by
  unfold save at h
  -- a save that succeeds has a text, a path that can be named and a file that is in place
  split at h
  · cases h
  rename_i text htext
  split at h
  · cases h
  rename_i hnul
  split at h
  · rename_i written hdone
    cases h
    obtain ⟨there, hwrote⟩ := Disk.wrote_of_replaceFile hdone
    exact ⟨by simpa using hnul, text, there, htext, hwrote⟩
  · cases h

/-- `save` that fails adds directories at most. -/
theorem grows_of_save {e : SaveError} (h : save disk p sync options documents = (.error e, disk')) :
    disk.files.Grows disk'.files := by
  unfold save at h
  split at h
  · cases h
    exact .refl _
  split at h
  · cases h
    exact .refl _
  split at h
  · cases h
  -- only where the file was to be replaced can there be new directories
  · rename_i left hfailed
    cases h
    exact Disk.grows_of_replaceFile hfailed

/-- `load` reads the file that stands at the path. -/
theorem load_of_find {files : FileSystem} {content : ByteArray} (hnul : p.hasNul = false)
    (hfind : files.find p = .ok (.file content)) : load files p = ofContent p content := by
  rw [load, hnul, hfind]
  rfl

/-- `load` finds nothing but what is in the file at the path. -/
private theorem exists_find_of_load {files : FileSystem} {docs : Collection}
    (h : load files p = .ok docs) :
    p.hasNul = false ∧ ∃ content, files.find p = .ok (.file content) ∧
      ofContent p content = .ok docs := by
  unfold load at h
  split at h
  · cases h
  rename_i hnul
  split at h
  · rename_i content hfind
    exact ⟨by simpa using hnul, content, hfind, h⟩
  · cases h

/-- `presence` of a file that can be loaded. -/
theorem presence_of_load {files : FileSystem} {p : Path} {docs : Collection}
    (h : load files p = .ok docs) : presence files p = .present := by
  obtain ⟨hnul, content, hfind, -⟩ := exists_find_of_load h
  rw [presence, hnul, hfind]
  rfl

/-- `load` loads a file as before, as long as it stays at its path. -/
theorem load_of_find_of_load {old new : FileSystem} {docs : Collection}
    (hfind : ∀ content, old.find p = .ok (.file content) → new.find p = .ok (.file content))
    (h : load old p = .ok docs) : load new p = .ok docs := by
  obtain ⟨hnul, content, hold, hcontent⟩ := exists_find_of_load h
  rw [load_of_find hnul (hfind content hold), hcontent]

/-- `save` succeeds where nothing is in the way and no fault hits. -/
theorem save_eq_ok (hfits : options.fits = true ∧ documents.fits = true)
    (hopen : disk.files.IsOpen p) (hnul : p.hasNul = false)
    (hfault : SaveStep.hits disk.nextFault sync = false) :
    ∃ disk', save disk p sync options documents = (.ok (), disk') := by
  have htext : ∃ text, text? options documents = some text := by
    refine ⟨_, if_pos ?_⟩
    simp [Value.fits, Value.entriesFit, Key.fits, hfits]
  obtain ⟨text, htext⟩ := htext
  obtain ⟨new, hnew⟩ := Disk.replaceAt_eq_true_of_isOpen hopen hfault (String.ofList text).toUTF8
  refine ⟨⟨new, disk.faults.tail⟩, ?_⟩
  rw [save, htext]
  simp only
  rw [hnul, Disk.replaceFile_eq, hnew]
  rfl

/-- `load` gives back the collection that a successful `save` has written. -/
theorem load_of_save_eq_ok {docs : Collection} (h : docs.Keeps Value.DistinctKeys)
    (hsave : save disk p sync options (documentsValue docs) = (.ok (), disk')) :
    load disk'.files p = .ok docs := by
  obtain ⟨hnul, text, there, htext, hwrote⟩ := wrote_of_save hsave
  rw [load_of_find hnul hwrote.find, ofContent_text h htext]

/-- `load` gives back a collection of valid documents under their own ids that `save` has written as
it was, document by document and value by value. Where nothing is in the way and all integers are
within the limit, the save succeeds. -/
theorem load_of_save {docs : Collection} (hid : ∀ e ∈ docs.entries, e.2.id? = some e.1)
    (hvalid : ∀ e ∈ docs.entries, Document.ofValue? e.2.toValue = .ok e.2)
    (hkeys : ∀ e ∈ docs.entries, ∀ f ∈ e.2.entries, f.2.DistinctKeys)
    (hfits : (documentsValue docs).fits = true) (hoptions : options.fits = true)
    (disk : Disk) (p : Path) (sync : Bool) :
    (∀ disk', save disk p sync options (documentsValue docs) = (.ok (), disk') →
      load disk'.files p = .ok docs) ∧
    (disk.files.IsOpen p → p.hasNul = false → SaveStep.hits disk.nextFault sync = false →
      ∃ disk', save disk p sync options (documentsValue docs) = (.ok (), disk')) := by
  -- that a document is accepted says of each of its entries that it passes the check
  have hkeeps : docs.Keeps Value.DistinctKeys := by
    intro e he
    refine ⟨hid e he, fun f hf => ?_⟩
    obtain ⟨entries, hentries, hall, -⟩ := Document.ofValue?_eq_ok_iff.1 (hvalid e he)
    cases hentries
    exact ⟨hall f hf, hkeys e he f hf⟩
  exact ⟨fun disk' hsave => load_of_save_eq_ok hkeeps hsave,
    fun hopen hnul hfault => save_eq_ok ⟨hoptions, hfits⟩ hopen hnul hfault⟩

/-- Two documents with values of every kind: texts that need escapes, numbers that are equal but
not the same, doubles without digits, and keys in an order of their own. -/
def assortment : Collection := Table.ofList [
  ("b", Table.ofList [
    (.text "_id", .text "b"),
    (.text "text", .text "\"\\\n\x00\x7f é 😀"),
    (.text "one", .list [.int 1, .bool true, .scalar (.number (.float .nan)), .text "1"]),
    (.text "ends", .list [.scalar (.number (.float (.infinite true))), .null])]),
  ("a", Table.ofList [
    (.text "nested", .object [
      (.text "z", .scalar (.number (.float (.ofPlace true 0)))),
      (.text "$a", .list [.scalar (.number (.float (.ofPlace false 1))),
        .int (-18446744073709551617)])]),
    (.text "_id", .text "a")])]

/-- `save` writes the `assortment` to an empty disk, past a fault of a sync that is not asked for,
and `load` gives it back. -/
theorem load_of_save_assortment :
    ∃ disk', save ⟨.empty, [some .sync]⟩ (Path.ofString "d/b.json") false .null
        (documentsValue assortment) = (.ok (), disk') ∧
      load disk'.files (Path.ofString "d/b.json") = .ok assortment := by
  -- each of the hypotheses is checked on the entries, which are few
  have hcheck : ∀ e ∈ assortment.entries, ∀ f ∈ e.2.entries,
      (Document.entryError? f).isNone = true ∧ f.2.isStorable = true ∧ f.2.ownKeys.Nodup := by
    decide
  have hvalid : ∀ e ∈ assortment.entries, Document.ofValue? e.2.toValue = .ok e.2 := by
    intro e he
    refine Document.ofValue?_eq_ok_iff.2 ⟨_, rfl, fun f hf => ?_, (Table.ofList_entries _).symm⟩
    simpa using (hcheck e he f hf).1
  have hkeys : ∀ e ∈ assortment.entries, ∀ f ∈ e.2.entries, f.2.DistinctKeys := by
    intro e he f hf
    exact Value.distinctKeys_of_isStorable (hcheck e he f hf).2.1 (hcheck e he f hf).2.2
  have hopen : FileSystem.empty.IsOpen (Path.ofString "d/b.json") := by
    refine ⟨⟨rfl, fun before _ content => ?_, by decide, by decide⟩, by decide, by decide,
      by decide, by decide, by decide, by decide⟩
    rw [FileSystem.at?]
    split
    · simp
    · simp [FileSystem.empty]
  have h := load_of_save (by decide) hvalid hkeys (by decide +kernel)
    (show Value.fits .null = true from rfl) ⟨.empty, [some .sync]⟩ (Path.ofString "d/b.json") false
  obtain ⟨disk', hsave⟩ := h.2 hopen (by decide) rfl
  exact ⟨disk', hsave, h.1 disk' hsave⟩

end Snapshot

end DocStore
