import DocStore.Proofs.StoreSaves

/-!
# All or nothing

A save replaces the file of a store as a whole. Whichever of its steps fails, if any, the file holds
the complete new snapshot or what it held before, every other file is as it was, and nothing is left
of the temporary file. Directories that have been made on the way may stay.

## Key results

- `Disk.replaceAt_fst_of_hits`: a step that fails is not passed over
- `Snapshot.nothing_of_save_error`, `Snapshot.whole_of_save_ok`: what becomes of the files
- `Snapshot.save_isAllOrNothing`: a save is all or nothing, and its store reports which
-/

namespace DocStore

/-! ## Files -/

namespace FileSystem

variable {files old new : FileSystem} {there : Location} {content : ByteArray}

/-- The content of the file at a location, if there is one. -/
def fileAt? (files : FileSystem) (there : Location) : Option ByteArray :=
  match files.at? there with
  | some (.file content) => some content
  | _ => none

/-- `fileAt?` is the content of the file that `at?` finds. -/
private theorem fileAt?_of_at? (h : files.at? there = some (.file content)) :
    files.fileAt? there = some content := by
  simp only [fileAt?, h]

/-- `fileAt?` finds a file as it was where nothing but a directory has been made. -/
private theorem fileAt?_of_kept (h : new.at? there = old.at? there ∨
    old.at? there = none ∧ new.at? there = some .directory) :
    new.fileAt? there = old.fileAt? there := by
  rcases h with heq | ⟨hnone, hmade⟩
  · simp only [fileAt?, heq]
  · simp only [fileAt?, hnone, hmade]

/-- `Grows` leaves every file as it is. -/
private theorem Grows.fileAt? (h : old.Grows new) (there : Location) :
    new.fileAt? there = old.fileAt? there :=
  fileAt?_of_kept (h.at? there)

end FileSystem

/-! ## Steps that fail -/

namespace Disk

variable {fault : Option SaveStep} {sync : Bool}

/-- `replaceIn` does not pass over a step that fails, once the directory is there. -/
private theorem replaceIn_fst_of_hits (hhits : SaveStep.hits fault sync = true)
    (hlater : fault ≠ some .makeDirectory) (files : FileSystem) (dir : Location) (p : Path)
    (content : ByteArray) : (replaceIn files fault dir p sync content).1 = false := by
  simp only [replaceIn]
  split
  · rfl
  rename_i hcreate
  split
  · rfl
  rename_i hwrite
  -- two steps are left, and the first one counts only where it is asked for
  have hleft : (sync = true ∧ fault = some .sync) ∨ fault = some .replace := by
    cases fault with
    | none => exact nomatch hhits
    | some step =>
      cases step with
      | makeDirectory => exact absurd rfl hlater
      | createTemporary => exact absurd (.inl rfl) hcreate
      | write => exact absurd rfl hwrite
      | sync => exact .inl ⟨hhits, rfl⟩
      | replace => exact .inr rfl
  split
  · rfl
  · rename_i hreplaced
    simp only [not_or] at hreplaced
    rcases hleft with hsync | hreplace
    · exact absurd hsync hreplaced.1
    · exact absurd hreplace hreplaced.2.1

/-- `replaceAt` does not pass over a step that fails: the replacement has not succeeded. -/
theorem replaceAt_fst_of_hits (hhits : SaveStep.hits fault sync = true) (files : FileSystem)
    (p : Path) (content : ByteArray) : (replaceAt files fault p sync content).1 = false := by
  simp only [replaceAt]
  split
  · rfl
  rename_i hfirst
  simp only [not_or] at hfirst
  split
  · rfl
  · split
    · rfl
    · exact replaceIn_fst_of_hits hhits hfirst.1 _ _ p content

end Disk

/-! ## Saving a snapshot -/

namespace Snapshot

variable {disk disk' : Disk} {p : Path} {sync : Bool} {options documents : Value}

/-- `save` that fails leaves every file as it was. -/
theorem nothing_of_save_error {e : SaveError}
    (h : save disk p sync options documents = (.error e, disk')) (there : Location) :
    disk'.files.fileAt? there = disk.files.fileAt? there :=
  (grows_of_save h).fileAt? there

/-- `save` that succeeds puts the whole text where the path leads to, and leaves every other file as
it was. -/
theorem whole_of_save_ok (h : save disk p sync options documents = (.ok (), disk')) :
    ∃ text there, text? options documents = some text ∧ disk'.files.locate p = .ok there ∧
      disk'.files.fileAt? there = some (String.ofList text).toUTF8 ∧
      ∀ other, other ≠ there → disk'.files.fileAt? other = disk.files.fileAt? other := by
  obtain ⟨-, text, there, htext, hwrote⟩ := wrote_of_save h
  refine ⟨text, there, htext, hwrote.locate, FileSystem.fileAt?_of_at? hwrote.at?, ?_⟩
  intro other hother
  exact FileSystem.fileAt?_of_kept (hwrote.others other hother)

/-- `save` fails with a step that fails, if there is a text and a file can have the name of the
path. -/
private theorem save_fst_of_hits (hhits : SaveStep.hits disk.nextFault sync = true)
    (htext : text? options documents ≠ none) (hnul : p.hasNul = false) :
    (save disk p sync options documents).1 = .error (.storage (.writeFailed p)) := by
  obtain ⟨text, htext⟩ := Option.ne_none_iff_exists'.1 htext
  have hfailed := Disk.replaceAt_fst_of_hits hhits disk.files p (String.ofList text).toUTF8
  simp only [save, htext, hnul, Disk.replaceFile_eq, hfailed]
  rfl

/-- What a save to a path has come to: everything is written, or nothing has happened to any
file. -/
structure AllOrNothing (disk : Disk) (p : Path) (sync : Bool) (options documents : Value)
    (result : Except SaveError Unit × Disk) : Prop where
  /-- If the save succeeds, the file of the store holds the complete new snapshot, and every other
  file is as it was. -/
  whole : result.1 = .ok () → ∃ text there, text? options documents = some text ∧
    result.2.files.locate p = .ok there ∧
    result.2.files.fileAt? there = some (String.ofList text).toUTF8 ∧
    ∀ other, other ≠ there → result.2.files.fileAt? other = disk.files.fileAt? other
  /-- If it fails, every file is as it was, that of the store included. -/
  nothing : ∀ e, result.1 = .error e →
    ∀ there, result.2.files.fileAt? there = disk.files.fileAt? there
  /-- No new file is there but that of the store. -/
  noTemporary : ∀ there, result.2.files.fileAt? there ≠ none →
    disk.files.fileAt? there ≠ none ∨ (result.1 = .ok () ∧ result.2.files.locate p = .ok there)
  /-- A step that fails is reported. -/
  reported : SaveStep.hits disk.nextFault sync = true → text? options documents ≠ none →
    p.hasNul = false → result.1 = .error (.storage (.writeFailed p))

/-- `AllOrNothing` holds of every `save`. -/
private theorem allOrNothing_save (disk : Disk) (p : Path) (sync : Bool)
    (options documents : Value) :
    AllOrNothing disk p sync options documents (save disk p sync options documents) := by
  have hreported : SaveStep.hits disk.nextFault sync = true → text? options documents ≠ none →
      p.hasNul = false →
      (save disk p sync options documents).1 = .error (.storage (.writeFailed p)) :=
    save_fst_of_hits
  generalize hsave : save disk p sync options documents = after at *
  obtain ⟨result, disk'⟩ := after
  cases result with
  | error e =>
    have hnothing := nothing_of_save_error hsave
    refine ⟨nofun, fun _ _ => hnothing, ?_, hreported⟩
    intro there hthere
    exact .inl (hnothing there ▸ hthere)
  | ok done =>
    obtain ⟨text, here, htext, hlocate, hcontent, hothers⟩ := whole_of_save_ok hsave
    refine ⟨fun _ => ⟨text, here, htext, hlocate, hcontent, hothers⟩, nofun, ?_, hreported⟩
    intro there hthere
    -- the file at the path is written, all others are as they were
    by_cases heq : there = here
    · exact .inr ⟨rfl, heq ▸ hlocate⟩
    · exact .inl (hothers there heq ▸ hthere)

end Snapshot

/-! ## Saving a store -/

/-- What the save of a store tells, and that its documents stay as they are. -/
structure StoreState.ReportsSave (s : StoreState) : Prop where
  store : s.save.state.store = s.store
  /-- A store that is kept in memory is not written. -/
  inMemory : s.store.options.isInMemory = true → s.save = .answer true s
  succeeded : s.store.options.isInMemory = false → ∀ disk,
    StoreState.saveWith s.store.options s.disk s.store.docs = (.ok (), disk) →
    s.save = .answer true { s with disk := disk }
  /-- A failure is logged, and the answer says so. -/
  failed : s.store.options.isInMemory = false → ∀ e disk,
    StoreState.saveWith s.store.options s.disk s.store.docs = (.error (.storage e), disk) →
    s.save = ⟨.ok false, { s with disk := disk }, [saveFailure s.store.options.name.text e]⟩

/-- `ReportsSave` holds of every state. -/
private theorem StoreState.reportsSave (s : StoreState) : s.ReportsSave := by
  refine ⟨s.save_store, fun hmemory => if_pos hmemory, ?_, ?_⟩
  · intro hpersisted disk hdisk
    have hsaved : Snapshot.save s.disk s.store.options.path _ _ _ = (.ok (), disk) := hdisk
    simp only [save, hpersisted, Bool.false_eq_true, if_false, hsaved]
  · intro hpersisted e disk hdisk
    have hrefused : Snapshot.save s.disk s.store.options.path _ _ _ =
        (.error (.storage e), disk) := hdisk
    simp only [save, hpersisted, Bool.false_eq_true, if_false, hrefused]
    rfl

namespace Snapshot

/-- `save` is all or nothing, whatever is on the disk, whatever is saved and whichever step fails,
if any. The store reports which, and its documents stay as they are. -/
theorem save_isAllOrNothing :
    (∀ (disk : Disk) (p : Path) (sync : Bool) (options : Value) (docs : Collection),
      AllOrNothing disk p sync options (documentsValue docs)
        (save disk p sync options (documentsValue docs))) ∧
    ∀ s : StoreState, s.ReportsSave :=
  ⟨fun disk p sync options docs => allOrNothing_save disk p sync options (documentsValue docs),
    StoreState.reportsSave⟩

/-- A disk with a store file, on which the next save cannot put the new file in its place. -/
def faultyDisk : Disk where
  files := ⟨.ofList [(["d"], .directory), (["d", "b.json"], .file "old".toUTF8)], []⟩
  faults := [some .replace]

/-- `save` has written the whole snapshot beside the store file when the last step fails. The store
file keeps its content, and nothing else is there. -/
theorem save_isAllOrNothing_onFaultyDisk :
    let p := Path.ofString "d/b.json"
    let after := save faultyDisk p true .null (documentsValue assortment)
    AllOrNothing faultyDisk p true .null (documentsValue assortment) after ∧
      after.1 = .error (.storage (.writeFailed p)) ∧
      after.2.files.fileAt? ["d", "b.json"] = some "old".toUTF8 ∧
      ∀ name, name ≠ "b.json" → after.2.files.fileAt? ["d", name] = none := by
  intro p after
  have h : AllOrNothing faultyDisk p true .null (documentsValue assortment) after :=
    save_isAllOrNothing.1 faultyDisk p true .null assortment
  have htext : text? .null (documentsValue assortment) ≠ none := by
    rw [← Option.isSome_iff_ne_none]
    decide +kernel
  have hfailed := h.reported rfl htext (by decide)
  have hkept := h.nothing _ hfailed
  refine ⟨h, hfailed, hkept _, ?_⟩
  intro name hname
  -- the directory has no other entry
  have hfree : faultyDisk.files.contents.get? ["d", name] = none := by
    show ((Table.empty.insert ["d"] _).insert ["d", "b.json"] _).get? ["d", name] = none
    rw [Table.get?_insert, if_neg (by simp [hname]), Table.get?_insert, if_neg (by simp)]
    rfl
  rw [hkept, FileSystem.fileAt?, FileSystem.at?, if_neg (by simp), hfree]

end Snapshot

end DocStore
