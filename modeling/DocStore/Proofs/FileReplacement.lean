import DocStore.Disk

/-!
# Replacing files

What replacing a file does to a file system. A path leads through directories only, and directories
never go away; so what a path led to before, it leads to afterwards.

## Key results

- `FileSystem.temporary_not_mem`: the temporary name is a new one
- `Disk.replaceIn_cases`: of the temporary file nothing is left, whatever happens
- `Disk.replaceAt_cases`: a replacement adds directories, and puts the content in its place if it
  succeeds
- `FileSystem.KeepsDirectories.locate`: paths lead where they led before
- `Disk.replaceAt_eq_true_of_isOpen`: where nothing is in the way, a replacement succeeds
-/

namespace DocStore

namespace FileSystem

variable {files old new : FileSystem} {here there location : Location} {e : Entry}

/-! ## Locations -/

/-- `at?` finds a directory at the root, whatever the file system. -/
@[simp] private theorem at?_root : files.at? [] = some .directory := by simp [at?]

/-- `at?` sees a `put` at its own location and nowhere else. -/
private theorem at?_put (h : here ≠ []) :
    (files.put here e).at? there = if there = here then some e else files.at? there := by
  by_cases hroot : there = []
  · subst hroot
    rw [at?_root, if_neg (Ne.symm h), at?_root]
  · simp [at?, hroot, put, Table.get?_insert]

/-- `remove` takes away without a trace what `put` has made where nothing was. -/
private theorem remove_put (h : files.contents.contains here = false) :
    (files.put here e).remove here = files := by
  have hnot : here ∉ files.contents := by
    simpa [Table.contains_eq_decide_mem] using h
  simp only [put, remove, Table.erase_insert_of_not_mem hnot]

/-- Of two `put` at one location the second counts. -/
private theorem put_put (e' : Entry) : (files.put here e').put here e = files.put here e := by
  simp only [put, Table.insert_insert]

/-! ## Temporary names -/

/-- If `freeName` ends at a name that is taken, all names that it could try are taken. -/
private theorem contains_of_freeName {dir : Location} {target : String} {tries n : Nat}
    (h : files.contents.contains (dir ++ [freeName files dir target tries n]) = true) :
    ∀ i ≤ tries, files.contents.contains (dir ++ [temporaryName target (n + i)]) = true := by
  -- the name that was found is the first or one that the rest of the search could find
  induction tries generalizing n with
  | zero =>
    intro i hi
    obtain rfl : i = 0 := Nat.le_zero.1 hi
    exact h
  | succ tries ih =>
    rw [freeName] at h
    split at h
    · rename_i hfirst
      intro i hi
      cases i with
      | zero => exact hfirst
      | succ i =>
        have := ih h i (by omega)
        rwa [Nat.add_assoc, Nat.add_comm 1 i] at this
    · rename_i hfirst
      exact absurd h hfirst

/-- `temporaryName` gives a name to each number that it gives to no other. -/
private theorem temporaryName_injective {target : String} {i j : Nat}
    (h : temporaryName target i = temporaryName target j) : i = j :=
  countedId_injective _ _ i j ((String.append_left_inj _).1 h)

/-- The locations among which the search for a free name ends. -/
def tried (dir : Location) (target : String) (tries : Nat) : List Location :=
  (List.range (tries + 1)).map fun i => dir ++ [temporaryName target i]

/-- No location is among the `tried` ones twice. -/
private theorem nodup_tried (dir : Location) (target : String) (tries : Nat) :
    (tried dir target tries).Nodup := by
  refine List.Pairwise.map _ ?_ List.nodup_range
  intro i j hne heq
  exact hne (temporaryName_injective (by simpa using heq))

/-- The name that `temporary` gives is a new one: there are more names to try than there is room
for. -/
theorem temporary_not_mem (files : FileSystem) (dir : Location) (target : String) :
    files.contents.contains (dir ++ [files.temporary dir target]) = false := by
  rw [← Bool.not_eq_true]
  intro h
  have htaken := contains_of_freeName h
  -- if all of them were taken, there would be one entry more than there are
  have hsub : tried dir target files.contents.size ⊆ files.contents.keys := by
    intro location hlocation
    obtain ⟨i, hi, rfl⟩ := List.mem_map.1 hlocation
    have := htaken i (by simpa [Nat.lt_succ_iff] using hi)
    rw [Nat.zero_add, Table.contains_eq_decide_mem, decide_eq_true_iff] at this
    exact this
  have hlen := (nodup_tried dir target files.contents.size).length_le_of_subset hsub
  simp only [tried, List.length_map, List.length_range, Table.keys, Table.size] at hlen
  omega

/-- `at?` finds nothing where `temporary` has its file put. -/
private theorem at?_temporary (files : FileSystem) (dir : Location) (target : String) :
    files.at? (dir ++ [files.temporary dir target]) = none := by
  rw [at?, if_neg (by simp)]
  exact Table.contains_eq_false_iff.1 (temporary_not_mem files dir target)

/-- `isReplaceable` does not mind a new file, wherever it is asked. -/
private theorem isReplaceable_put (h : files.at? here = none) (content : ByteArray) :
    (files.put here (.file content)).isReplaceable there = files.isReplaceable there := by
  have hroot : here ≠ [] := by
    rintro rfl
    simp at h
  rw [isReplaceable, isReplaceable, at?_put hroot]
  split
  · rename_i heq
    rw [heq, h]
    rfl
  · rfl

end FileSystem

/-! ## Replacing in a directory -/

/-- Whether a fault hits a replacement. A file that is not forced to the disk cannot fail there. -/
def SaveStep.hits (fault : Option SaveStep) (sync : Bool) : Bool :=
  match fault with
  | none => false
  | some .sync => sync
  | some _ => true

namespace Disk

open FileSystem

variable {files made : FileSystem} {fault : Option SaveStep} {dir : Location} {p : Path}
  {sync : Bool} {content : ByteArray}

/-- A file can take its place in a directory: its name is one, it and its path are short enough, and
there is no directory in its place. -/
structure HasRoom (files : FileSystem) (dir : Location) (p : Path) : Prop where
  nonempty : p.lastName ≠ ""
  notUp : p.lastName ≠ ".."
  nameLength : p.lastName.utf8ByteSize + temporaryExtra ≤ nameLimit
  pathLength : p.text.utf8ByteSize + temporaryExtra < pathLimit
  free : files.at? (dir ++ [p.lastName]) ≠ some .directory

/-- `replaceIn` leaves nothing of the temporary file, whatever happens: a replacement that fails
leaves no trace, and one that succeeds is a `put`. -/
theorem replaceIn_cases (files : FileSystem) (fault : Option SaveStep) (dir : Location) (p : Path)
    (sync : Bool) (content : ByteArray) :
    replaceIn files fault dir p sync content = (false, files) ∨
      (HasRoom files dir p ∧ replaceIn files fault dir p sync content =
        (true, files.put (dir ++ [p.lastName]) (.file content))) := by
  have hfresh := temporary_not_mem files dir p.lastName
  have hnone := at?_temporary files dir p.lastName
  -- the steps one after another, and at each the file system as it is when that step fails
  unfold replaceIn
  dsimp only
  split
  · exact .inl rfl
  rename_i hcreate
  split
  · -- the empty temporary file is taken away again
    exact .inl (by rw [remove_put hfresh])
  -- the complete temporary file was new, so to take it away leads back to the beginning
  rw [put_put, remove_put hfresh, isReplaceable_put hnone]
  split
  · exact .inl rfl
  · rename_i hreplace
    simp only [not_or, Classical.not_not] at hcreate hreplace
    refine .inr ⟨⟨hreplace.2.2.1, hreplace.2.2.2.1, by omega, by omega, ?_⟩, rfl⟩
    simpa [isReplaceable] using hreplace.2.2.2.2

/-- `replaceIn` succeeds where there is room and no fault. -/
private theorem replaceIn_eq_true (hroom : HasRoom files dir p)
    (hfault : SaveStep.hits fault sync = false) :
    replaceIn files fault dir p sync content =
      (true, files.put (dir ++ [p.lastName]) (.file content)) := by
  have hfresh := temporary_not_mem files dir p.lastName
  have hnone := at?_temporary files dir p.lastName
  -- the one fault that does no harm is that of a sync that is not asked for
  have hstep : ∀ step, step ≠ .sync → fault ≠ some step := by
    rintro step hne rfl
    cases step <;> simp [SaveStep.hits] at hfault hne
  have hsync : ¬ (sync = true ∧ fault = some .sync) := by
    rintro ⟨rfl, rfl⟩
    simp [SaveStep.hits] at hfault
  have hfree : files.isReplaceable (dir ++ [p.lastName]) = true := by
    simpa [isReplaceable] using hroom.free
  have hname := hroom.nameLength
  have hpath := hroom.pathLength
  -- no step fails, so only the tests of the names and of the place are left
  unfold replaceIn
  dsimp only
  rw [if_neg, if_neg (hstep .write (by simp)), put_put, remove_put hfresh, isReplaceable_put hnone,
    if_neg]
  · simp [hsync, hstep .replace, hroom.nonempty, hroom.notUp, hfree]
  · simp only [not_or, hstep .createTemporary (by simp), not_false_eq_true, true_and]
    omega

end Disk

/-! ## Growing -/

namespace FileSystem

variable {files old new made : FileSystem} {here there : Location} {names : List String}

/-- One file system comes from another by making directories. -/
structure Grows (old new : FileSystem) : Prop where
  home : new.home = old.home
  at? : ∀ there, new.at? there = old.at? there ∨
    old.at? there = none ∧ new.at? there = some .directory

/-- `Grows` allows that no directory is made. -/
theorem Grows.refl (files : FileSystem) : files.Grows files :=
  ⟨rfl, fun _ => .inl rfl⟩

/-- `Grows` by two makings is `Grows` by one. -/
theorem Grows.trans (h : old.Grows made) (h' : made.Grows new) : old.Grows new := by
  refine ⟨h'.home.trans h.home, fun there => ?_⟩
  -- a directory that the first step makes stays one in the second
  rcases h.at? there with hold | ⟨hnone, hmade⟩
  · rcases h'.at? there with hmade' | ⟨hnone, hnew⟩
    · exact .inl (hmade'.trans hold)
    · exact .inr ⟨hold ▸ hnone, hnew⟩
  · rcases h'.at? there with hmade' | ⟨hnone', -⟩
    · exact .inr ⟨hnone, hmade'.trans hmade⟩
    · rw [hmade] at hnone'
      cases hnone'

/-- `Grows` keeps every entry that there is. -/
private theorem Grows.at?_of_some (h : old.Grows new) {e : Entry} (he : old.at? there = some e) :
    new.at? there = some e := by
  rcases h.at? there with heq | ⟨hnone, -⟩
  · rw [heq, he]
  · rw [he] at hnone
    cases hnone

/-- `put` of a directory where nothing is makes a file system grow. -/
private theorem grows_put (h : files.at? here = none) :
    files.Grows (files.put here .directory) := by
  have hroot : here ≠ [] := by
    rintro rfl
    simp at h
  refine ⟨rfl, fun there => ?_⟩
  rw [at?_put hroot]
  split
  · rename_i heq
    exact .inr ⟨heq ▸ h, rfl⟩
  · exact .inl rfl

/-- One file system has the directories of another. -/
structure KeepsDirectories (old new : FileSystem) : Prop where
  home : new.home = old.home
  directory : ∀ there, old.at? there = some .directory → new.at? there = some .directory

/-- `Grows` takes no directory away. -/
theorem Grows.keepsDirectories (h : old.Grows new) : old.KeepsDirectories new :=
  ⟨h.home, fun _ => h.at?_of_some⟩

/-- `KeepsDirectories` goes through a file system in between. -/
theorem KeepsDirectories.trans (h : old.KeepsDirectories made)
    (h' : made.KeepsDirectories new) : old.KeepsDirectories new :=
  ⟨h'.home.trans h.home, fun there hd => h'.directory there (h.directory there hd)⟩

/-- `put` takes no directory away unless it takes one's place. -/
private theorem keepsDirectories_put (h : files.at? here ≠ some .directory) (e : Entry) :
    files.KeepsDirectories (files.put here e) := by
  have hroot : here ≠ [] := by
    rintro rfl
    exact h at?_root
  refine ⟨rfl, fun there hd => ?_⟩
  rw [at?_put hroot, if_neg, hd]
  rintro rfl
  exact h hd

/-! ## Looking up paths -/

/-- `descend` along more names leads on from where the names before them led. -/
theorem descend_append (files : FileSystem) (here : Location) (names more : List String) :
    files.descend here (names ++ more) =
      (files.descend here names).bind fun there => files.descend there more := by
  -- induction on the names, as `descend` takes them; each failure ends both sides
  induction names generalizing here with
  | nil => rfl
  | cons name rest ih =>
    simp only [List.cons_append, descend]
    cases files.at? here with
    | none => rfl
    | some e =>
      cases e with
      | file content => rfl
      | directory =>
        simp only [ih]
        split
        · rfl
        · split <;> rfl

/-- `descend` leads where it led before, if no directory has gone away. -/
theorem KeepsDirectories.descend (h : old.KeepsDirectories new)
    (hold : old.descend here names = .ok there) : new.descend here names = .ok there := by
  -- every step depends on nothing but whether there is a directory where it begins
  induction names generalizing here with
  | nil => exact hold
  | cons name rest ih =>
    simp only [FileSystem.descend] at hold ⊢
    cases hat : old.at? here with
    | none => rw [hat] at hold; cases hold
    | some e =>
      cases e with
      | file content => rw [hat] at hold; cases hold
      | directory =>
        rw [hat] at hold
        rw [h.directory here hat]
        simp only at hold ⊢
        split at hold
        · cases hold
        rename_i hlength
        rw [if_neg hlength]
        split at hold
        · rename_i hup
          rw [if_pos hup]
          exact ih hold
        · rename_i hup
          rw [if_neg hup]
          exact ih hold

/-- `locate` finds a path where it was before, if no directory has gone away. -/
theorem KeepsDirectories.locate (h : old.KeepsDirectories new) {p : Path}
    (hold : old.locate p = .ok there) : new.locate p = .ok there := by
  unfold FileSystem.locate at hold ⊢
  split at hold
  · cases hold
  · rename_i hlength
    -- a path that is too long is found nowhere, before as after
    rw [if_neg hlength, start, h.home, ← start]
    exact h.descend hold

/-- `find` tells what stands where `locate` leads. -/
theorem find_eq_ok_iff {p : Path} {e : Entry} :
    files.find p = .ok e ↔ ∃ there, files.locate p = .ok there ∧ files.at? there = some e := by
  unfold find
  cases files.locate p with
  | error error => simp
  | ok there =>
    simp only [Except.ok.injEq, exists_eq_left']
    cases files.at? there <;> simp

/-- `find` tells what it told before, if nothing but directories has been made. -/
theorem Grows.find (h : old.Grows new) {p : Path} {e : Entry} (hold : old.find p = .ok e) :
    new.find p = .ok e := by
  obtain ⟨there, hlocate, hat⟩ := find_eq_ok_iff.1 hold
  exact find_eq_ok_iff.2 ⟨there, h.keepsDirectories.locate hlocate, h.at?_of_some hat⟩

/-! ## Making directories -/

/-- `makeDirectories` makes directories and nothing else, also when it stops on the way. -/
private theorem grows_makeDirectories (files : FileSystem) (here : Location) (names : List String) :
    files.Grows (files.makeDirectories here names).2 := by
  -- the only write is that of a directory where nothing is
  induction names generalizing files here with
  | nil => exact .refl files
  | cons name rest ih =>
    rw [makeDirectories]
    split
    · exact .refl files
    split
    · exact ih files here.dropLast
    split
    · exact ih files (here ++ [name])
    · exact .refl files
    · rename_i hnone
      exact (grows_put hnone).trans (ih _ (here ++ [name]))

/-- `descend` leads to a directory along names that `makeDirectories` has made. -/
private theorem exists_descend_of_makeDirectories
    (h : files.makeDirectories here names = (true, made)) :
    ∃ dir, made.descend here names = .ok dir ∧ made.at? dir = some .directory := by
  induction names generalizing files here with
  | nil =>
    obtain ⟨hat, rfl⟩ := Prod.mk.inj h
    exact ⟨here, rfl, by simpa using hat⟩
  | cons name rest ih =>
    -- the directory that the step begins in is there in the end as well
    have hgrows := grows_makeDirectories files here (name :: rest)
    rw [h] at hgrows
    rw [makeDirectories] at h
    -- a name is too long, leads upwards, stands there already or is made
    split at h
    · cases h
    rename_i hhere
    simp only [not_or, Classical.not_not] at hhere
    rw [descend, hgrows.at?_of_some hhere.1]
    simp only
    rw [if_neg hhere.2]
    split at h
    · rename_i hup
      rw [if_pos hup]
      exact ih h
    · rename_i hup
      rw [if_neg hup]
      split at h
      · exact ih h
      · cases h
      · exact ih h

end FileSystem

/-! ## Replacing at a path -/

namespace Disk

open FileSystem

variable {files made : FileSystem} {fault : Option SaveStep} {dir : Location} {p : Path}
  {sync : Bool} {content : ByteArray}

/-- `replaceAt` makes directories first. If it succeeds, then the file is put where they lead to; if
it does not, nothing else has happened. -/
theorem replaceAt_cases (files : FileSystem) (fault : Option SaveStep) (p : Path) (sync : Bool)
    (content : ByteArray) :
    ∃ made, files.Grows made ∧
      (replaceAt files fault p sync content = (false, made) ∨
        ∃ dir, made.descend (files.start p) p.parent.parts = .ok dir ∧
          made.at? dir = some .directory ∧ HasRoom made dir p ∧
          replaceAt files fault p sync content =
            (true, made.put (dir ++ [p.lastName]) (.file content))) := by
  -- whatever happens after the directories have been made, they stay
  have hgrows := grows_makeDirectories files (files.start p) p.parent.parts
  unfold replaceAt
  split
  · exact ⟨files, .refl files, .inl rfl⟩
  rename_i hfirst
  split
  · rename_i made hmade
    rw [hmade] at hgrows
    exact ⟨made, hgrows, .inl rfl⟩
  · rename_i made hmade
    rw [hmade] at hgrows
    refine ⟨made, hgrows, ?_⟩
    obtain ⟨dir, hdescend, hdir⟩ := exists_descend_of_makeDirectories hmade
    -- the directories do not move the place where the path begins
    have hstart : made.start p.parent = files.start p := by
      rw [start, hgrows.home]
      rfl
    have hlocate : made.locate p.parent = .ok dir := by
      rw [locate, if_neg (fun h => hfirst (.inr h)), hstart, hdescend]
    rw [hlocate]
    rcases replaceIn_cases made fault dir p sync content with hfail | ⟨hroom, hdone⟩
    · exact .inl hfail
    · exact .inr ⟨dir, hdescend, hdir, hroom, hdone⟩

/-- What a replacement that succeeds makes of a file system. -/
structure Wrote (old new : FileSystem) (p : Path) (content : ByteArray) (there : Location) :
    Prop where
  /-- The path leads there. -/
  locate : new.locate p = .ok there
  at? : new.at? there = some (.file content)
  keeps : old.KeepsDirectories new
  /-- Elsewhere there is nothing new but directories. -/
  others : ∀ other, other ≠ there → new.at? other = old.at? other ∨
    old.at? other = none ∧ new.at? other = some .directory

/-- `find` reads at the path what was written there. -/
theorem Wrote.find {old new : FileSystem} {there : Location} (h : Wrote old new p content there) :
    new.find p = .ok (.file content) :=
  find_eq_ok_iff.2 ⟨there, h.locate, h.at?⟩

/-- `find` reads at a path that leads elsewhere what it read before. -/
theorem Wrote.find_elsewhere {old new : FileSystem} {there : Location} {q : Path} {e : Entry}
    (h : Wrote old new p content there) (hold : old.find q = .ok e)
    (helse : new.locate q ≠ .ok there) : new.find q = .ok e := by
  obtain ⟨here, hlocate, hat⟩ := find_eq_ok_iff.1 hold
  have hnew := h.keeps.locate hlocate
  -- both locations are taken in the new file system, where the paths still lead to them
  have hother : here ≠ there := by
    rintro rfl
    exact helse hnew
  refine find_eq_ok_iff.2 ⟨here, hnew, ?_⟩
  rcases h.others here hother with heq | ⟨hnone, -⟩
  · rw [heq, hat]
  · rw [hat] at hnone
    cases hnone

/-- `lastName` is the last of the `parts`, unless it is empty. -/
private theorem parts_eq_of_lastName (h : p.lastName ≠ "") :
    p.parts = p.parent.parts ++ [p.lastName] := by
  have hne : p.parts ≠ [] := by
    intro hnil
    rw [Path.lastName, hnil] at h
    exact h rfl
  rw [Path.lastName, Path.parent, List.getLastD_eq_getLast?, List.getLast?_eq_some_getLast hne,
    Option.getD_some, List.dropLast_concat_getLast]

/-- `locate` finds a file that is put into a directory by the directory's path and the file's name.
-/
private theorem locate_put (hroom : HasRoom files dir p)
    (hdescend : files.descend (files.start p) p.parent.parts = .ok dir)
    (hdir : files.at? dir = some .directory) :
    (files.put (dir ++ [p.lastName]) (.file content)).locate p = .ok (dir ++ [p.lastName]) := by
  have hkeeps := keepsDirectories_put hroom.free (.file content)
  have hname := hroom.nameLength
  have hpath := hroom.pathLength
  rw [locate, if_neg (by omega), parts_eq_of_lastName hroom.nonempty, descend_append]
  rw [show (files.put (dir ++ [p.lastName]) (.file content)).start p = files.start p from rfl]
  -- down to the directory it is the old file system, and one more name leads to the file
  rw [hkeeps.descend hdescend]
  simp only [Except.bind, descend]
  rw [hkeeps.directory dir hdir]
  simp only
  rw [if_neg (by omega), if_neg hroom.notUp]

/-- `replaceAt` that succeeds puts the content where the path leads to, and adds directories. -/
private theorem wrote_of_replaceAt {new : FileSystem}
    (h : replaceAt files fault p sync content = (true, new)) :
    ∃ there, Wrote files new p content there := by
  obtain ⟨made, hgrows, hfail | ⟨dir, hdescend, hdir, hroom, hdone⟩⟩ :=
    replaceAt_cases files fault p sync content
  · rw [h] at hfail
    cases hfail
  rw [h] at hdone
  cases hdone
  -- directories that were made on the way leave the place where a path starts
  have hstart : made.start p = files.start p := by
    rw [start, hgrows.home]
    rfl
  refine ⟨dir ++ [p.lastName], locate_put hroom (hstart ▸ hdescend) hdir, ?_, ?_, ?_⟩
  · rw [at?_put (by simp), if_pos rfl]
  · exact hgrows.keepsDirectories.trans (keepsDirectories_put hroom.free _)
  · intro other hother
    rw [at?_put (by simp), if_neg hother]
    exact hgrows.at? other

/-- `replaceAt` that fails has made directories at most. -/
private theorem grows_of_replaceAt {new : FileSystem}
    (h : replaceAt files fault p sync content = (false, new)) : files.Grows new := by
  obtain ⟨made, hgrows, hfail | ⟨dir, -, -, -, hdone⟩⟩ :=
    replaceAt_cases files fault p sync content
  · rw [h] at hfail
    cases hfail
    exact hgrows
  · rw [h] at hdone
    cases hdone

/-- The fault that the next replacement meets. -/
def nextFault (d : Disk) : Option SaveStep := d.faults.headD none

/-- `replaceFile` is `replaceAt` with the fault that is next, which it uses up. -/
theorem replaceFile_eq (d : Disk) (p : Path) (sync : Bool) (content : ByteArray) :
    d.replaceFile p sync content =
      ((replaceAt d.files d.nextFault p sync content).1,
        ⟨(replaceAt d.files d.nextFault p sync content).2, d.faults.tail⟩) := by
  obtain ⟨files, faults⟩ := d
  cases faults <;> rfl

/-- `replaceFile` that succeeds puts the content where the path leads to, and adds directories. -/
theorem wrote_of_replaceFile {d d' : Disk} (h : d.replaceFile p sync content = (true, d')) :
    ∃ there, Wrote d.files d'.files p content there := by
  rw [replaceFile_eq] at h
  obtain ⟨hdone, rfl⟩ := Prod.mk.inj h
  exact wrote_of_replaceAt (Prod.ext hdone rfl)

/-- `replaceFile` that fails has made directories at most. -/
theorem grows_of_replaceFile {d d' : Disk} (h : d.replaceFile p sync content = (false, d')) :
    d.files.Grows d'.files := by
  rw [replaceFile_eq] at h
  obtain ⟨hfailed, rfl⟩ := Prod.mk.inj h
  exact grows_of_replaceAt (Prod.ext hfailed rfl)

end Disk

/-! ## Open paths -/

namespace FileSystem

variable {files new : FileSystem} {here there : Location} {names : List String}

/-- Nothing is in the way of directories with names below a location: what is there already is a
directory, and the names are short and lead downwards. -/
structure Passable (files : FileSystem) (here : Location) (names : List String) : Prop where
  isDirectory : files.at? here = some .directory
  noFile : ∀ before, before <+: names → ∀ content, files.at? (here ++ before) ≠ some (.file content)
  short : ∀ name ∈ names, name.utf8ByteSize ≤ nameLimit
  down : ".." ∉ names

/-- `Passable` is left of the way behind a directory, whether it was there or has been made. -/
theorem Passable.step {name : String} (h : files.Passable here (name :: names))
    (hnew : new = files ∨ new = files.put (here ++ [name]) .directory)
    (hdir : new.at? (here ++ [name]) = some .directory) :
    new.Passable (here ++ [name]) names := by
  refine ⟨hdir, fun before hbefore content => ?_, fun n hn => h.short n (List.mem_cons_of_mem _ hn),
    fun hup => h.down (List.mem_cons_of_mem _ hup)⟩
  -- what is on the way from the directory is on the way through it
  have hnot := h.noFile (name :: before) (List.cons_prefix_cons.2 ⟨rfl, hbefore⟩) content
  rcases hnew with rfl | rfl
  · simpa using hnot
  · rw [at?_put (by simp)]
    split
    · simp
    · simpa using hnot

/-- `makeDirectories` makes all directories where nothing is in the way, and only on the way. -/
theorem Passable.makeDirectories (h : files.Passable here names) :
    ∃ made, files.makeDirectories here names = (true, made) ∧
      made.at? (here ++ names) = some .directory ∧
      ∀ there : Location, here.length + names.length < there.length →
        made.at? there = files.at? there := by
  -- the length of a location tells that it is not on the way: the target itself stays free
  induction names generalizing files here with
  | nil =>
    refine ⟨files, ?_, ?_, fun _ _ => rfl⟩
    · simp [FileSystem.makeDirectories, h.isDirectory]
    · simpa using h.isDirectory
  | cons name rest ih =>
    have hshort := h.short name List.mem_cons_self
    have hdown : name ≠ ".." := fun hup => h.down (hup ▸ List.mem_cons_self)
    have hlength : nameLimit < name.utf8ByteSize ↔ False := by simp; omega
    rw [FileSystem.makeDirectories, if_neg (by simp [h.isDirectory, hlength]), if_neg hdown]
    have hlast (l : List String) : here ++ name :: l = (here ++ [name]) ++ l := by simp
    cases hat : files.at? (here ++ [name]) with
    | none =>
      have hput : (files.put (here ++ [name]) .directory).at? (here ++ [name]) =
          some .directory := by
        rw [at?_put (by simp), if_pos rfl]
      obtain ⟨made, hmade, hdir, hfar⟩ := ih (h.step (.inr rfl) hput)
      refine ⟨made, hmade, hlast rest ▸ hdir, fun there hthere => ?_⟩
      rw [List.length_cons] at hthere
      rw [hfar there (by simp; omega), at?_put (by simp), if_neg]
      rintro rfl
      simp at hthere
    | some e =>
      -- a directory may be there already, a file may not
      cases e with
      | file content =>
        have := h.noFile [name] ⟨rest, rfl⟩ content
        exact absurd hat this
      | directory =>
        obtain ⟨made, hmade, hdir, hfar⟩ := ih (h.step (.inl rfl) hat)
        refine ⟨made, hmade, hlast rest ▸ hdir, fun there hthere => ?_⟩
        rw [List.length_cons] at hthere
        exact hfar there (by simp; omega)

/-- `descend` along names that lead downwards leads to the location that they spell. -/
private theorem eq_append_of_descend (h : files.descend here names = .ok there)
    (hdown : ".." ∉ names) :
    there = here ++ names := by
  induction names generalizing here with
  | nil => simpa [descend, eq_comm] using h
  | cons name rest ih =>
    rw [descend] at h
    split at h
    · cases h
    · cases h
    split at h
    · cases h
    split at h
    -- only a name that leads upwards would take a location back
    · rename_i hup
      exact absurd (hup ▸ List.mem_cons_self) hdown
    · rw [ih h fun hup => hdown (List.mem_cons_of_mem _ hup)]
      simp

/-- Nothing is in the way of a file at a path. -/
structure IsOpen (files : FileSystem) (p : Path) : Prop where
  passable : files.Passable (files.start p) p.parent.parts
  nonempty : p.lastName ≠ ""
  notUp : p.lastName ≠ ".."
  nameLength : p.lastName.utf8ByteSize + temporaryExtra ≤ nameLimit
  pathLength : p.text.utf8ByteSize + temporaryExtra < pathLimit
  parentLength : p.parent.text.utf8ByteSize < pathLimit
  free : files.at? (files.start p ++ p.parts) ≠ some .directory

end FileSystem

/-- `replaceAt` succeeds where nothing is in the way and no fault hits. -/
theorem Disk.replaceAt_eq_true_of_isOpen {files : FileSystem} {p : Path} (h : files.IsOpen p)
    {fault : Option SaveStep} {sync : Bool} (hfault : SaveStep.hits fault sync = false)
    (content : ByteArray) : ∃ new, replaceAt files fault p sync content = (true, new) := by
  obtain ⟨made, hmade, hdir, hfar⟩ := h.passable.makeDirectories
  obtain ⟨dir, hdescend, -⟩ := FileSystem.exists_descend_of_makeDirectories hmade
  have hhome : made.home = files.home := by
    have := (FileSystem.grows_makeDirectories files (files.start p) p.parent.parts).home
    rwa [hmade] at this
  have hlocate : made.locate p.parent = .ok dir := by
    have hstart : made.start p.parent = files.start p := by
      rw [FileSystem.start, hhome]
      rfl
    have hlength := h.parentLength
    rw [FileSystem.locate, if_neg (by omega), hstart, hdescend]
  -- without steps upwards, the directory is where the names say, so the target lies just below
  obtain rfl := FileSystem.eq_append_of_descend hdescend h.passable.down
  have hparts := Disk.parts_eq_of_lastName h.nonempty
  have hroom : Disk.HasRoom made (files.start p ++ p.parent.parts) p := by
    refine ⟨h.nonempty, h.notUp, h.nameLength, h.pathLength, ?_⟩
    rw [hfar _ (by simp), List.append_assoc, ← hparts]
    exact h.free
  have hfirst : fault ≠ some .makeDirectory := by
    rintro rfl
    simp [SaveStep.hits] at hfault
  have hlength := h.parentLength
  have hready : ¬ (fault = some .makeDirectory ∨
      FileSystem.pathLimit ≤ p.parent.text.utf8ByteSize) := by
    rintro (hfault | hlong)
    · exact hfirst hfault
    · omega
  refine ⟨made.put (files.start p ++ p.parent.parts ++ [p.lastName]) (.file content), ?_⟩
  rw [replaceAt, if_neg hready, hmade]
  simp only
  rw [hlocate]
  exact Disk.replaceIn_eq_true hroom hfault

end DocStore
