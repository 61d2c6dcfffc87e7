import DocStore.Proofs.SnapshotRoundTrip
import DocStore.Workspace

/-!
# Open stores

What opening and closing do to a workspace, and why two stores with different names can never share
a file: the name of a store is the last name of its path, and a path ends where its last name says.

## Key results

- `Workspace.name_eq_of_sameFile`: stores with different names have different files
- `Workspace.opens_openStore`: a store is handed out, loaded or created, or nothing happens
- `Workspace.Registered.withOpen`: a new store is the newest of its name
- `Workspace.openStore_close`: a store that is closed and opened again is loaded from its file
-/

namespace DocStore

/-! ## Files and their names -/

/-- `locate` takes a path with a name at its end to a location that ends with this name. -/
theorem FileSystem.getLast?_of_locate_child {files : FileSystem} {p : Path} {name : String}
    {there : Location} (h : files.locate (p.child name) = .ok there) (hup : name ≠ "..") :
    there.getLast? = some name := by
  unfold locate at h
  split at h
  · cases h
  rw [Path.child, descend_append] at h
  -- the path leads somewhere, and the name leads on from there
  cases hdescend : files.descend (files.start (p.child name)) p.parts with
  | error e =>
    rw [show files.start ⟨p.root, p.parts ++ [name]⟩ = files.start (p.child name) from rfl,
      hdescend] at h
    cases h
  | ok dir =>
    rw [show files.start ⟨p.root, p.parts ++ [name]⟩ = files.start (p.child name) from rfl,
      hdescend] at h
    simp only [Except.bind, descend, if_neg hup] at h
    split at h
    · cases h
    · cases h
    split at h
    · cases h
    · cases h
      simp

namespace Options

/-- `fileName` never leads upwards: it has its suffix. -/
theorem fileName_ne_up (o : Options) : o.fileName ≠ ".." := by
  intro h
  have hlength := congrArg (fun s : String => s.toList.length) h
  simp [fileName, fileSuffix] at hlength

/-- `name` is read off `fileName`. -/
theorem name_eq_of_fileName_eq {o o' : Options} (h : o.fileName = o'.fileName) :
    o.name.text = o'.name.text := by
  have hchars := List.append_cancel_right (String.ofList_inj.1 h)
  exact String.toList_inj.1 hchars

end Options

/-! ## Stores of a workspace -/

namespace Workspace

/-- The paths of two stores lead to one place. -/
def SameFile (w : Workspace) (s s' : Store) : Prop :=
  ∃ there, w.disk.files.locate s.options.path = .ok there ∧
    w.disk.files.locate s'.options.path = .ok there

/-- `SameFile` holds of no stores with different names. -/
theorem name_eq_of_sameFile {w : Workspace} {s s' : Store} (h : w.SameFile s s') :
    s.options.name.text = s'.options.name.text := by
  obtain ⟨there, hs, hs'⟩ := h
  -- where the two paths meet, both file names are the last name
  have hlast := FileSystem.getLast?_of_locate_child hs s.options.fileName_ne_up
  have hlast' := FileSystem.getLast?_of_locate_child hs' s'.options.fileName_ne_up
  refine Options.name_eq_of_fileName_eq (Option.some.inj ?_)
  rw [← hlast, ← hlast']

/-- No store with the same file has been opened after this one. -/
def IsLatest (w : Workspace) (ref : StoreRef) (s : Store) : Prop :=
  ∀ ref' s', w.store? ref' = some s' → ref.index < ref'.index →
    s'.options.isInMemory = false → ¬ w.SameFile s s'

/-- Every open store stands under its own name, and none of that name has been opened after it. -/
def Registered (w : Workspace) : Prop :=
  ∀ name ref, w.get? name = some ref → ∃ s, w.store? ref = some s ∧ s.options.name.text = name ∧
    ∀ ref' s', w.store? ref' = some s' → s'.options.name.text = name → ref'.index ≤ ref.index

/-- `Registered` stores are the latest ones with their files. -/
theorem Registered.isLatest {w : Workspace} (h : w.Registered) {name : String} {ref : StoreRef}
    {s : Store} (hget : w.get? name = some ref) (hs : w.store? ref = some s) :
    w.IsLatest ref s := by
  intro ref' s' hs' hlt hpersisted hfile
  -- a store with the same file has the same name, and was not made later
  obtain ⟨s₀, hs₀, hname, hlatest⟩ := h name ref hget
  rw [hs] at hs₀
  cases hs₀
  have := hlatest ref' s' hs' (name_eq_of_sameFile hfile ▸ hname)
  omega

/-! ## Opening -/

/-- Adds a store and opens it under its name. -/
def withOpen (w : Workspace) (s : Store) : Workspace :=
  { w with
    stores := w.stores ++ [s]
    registry := w.registry.insert s.options.name.text ⟨w.stores.length⟩ }

/-- `withOpen` adds a store behind all others. -/
theorem store?_withOpen (w : Workspace) (s : Store) (ref : StoreRef) :
    (w.withOpen s).store? ref =
      if ref = ⟨w.stores.length⟩ then some s else w.store? ref := by
  unfold store? withOpen
  split
  · rename_i h
    simp [h]
  · rename_i h
    have hne : ref.index ≠ w.stores.length := fun heq => h (by rw [← heq])
    simp only [List.getElem?_append, List.getElem?_singleton]
    split
    · rfl
    · rw [if_neg (by omega), List.getElem?_eq_none (by omega)]

/-- `store?` finds nothing behind the last store. -/
theorem store?_next (w : Workspace) : w.store? ⟨w.stores.length⟩ = none := by
  simp [store?]

/-- `store?` finds nothing beyond the number of stores. -/
theorem index_lt_of_store? {w : Workspace} {ref : StoreRef} {s : Store}
    (h : w.store? ref = some s) : ref.index < w.stores.length :=
  (List.getElem?_eq_some_iff.1 h).1

/-- What an attempt to open a store comes to. -/
inductive Opens (w : Workspace) (options : Options) (o : Outcome Workspace StoreRef) : Prop where
  /-- A store that is open already, or a failure. -/
  | same (state : o.state = w) (known : ∀ ref, o.result = .ok ref → ∃ s, w.store? ref = some s)
  /-- A store with the documents in its file. -/
  | loaded {docs : Collection} (state : o.state = w.withOpen ⟨options, docs⟩)
    (result : o.result = .ok ⟨w.stores.length⟩) (persisted : options.isInMemory = false)
    (present : Snapshot.presence w.disk.files options.path = .present)
    (load : Snapshot.load w.disk.files options.path = .ok docs)
  /-- An empty store without a file. -/
  | created (state : o.state = w.withOpen ⟨options, .empty⟩)
    (result : o.result = .ok ⟨w.stores.length⟩)
    (absent : options.isInMemory = true ∨
      Snapshot.presence w.disk.files options.path ≠ .present)

/-- `create` adds a store without documents, or fails; there was no file. -/
private theorem opens_create {w : Workspace} {options : Options}
    (absent : options.isInMemory = true ∨ Snapshot.presence w.disk.files options.path ≠ .present) :
    w.Opens options (w.create options) := by
  unfold create
  split
  · exact .created rfl rfl absent
  · exact .same rfl fun _ h => nomatch h

/-- `openNew` adds a store, or fails. -/
private theorem opens_openNew (w : Workspace) (options : Options) :
    w.Opens options (w.openNew options) := by
  unfold openNew
  split
  · rename_i hmemory
    exact opens_create (.inl hmemory)
  -- a store with a file: an odd path, something in the way, no file, or a file
  rename_i hpersisted
  split
  · exact .same rfl fun _ h => nomatch h
  · exact .same rfl fun _ h => nomatch h
  · rename_i habsent
    exact opens_create (.inr (by rw [habsent]; exact nofun))
  · rename_i hpresent
    split
    · exact .same rfl fun _ h => nomatch h
    · rename_i docs hload
      exact .loaded rfl rfl (by simpa using hpersisted) hpresent hload

/-- `openStore` hands out a store, adds one, or fails. -/
theorem opens_openStore (w : Workspace) (options : Options) :
    w.Opens options (w.openStore options) := by
  unfold openStore
  split
  · exact opens_openNew w options
  rename_i ref hget
  split
  · exact opens_openNew w options
  -- the name is that of an open store
  rename_i s hs
  split
  · refine .same rfl fun ref' h => ?_
    cases h
    exact ⟨s, hs⟩
  · exact .same rfl fun _ h => nomatch h

/-- `openNamed` is `openStore` with some options, or a failure. -/
theorem opens_openNamed (w : Workspace) (name : String) (keywords : List (String × Value)) :
    (w.openNamed name keywords).state = w ∧ (∃ e, (w.openNamed name keywords).result = .error e) ∨
      ∃ options, w.Opens options (w.openNamed name keywords) := by
  unfold openNamed withOptions
  split
  · exact .inl ⟨rfl, _, rfl⟩
  · exact .inr ⟨_, opens_openStore w _⟩

/-- `withOpen` leaves every open store under its own name. -/
theorem Registered.withOpen {w : Workspace} (h : w.Registered) (s : Store) :
    (w.withOpen s).Registered := by
  intro name ref hget
  have hget' : (w.registry.insert s.options.name.text ⟨w.stores.length⟩).get? name = some ref :=
    hget
  rw [Table.get?_insert] at hget'
  split at hget'
  · -- the new store comes after all others
    rename_i hname
    cases hget'
    refine ⟨s, by rw [store?_withOpen, if_pos rfl], hname.symm, fun ref' s' hs' _ => ?_⟩
    have := index_lt_of_store? hs'
    simp only [Workspace.withOpen, List.length_append, List.length_singleton] at this
    exact Nat.le_of_lt_succ this
  · rename_i hname
    -- another name has the store that it had, and the new one is not of that name
    obtain ⟨s₀, hs₀, hname₀, hlatest⟩ := h name ref hget'
    have hlt := index_lt_of_store? hs₀
    refine ⟨s₀, ?_, hname₀, fun ref' s' hs' hname' => ?_⟩
    · rw [store?_withOpen, if_neg, hs₀]
      rintro rfl
      exact Nat.lt_irrefl _ hlt
    · rw [store?_withOpen] at hs'
      split at hs'
      · cases hs'
        exact absurd hname'.symm hname
      · exact hlatest ref' s' hs' hname'

/-- `Opens` leaves the disk alone. -/
theorem disk_of_opens {w : Workspace} {options : Options} {o : Outcome Workspace StoreRef}
    (h : w.Opens options o) : o.state.disk = w.disk := by
  cases h with
  | same state known => rw [state]
  | loaded state => rw [state]; rfl
  | created state => rw [state]; rfl

/-! ## Closing -/

/-- `close` changes the registry only. -/
theorem close_state (w : Workspace) (name : String) :
    (w.close name).state = { w with registry := w.registry.erase name } ∨
      (w.close name).state = w := by
  unfold Workspace.close
  split
  · exact .inl rfl
  · exact .inr rfl

/-- `get?` after a `close` finds nothing that was not open before. -/
theorem get?_of_get?_close {w : Workspace} {name other : String} {ref : StoreRef}
    (h : (w.close name).state.get? other = some ref) : w.get? other = some ref := by
  rcases close_state w name with heq | heq
  · rw [heq] at h
    have h' : (w.registry.erase name).get? other = some ref := h
    rw [Table.get?_erase] at h'
    split at h'
    · cases h'
    · exact h'
  · rw [heq] at h
    exact h

/-- `get?` does not find a name that is closed. -/
theorem get?_close_self (w : Workspace) (name : String) :
    (w.close name).state.get? name = none := by
  unfold Workspace.close
  split
  · have hget := Table.get?_erase w.registry name name
    rw [if_pos rfl] at hget
    exact hget
  · rename_i hnot
    have hget : w.registry.get? name = none :=
      Table.contains_eq_false_iff.1 (by simpa using hnot)
    exact hget

/-- `close` leaves every store as it is. -/
theorem store?_close (w : Workspace) (name : String) (ref : StoreRef) :
    (w.close name).state.store? ref = w.store? ref := by
  rcases close_state w name with heq | heq <;> rw [heq]
  rfl

/-- `close` leaves the disk alone. -/
theorem disk_close (w : Workspace) (name : String) : (w.close name).state.disk = w.disk := by
  rcases close_state w name with heq | heq <;> rw [heq]

/-- `close` leaves every open store under its own name. -/
theorem Registered.close {w : Workspace} (h : w.Registered) (name : String) :
    (w.close name).state.Registered := by
  intro other ref hget
  obtain ⟨s, hs, hname, hlatest⟩ := h other ref (get?_of_get?_close hget)
  refine ⟨s, (store?_close _ _ _).trans hs, hname, fun ref' s' hs' => ?_⟩
  exact hlatest ref' s' ((store?_close _ _ _).symm.trans hs')

/-- `openStore` after `close` loads the file. -/
theorem openStore_close {w : Workspace} {name : String} {options : Options} {docs : Collection}
    (hname : options.name.text = name) (hpersisted : options.isInMemory = false)
    (hload : Snapshot.load w.disk.files options.path = .ok docs) :
    ((w.close name).state.openStore options).result = .ok ⟨w.stores.length⟩ ∧
      ((w.close name).state.openStore options).state.store? ⟨w.stores.length⟩ =
        some ⟨options, docs⟩ := by
  have hget := get?_close_self w name
  have hload' : Snapshot.load (w.close name).state.disk.files options.path = .ok docs := by
    rw [disk_close, hload]
  have hpresent := Snapshot.presence_of_load hload'
  have hstores : (w.close name).state.stores = w.stores := by
    rcases close_state w name with heq | heq <;> rw [heq]
  -- the name is free and the file is there, so the store is loaded
  have hopen : (w.close name).state.openStore options =
      (w.close name).state.register "loaded" ⟨options, docs⟩ := by
    rw [Workspace.openStore, hname, hget]
    simp only [Workspace.openNew, hpersisted, Bool.false_eq_true, if_false]
    rw [hpresent]
    simp only
    rw [hload']
  have hstate : ((w.close name).state.register "loaded" ⟨options, docs⟩).state =
      (w.close name).state.withOpen ⟨options, docs⟩ := rfl
  rw [hopen, hstate, Workspace.store?_withOpen, hstores, if_pos rfl]
  refine ⟨?_, rfl⟩
  rw [← hstores]
  rfl

end Workspace

end DocStore
