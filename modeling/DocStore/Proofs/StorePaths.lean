import DocStore.Proofs.StoreNames

/-!
# Paths of stores

The file of a store is named after it. Whatever directory the path goes through and however it is
written, its last name is the name of the store with the suffix of store files, and it leads to
where this name says. The open stores have different names, so no two of them share a file.

## Key results

- `Path.lastName_ofString_text_child`: the last name of a path can be read off its text
- `Options.lastName_ofString_text_path`: so the name of a store can be, in any directory
- `Workspace.Reachable.filesApart`: no two open stores share a file
-/

namespace DocStore

/-! ## The last name -/

namespace Path

/-- A text after which a name begins. -/
def EndsName (before : List Char) : Prop := before = [] ∨ ∃ dir, before = dir ++ ['/']

/-- `EndsName` of two parts is that of the second, and of the first if the second is empty. -/
theorem EndsName.append {before : List Char} (h : EndsName before) (front : List Char)
    (hfront : EndsName front) : EndsName (front ++ before) := by
  rcases h with rfl | ⟨dir, rfl⟩
  · rw [List.append_nil]
    exact hfront
  · exact .inr ⟨front ++ dir, by rw [List.append_assoc]⟩

/-- `intercalate` of names with slashes ends in the last of them. -/
private theorem exists_intercalate_concat (names : List (List Char)) (last : List Char) :
    ∃ before, ['/'].intercalate (names ++ [last]) = before ++ last ∧ EndsName before := by
  induction names with
  | nil => exact ⟨[], by simp, .inl rfl⟩
  | cons name rest ih =>
    obtain ⟨before, hbefore, hends⟩ := ih
    refine ⟨name ++ ['/'] ++ before, ?_, hends.append _ (.inr ⟨name, rfl⟩)⟩
    rw [List.cons_append, List.intercalate_cons_of_ne_nil (by simp), hbefore]
    simp

/-- `text` of a path with one more name ends in this name. -/
private theorem exists_toList_text_child (p : Path) (name : String) :
    ∃ before, (p.child name).text.toList = before ++ name.toList ∧ EndsName before := by
  obtain ⟨before, hbefore, hends⟩ :=
    exists_intercalate_concat (p.parts.map String.toList) name.toList
  -- a name may stand behind every root
  have hroot : EndsName p.root.text.toList := by
    cases p.root with
    | relative => exact .inl rfl
    | slash => exact .inr ⟨[], rfl⟩
    | doubleSlash => exact .inr ⟨['/'], rfl⟩
  have htext : (p.child name).text = p.root.text ++ "/".intercalate (p.parts ++ [name]) := by
    rw [text, if_neg (by simp [child])]
    rfl
  refine ⟨p.root.text.toList ++ before, ?_, hends.append _ hroot⟩
  rw [htext, String.toList_append, String.toList_intercalate, List.map_append, List.append_assoc,
    ← hbefore]
  rfl

/-- `splitOn` splits off a name that begins where another one ends. -/
private theorem exists_splitOn_append {before name : List Char} (h : EndsName before)
    (hname : '/' ∉ name) : ∃ names, (before ++ name).splitOn '/' = names ++ [name] := by
  have hlast : name.splitOn '/' = [name] := List.splitOn_eq_singleton hname
  rcases h with rfl | ⟨dir, rfl⟩
  · exact ⟨[], hlast⟩
  · refine ⟨dir.splitOn '/', ?_⟩
    rw [List.append_assoc, List.singleton_append, List.splitOn_append_cons_self, hlast]

/-- `isName` holds of texts of more than one character. -/
private theorem isName_of_one_lt_length {name : List Char} (h : 1 < name.length) :
    isName name = true := by
  cases name with
  | nil => exact absurd h (by decide)
  | cons c rest =>
    cases rest with
    | nil => exact absurd h (Nat.lt_irrefl 1)
    | cons c' rest => simp [isName]

/-- `lastName` is the name that is put to a path. -/
private theorem lastName_child (p : Path) (name : String) : (p.child name).lastName = name := by
  simp [child, lastName]

/-- `lastName` can be read off the text of a path, if it is a name. -/
theorem lastName_ofString_text_child (p : Path) {name : String} (hslash : '/' ∉ name.toList)
    (hname : isName name.toList = true) : (ofString (p.child name).text).lastName = name := by
  obtain ⟨before, htext, hends⟩ := p.exists_toList_text_child name
  obtain ⟨names, hnames⟩ := exists_splitOn_append hends hslash
  have hlast : [name.toList].filter isName = [name.toList] := List.filter_cons_of_pos hname
  rw [lastName, ofString, htext, hnames, List.filter_append, hlast, List.map_append]
  simp

end Path

/-! ## The path of a store -/

namespace Options

/-- `fileName` has no slash in it. -/
private theorem slash_not_mem_fileName (o : Options) : '/' ∉ o.fileName.toList := by
  rw [fileName, String.toList_ofList, List.mem_append, not_or]
  constructor
  · intro hslash
    -- a name holds no separator
    have hany : o.name.text.toList.any isPathSeparator = true :=
      List.any_eq_true.2 ⟨'/', hslash, by decide⟩
    rw [o.name.noSeparator] at hany
    cases hany
  · decide

/-- `fileName` is a name. -/
private theorem isName_fileName (o : Options) : Path.isName o.fileName.toList = true := by
  apply Path.isName_of_one_lt_length
  simp [fileName, fileSuffix]

/-- `lastName` of a store's path is the name of its file. -/
private theorem lastName_path (o : Options) : o.path.lastName = o.fileName :=
  o.directory.lastName_child o.fileName

/-- `lastName` of the text of a store's path is the name of its file, however the directory is
written. -/
theorem lastName_ofString_text_path (o : Options) :
    (Path.ofString o.path.text).lastName = o.fileName :=
  o.directory.lastName_ofString_text_child o.slash_not_mem_fileName o.isName_fileName

/-- `locate` takes a store's path to where the name of the file says, if anywhere. -/
private theorem getLast?_of_locate_path {o : Options} {files : FileSystem} {there : Location}
    (h : files.locate o.path = .ok there) : there.getLast? = some o.fileName :=
  FileSystem.getLast?_of_locate_child h o.fileName_ne_up

end Options

/-! ## Open stores -/

namespace Workspace

/-- `Registered` stores that are different have files with different names. -/
private theorem Registered.fileName_ne {w : Workspace} (h : w.Registered) {name name' : String}
    {ref ref' : StoreRef} {s s' : Store} (hopen : w.Opened name ref s)
    (hopen' : w.Opened name' ref' s') (hne : ref ≠ ref') :
    s.options.fileName ≠ s'.options.fileName := by
  intro hfile
  -- one name for both would lead to one store
  have hname := Options.name_eq_of_fileName_eq hfile
  rw [h.name_of_opened hopen, h.name_of_opened hopen'] at hname
  have hget := hopen.get?
  rw [hname, hopen'.get?] at hget
  exact hne (Option.some.inj hget).symm

/-- The open stores keep to files of their own. -/
structure FilesApart (w : Workspace) : Prop where
  /-- The last name of a path is the name of the store with the suffix. -/
  lastName : ∀ name ref s, w.Opened name ref s →
    s.options.path.lastName.toList = name.toList ++ fileSuffix
  /-- So it is when the path is written and read. -/
  written : ∀ name ref s, w.Opened name ref s →
    (Path.ofString s.options.path.text).lastName = s.options.path.lastName
  /-- The paths of two stores end in different names. -/
  names : ∀ name name' ref ref' s s', w.Opened name ref s → w.Opened name' ref' s' → ref ≠ ref' →
    s.options.path.lastName ≠ s'.options.path.lastName
  /-- In no file system do they lead to one place. -/
  places : ∀ name name' ref ref' s s', w.Opened name ref s → w.Opened name' ref' s' → ref ≠ ref' →
    ∀ (files : FileSystem) (there there' : Location), files.locate s.options.path = .ok there →
      files.locate s'.options.path = .ok there' → there ≠ there'

/-- `Reachable` workspaces have open stores that keep to files of their own. -/
theorem Reachable.filesApart {w : Workspace} (h : w.Reachable) : w.FilesApart where
  lastName name ref s hopen := by
    rw [s.options.lastName_path, Options.fileName, String.toList_ofList,
      h.registered.name_of_opened hopen]
  written name ref s hopen := by
    rw [s.options.lastName_ofString_text_path, s.options.lastName_path]
  names name name' ref ref' s s' hopen hopen' hne := by
    rw [s.options.lastName_path, s'.options.lastName_path]
    exact h.registered.fileName_ne hopen hopen' hne
  places name name' ref ref' s s' hopen hopen' hne files there there' hthere hthere' := by
    intro heq
    -- where the paths meet, both file names are the last name
    have hlast := Options.getLast?_of_locate_path hthere
    rw [heq, Options.getLast?_of_locate_path hthere'] at hlast
    exact h.registered.fileName_ne hopen hopen' hne (Option.some.inj hlast).symm

/-- A workspace over a disk with a directory `d`. -/
def overDirectory : Workspace :=
  ⟨[], .empty, ⟨⟨.ofList [(["d"], .directory)], []⟩, []⟩, .counted "id" 4 [], none⟩

/-- `FilesApart` with two stores that are open in one directory that is written in two ways, one
under a name of dots and one under a name that ends in the suffix. -/
theorem Reachable.filesApart_oddNames :
    ∃ (w : Workspace) (s s' : Store), w.Reachable ∧ w.Opened ".." ⟨0⟩ s ∧
      w.Opened "a.json" ⟨1⟩ s' ∧ s.options.isInMemory = false ∧ s'.options.isInMemory = false ∧
      s.options.path.text = "d/../d/...json" ∧ s'.options.path.text = "d/a.json.json" ∧
      (w.disk.files.locate s.options.path matches .ok ["d", "...json"]) ∧
      (w.disk.files.locate s'.options.path matches .ok ["d", "a.json.json"]) ∧ w.FilesApart := by
  have hstart : overDirectory.Reachable := .start _ _ _
  have hopened := (hstart.asked (.named ".." (createIn "d/../d/"))).asked
    (.named "a.json.json" (createIn ".//d/."))
  exact ⟨_, _, _, hopened, ⟨rfl, rfl⟩, ⟨rfl, rfl⟩, rfl, rfl, by decide +kernel, by decide +kernel,
    by decide +kernel, by decide +kernel, hopened.filesApart⟩

end Workspace

end DocStore
