import DocStore.Proofs.Registry
import DocStore.Proofs.StoreSaves

/-!
# The files of a workspace

Several stores live side by side on one disk. A store is opened by name, used through its name and
closed; nothing but its own saves touches its file. So at every point the file of a store holds the
documents of its last successful save, or those it was loaded with.

`Tracked` is a workspace together with what its files are to hold; it is brought up to date from
what the caller sees of each call.

## Key results

- `Workspace.find_withCall`: a call leaves every file in its place but that of the store it saves
- `Tracked.Invariant.call`, `Tracked.Invariant.elsewhere`: the invariant of runs
- `Tracked.Reachable.filesFollow`: in every run the files follow the stores
-/

namespace DocStore

/-! ## Using stores -/

namespace Workspace

/-- Carries out a call of the open store of a name. -/
def useStore (w : Workspace) (name : String) (c : StoreCall) : Outcome Workspace StoreAnswer :=
  match w.get? name with
  | none => .fail (.notFound name) w
  | some ref => w.onStore ref c.outcome

/-- A store with what it draws on in a workspace. -/
def stateOf (w : Workspace) (s : Store) : StoreState := ⟨s, w.disk, w.ids⟩

/-- The workspace after a call of a store. -/
def withCall (w : Workspace) (ref : StoreRef) (s : Store) (c : StoreCall) : Workspace :=
  { w with
    stores := w.stores.set ref.index (c.outcome (w.stateOf s)).state.store
    disk := (c.outcome (w.stateOf s)).state.disk
    ids := (c.outcome (w.stateOf s)).state.ids }

/-- `useStore` of an open store leaves what `withCall` says. -/
private theorem useStore_state {w : Workspace} {name : String} {ref : StoreRef} {s : Store}
    (c : StoreCall) (hget : w.get? name = some ref) (hs : w.store? ref = some s) :
    (w.useStore name c).state = w.withCall ref s c := by
  unfold useStore onStore
  rw [hget]
  simp only
  rw [hs]
  rfl

/-- `withCall` leaves every store as it is but the one called. -/
private theorem store?_withCall {w : Workspace} {ref : StoreRef} {s : Store} (c : StoreCall)
    (hs : w.store? ref = some s) (ref' : StoreRef) :
    (w.withCall ref s c).store? ref' =
      if ref' = ref then some (c.outcome (w.stateOf s)).state.store else w.store? ref' := by
  have hlt := index_lt_of_store? hs
  unfold store? withCall
  simp only [List.getElem?_set]
  by_cases h : ref' = ref
  · subst h
    simp [hlt]
  -- stores are told apart by their numbers
  · have hne : ref.index ≠ ref'.index := by
      intro heq
      obtain ⟨i⟩ := ref
      obtain ⟨j⟩ := ref'
      exact h (congrArg StoreRef.mk heq.symm)
    rw [if_neg hne, if_neg h]

/-- `withCall` leaves the options of every store as they are. -/
theorem options_withCall {w : Workspace} {ref ref' : StoreRef} {s s' : Store} (c : StoreCall)
    (hs : w.store? ref = some s) (hs' : (w.withCall ref s c).store? ref' = some s') :
    ∃ s₀, w.store? ref' = some s₀ ∧ s₀.options = s'.options := by
  rw [store?_withCall c hs] at hs'
  split at hs'
  · rename_i heq
    cases hs'
    exact ⟨s, heq ▸ hs, (StoreCall.outcome_options c (w.stateOf s)).symm⟩
  · exact ⟨s', hs', rfl⟩

/-- Whether a call saves a store: it is not kept in memory, and the call has saved. -/
def saves (w : Workspace) (s : Store) (c : StoreCall) : Bool :=
  !s.options.isInMemory && c.hasSaved (w.stateOf s)

/-- `saves` a call that writes the documents that it leaves. -/
private theorem saveWith_of_saves {w : Workspace} {s : Store} {c : StoreCall}
    (h : w.saves s c = true) (ref : StoreRef) :
    StoreState.saveWith s.options w.disk (c.outcome (w.stateOf s)).state.store.docs =
      (.ok (), (w.withCall ref s c).disk) := by
  simp only [saves, Bool.and_eq_true, Bool.not_eq_true'] at h
  have heffect := c.saveEffect_outcome (s := w.stateOf s) h.1
  cases heffect with
  | idle _ unsaved => exact absurd h.2 (by rw [StoreCall.hasSaved, unsaved]; exact nofun)
  | saved written _ => exact written
  | failed _ unsaved => exact absurd h.2 (by rw [StoreCall.hasSaved, unsaved]; exact nofun)

/-- `withCall` of a call that does not save adds directories at most. -/
private theorem grows_withCall {w : Workspace} {s : Store} {c : StoreCall} (h : w.saves s c = false)
    (ref : StoreRef) : w.disk.files.Grows (w.withCall ref s c).disk.files := by
  cases hmemory : s.options.isInMemory with
  | true =>
    have hdisk : (w.withCall ref s c).disk = w.disk :=
      c.outcome_disk_of_isInMemory (s := w.stateOf s) hmemory
    rw [hdisk]
    exact .refl _
  | false =>
    have heffect := c.saveEffect_outcome (s := w.stateOf s) hmemory
    simp only [saves, hmemory, Bool.not_false, Bool.true_and] at h
    cases heffect with
    | idle same _ =>
      have hdisk : (w.withCall ref s c).disk = w.disk := same
      rw [hdisk]
      exact .refl _
    | saved _ saved => exact absurd saved (by rw [← StoreCall.hasSaved, h]; exact nofun)
    | failed refused _ => exact Snapshot.grows_of_save refused

/-- `withCall` takes no directory away. -/
private theorem keepsDirectories_withCall (w : Workspace) (ref : StoreRef) (s : Store)
    (c : StoreCall) :
    w.disk.files.KeepsDirectories (w.withCall ref s c).disk.files := by
  cases h : w.saves s c with
  | false => exact (grows_withCall h ref).keepsDirectories
  | true =>
    obtain ⟨-, text, there, -, hwrote⟩ := Snapshot.wrote_of_save (saveWith_of_saves h ref)
    exact hwrote.keeps

/-- `withCall` leaves every file in its place but that of the store that it saves. -/
theorem find_withCall {w : Workspace} {ref : StoreRef} {s s' : Store} {c : StoreCall}
    {content : ByteArray} (hfind : w.disk.files.find s'.options.path = .ok (.file content))
    (helse : w.saves s c = true → ¬ (w.withCall ref s c).SameFile s' s) :
    (w.withCall ref s c).disk.files.find s'.options.path = .ok (.file content) := by
  cases h : w.saves s c with
  | false => exact (grows_withCall h ref).find hfind
  | true =>
    obtain ⟨-, text, there, -, hwrote⟩ := Snapshot.wrote_of_save (saveWith_of_saves h ref)
    exact hwrote.find_elsewhere hfind fun hsame => helse h ⟨there, hsame, hwrote.locate⟩

/-- `withCall` leaves every open store under its own name. -/
theorem Registered.withCall {w : Workspace} (h : w.Registered) {ref : StoreRef} {s : Store}
    (c : StoreCall) (hs : w.store? ref = some s) : (w.withCall ref s c).Registered := by
  intro name found hget
  -- a name is an option, and options do not change
  obtain ⟨s₀, hs₀, hname, hlatest⟩ := h name found hget
  have hrest : ∀ ref' s', (w.withCall ref s c).store? ref' = some s' →
      s'.options.name.text = name → ref'.index ≤ found.index := by
    intro ref' s' hs' hname'
    obtain ⟨before, hbefore, hoptions⟩ := options_withCall c hs hs'
    exact hlatest ref' before hbefore (hoptions ▸ hname')
  rw [store?_withCall c hs]
  split
  · rename_i heq
    subst heq
    rw [hs] at hs₀
    cases hs₀
    exact ⟨_, rfl, (congrArg (·.name.text) (StoreCall.outcome_options c _)).trans hname, hrest⟩
  · exact ⟨s₀, hs₀, hname, hrest⟩

end Workspace

/-! ## What the files are to hold -/

/-- A workspace, and for each of its stores the documents that its file is to hold: those at the
later of its load and its last successful save, if there has been one. -/
structure Tracked where
  workspace : Workspace
  kept : StoreRef → Option Collection

/-- A call on a workspace. Stores are addressed by name. -/
inductive WorkspaceCall where
  | openStore (options : Options)
  | openNamed (name : String) (keywords : List (String × Value))
  | close (name : String)
  | use (name : String) (c : StoreCall)

/-- The objects that a call brings in have no repeated keys. -/
def WorkspaceCall.HasDistinctKeys : WorkspaceCall → Prop
  | .use _ c => c.Brings Value.DistinctKeys
  | _ => True

namespace Tracked

/-- The documents that a store has been loaded with: those that it has, if there was a file. -/
def loaded? (before after : Workspace) (ref : StoreRef) : Option Collection :=
  match after.store? ref with
  | some s =>
    if s.options.isInMemory = false ∧
        Snapshot.presence before.disk.files s.options.path = .present then some s.docs
    else none
  | none => none

/-- After an attempt to open a store. -/
def afterOpen (t : Tracked) (o : Outcome Workspace StoreRef) : Tracked where
  workspace := o.state
  kept := match o.result with
    | .ok ref => fun ref' =>
      -- a store that has been open before is not loaded again
      if ref' = ref ∧ t.workspace.store? ref = none then loaded? t.workspace o.state ref'
      else t.kept ref'
    | .error _ => t.kept

/-- After a call of the open store of a name. -/
def afterUse (t : Tracked) (name : String) (c : StoreCall) : Tracked where
  workspace := (t.workspace.useStore name c).state
  kept := match t.workspace.get? name with
    | none => t.kept
    | some ref =>
      match t.workspace.store? ref with
      | none => t.kept
      | some s => fun ref' =>
        if ref' = ref ∧ t.workspace.saves s c then
          some (c.outcome (t.workspace.stateOf s)).state.store.docs
        else t.kept ref'

/-- After a call. -/
def call (t : Tracked) : WorkspaceCall → Tracked
  | .openStore options => t.afterOpen (t.workspace.openStore options)
  | .openNamed name keywords => t.afterOpen (t.workspace.openNamed name keywords)
  | .close name => { t with workspace := (t.workspace.close name).state }
  | .use name c => t.afterUse name c

/-- Others leave the store files and the directories on the way to them alone. -/
def Spares (w : Workspace) (files : FileSystem) : Prop :=
  ∀ ref s there, w.store? ref = some s → w.disk.files.locate s.options.path = .ok there →
    files.locate s.options.path = .ok there ∧ files.at? there = w.disk.files.at? there

/-- The runs of a workspace: calls follow one another, whatever comes of them. The faults, the ids
to come, the environment and everything on the disk but the store files may change at any time. -/
inductive Reachable : Tracked → Prop where
  | start (disk : Disk) (ids : IdSource) (environment : Option String) :
    Reachable ⟨⟨[], .empty, disk, ids, environment⟩, fun _ => none⟩
  | called {t : Tracked} (before : Reachable t) (c : WorkspaceCall) (hc : c.HasDistinctKeys) :
    Reachable (t.call c)
  | elsewhere {t : Tracked} (before : Reachable t) (disk : Disk) (ids : IdSource)
    (environment : Option String) (spares : Spares t.workspace disk.files) :
    Reachable ⟨{ t.workspace with disk := disk, ids := ids, environment := environment }, t.kept⟩

/-- What holds at every point of a run. -/
structure Invariant (t : Tracked) : Prop where
  registered : t.workspace.Registered
  keeps : ∀ ref s, t.workspace.store? ref = some s → s.docs.Keeps Value.DistinctKeys
  files : ∀ ref s docs, t.workspace.store? ref = some s → t.kept ref = some docs →
    t.workspace.IsLatest ref s → Snapshot.load t.workspace.disk.files s.options.path = .ok docs

/-! ## The invariant -/

/-- `IsLatest` goes back to the state before, if the stores are the same and no directory has gone
away. -/
private theorem isLatest_of_isLatest {w w' : Workspace} {ref : StoreRef} {s s' : Store}
    (h : w'.IsLatest ref s') (hs' : w'.store? ref = some s') (hs : w.store? ref = some s)
    (hstores : ∀ ref s, w.store? ref = some s → ∃ s', w'.store? ref = some s' ∧
      s'.options = s.options)
    (hdisk : ∀ ref s there, w.store? ref = some s →
      w.disk.files.locate s.options.path = .ok there →
      w'.disk.files.locate s.options.path = .ok there) : w.IsLatest ref s := by
  -- a later store with the same file would still be one
  intro later t ht hlt hpersisted ⟨there, hhere, hthere⟩
  obtain ⟨s₁, hs₁, hoptions₁⟩ := hstores ref s hs
  rw [hs'] at hs₁
  cases hs₁
  obtain ⟨t', ht', hoptions⟩ := hstores later t ht
  refine h later t' ht' hlt (hoptions ▸ hpersisted) ⟨there, ?_, ?_⟩
  · rw [hoptions₁]
    exact hdisk ref s there hs hhere
  · rw [hoptions]
    exact hdisk later t there ht hthere

variable {t : Tracked}

/-- `Invariant` holds before there are stores. -/
private theorem invariant_start (disk : Disk) (ids : IdSource) (environment : Option String) :
    Invariant ⟨⟨[], .empty, disk, ids, environment⟩, fun _ => none⟩ where
  registered _ _ hget := nomatch hget
  keeps ref _ hs := by simp [Workspace.store?] at hs
  files _ _ _ _ hkept := nomatch hkept

/-- `Invariant` does not mind what goes on elsewhere. -/
theorem Invariant.elsewhere (h : t.Invariant) (disk : Disk) (ids : IdSource)
    (environment : Option String) (spares : Spares t.workspace disk.files) :
    Invariant ⟨{ t.workspace with disk := disk, ids := ids, environment := environment },
      t.kept⟩ where
  registered := h.registered
  keeps := h.keeps
  files ref s docs hs hkept hlatest := by
    have hs' : t.workspace.store? ref = some s := hs
    have hlatest' : t.workspace.IsLatest ref s :=
      isLatest_of_isLatest hlatest hs hs' (fun _ s hs => ⟨s, hs, rfl⟩)
        fun ref s there hs hlocate => (spares ref s there hs hlocate).1
    refine Snapshot.load_of_find_of_load (fun content hfind => ?_)
      (h.files ref s docs hs' hkept hlatest')
    -- the files of the stores are spared, so each still stands at its path
    obtain ⟨there, hlocate, hat⟩ := FileSystem.find_eq_ok_iff.1 hfind
    obtain ⟨hlocate', hat'⟩ := spares ref s there hs' hlocate
    exact FileSystem.find_eq_ok_iff.2 ⟨there, hlocate', hat'.trans hat⟩

/-- `Invariant` of a new store, which joins in with the documents that its file holds, or without
any. -/
theorem Invariant.withOpen (h : t.Invariant) {s : Store}
    (hkeeps : s.docs.Keeps Value.DistinctKeys) {kept : StoreRef → Option Collection}
    (hnew : ∀ docs, kept ⟨t.workspace.stores.length⟩ = some docs →
      Snapshot.load t.workspace.disk.files s.options.path = .ok docs)
    (hold : ∀ ref, ref ≠ ⟨t.workspace.stores.length⟩ → kept ref = t.kept ref) :
    Invariant ⟨t.workspace.withOpen s, kept⟩ where
  registered := h.registered.withOpen s
  keeps ref s' hs' := by
    rw [Workspace.store?_withOpen] at hs'
    split at hs'
    · cases hs'
      exact hkeeps
    · exact h.keeps ref s' hs'
  files ref s' docs hs' hkept hlatest := by
    have hs'' := hs'
    rw [Workspace.store?_withOpen] at hs'
    split at hs'
    · rename_i heq
      subst heq
      cases hs'
      exact hnew docs hkept
    · -- an older store that is the latest with its file was so without the new one
      rename_i hne
      refine h.files ref s' docs hs' (hold ref hne ▸ hkept) ?_
      refine isLatest_of_isLatest hlatest hs'' hs' (fun ref s hs => ⟨s, ?_, rfl⟩)
        fun _ _ _ _ hlocate => hlocate
      rw [Workspace.store?_withOpen, if_neg, hs]
      rintro rfl
      exact Nat.lt_irrefl _ (Workspace.index_lt_of_store? hs)

/-- `afterOpen` a new store is to hold what it has been loaded with. -/
private theorem kept_afterOpen_new {o : Outcome Workspace StoreRef} {ref : StoreRef}
    (hresult : o.result = .ok ref) (hnew : t.workspace.store? ref = none) :
    (t.afterOpen o).kept ref = loaded? t.workspace o.state ref := by
  simp only [Tracked.afterOpen, hresult, hnew, and_self, if_true]

/-- `afterOpen` every other store is to hold what it was to hold. -/
private theorem kept_afterOpen_other {o : Outcome Workspace StoreRef} {ref ref' : StoreRef}
    (hresult : o.result = .ok ref) (hne : ref' ≠ ref) :
    (t.afterOpen o).kept ref' = t.kept ref' := by
  simp only [Tracked.afterOpen, hresult, hne, false_and, if_false]

/-- `Invariant` after an attempt to open a store, whatever comes of it. -/
private theorem Invariant.afterOpen (h : t.Invariant) {options : Options}
    {o : Outcome Workspace StoreRef} (hopens : t.workspace.Opens options o) :
    (t.afterOpen o).Invariant := by
  have hnext := Workspace.store?_next t.workspace
  cases hopens with
  | same hstate known =>
    have hsame : t.afterOpen o = t := by
      unfold Tracked.afterOpen
      rw [hstate]
      split
      · -- the store is known, so there is nothing to be noted
        rename_i ref hresult
        obtain ⟨s, hs⟩ := known ref hresult
        simp only [hs, reduceCtorEq, and_false, if_false]
      · rfl
    rw [hsame]
    exact h
  | @loaded docs hstate hresult persisted present load =>
    -- the file holds what has just been loaded from it
    have hkept := kept_afterOpen_new hresult hnext
    have hloaded : loaded? t.workspace o.state ⟨t.workspace.stores.length⟩ = some docs := by
      rw [loaded?, hstate, Workspace.store?_withOpen, if_pos rfl]
      exact if_pos ⟨persisted, present⟩
    have hopen := h.withOpen (s := ⟨options, docs⟩) (Snapshot.keeps_distinctKeys_of_load load)
      (fun docs' hdocs' => by rw [hkept, hloaded] at hdocs'; cases hdocs'; exact load)
      fun ref hne => kept_afterOpen_other hresult hne
    rw [← hstate] at hopen
    exact hopen
  | created hstate hresult absent =>
    -- there is no file, or none that the store would read
    have hkept := kept_afterOpen_new hresult hnext
    have hloaded : loaded? t.workspace o.state ⟨t.workspace.stores.length⟩ = none := by
      rw [loaded?, hstate, Workspace.store?_withOpen, if_pos rfl]
      refine if_neg ?_
      rintro ⟨hpersisted, hpresent⟩
      rcases absent with hmemory | hnot
      · rw [hpersisted] at hmemory
        cases hmemory
      · exact hnot hpresent
    have hopen := h.withOpen (s := ⟨options, .empty⟩) Collection.keeps_empty
      (fun docs' hdocs' => by rw [hkept, hloaded] at hdocs'; exact nomatch hdocs')
      fun ref hne => kept_afterOpen_other hresult hne
    rw [← hstate] at hopen
    exact hopen

/-- `Invariant` does not mind that a store is closed. -/
theorem Invariant.close (h : t.Invariant) (name : String) :
    Invariant { t with workspace := (t.workspace.close name).state } where
  registered := h.registered.close name
  keeps ref s hs := h.keeps ref s ((Workspace.store?_close _ _ _).symm.trans hs)
  files ref s docs hs hkept hlatest := by
    have hdisk := t.workspace.disk_close name
    have hs' := (Workspace.store?_close _ _ _).symm.trans hs
    have hlatest' : t.workspace.IsLatest ref s :=
      isLatest_of_isLatest hlatest hs hs'
        (fun ref s hs => ⟨s, (Workspace.store?_close _ _ _).trans hs, rfl⟩)
        fun ref s there hs hlocate => by rw [hdisk]; exact hlocate
    have hload := h.files ref s docs hs' hkept hlatest'
    rw [← hdisk] at hload
    exact hload

/-- `afterUse` the store that a call saves is to hold what it has been saved with. -/
private theorem kept_afterUse_saved {name : String} {ref : StoreRef} {s : Store} {c : StoreCall}
    (hget : t.workspace.get? name = some ref) (hs : t.workspace.store? ref = some s)
    (hsaves : t.workspace.saves s c = true) :
    (t.afterUse name c).kept ref = some (c.outcome (t.workspace.stateOf s)).state.store.docs := by
  simp only [afterUse, hget, hs, hsaves, and_self, if_true]

/-- `afterUse` every other store is to hold what it was to hold. -/
private theorem kept_afterUse_other {name : String} {ref ref' : StoreRef} {s : Store}
    {c : StoreCall} (hget : t.workspace.get? name = some ref) (hs : t.workspace.store? ref = some s)
    (hnot : ¬ (ref' = ref ∧ t.workspace.saves s c = true)) :
    (t.afterUse name c).kept ref' = t.kept ref' := by
  simp only [afterUse, hget, hs, if_neg hnot]

/-- `IsLatest` after a call was so before. -/
private theorem isLatest_of_withCall {w : Workspace} {ref ref' : StoreRef} {s s₀ s' : Store}
    {c : StoreCall} (hs : w.store? ref = some s) (hs₀ : w.store? ref' = some s₀)
    (hs' : (w.withCall ref s c).store? ref' = some s')
    (hlatest : (w.withCall ref s c).IsLatest ref' s') : w.IsLatest ref' s₀ := by
  refine isLatest_of_isLatest hlatest hs' hs₀ (fun ref₁ s₁ hs₁ => ?_)
    fun _ _ _ _ hlocate => (Workspace.keepsDirectories_withCall w ref s c).locate hlocate
  rw [Workspace.store?_withCall c hs]
  split
  · rename_i heq
    subst heq
    rw [hs] at hs₁
    cases hs₁
    exact ⟨_, rfl, c.outcome_options _⟩
  · exact ⟨s₁, hs₁, rfl⟩

/-- `SameFile` as an open store that is saved has no other one, unless that one is older: of those
with its name, the open store is the newest. -/
private theorem not_sameFile_of_isLatest {w : Workspace} (hregistered : w.Registered)
    {name : String} {ref ref' : StoreRef} {s s₀ s' : Store} {c : StoreCall}
    (hget : w.get? name = some ref) (hs : w.store? ref = some s) (hs₀ : w.store? ref' = some s₀)
    (hoptions : s₀.options = s'.options) (hlatest : (w.withCall ref s c).IsLatest ref' s')
    (hne : ref' ≠ ref) (hpersisted : s.options.isInMemory = false) :
    ¬ (w.withCall ref s c).SameFile s₀ s := by
  intro hfile
  obtain ⟨s₁, hs₁, hname₁, hnewest⟩ := hregistered name ref hget
  rw [hs] at hs₁
  cases hs₁
  have hle := hnewest ref' s₀ hs₀ ((Workspace.name_eq_of_sameFile hfile).trans hname₁)
  have hindex : ref'.index ≠ ref.index := fun heq => hne (congrArg StoreRef.mk heq)
  have hafter : (w.withCall ref s c).store? ref = some (c.outcome (w.stateOf s)).state.store := by
    rw [Workspace.store?_withCall c hs, if_pos rfl]
  have hsame := c.outcome_options (w.stateOf s)
  -- the saved store was made later, so its file would make the other one out of date
  refine hlatest ref _ hafter (by omega) (by rw [hsame]; exact hpersisted) ?_
  obtain ⟨there, hhere, hthere⟩ := hfile
  exact ⟨there, hoptions ▸ hhere, by rw [hsame]; exact hthere⟩

/-- `Invariant` after a call of an open store, whatever comes of it. -/
theorem Invariant.withCall (h : t.Invariant) {name : String} {ref : StoreRef} {s : Store}
    {c : StoreCall} (hget : t.workspace.get? name = some ref)
    (hs : t.workspace.store? ref = some s) (hc : c.Brings Value.DistinctKeys) :
    Invariant ⟨t.workspace.withCall ref s c, (t.afterUse name c).kept⟩ where
  registered := h.registered.withCall c hs
  keeps ref' s' hs' := by
    rw [Workspace.store?_withCall c hs] at hs'
    split at hs'
    · cases hs'
      exact c.keeps_outcome Value.hereditary_distinctKeys (h.keeps ref s hs) hc
    · exact h.keeps ref' s' hs'
  files ref' s' docs hs' hkept hlatest := by
    obtain ⟨s₀, hs₀, hoptions⟩ := Workspace.options_withCall c hs hs'
    by_cases hself : ref' = ref ∧ t.workspace.saves s c = true
    · -- the store has just been saved
      obtain ⟨rfl, hsaves⟩ := hself
      rw [hs] at hs₀
      cases hs₀
      rw [kept_afterUse_saved hget hs hsaves] at hkept
      cases hkept
      have hkeeps := c.keeps_outcome (s := t.workspace.stateOf s) Value.hereditary_distinctKeys
        (h.keeps ref' s hs) hc
      rw [← hoptions]
      exact Snapshot.load_of_save_eq_ok hkeeps (Workspace.saveWith_of_saves hsaves ref')
    · -- the file is as it was before the call
      rw [kept_afterUse_other hget hs hself] at hkept
      have hload := h.files ref' s₀ docs hs₀ hkept (isLatest_of_withCall hs hs₀ hs' hlatest)
      rw [← hoptions]
      refine Snapshot.load_of_find_of_load (fun content hfind => ?_) hload
      refine Workspace.find_withCall hfind fun hsaves => ?_
      have hne : ref' ≠ ref := fun heq => hself ⟨heq, hsaves⟩
      have hpersisted : s.options.isInMemory = false := by
        simp only [Workspace.saves, Bool.and_eq_true, Bool.not_eq_true'] at hsaves
        exact hsaves.1
      exact not_sameFile_of_isLatest h.registered hget hs hs₀ hoptions hlatest hne hpersisted

/-- `Invariant` after a call by name, whether or not the store is open. -/
private theorem Invariant.afterUse (h : t.Invariant) (name : String) {c : StoreCall}
    (hc : c.Brings Value.DistinctKeys) : (t.afterUse name c).Invariant := by
  cases hget : t.workspace.get? name with
  | none =>
    have hsame : t.afterUse name c = t := by
      simp only [Tracked.afterUse, Workspace.useStore, hget]
      rfl
    rw [hsame]
    exact h
  | some ref =>
    obtain ⟨s, hs, -, -⟩ := h.registered name ref hget
    have hstate := Workspace.useStore_state c hget hs
    have hcall := h.withCall hget hs hc
    rw [← hstate] at hcall
    exact hcall

/-- `Invariant` is kept by every call. -/
theorem Invariant.call (h : t.Invariant) {c : WorkspaceCall} (hc : c.HasDistinctKeys) :
    (t.call c).Invariant := by
  cases c with
  | openStore options => exact h.afterOpen (t.workspace.opens_openStore options)
  | openNamed name keywords =>
    rcases t.workspace.opens_openNamed name keywords with ⟨hstate, e, hresult⟩ | ⟨options, hopens⟩
    -- there are no options, so nothing is opened
    · have hsame : t.afterOpen (t.workspace.openNamed name keywords) = t := by
        simp only [Tracked.afterOpen, hstate, hresult]
      change (t.afterOpen (t.workspace.openNamed name keywords)).Invariant
      rw [hsame]
      exact h
    · exact h.afterOpen hopens
  | close name => exact h.close name
  | use name c => exact h.afterUse name hc

/-- `Invariant` holds at every point of a run. -/
private theorem Reachable.invariant (h : t.Reachable) : t.Invariant := by
  -- one step of the run at a time
  induction h with
  | start disk ids environment => exact invariant_start disk ids environment
  | called before c hc ih => exact ih.call hc
  | elsewhere before disk ids environment spares ih =>
    exact ih.elsewhere disk ids environment spares

/-! ## The files follow the stores -/

/-- The store that a call on a workspace saves. -/
def SavedBy (t : Tracked) : WorkspaceCall → Store → Prop
  | .use name c, s => ∃ ref, t.workspace.get? name = some ref ∧ t.workspace.store? ref = some s ∧
      t.workspace.saves s c = true
  | _, _ => False

/-- How the files follow the stores. -/
structure FilesFollow (t : Tracked) : Prop where
  /-- The file of an open store that was loaded or has been saved holds the documents at the later
  of its load and its last successful save. -/
  opened : ∀ name ref s docs, t.workspace.get? name = some ref → t.workspace.store? ref = some s →
    t.kept ref = some docs → Snapshot.load t.workspace.disk.files s.options.path = .ok docs
  /-- So does the file of any store, be it closed, until a store with the same file is opened. -/
  latest : ∀ ref s docs, t.workspace.store? ref = some s → t.kept ref = some docs →
    t.workspace.IsLatest ref s → Snapshot.load t.workspace.disk.files s.options.path = .ok docs
  /-- Stores with different names have different files. -/
  separate : ∀ s s' : Store, s.options.name.text ≠ s'.options.name.text →
    ¬ t.workspace.SameFile s s'
  /-- A call leaves the file of a store as it is, byte by byte, unless it saves a store with that
  file. -/
  spared : ∀ c s content, t.workspace.disk.files.find s.options.path = .ok (.file content) →
    (∀ s', t.SavedBy c s' → ¬ (t.call c).workspace.SameFile s s') →
    (t.call c).workspace.disk.files.find s.options.path = .ok (.file content)
  /-- A store that is as it was saved comes back with the same documents when it is closed and
  opened again. -/
  reopened : ∀ name ref s options, t.workspace.get? name = some ref →
    t.workspace.store? ref = some s → t.kept ref = some s.docs →
    options.name.text = name → options.path = s.options.path → options.isInMemory = false →
    ∃ ref', ((t.workspace.close name).state.openStore options).result = .ok ref' ∧
      ((t.workspace.close name).state.openStore options).state.store? ref' =
        some ⟨options, s.docs⟩

/-- `call` leaves every file in its place but that of the store that it saves. -/
private theorem find_call (hregistered : t.workspace.Registered) {c : WorkspaceCall} {s : Store}
    {content : ByteArray} (hfind : t.workspace.disk.files.find s.options.path = .ok (.file content))
    (helse : ∀ s', t.SavedBy c s' → ¬ (t.call c).workspace.SameFile s s') :
    (t.call c).workspace.disk.files.find s.options.path = .ok (.file content) := by
  cases c with
  | openStore options =>
    have hdisk : (t.call (.openStore options)).workspace.disk = t.workspace.disk :=
      Workspace.disk_of_opens (t.workspace.opens_openStore options)
    rw [hdisk, hfind]
  | openNamed name keywords =>
    have hdisk : (t.call (.openNamed name keywords)).workspace.disk = t.workspace.disk := by
      rcases t.workspace.opens_openNamed name keywords with ⟨hstate, -⟩ | ⟨options, hopens⟩
      · exact congrArg Workspace.disk hstate
      · exact Workspace.disk_of_opens hopens
    rw [hdisk, hfind]
  | close name =>
    have hdisk : (t.call (.close name)).workspace.disk = t.workspace.disk :=
      Workspace.disk_close _ name
    rw [hdisk, hfind]
  | use name c =>
    have hstate : (t.call (.use name c)).workspace = (t.workspace.useStore name c).state := rfl
    cases hget : t.workspace.get? name with
    | none =>
      rw [hstate, Workspace.useStore, hget]
      exact hfind
    | some ref =>
      -- the call reaches the open store, and that is the one it may save
      obtain ⟨s', hs', -, -⟩ := hregistered name ref hget
      rw [Workspace.useStore_state c hget hs'] at hstate
      rw [hstate]
      refine Workspace.find_withCall hfind fun hsaves hfile => ?_
      refine helse s' ⟨ref, hget, hs', hsaves⟩ ?_
      rw [hstate]
      exact hfile

/-- `FilesFollow` the stores at every point of a run. -/
theorem Reachable.filesFollow (h : t.Reachable) : t.FilesFollow where
  opened name ref s docs hget hs hkept :=
    h.invariant.files ref s docs hs hkept (h.invariant.registered.isLatest hget hs)
  latest := h.invariant.files
  separate _ _ hname hfile := hname (Workspace.name_eq_of_sameFile hfile)
  spared _ _ _ hfind helse := find_call h.invariant.registered hfind helse
  reopened name ref s options hget hs hkept hname hpath hpersisted := by
    have hload := h.invariant.files ref s s.docs hs hkept (h.invariant.registered.isLatest hget hs)
    rw [← hpath] at hload
    exact ⟨_, Workspace.openStore_close hname hpersisted hload⟩

/-- `Reachable` is what a run of calls leads to. -/
theorem Reachable.foldl {t : Tracked} (h : t.Reachable) {calls : List WorkspaceCall}
    (hcalls : ∀ c ∈ calls, c.HasDistinctKeys) : (calls.foldl call t).Reachable :=
  List.foldlRecOn calls call h fun _ ht c hc => ht.called c (hcalls c hc)

/-- Two stores on one disk. The second save of the first one fails; then the second one is saved. -/
def sampleRun : Tracked :=
  [WorkspaceCall.openNamed "a" [("create_if_not_exists", .bool true)],
    .openNamed "b" [("create_if_not_exists", .bool true), ("dirname", .text "d/..")],
    .use "a" (.insert (.object []) false),
    .use "a" (.insert (.object []) false),
    .use "b" (.insert (.object []) false)].foldl call
  ⟨⟨[], .empty, ⟨.empty, [none, some .replace]⟩, .counted "id" 4 [], none⟩, fun _ => none⟩

/-- `FilesFollow` in a run with a call that saves and one that does not. -/
theorem Reachable.filesFollow_sampleRun :
    ∃ s docs, sampleRun.workspace.get? "a" = some ⟨0⟩ ∧
      sampleRun.workspace.store? ⟨0⟩ = some s ∧ s.docs.keys = ["id0000", "id0001"] ∧
      docs.keys = ["id0000"] ∧
      Snapshot.load sampleRun.workspace.disk.files s.options.path = .ok docs := by
  have hempty : Value.DistinctKeys (.object []) := .object List.nodup_nil fun _ he => nomatch he
  -- the inserted documents have no keys that could come twice
  have hrun : sampleRun.Reachable := by
    refine (Reachable.start _ _ _).foldl fun c hc => ?_
    simp only [List.mem_cons, List.not_mem_nil, or_false] at hc
    rcases hc with rfl | rfl | rfl | rfl | rfl
    · trivial
    · trivial
    · exact hempty
    · exact hempty
    · exact hempty
  have hget : sampleRun.workspace.get? "a" = some ⟨0⟩ := by decide +kernel
  have hstore : (sampleRun.workspace.store? ⟨0⟩).map (·.docs.keys) =
      some ["id0000", "id0001"] := by decide +kernel
  have hkept : (sampleRun.kept ⟨0⟩).map Table.keys = some ["id0000"] := by decide +kernel
  obtain ⟨s, hs, hkeys⟩ := Option.map_eq_some_iff.1 hstore
  obtain ⟨docs, hdocs, hdocskeys⟩ := Option.map_eq_some_iff.1 hkept
  exact ⟨s, docs, hget, hs, hkeys, hdocskeys, hrun.filesFollow.opened "a" ⟨0⟩ s docs hget hs hdocs⟩

end Tracked

end DocStore
