import DocStore.Proofs.KeyHistory
import DocStore.Proofs.WorkspaceFiles

/-!
# Open names

What a caller can rely on when stores are opened and closed by name: a store is open under its own
name, the names are listed in the order in which they were opened since they were last closed, and
an open that fails has done nothing. The name of an open store leads to that store, or to a conflict
where one of the other kind is asked for.

Whether a store is of the kind that is asked for is a comparison of two values, which need not be
truth values. Here they are.

## Key results

- `Workspace.openOutcome_openStore`: what opening a store can come to
- `OpenRequest.outcome_cases`: what a request to open a store comes to
- `Workspace.Reachable.registered`: in every state that a workspace can come to, the open stores
  stand under their own names
- `Workspace.History.follows`: the open names in these states, if every request has a kind
- `Workspace.History.keepsRegistry`: what a caller can rely on in these states
-/

namespace DocStore

/-! ## Kinds -/

/-- The options say by a truth value whether a store is kept in memory. -/
def Options.HasKind (o : Options) : Prop := ∃ b, o.inMemory = .bool b

/-- `make` takes the kind from its keyword; without it a store is not kept in memory. -/
private theorem Options.inMemory_of_make {environment : Option String} {name : Value}
    {keywords : List (String × Value)} {o : Options}
    (h : Options.make environment name keywords = .ok o) :
    o.inMemory = (keywords.lookup "in_memory").getD (.bool false) := by
  unfold Options.make at h
  split at h
  · cases h
  dsimp only at h
  split at h
  · cases h
  split at h
  · cases h
  · cases h
    rfl

/-- `same` tells of two kinds that are truth values whether both or none of the stores are kept in
memory. -/
theorem Options.same_inMemory {o o' : Options} (h : o.HasKind) (h' : o'.HasKind) :
    o.inMemory.same o'.inMemory = (o.isInMemory == o'.isInMemory) := by
  obtain ⟨b, hb⟩ := h
  obtain ⟨b', hb'⟩ := h'
  rw [isInMemory, isInMemory, hb, hb']
  cases b <;> cases b' <;> decide +kernel

namespace Workspace

/-! ## Opening a store -/

/-- What opening a store can come to. -/
inductive OpenOutcome (w : Workspace) (options : Options) : Outcome Workspace StoreRef → Prop where
  /-- The store of the name is open already, and of the kind that is asked for. -/
  | shared {ref : StoreRef} {s : Store} (opened : w.get? options.name.text = some ref)
    (store : w.store? ref = some s)
    (kind : s.options.inMemory.same options.inMemory = true) :
    OpenOutcome w options (.answer ref w)
  /-- It is open, and of the other kind. -/
  | conflicting {ref : StoreRef} {s : Store} (opened : w.get? options.name.text = some ref)
    (store : w.store? ref = some s)
    (kind : s.options.inMemory.same options.inMemory = false) :
    OpenOutcome w options (.fail (.conflict options.name.text s.options.isInMemory) w)
  /-- No store of the name is open, and none is loaded or created. -/
  | refused {e : Failure} (closed : w.get? options.name.text = none) :
    OpenOutcome w options (.fail e w)
  /-- A store is loaded or created. -/
  | added {docs : Collection} {records : List Log.Record}
    (closed : w.get? options.name.text = none) :
    OpenOutcome w options ⟨.ok ⟨w.stores.length⟩, w.withOpen ⟨options, docs⟩, records⟩

variable {w : Workspace} {options : Options}

/-- `openNew` loads or creates a store, or leaves everything as it is. -/
private theorem openOutcome_openNew (closed : w.get? options.name.text = none) :
    w.OpenOutcome options (w.openNew options) := by
  have hcreate : w.OpenOutcome options (w.create options) := by
    unfold create
    split
    · exact .added closed
    · exact .refused closed
  -- in memory a store is created; else the file decides
  unfold openNew
  split
  · exact hcreate
  split
  · exact .refused closed
  · exact .refused closed
  · exact hcreate
  · split
    · exact .refused closed
    · exact .added closed

/-- `openStore` hands out an open store if it is of the kind that is asked for. -/
theorem openStore_of_get? {ref : StoreRef} {s : Store}
    (hget : w.get? options.name.text = some ref) (hs : w.store? ref = some s) :
    w.openStore options = if s.options.inMemory.same options.inMemory then .answer ref w
      else .fail (.conflict options.name.text s.options.isInMemory) w := by
  unfold openStore
  rw [hget]
  dsimp only
  rw [hs]

/-- `openStore` comes to one of the four cases. -/
theorem openOutcome_openStore (h : w.Registered) (options : Options) :
    w.OpenOutcome options (w.openStore options) := by
  cases hget : w.get? options.name.text with
  | none =>
    have hnew : w.openStore options = w.openNew options := by rw [openStore, hget]
    rw [hnew]
    exact openOutcome_openNew hget
  | some ref =>
    -- the name is open, so there is a store under it
    obtain ⟨s, hs, -⟩ := h _ ref hget
    rw [openStore_of_get? hget hs]
    split
    · rename_i hkind
      exact .shared hget hs hkind
    · rename_i hkind
      exact .conflicting hget hs (by simpa using hkind)

end Workspace

/-! ## Requests -/

/-- A request to open a store: with options, or with a name and keywords. -/
inductive OpenRequest where
  | given (options : Options)
  | named (name : String) (keywords : List (String × Value))

namespace OpenRequest

open Workspace

/-- The options of a request. -/
def options? (environment : Option String) : OpenRequest → Except OptionsFault Options
  | .given options => .ok options
  | .named name keywords => Options.make environment (.text name) keywords

/-- Answers a request. -/
def outcome : OpenRequest → Workspace → Outcome Workspace StoreRef
  | .given options, w => w.openStore options
  | .named name keywords, w => w.openNamed name keywords

/-- If there are options for a request, the kind in them is a truth value. -/
def HasKind (r : OpenRequest) (environment : Option String) : Prop :=
  ∀ options, r.options? environment = .ok options → options.HasKind

/-- `HasKind` holds of a request where the keyword for the kind has a truth value or is not there.
-/
private theorem hasKind_named {name : String} {keywords : List (String × Value)}
    (h : ∀ v, keywords.lookup "in_memory" = some v → ∃ b, v = .bool b)
    (environment : Option String) : (named name keywords).HasKind environment := by
  intro options hmake
  have hgiven := Options.inMemory_of_make
    (show Options.make environment (.text name) keywords = .ok options from hmake)
  cases hlookup : keywords.lookup "in_memory" with
  | none =>
    rw [hlookup] at hgiven
    exact ⟨false, hgiven⟩
  | some v =>
    obtain ⟨b, rfl⟩ := h v hlookup
    rw [hlookup] at hgiven
    exact ⟨b, hgiven⟩

/-- What a request does to the open names: the name of the store that it hands out is open. -/
def events (r : OpenRequest) (w : Workspace) : List (KeyEvent String) :=
  match r.options? w.environment, (r.outcome w).result with
  | .ok options, .ok _ => [.entered options.name.text]
  | _, _ => []

variable {w : Workspace} {r : OpenRequest} {options : Options} {history : List (KeyEvent String)}

/-- `outcome` of a request with options is `openStore` with them. -/
theorem outcome_of_options? (h : r.options? w.environment = .ok options) :
    r.outcome w = w.openStore options := by
  cases r with
  | given given =>
    cases h
    rfl
  | named name keywords =>
    have hmake : Options.make w.environment (.text name) keywords = .ok options := h
    change w.withOptions (.text name) keywords w.openStore = _
    rw [withOptions, hmake]

/-- `outcome` of a request without options is a failure that changes nothing. -/
private theorem outcome_of_options?_eq_error {e : OptionsFault}
    (h : r.options? w.environment = .error e) : r.outcome w = .fail (.options e) w := by
  cases r with
  | given given => cases h
  | named name keywords =>
    have hmake : Options.make w.environment (.text name) keywords = .error e := h
    change w.withOptions (.text name) keywords w.openStore = _
    rw [withOptions, hmake]

/-- `outcome` is a failure that changes nothing, or it hands out the store that is open under the
name, or it adds a store with the options that are asked for. -/
theorem outcome_cases (h : w.Registered) (r : OpenRequest) :
    (∃ e, r.outcome w = .fail e w) ∨ ∃ options, r.options? w.environment = .ok options ∧
      ((∃ ref, w.get? options.name.text = some ref ∧ r.outcome w = .answer ref w) ∨
        ∃ docs records, r.outcome w =
          ⟨.ok ⟨w.stores.length⟩, w.withOpen ⟨options, docs⟩, records⟩) := by
  cases hoptions : r.options? w.environment with
  | error e => exact .inl ⟨_, outcome_of_options?_eq_error hoptions⟩
  | ok options =>
    have hcases := openOutcome_openStore h options
    rw [← outcome_of_options? hoptions] at hcases
    generalize r.outcome w = o at *
    cases hcases with
    | shared opened => exact .inr ⟨options, rfl, .inl ⟨_, opened, rfl⟩⟩
    | conflicting | refused => exact .inl ⟨_, rfl⟩
    | added => exact .inr ⟨options, rfl, .inr ⟨_, _, rfl⟩⟩

/-- `events` of a request that fails: none. -/
private theorem events_of_fail {e : Failure} (h : r.outcome w = .fail e w) : r.events w = [] := by
  rw [events, h]
  cases r.options? w.environment <;> rfl

/-- `events` of a request that hands out a store: its name is open. -/
private theorem events_of_ok {ref : StoreRef} (hoptions : r.options? w.environment = .ok options)
    (h : (r.outcome w).result = .ok ref) : r.events w = [.entered options.name.text] := by
  rw [events, hoptions, h]

end OpenRequest

namespace Workspace

variable {w : Workspace} {history : List (KeyEvent String)}

/-! ## Runs -/

/-- The states that a workspace can come to over any disk: stores are opened with any options, used
and closed, whatever comes of it. The disk, the id source and the environment may change at any
time. -/
inductive Reachable : Workspace → Prop where
  | start (disk : Disk) (ids : IdSource) (environment : Option String) :
    Reachable ⟨[], .empty, disk, ids, environment⟩
  | asked {w : Workspace} (before : Reachable w) (r : OpenRequest) : Reachable (r.outcome w).state
  | closed {w : Workspace} (before : Reachable w) (name : String) : Reachable (w.close name).state
  | used {w : Workspace} (before : Reachable w) (ref : StoreRef) (c : StoreCall) :
    Reachable (w.onStore ref c.outcome).state
  | elsewhere {w : Workspace} (before : Reachable w) (disk : Disk) (ids : IdSource)
    (environment : Option String) :
    Reachable { w with disk := disk, ids := ids, environment := environment }

/-- `Registered` is kept by a request. -/
theorem Registered.asked (h : w.Registered) (r : OpenRequest) :
    (r.outcome w).state.Registered := by
  rcases r.outcome_cases h with
    ⟨e, hfail⟩ | ⟨options, -, ⟨ref, -, hanswer⟩ | ⟨docs, records, hadded⟩⟩
  · rw [hfail]
    exact h
  · rw [hanswer]
    exact h
  · rw [hadded]
    exact h.withOpen ⟨options, docs⟩

/-- `onStore` finds no store and leaves the workspace as it is, or leaves what `withCall` says. -/
private theorem onStore_cases (w : Workspace) (ref : StoreRef) (c : StoreCall) :
    (w.onStore ref c.outcome).state = w ∨
      ∃ s, w.store? ref = some s ∧ (w.onStore ref c.outcome).state = w.withCall ref s c := by
  unfold onStore
  cases hs : w.store? ref with
  | none => exact .inl rfl
  | some s => exact .inr ⟨s, rfl, rfl⟩

/-- `Registered` is kept by a call, whether or not the store is open. -/
theorem Registered.used (h : w.Registered) (ref : StoreRef) (c : StoreCall) :
    (w.onStore ref c.outcome).state.Registered := by
  rcases w.onStore_cases ref c with hstate | ⟨s, hs, hstate⟩
  · rw [hstate]
    exact h
  · rw [hstate]
    exact h.withCall c hs

/-- `Registered` holds in every state that a workspace can come to. -/
theorem Reachable.registered (h : w.Reachable) : w.Registered := by
  induction h with
  | start disk ids environment => exact nofun
  | asked before r ih => exact ih.asked r
  | closed before name ih => exact ih.close name
  | used before ref c ih => exact ih.used ref c
  | elsewhere before disk ids environment ih => exact ih

/-- The states that a workspace can come to, each with what has happened to the open names, where
every request has a kind. -/
inductive History : Workspace → List (KeyEvent String) → Prop where
  | start (disk : Disk) (ids : IdSource) (environment : Option String) :
    History ⟨[], .empty, disk, ids, environment⟩ []
  | asked {w : Workspace} {history : List (KeyEvent String)} (before : History w history)
    (r : OpenRequest) (kind : r.HasKind w.environment) :
    History (r.outcome w).state (history ++ r.events w)
  | closed {w : Workspace} {history : List (KeyEvent String)} (before : History w history)
    (name : String) : History (w.close name).state (history ++ [.left name])
  | used {w : Workspace} {history : List (KeyEvent String)} (before : History w history)
    (ref : StoreRef) (c : StoreCall) : History (w.onStore ref c.outcome).state history
  | elsewhere {w : Workspace} {history : List (KeyEvent String)} (before : History w history)
    (disk : Disk) (ids : IdSource) (environment : Option String) :
    History { w with disk := disk, ids := ids, environment := environment } history

/-- A workspace with a `History` is one that can be come to. -/
private theorem History.reachable (h : History w history) : w.Reachable := by
  induction h with
  | start disk ids environment => exact .start disk ids environment
  | asked before r kind ih => exact ih.asked r
  | closed before name ih => exact ih.closed name
  | used before ref c ih => exact ih.used ref c
  | elsewhere before disk ids environment ih => exact ih.elsewhere disk ids environment

/-- What holds of the kinds and the names of a workspace with a history. -/
structure Follows (w : Workspace) (history : List (KeyEvent String)) : Prop where
  kinds : ∀ ref s, w.store? ref = some s → s.options.HasKind
  names : w.names = KeyEvent.present history

/-- `Follows` is kept by a request: it leaves an open name in its place and puts one that was not
open last, and one that fails does nothing to the names. -/
private theorem Follows.asked (h : w.Follows history) (hregistered : w.Registered)
    (r : OpenRequest) (hkind : r.HasKind w.environment) :
    (r.outcome w).state.Follows (history ++ r.events w) := by
  rcases r.outcome_cases hregistered with
    ⟨e, hfail⟩ | ⟨options, hoptions, ⟨ref, hget, hanswer⟩ | ⟨docs, records, hadded⟩⟩
  · rw [OpenRequest.events_of_fail hfail, hfail, List.append_nil]
    exact h
  · rw [OpenRequest.events_of_ok hoptions (congrArg Outcome.result hanswer), hanswer]
    -- the store that is handed out is open, so its name enters again and stays
    have hmem : options.name.text ∈ w.names := Table.mem_of_get?_eq_some hget
    refine ⟨h.kinds, ?_⟩
    rw [KeyEvent.present_concat_entered, ← h.names, if_pos hmem]
    rfl
  · rw [OpenRequest.events_of_ok hoptions (congrArg Outcome.result hadded), hadded]
    refine ⟨fun ref s hs => ?_, Table.keys_insert_eq_present h.names _ _⟩
    -- the new store has the kind of the request, and the others are as they were
    rw [store?_withOpen] at hs
    split at hs
    · cases hs
      exact hkind options hoptions
    · exact h.kinds ref s hs

/-- `close` takes a name off the list. -/
private theorem names_close (w : Workspace) (name : String) :
    (w.close name).state.names = w.names.filter (· ≠ name) := by
  unfold Workspace.close
  split
  · exact w.registry.keys_erase name
  · rename_i hclosed
    refine (List.filter_eq_self.2 fun other hother => ?_).symm
    rw [Table.contains_eq_decide_mem, decide_eq_true_iff] at hclosed
    exact decide_eq_true fun heq => hclosed (heq ▸ hother)

/-- `close` is the last event for its name. -/
private theorem Follows.closed (h : w.Follows history) (name : String) :
    (w.close name).state.Follows (history ++ [.left name]) where
  kinds ref s hs := h.kinds ref s ((store?_close w name ref).symm.trans hs)
  names := by rw [names_close, KeyEvent.present_concat_left, h.names]

/-- `onStore` does not bear on which stores are open. -/
private theorem Follows.used (h : w.Follows history) (ref : StoreRef) (c : StoreCall) :
    (w.onStore ref c.outcome).state.Follows history := by
  rcases w.onStore_cases ref c with hstate | ⟨s, hs, hstate⟩
  · rw [hstate]
    exact h
  · rw [hstate]
    refine ⟨fun ref' s' hs' => ?_, h.names⟩
    -- a call changes no options
    obtain ⟨before, hbefore, hoptions⟩ := options_withCall c hs hs'
    exact hoptions ▸ h.kinds ref' before hbefore

/-- `History` says which names are open and in which order, and every store has a kind. -/
theorem History.follows (h : History w history) : w.Follows history := by
  -- by the steps of the run: each adds its own events
  induction h with
  | start disk ids environment => exact ⟨nofun, rfl⟩
  | asked before r kind ih => exact ih.asked before.reachable.registered r kind
  | closed before name ih => exact ih.closed name
  | used before ref c ih => exact ih.used ref c
  | elsewhere before disk ids environment ih => exact ⟨ih.kinds, ih.names⟩

/-- A store that is open under the name decides the `outcome` of the request. -/
private theorem Follows.outcome_of_get? (h : w.Follows history) {r : OpenRequest}
    {options : Options} {ref : StoreRef} {s : Store}
    (hoptions : r.options? w.environment = .ok options) (hkind : options.HasKind)
    (hget : w.get? options.name.text = some ref) (hs : w.store? ref = some s) :
    r.outcome w = if s.options.isInMemory = options.isInMemory then .answer ref w
      else .fail (.conflict options.name.text s.options.isInMemory) w := by
  rw [OpenRequest.outcome_of_options? hoptions, openStore_of_get? hget hs,
    Options.same_inMemory (h.kinds ref s hs) hkind]
  simp only [beq_iff_eq]

/-- What a caller can rely on in a workspace with a history. -/
structure KeepsRegistry (w : Workspace) (history : List (KeyEvent String)) : Prop where
  /-- Every open store is open under its own name. -/
  registered : ∀ name ref, w.get? name = some ref →
    ∃ s, w.store? ref = some s ∧ s.options.name.text = name
  /-- The names are listed in the order in which they were opened since they were last closed. -/
  names : w.names = KeyEvent.present history
  /-- No name is listed twice. -/
  distinct : w.names.Nodup
  /-- A request that fails has changed nothing at all. -/
  failed : ∀ (r : OpenRequest) (e : Failure), (r.outcome w).result = .error e →
    (r.outcome w).state = w
  /-- Where a store of the same kind is open under the name, it is handed out as it is. -/
  shared : ∀ (r : OpenRequest) (options : Options) (ref : StoreRef) (s : Store),
    r.options? w.environment = .ok options → options.HasKind →
    w.get? options.name.text = some ref → w.store? ref = some s →
    s.options.isInMemory = options.isInMemory →
    (r.outcome w).result = .ok ref ∧ (r.outcome w).state = w
  /-- Where one of the other kind is open, there is a conflict. -/
  conflicting : ∀ (r : OpenRequest) (options : Options) (ref : StoreRef) (s : Store),
    r.options? w.environment = .ok options → options.HasKind →
    w.get? options.name.text = some ref → w.store? ref = some s →
    s.options.isInMemory ≠ options.isInMemory →
    (r.outcome w).result = .error (.conflict options.name.text s.options.isInMemory)
  /-- Opening a store does not change the disk. -/
  disk_opened : ∀ r : OpenRequest, (r.outcome w).state.disk = w.disk
  /-- Nor does closing one. -/
  disk_closed : ∀ name, (w.close name).state.disk = w.disk

/-- In every state with a `History`, the registry is in order. -/
theorem History.keepsRegistry (h : History w history) : KeepsRegistry w history where
  registered name ref hget := by
    obtain ⟨s, hs, hname, -⟩ := h.reachable.registered name ref hget
    exact ⟨s, hs, hname⟩
  names := h.follows.names
  distinct := w.registry.nodup_keys
  -- of the outcomes of `open`, only the failure has no store, and it leaves the state
  failed r e hfailed := by
    rcases r.outcome_cases h.reachable.registered with
      ⟨_, hfail⟩ | ⟨_, -, ⟨ref, -, hanswer⟩ | ⟨docs, records, hadded⟩⟩
    · rw [hfail]
      rfl
    · rw [hanswer] at hfailed
      cases hfailed
    · rw [hadded] at hfailed
      cases hfailed
  shared r options ref s hoptions hkind hget hs hsame := by
    rw [h.follows.outcome_of_get? hoptions hkind hget hs, if_pos hsame]
    exact ⟨rfl, rfl⟩
  conflicting r options ref s hoptions hkind hget hs hother := by
    rw [h.follows.outcome_of_get? hoptions hkind hget hs, if_neg hother]
    rfl
  disk_opened r := by
    rcases r.outcome_cases h.reachable.registered with
      ⟨_, houtcome⟩ | ⟨_, -, ⟨ref, -, houtcome⟩ | ⟨docs, records, houtcome⟩⟩ <;>
    · rw [houtcome]
      rfl
  disk_closed := w.disk_close

/-- Two stores are opened, the first one under the name of its file; it is closed and opened again,
and then it comes last. Asking for it as a store that is saved is a conflict, and where a directory
is in the place of a file no store is opened. -/
theorem History.keepsRegistry_reopened :
    ∃ w history, History w history ∧ w.names = ["b", "a"] ∧ KeepsRegistry w history ∧
      (((OpenRequest.named "a" []).outcome w).result matches .error (.conflict ..)) ∧
      (((OpenRequest.named "d" []).outcome w).result matches .error (.storage (.notAFile _))) ∧
      ((OpenRequest.named "d" []).outcome w).state = w := by
  have hkind (name : String) (environment : Option String) :
      (OpenRequest.named name [("in_memory", .bool true),
        ("create_if_not_exists", .bool true)]).HasKind environment := by
    refine OpenRequest.hasKind_named (fun v hv => ?_) environment
    cases hv
    exact ⟨true, rfl⟩
  -- a directory has the file name of the store `d`, which is why it cannot be loaded
  have hstart := History.start ⟨⟨.ofList [(["d.json"], .directory)], []⟩, []⟩
    (.counted "id" 4 []) none
  -- `a` is opened, then `b`, then `a` is closed and opened again: it comes last
  have hboth := (hstart.asked _ (hkind "a.json" _)).asked _ (hkind "b" _)
  have hreopened := (hboth.closed "a").asked _ (hkind "a" _)
  have hkeeps := hreopened.keepsRegistry
  exact ⟨_, _, hreopened, by decide +kernel, hkeeps, by decide +kernel, by decide +kernel,
    hkeeps.failed (.named "d" []) _ rfl⟩

end Workspace

end DocStore
