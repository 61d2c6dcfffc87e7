import DocStore.Proofs.OpenNames

/-!
# Names of stores

Opening a store takes the suffix of store files off the name that is asked for, and takes it off
once. Everything else takes names as they are. So what a name leads to depends on whether it ends in
the suffix: the name of its file always leads to a store, its own name only if nothing can be taken
off it.

## Key results

- `StoreName.ofText?_eq_ok_iff`: a text asks for what is left of it without the suffix
- `StoreName.ofText?_text_iff`: a name asks for itself if it does not end in the suffix
- `Workspace.Reachable.leadsTo_of_openNamed`: on which names opening and closing agree
- `Workspace.Reachable.reopens`: what comes of opening an open store again
-/

namespace DocStore

/-! ## The suffix -/

/-- Whether a text ends in the suffix of store files. -/
def endsInSuffix (given : String) : Bool := fileSuffix.isSuffixOf given.toList

/-- `dropSuffix` takes the suffix off again. -/
private theorem dropSuffix_append (name : List Char) : dropSuffix (name ++ fileSuffix) = name := by
  have hsuffix : fileSuffix.isSuffixOf (name ++ fileSuffix) = true :=
    List.isSuffixOf_iff_suffix.2 (List.suffix_append name fileSuffix)
  rw [dropSuffix, if_pos hsuffix, List.length_append, Nat.add_sub_cancel, List.take_left]

/-- `dropSuffix` takes nothing off a text exactly if it does not end in the suffix. -/
private theorem dropSuffix_eq_self_iff (given : String) :
    dropSuffix given.toList = given.toList ↔ endsInSuffix given = false := by
  rw [dropSuffix, endsInSuffix]
  split
  · rename_i hsuffix
    -- the suffix is not empty, so the text becomes shorter
    have hlength := (List.isSuffixOf_iff_suffix.1 hsuffix).length_le
    have hpos : 0 < fileSuffix.length := by decide
    constructor
    · intro heq
      have := congrArg List.length heq
      simp only [List.length_take] at this
      omega
    · intro hnot
      rw [hsuffix] at hnot
      exact nomatch hnot
  · rename_i hnot
    simp only [hnot]

namespace StoreName

variable {given : String} {n n' : StoreName}

/-- `text` tells names apart. -/
private theorem ext_text (h : n.text = n'.text) : n = n' := by
  cases n
  cases n'
  simp_all

/-- `ofText?` reads a text as the name that is left of it without the suffix. -/
theorem ofText?_eq_ok_iff : ofText? given = .ok n ↔ n.text.toList = dropSuffix given.toList := by
  constructor
  · intro h
    simp only [ofText?] at h
    split at h
    · exact nomatch h
    split at h
    · exact nomatch h
    split at h
    · exact nomatch h
    · cases h
      exact String.toList_ofList
  · intro h
    -- what is left is a name, so no rule is broken
    have hname : String.ofList (dropSuffix given.toList) = n.text := by
      rw [← h, String.ofList_toList]
    have hgiven : given ≠ "" := by
      intro hempty
      apply n.nonempty
      rw [← hname, hempty]
      rfl
    simp only [ofText?, if_neg hgiven]
    split
    · rename_i hempty
      exact absurd (hname ▸ hempty) n.nonempty
    split
    · rename_i hseparator
      rw [hname, n.noSeparator] at hseparator
      exact nomatch hseparator
    · exact congrArg Except.ok (ext_text hname)

/-- `ofText?` reads a name as itself if it does not end in the suffix, and only then. -/
theorem ofText?_text_iff (n : StoreName) :
    ofText? n.text = .ok n ↔ endsInSuffix n.text = false := by
  rw [ofText?_eq_ok_iff, eq_comm, dropSuffix_eq_self_iff]

end StoreName

namespace Options

variable {environment : Option String} {given : String} {keywords : List (String × Value)}
  {o : Options}

/-- `ofText?` reads the name of its file as the name of a store. -/
private theorem ofText?_fileName (o : Options) : StoreName.ofText? o.fileName = .ok o.name := by
  rw [StoreName.ofText?_eq_ok_iff, fileName, String.toList_ofList, dropSuffix_append]

/-- `make` takes its name from the text with `ofText?`. -/
private theorem ofText?_of_make (h : make environment (.text given) keywords = .ok o) :
    StoreName.ofText? given = .ok o.name := by
  simp only [make] at h
  split at h
  · exact nomatch h
  split at h
  · exact nomatch h
  · rename_i n hname
    split at h
    · exact nomatch h
    · cases h
      exact hname

/-- `make` has options for every text that asks for a name, with no keyword but the one for the
kind. -/
private theorem exists_make_of_ofText? {n : StoreName} (h : StoreName.ofText? given = .ok n)
    (environment : Option String) (kind : Value) :
    ∃ o, make environment (.text given) [("in_memory", kind)] = .ok o ∧ o.name = n ∧
      o.inMemory = kind := by
  refine ⟨⟨n, defaultDirectory environment, kind, .bool false, .bool false⟩, ?_, rfl, rfl⟩
  simp only [make, h]
  rfl

end Options

namespace Workspace

variable {w : Workspace}

/-! ## What a name leads to -/

/-- A store is open under a name. -/
structure Opened (w : Workspace) (name : String) (ref : StoreRef) (s : Store) : Prop where
  get? : w.get? name = some ref
  store? : w.store? ref = some s

/-- `Registered` stores are open under their own names. -/
theorem Registered.name_of_opened (h : w.Registered) {name : String} {ref : StoreRef} {s : Store}
    (hopen : w.Opened name ref s) : s.options.name.text = name := by
  obtain ⟨s', hs', hname, -⟩ := h name ref hopen.get?
  rw [hopen.store?] at hs'
  cases hs'
  exact hname

/-- Everything that takes a name takes this one for the name of a store. -/
structure Denotes (w : Workspace) (name : String) (ref : StoreRef) : Prop where
  contains : w.registry.contains name = true
  get? : w.get? name = some ref
  close : (w.close name).result = .ok true
  /-- After the name is closed, no name leads to the store. -/
  forgotten : ∀ other, (w.close name).state.get? other ≠ some ref

/-- `Registered` stores stand under one name each. -/
private theorem Registered.name_eq (h : w.Registered) {name other : String} {ref : StoreRef}
    (hget : w.get? name = some ref) (hother : w.get? other = some ref) : name = other := by
  obtain ⟨s, hs, hname, -⟩ := h name ref hget
  exact hname.symm.trans (h.name_of_opened ⟨hother, hs⟩)

/-- `Denotes` holds of the name under which a store stands. -/
private theorem Registered.denotes (h : w.Registered) {name : String} {ref : StoreRef}
    (hget : w.get? name = some ref) : w.Denotes name ref := by
  have hcontains : w.registry.contains name = true := by
    have hsome : w.registry.get? name = some ref := hget
    rw [Table.contains, hsome]
    rfl
  refine ⟨hcontains, hget, ?_, ?_⟩
  · rw [Workspace.close, if_pos hcontains]
    rfl
  · intro other hother
    -- what is still open under another name was open under it before
    obtain rfl := h.name_eq hget (get?_of_get?_close hother)
    rw [get?_close_self] at hother
    cases hother

/-- `close` of one name leaves what stands under another. -/
private theorem get?_close_of_ne {name other : String} (hne : other ≠ name) :
    (w.close name).state.get? other = w.get? other := by
  rcases close_state w name with heq | heq
  · rw [heq]
    show (w.registry.erase name).get? other = w.get? other
    rw [Table.get?_erase, if_neg hne]
    rfl
  · rw [heq]

/-! ## Opening by name -/

/-- `openNamed` fails and changes nothing, or hands out the store that stands under the name that
the text asks for, or adds a store of this name. -/
private theorem Registered.openNamed_cases (h : w.Registered) (given : String)
    (keywords : List (String × Value)) :
    (∃ e, w.openNamed given keywords = .fail e w) ∨
      ∃ options, StoreName.ofText? given = .ok options.name ∧
        ((∃ ref, w.get? options.name.text = some ref ∧
            w.openNamed given keywords = .answer ref w) ∨
          ∃ docs records, w.openNamed given keywords =
            ⟨.ok ⟨w.stores.length⟩, w.withOpen ⟨options, docs⟩, records⟩) := by
  rcases (OpenRequest.named given keywords).outcome_cases h with hfail | ⟨options, hmake, hopen⟩
  · exact .inl hfail
  · exact .inr ⟨options, Options.ofText?_of_make hmake, hopen⟩

/-- `openNamed` with a text leaves its store under the name that the text asks for. -/
private theorem Registered.exists_name_of_openNamed (h : w.Registered) {given : String}
    {keywords : List (String × Value)} {ref : StoreRef}
    (hopen : (w.openNamed given keywords).result = .ok ref) :
    ∃ n, StoreName.ofText? given = .ok n ∧
      (w.openNamed given keywords).state.get? n.text = some ref := by
  rcases h.openNamed_cases given keywords with
    ⟨e, hfail⟩ | ⟨options, hname, ⟨found, hget, hanswer⟩ | ⟨docs, records, hadded⟩⟩
  · rw [hfail] at hopen
    exact nomatch hopen
  · rw [hanswer] at hopen ⊢
    cases hopen
    exact ⟨options.name, hname, hget⟩
  · rw [hadded] at hopen ⊢
    cases hopen
    -- a new store is registered under this name
    have hget := w.registry.get?_insert options.name.text options.name.text ⟨w.stores.length⟩
    rw [if_pos rfl] at hget
    exact ⟨options.name, hname, hget⟩

/-- `openNamed` leaves every store as it is. -/
private theorem Registered.store?_openNamed (h : w.Registered) (given : String)
    (keywords : List (String × Value)) {ref : StoreRef} {s : Store} (hs : w.store? ref = some s) :
    (w.openNamed given keywords).state.store? ref = some s := by
  rcases h.openNamed_cases given keywords with
    ⟨e, hfail⟩ | ⟨options, -, ⟨found, -, hanswer⟩ | ⟨docs, records, hadded⟩⟩
  · rw [hfail]
    exact hs
  · rw [hanswer]
    exact hs
  · rw [hadded]
    show (w.withOpen ⟨options, docs⟩).store? ref = some s
    have hlt := index_lt_of_store? hs
    -- the new store has a number of its own
    have hold : ref ≠ ⟨w.stores.length⟩ := by
      intro heq
      rw [heq] at hlt
      exact Nat.lt_irrefl _ hlt
    rw [store?_withOpen, if_neg hold, hs]

/-- `openNamed` leaves the disk alone. -/
private theorem Registered.disk_openNamed (h : w.Registered) (given : String)
    (keywords : List (String × Value)) : (w.openNamed given keywords).state.disk = w.disk := by
  rcases h.openNamed_cases given keywords with
    ⟨e, hfail⟩ | ⟨options, -, ⟨found, -, hanswer⟩ | ⟨docs, records, hadded⟩⟩
  · rw [hfail]
    rfl
  · rw [hanswer]
    rfl
  · rw [hadded]
    rfl

/-- What a text leads to that a store has been opened with, and the name that it asks for. -/
structure LeadsTo (w : Workspace) (given : String) (n : StoreName) (ref : StoreRef) : Prop where
  asks : StoreName.ofText? given = .ok n
  /-- The name denotes the store. -/
  name : w.Denotes n.text ref
  /-- The text denotes it exactly if it does not end in the suffix. -/
  itself : w.Denotes given ref ↔ endsInSuffix given = false
  /-- If it does, it leads elsewhere or nowhere, and to close it leaves the store open. -/
  astray : endsInSuffix given = true →
    w.get? given ≠ some ref ∧ (w.close given).state.get? n.text = some ref

/-- `openNamed` with a text: everything agrees on what the text denotes if it does not end in the
suffix of store files. If it does, looking it up and closing it miss the store; the name without the
suffix is the one that denotes it. -/
theorem Reachable.leadsTo_of_openNamed (h : w.Reachable) {given : String}
    {keywords : List (String × Value)} {ref : StoreRef}
    (hopen : (w.openNamed given keywords).result = .ok ref) :
    ∃ n, (w.openNamed given keywords).state.LeadsTo given n ref := by
  have hregistered : (w.openNamed given keywords).state.Registered :=
    h.registered.asked (.named given keywords)
  obtain ⟨n, hname, hget⟩ := h.registered.exists_name_of_openNamed hopen
  generalize (w.openNamed given keywords).state = after at *
  -- the text is the name under which the store stands if nothing has been taken off it
  have hsame : given = n.text ↔ endsInSuffix given = false := by
    rw [← dropSuffix_eq_self_iff, ← StoreName.ofText?_eq_ok_iff.1 hname, String.toList_inj, eq_comm]
  refine ⟨n, hname, hregistered.denotes hget, ?_, ?_⟩
  · constructor
    · intro hdenotes
      exact hsame.1 (hregistered.name_eq hdenotes.get? hget)
    · intro hends
      rw [hsame.2 hends]
      exact hregistered.denotes hget
  · intro hends
    have hne : given ≠ n.text := by
      intro heq
      rw [hsame.1 heq] at hends
      exact nomatch hends
    constructor
    · intro hgiven
      exact hne (hregistered.name_eq hgiven hget)
    · exact (get?_close_of_ne hne.symm).trans hget

/-- The keywords for a store in memory that is created if it does not exist. -/
def createInMemory : List (String × Value) :=
  [("in_memory", .bool true), ("create_if_not_exists", .bool true)]

/-- An empty workspace over an empty disk. -/
def blank : Workspace := start (.counted "id" 4 [])

/-- `LeadsTo` its store is a text without the suffix. -/
theorem Reachable.leadsTo_of_openNamed_people :
    blank.Reachable ∧ (blank.openNamed "people" createInMemory).result = .ok ⟨0⟩ ∧
      ∃ n, (blank.openNamed "people" createInMemory).state.LeadsTo "people" n ⟨0⟩ := by
  have hstart : blank.Reachable := .start _ _ _
  exact ⟨hstart, rfl, hstart.leadsTo_of_openNamed rfl⟩

/-- `openNamed` with the name of a file opens a store. Under this name it is not found, it cannot be
closed, and it stays open. -/
theorem not_denotes_fileName :
    blank.Reachable ∧ (blank.openNamed "people.json" createInMemory).result = .ok ⟨0⟩ ∧
      let w := (blank.openNamed "people.json" createInMemory).state
      w.registry.contains "people.json" = false ∧ w.get? "people.json" = none ∧
        ((w.close "people.json").result matches .ok false) ∧
        (w.close "people.json").state.get? "people" = some ⟨0⟩ ∧
        ¬ w.Denotes "people.json" ⟨0⟩ := by
  refine ⟨.start _ _ _, rfl, by decide +kernel, by decide +kernel, by decide +kernel,
    by decide +kernel, ?_⟩
  intro hdenotes
  have hcontains := hdenotes.contains
  revert hcontains
  decide +kernel

/-! ## Opening again -/

/-- Asks by a text for a store of the same kind as another one. -/
def openLike (w : Workspace) (s : Store) (given : String) : Outcome Workspace StoreRef :=
  w.openNamed given [("in_memory", s.options.inMemory)]

/-- `openLike` with a text that asks for the name of an open store hands the store out, and nothing
changes. -/
private theorem openLike_of_ofText? {given : String} {ref : StoreRef} {s : Store}
    (hasks : StoreName.ofText? given = .ok s.options.name)
    (hopened : w.Opened s.options.name.text ref s) (hkind : s.options.HasKind) :
    w.openLike s given = .answer ref w := by
  obtain ⟨o, hmake, hname, hmemory⟩ :=
    Options.exists_make_of_ofText? hasks w.environment s.options.inMemory
  have hopen : w.openLike s given = w.openStore o :=
    OpenRequest.outcome_of_options? (r := .named given _) hmake
  have hsame : s.options.inMemory.same o.inMemory = true := by
    rw [hmemory, Options.same_inMemory hkind hkind, beq_self_eq_true]
  rw [hopen, openStore_of_get? (hname ▸ hopened.get?) hopened.store?, if_pos hsame]

/-- What comes of opening an open store again, as one of its kind. -/
structure Reopens (w : Workspace) (ref : StoreRef) (s : Store) : Prop where
  /-- By a name that does not end in the suffix the store is handed out, and nothing changes. -/
  own : endsInSuffix s.options.name.text = false →
    w.openLike s s.options.name.text = .answer ref w
  /-- By a name that does, it never is. -/
  astray : endsInSuffix s.options.name.text = true →
    (w.openLike s s.options.name.text).result ≠ .ok ref
  /-- The name asks for itself exactly if it does not end in the suffix. -/
  normal : StoreName.ofText? s.options.name.text = .ok s.options.name ↔
    endsInSuffix s.options.name.text = false
  /-- By the name of its file the store is always handed out, and nothing changes. -/
  fileName : w.openLike s s.options.fileName = .answer ref w
  /-- In no case does the disk change. -/
  disk : ∀ given, (w.openLike s given).state.disk = w.disk

/-- `Reopens` an open store by its own name if this does not end in the suffix of store files, and
only then. By the name of its file it always does. -/
theorem Reachable.reopens (h : w.Reachable) {name : String} {ref : StoreRef} {s : Store}
    (hopened : w.Opened name ref s) (hkind : s.options.HasKind) : w.Reopens ref s := by
  obtain rfl := h.registered.name_of_opened hopened
  have hnormal := s.options.name.ofText?_text_iff
  refine ⟨?_, ?_, hnormal, ?_, fun given => h.registered.disk_openNamed given _⟩
  · intro hends
    exact openLike_of_ofText? (hnormal.2 hends) hopened hkind
  · intro hends hopen
    have hregistered : (w.openLike s s.options.name.text).state.Registered :=
      h.registered.asked (.named _ _)
    have hkept : (w.openLike s s.options.name.text).state.store? ref = some s :=
      h.registered.store?_openNamed _ _ hopened.store?
    obtain ⟨n, hname, hn⟩ := h.registered.exists_name_of_openNamed hopen
    -- the store would stand under the shorter name, though its own is the longer one
    have hown := hregistered.name_of_opened ⟨hn, hkept⟩
    rw [← StoreName.ext_text hown, hnormal, hends] at hname
    exact nomatch hname
  · exact openLike_of_ofText? s.options.ofText?_fileName hopened hkind

/-- The keywords for a store in a directory that is created if it does not exist. -/
def createIn (dirname : String) : List (String × Value) :=
  [("dirname", .text dirname), ("create_if_not_exists", .bool true)]

/-- `Reopens` a store that is not kept in memory and has been opened by the name of its file. -/
theorem Reachable.reopens_people :
    ∃ (w : Workspace) (s : Store), w.Reachable ∧ w.Opened "people" ⟨0⟩ s ∧
      s.options.inMemory = .bool false ∧ w.Reopens ⟨0⟩ s := by
  have hreachable := (Reachable.start ⟨.empty, []⟩ (.counted "id" 4 []) none).asked
    (.named "people.json" (createIn "d"))
  have hopened : (blank.openNamed "people.json" (createIn "d")).state.Opened "people" ⟨0⟩ _ :=
    ⟨rfl, rfl⟩
  exact ⟨_, _, hreachable, hopened, rfl, hreachable.reopens hopened ⟨false, rfl⟩⟩

/-- `openNamed` with a name that ends in the suffix, which a store is open under: it is not found,
and where a store may be created there are then two. -/
theorem not_reopens_suffixed :
    let w := (blank.openNamed "people.json.json" createInMemory).state
    w.Reachable ∧ w.names = ["people.json"] ∧ w.get? "people.json" = some ⟨0⟩ ∧
      (∃ s, w.store? ⟨0⟩ = some s ∧ s.options.name.text = "people.json" ∧
        ((w.openLike s s.options.name.text).result matches .error (.notFound "people"))) ∧
      (w.openNamed "people.json" createInMemory).result = .ok ⟨1⟩ ∧
      (w.openNamed "people.json" createInMemory).state.names = ["people.json", "people"] :=
  ⟨.asked (.start _ _ _) (.named "people.json.json" createInMemory), by decide +kernel, rfl,
    ⟨_, rfl, rfl, by decide +kernel⟩, rfl, by decide +kernel⟩

end Workspace

end DocStore
