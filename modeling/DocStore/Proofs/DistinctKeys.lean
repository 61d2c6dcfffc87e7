import DocStore.Proofs.JsonRoundTrip
import DocStore.Proofs.StoreInvariant

/-!
# Objects without repeated keys

A caller hands in objects in which no key occurs twice, at any depth. No operation of a store loses
this, and what is read from a file has it as well.

## Key results

- `Value.hereditary_distinctKeys`: the operations of a store keep keys distinct
- `Json.distinctKeys_of_read?`: what is read has distinct keys
- `Json.asRead_of_isStorable`: what a field may hold comes back as it is
-/

namespace DocStore

/-- In no object within a value a key occurs twice. -/
inductive Value.DistinctKeys : Value → Prop where
  | scalar (s : Scalar) : DistinctKeys (.scalar s)
  | list {items : List Value} (inside : ∀ v ∈ items, DistinctKeys v) : DistinctKeys (.list items)
  | object {entries : List (Key × Value)} (distinct : (entries.map Prod.fst).Nodup)
    (inside : ∀ e ∈ entries, DistinctKeys e.2) : DistinctKeys (.object entries)

/-- The operations of a store keep `Value.DistinctKeys`: it is handed on to parts, and to lists that
are appended to. -/
theorem Value.hereditary_distinctKeys : Value.Hereditary Value.DistinctKeys where
  scalar := .scalar
  entry h := by
    cases h with
    | object _ inside => exact inside
  singleton s := .list (by simpa using .scalar s)
  append s h := by
    cases h with
    | list inside =>
      refine .list fun v hv => ?_
      -- an item of the longer list was there before, or is the scalar that goes behind
      rcases List.mem_append.1 hv with hv | hv
      · exact inside v hv
      · obtain rfl := List.mem_singleton.1 hv
        exact .scalar s

/-- A value that `isFlat` has no objects in it. -/
private theorem Value.distinctKeys_of_isFlat {v : Value} (h : v.isFlat = true) :
    v.DistinctKeys := by
  cases v with
  | scalar s => exact .scalar s
  | list items =>
    simp only [Value.isFlat, List.all_eq_true] at h
    refine .list fun w hw => ?_
    have hscalar := h w hw
    cases w with
    | scalar s => exact .scalar s
    | _ => cases hscalar
  | object entries => cases h

/-- The keys of an object. -/
def Value.ownKeys : Value → List Key
  | .object entries => entries.map Prod.fst
  | _ => []

/-- A value that `isStorable` has no objects in it but itself, so its own keys are all that count.
-/
theorem Value.distinctKeys_of_isStorable {v : Value} (h : v.isStorable = true)
    (hkeys : v.ownKeys.Nodup) : v.DistinctKeys := by
  cases v with
  | scalar s => exact .scalar s
  | list items => exact distinctKeys_of_isFlat h
  | object entries =>
    simp only [Value.isStorable, List.all_eq_true, Bool.and_eq_true] at h
    -- the values under its keys are flat
    exact .object hkeys fun e he => distinctKeys_of_isFlat (h e he).2

namespace Json

open Value (DistinctKeys)

/-! ## What is read -/

/-- Entries of which each has its own key and keys that are distinct within. -/
structure DistinctEntries (entries : List (Key × Value)) : Prop where
  distinct : (entries.map Prod.fst).Nodup
  inside : ∀ e ∈ entries, DistinctKeys e.2

/-- `DistinctEntries` holds where there are no entries. -/
private theorem distinctEntries_nil : DistinctEntries [] :=
  ⟨List.nodup_nil, fun _ he => absurd he List.not_mem_nil⟩

/-- `Table.upsert` keeps `DistinctEntries`: a key that is there is written over. -/
theorem DistinctEntries.upsert {entries : List (Key × Value)} (h : DistinctEntries entries)
    (key : Key) {v : Value} (hv : DistinctKeys v) :
    DistinctEntries (Table.upsert key v entries) := by
  refine ⟨(Table.insert ⟨entries, h.distinct⟩ key v).nodup_keys, fun e he => ?_⟩
  rcases Table.mem_upsert he with rfl | he
  · exact hv
  · exact h.inside e he

/-- What has been read of a list or an object that is still open has distinct keys. -/
def Frame.Distinct : Frame → Prop
  | .list items => ∀ v ∈ items, DistinctKeys v
  | .object entries _ => DistinctEntries entries

/-- What has just been read has distinct keys. -/
def Phase.Distinct : Phase → Prop
  | .key entries => DistinctEntries entries
  | .colon entries _ => DistinctEntries entries
  | .done v => DistinctKeys v
  | _ => True

/-- `startValue` leads to a phase with distinct keys: nothing has been read but a scalar. -/
private theorem distinct_startValue {t : Token} {phase : Phase} (h : startValue t = some phase) :
    phase.Distinct := by
  cases t <;> cases h
  · trivial
  · trivial
  · exact .scalar _

/-- A token that `startValue` takes leads to distinct keys, whatever it adds to the stack. -/
private theorem distinct_map_startValue {t : Token} {stack : List Frame} {next : Phase × List Frame}
    (hstack : ∀ f ∈ stack, f.Distinct) (h : (startValue t).map (·, stack) = some next) :
    next.1.Distinct ∧ ∀ f ∈ next.2, f.Distinct := by
  obtain ⟨phase, hphase, rfl⟩ := Option.map_eq_some_iff.1 h
  exact ⟨distinct_startValue hphase, hstack⟩

/-- `step` brings in no key that is there. -/
private theorem distinct_step {phase : Phase} {stack : List Frame} {t : Token}
    {next : Phase × List Frame} (hphase : phase.Distinct) (hstack : ∀ f ∈ stack, f.Distinct)
    (h : step phase stack t = some next) :
    next.1.Distinct ∧ ∀ f ∈ next.2, f.Distinct := by
  have hempty : Frame.Distinct (.list []) := fun _ hv => absurd hv List.not_mem_nil
  -- the cases are those of the step: a list and an object that begin, an entry, a complete value
  unfold step at h
  split at h
  · exact distinct_map_startValue hstack h
  · cases h
    exact ⟨.list hempty, hstack⟩
  · exact distinct_map_startValue (List.forall_mem_cons.2 ⟨hempty, hstack⟩) h
  · cases h
    exact ⟨.object List.nodup_nil fun _ he => absurd he List.not_mem_nil, hstack⟩
  · cases h
    exact ⟨distinctEntries_nil, hstack⟩
  · cases h
    exact ⟨hphase, hstack⟩
  · cases h
    exact ⟨trivial, List.forall_mem_cons.2 ⟨hphase, hstack⟩⟩
  · -- a value is complete and goes into what is open
    rename_i v
    split at h
    -- one more item of a list that goes on
    · rename_i items rest
      cases h
      obtain ⟨hitems, hrest⟩ := List.forall_mem_cons.1 hstack
      have hmore : ∀ w ∈ v :: items, DistinctKeys w := List.forall_mem_cons.2 ⟨hphase, hitems⟩
      exact ⟨trivial, List.forall_mem_cons.2 ⟨hmore, hrest⟩⟩
    -- the last item of a list, whose items have been collected backwards
    · rename_i items rest
      cases h
      obtain ⟨hitems, hrest⟩ := List.forall_mem_cons.1 hstack
      have hmore : ∀ w ∈ v :: items, DistinctKeys w := List.forall_mem_cons.2 ⟨hphase, hitems⟩
      exact ⟨.list fun w hw => hmore w (List.mem_reverse.1 hw), hrest⟩
    -- one more entry of an object that goes on
    · rename_i entries key rest
      cases h
      obtain ⟨hentries, hrest⟩ := List.forall_mem_cons.1 hstack
      exact ⟨DistinctEntries.upsert hentries key hphase, hrest⟩
    -- the last entry of an object
    · rename_i entries key rest
      cases h
      obtain ⟨hentries, hrest⟩ := List.forall_mem_cons.1 hstack
      have hmore := DistinctEntries.upsert hentries key hphase
      exact ⟨.object hmore.distinct hmore.inside, hrest⟩
    · cases h
  · cases h

/-- `run` brings in no key that is there, so the value at its end has distinct keys. -/
private theorem distinctKeys_of_run {phase : Phase} {stack : List Frame} {ts : List Token}
    {v : Value} (hphase : phase.Distinct) (hstack : ∀ f ∈ stack, f.Distinct)
    (h : run phase stack ts = some v) : v.DistinctKeys := by
  -- token by token; phase and stack keep distinct keys
  induction ts generalizing phase stack with
  | nil =>
    unfold run at h
    split at h
    · cases h
      exact hphase
    · cases h
    · rename_i hts
      cases hts
  | cons t rest ih =>
    rw [run] at h
    split at h
    · rename_i next stack' hstep
      obtain ⟨hnext, hstack'⟩ := distinct_step hphase hstack hstep
      exact ih hnext hstack' h
    · cases h

/-- What `read?` reads has distinct keys. -/
theorem distinctKeys_of_read? {s : List Char} {v : Value} (h : read? s = some v) :
    v.DistinctKeys := by
  obtain ⟨ts, -, hparse⟩ := Option.bind_eq_some_iff.1 h
  have hstart : Phase.Distinct .value := trivial
  exact distinctKeys_of_run hstart (fun _ hf => absurd hf List.not_mem_nil) hparse

/-! ## What comes back -/

/-- `asRead` gives a value that `isStorable` back as it is, if its keys are distinct. -/
theorem asRead_of_isStorable {v : Value} (h : v.isStorable = true) (hv : v.DistinctKeys) :
    asRead v = v := by
  cases v with
  | object entries =>
    simp only [Value.isStorable, List.all_eq_true, Bool.and_eq_true] at h
    cases hv with
    | object distinct _ =>
      exact asRead_object distinct (fun e he => (h e he).1) fun e he => asRead_of_isFlat (h e he).2
  | scalar s => rfl
  | list items => exact asRead_of_isFlat h

end Json

/-- `load` gives a collection with distinct keys throughout. -/
theorem Snapshot.keeps_distinctKeys_of_load {files : FileSystem} {p : Path} {docs : Collection}
    (h : load files p = .ok docs) : docs.Keeps Value.DistinctKeys := by
  unfold load at h
  split at h
  · cases h
  split at h
  · unfold ofContent at h
    split at h
    · rename_i v hread
      -- the documents come from a value that has been read
      obtain ⟨s, -, hs⟩ := Option.bind_eq_some_iff.1 hread
      exact keeps_of_ofValue Value.hereditary_distinctKeys (Json.distinctKeys_of_read? hs) h
    · cases h
  · cases h

end DocStore
