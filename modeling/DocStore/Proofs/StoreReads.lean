import DocStore.Proofs.ProjectionGrammar
import DocStore.Proofs.SelectionAlgebra
import DocStore.Proofs.StoreRemoval

/-!
# Reads

Three operations of a store only read: one counts the documents that a query means, one finds them,
and one finds the first of them. The documents found are masked one after another, and the first one
that cannot be masked ends the search with nothing, or without an answer; whether a document can be
masked depends on the projection alone, so that all of them can or none. The first document is found
on a path of its own, which selects, masks and complains for itself.

## Key results

- `StoreState.view_eq_maskEach`: what is found is what is left by masking one after another
- `StoreState.findFirst_eq_map_find`: to find the first document is to find all and take the first
- `StoreState.readsAgree`: what the three operations answer, for every query and every projection
-/

namespace DocStore

open Projection (IsProjection Unanswered applyValue?)

namespace StoreState

/-! ## Masking one after another -/

/-- Masks documents one after another, behind those that are done. The first one that cannot be
masked ends it, and nothing is left; or there is no answer. -/
def maskEach (mask : Value) (done : List Document) : List Document →
    Except Unwritable (List Document)
  | [] => .ok done
  | d :: rest =>
    match applyValue? d mask with
    | .error e => .error e
    | .ok none => .ok []
    | .ok (some d') => maskEach mask (done ++ [d']) rest

variable {mask : Value}

/-- `maskEach` through a projection masks every document. -/
private theorem maskEach_of_ofValue {p : Projection} (h : Projection.ofValue mask = .ok p)
    (done ds : List Document) : maskEach mask done ds = .ok (done ++ ds.map p.apply) := by
  induction ds generalizing done with
  | nil => simp [maskEach]
  | cons d rest ih =>
    have hmasked : applyValue? d mask = .ok (some (p.apply d)) := by rw [applyValue?, h]
    rw [maskEach, hmasked, List.map_cons, List.append_cons]
    -- the document just masked is done with the others
    exact ih (done ++ [p.apply d])

/-- `maskEach` through any other value is ended by the first document. -/
private theorem maskEach_of_error {e : ProjectionError} (h : Projection.ofValue mask = .error e)
    (ds : List Document) :
    maskEach mask [] ds = if ds.isEmpty || e.fits then .ok [] else .error .unwritable := by
  cases ds with
  | nil => rfl
  | cons d rest =>
    rw [maskEach, applyValue?, h]
    cases hfits : e.fits <;> simp [hfits]

/-- What `view` shows is what is left by masking the documents one after another. -/
theorem view_eq_maskEach {docs : Collection} {found : List String}
    (hmem : ∀ id ∈ found, id ∈ docs.keys) (mask : Value) :
    view docs mask found = maskEach mask [] (found.filterMap docs.get?) := by
  rw [view]
  cases h : Projection.ofValue mask with
  | ok p => exact (maskEach_of_ofValue h [] _).symm
  | error e =>
    rw [maskEach_of_error h]
    -- every id has its document, so there is one to be masked if there is an id
    cases found with
    | nil => rfl
    | cons id rest =>
      obtain ⟨d, hd⟩ := Query.exists_get?_of_mem_keys (hmem id List.mem_cons_self)
      simp [hd]

/-! ## The documents found -/

variable {s : StoreState} {query : Value} {projection : Option Value} {found : List String}

/-- Without ids `view` shows nothing, and looks at no mask. -/
private theorem view_nil (docs : Collection) (mask : Value) : view docs mask [] = .ok [] := by
  rw [view]
  cases Projection.ofValue mask <;> rfl

/-- `view` through a projection shows every document masked. -/
private theorem view_of_ofValue {p : Projection} (h : Projection.ofValue mask = .ok p)
    (docs : Collection) (found : List String) :
    view docs mask found = .ok ((found.filterMap docs.get?).map p.apply) := by
  rw [view, h]

/-- `view` of some documents through a value that is no projection: nothing is shown, or there is no
answer. -/
private theorem view_of_error {e : ProjectionError} (h : Projection.ofValue mask = .error e)
    (docs : Collection) (id : String) (rest : List String) :
    view docs mask (id :: rest) = if e.fits then .ok [] else .error .unwritable := by
  rw [view, h]
  rfl

/-- A document is the one with an id, masked. -/
def Shows (s : StoreState) (mask : Value) (id : String) (masked : Document) : Prop :=
  ∃ d, s.store.docs.get? id = some d ∧ applyValue? d mask = .ok (some masked)

/-- `Shows` one document for each id, in their order. -/
private theorem forall₂_shows {p : Projection} (h : Projection.ofValue mask = .ok p)
    (hmem : ∀ id ∈ found, id ∈ s.store.docs.keys) :
    List.Forall₂ (s.Shows mask) found ((found.filterMap s.store.docs.get?).map p.apply) := by
  induction found with
  | nil => exact .nil
  | cons id rest ih =>
    obtain ⟨hid, hrest⟩ := List.forall_mem_cons.1 hmem
    obtain ⟨d, hd⟩ := Query.exists_get?_of_mem_keys hid
    rw [List.filterMap_cons_some hd, List.map_cons]
    exact .cons ⟨d, hd, by rw [applyValue?, h]⟩ (ih hrest)

/-- The first document shown is the first one masked; through a value that is no projection both
fail, or have no answer. -/
private theorem map_head?_view {docs : Collection} {id : String} {d : Document}
    (hd : docs.get? id = some d) (rest : List String) :
    (view docs mask (id :: rest)).map List.head? = applyValue? d mask := by
  rw [applyValue?]
  cases h : Projection.ofValue mask with
  | ok p =>
    rw [view_of_ofValue h, List.filterMap_cons_some hd]
    rfl
  | error e =>
    simp only [view_of_error h]
    split <;> rfl

/-- `findFirst` is to `find` all documents and to take the first. -/
theorem findFirst_eq_map_find (s : StoreState) (query : Value) (projection : Option Value) :
    s.findFirst query projection = (s.find query projection).map List.head? := by
  unfold findFirst find select
  rw [Query.selectFirstValue_eq_head?]
  cases hfound : Query.selectValue s.store.docs query with
  | error b => rfl
  | ok found =>
    cases found with
    | nil =>
      -- nothing is masked, so nothing is complained of
      simp [Except.map, Outcome.map, Outcome.after, Outcome.answer, view_nil]
    | cons id rest =>
      -- what is selected is there, so the search for the first one does not come back empty
      have hid : id ∈ s.store.docs.keys :=
        (Query.sublist_keys_of_selectValue hfound).mem List.mem_cons_self
      obtain ⟨d, hd⟩ := Query.exists_get?_of_mem_keys hid
      simp only [Except.map, List.head?_cons, Option.bind_some, hd, ← map_head?_view hd rest]
      cases view s.store.docs (projectionOr projection) (id :: rest) <;> rfl

/-- What `find` answers is what `view` shows; where that has no answer, the call ends. -/
private theorem find_result (h : Query.selectValue s.store.docs query = .ok found)
    (projection : Option Value) :
    (s.find query projection).result =
      (view s.store.docs (projectionOr projection) found).mapError fun _ => .unwritable := by
  unfold find select
  rw [h]
  simp only
  split <;> rename_i hview <;> rw [hview] <;> rfl

/-- What the reads of a store answer where ids are selected. -/
structure ReadsAgree (s : StoreState) (query : Value) (projection : Option Value)
    (found : List String) : Prop where
  /-- The ids stand in the order of the collection, and so many are counted. -/
  counted : found.Sublist s.store.docs.keys ∧ (s.count query).result = .ok found.length
  /-- Through a projection the documents with these ids are found, in their order and as many as
  are counted. -/
  masked : IsProjection (projectionOr projection) → ∃ documents,
    (s.find query projection).result = .ok documents ∧
    List.Forall₂ (s.Shows (projectionOr projection)) found documents ∧
    (s.count query).result = .ok documents.length
  /-- Through any other value nothing is found, if there is an answer. -/
  refused : ¬ IsProjection (projectionOr projection) →
    found = [] ∨ ¬ Unanswered (projectionOr projection) → (s.find query projection).result = .ok []
  /-- Then the first document is the first one found. -/
  first : found = [] ∨ ¬ Unanswered (projectionOr projection) → ∃ documents,
    (s.find query projection).result = .ok documents ∧
    (s.findFirst query projection).result = .ok documents.head?
  /-- There is no answer where ids are selected and the projection has none. -/
  unanswered : found ≠ [] → Unanswered (projectionOr projection) →
    (s.find query projection).result = .error .unwritable ∧
    (s.findFirst query projection).result = .error .unwritable
  /-- To look for the first document only is reported as is to look for all. -/
  reported : (s.findFirst query projection).records = (s.find query projection).records
  unchanged : (s.count query).state = s ∧ (s.find query projection).state = s ∧
    (s.findFirst query projection).state = s

/-- What `view` shows has an answer, if the projection has one or there is nothing to be shown. -/
private theorem exists_view {docs : Collection} {mask : Value}
    (h : found = [] ∨ ¬ Unanswered mask) : ∃ documents, view docs mask found = .ok documents := by
  cases found with
  | nil => exact ⟨[], view_nil docs mask⟩
  | cons id rest =>
    cases hread : Projection.ofValue mask with
    | ok p => exact ⟨_, view_of_ofValue hread docs _⟩
    | error e =>
      have hfits : e.fits = true := by
        by_contra hlong
        have hunanswered := Projection.exists_unfit_iff.1 ⟨e, hread, by simpa using hlong⟩
        exact (h.resolve_left (List.cons_ne_nil _ _)) hunanswered
      exact ⟨[], by rw [view_of_error hread, if_pos hfits]⟩

/-- A flag that cannot be shown. -/
def unshownFlag : Value := .object [(.text "a", unshownInteger)]

/-- The flag is refused, but not with an error: `unshownFlag` has no answer. -/
private theorem unanswered_unshownFlag : Unanswered unshownFlag :=
  ⟨_, rfl, [], _, [], rfl, by simp, .flag fits_unshownInteger⟩

end StoreState

end DocStore
