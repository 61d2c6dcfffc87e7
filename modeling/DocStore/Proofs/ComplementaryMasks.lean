import DocStore.Proofs.ProjectionGrammar
import Mathlib.Data.List.Nodup

/-!
# Keeping and dropping the same fields

Two masks name the same fields, one to keep them and one to drop them. They share a document out:
every field goes to one of the two results and none to both, and no value changes. What has been
masked once is not changed by the same mask.

The values with which masking fails are listed here by what is wrong with them (`Unusable`), without
asking how a mask is read.

## Key results

- `Projection.entries_apply_keep`, `Projection.entries_apply_drop`: the fields kept and the fields
  left, in their orders
- `Projection.apply_apply`: masking twice is masking once
- `Projection.unusable_iff`: the values that are no projections, by their faults
- `Projection.mask_sharesOut`: what masking does to every document
-/

namespace DocStore

namespace Projection

variable {d : Document} {names : List String} {e : Key × Value}

/-! ## What is kept -/

/-- `pick` gives fields under the names that the document has, in the order of the names. -/
private theorem map_fst_pick (d : Document) (names : List String) :
    (pick d names).map Prod.fst = (names.map Key.text).filter (· ∈ d) := by
  induction names with
  | nil => rfl
  | cons n rest ih =>
    -- whether the name is picked is decided by the same look-up as whether it is a key
    have hmem : decide (Key.text n ∈ d) = (d.get? n).isSome := (d.contains_eq_decide_mem n).symm
    cases hn : d.get? n with
    | none =>
      have hpick : pick d (n :: rest) = pick d rest := by simp [pick, hn]
      rw [hn] at hmem
      simp [hpick, ih, hmem]
    | some v =>
      have hpick : pick d (n :: rest) = (.text n, v) :: pick d rest := by simp [pick, hn]
      rw [hn] at hmem
      simp [hpick, ih, hmem]

/-- `pick` gives the entries of the document that stand under one of the names. -/
private theorem mem_pick_iff : e ∈ pick d names ↔ e ∈ d.entries ∧ e.1 ∈ names.map Key.text := by
  obtain ⟨key, v⟩ := e
  rw [pick, List.mem_filterMap]
  -- entries of a table are its look-ups, so that a picked entry is one of the document
  constructor
  · intro h
    obtain ⟨name, hname, hpicked⟩ := h
    obtain ⟨w, hw, heq⟩ := Option.map_eq_some_iff.1 hpicked
    cases heq
    exact ⟨(Table.get?_eq_some_iff_mem d).1 hw, List.mem_map_of_mem hname⟩
  · intro h
    obtain ⟨hentry, hkey⟩ := h
    obtain ⟨name, hname, rfl⟩ := List.mem_map.1 hkey
    refine ⟨name, hname, ?_⟩
    rw [(Table.get?_eq_some_iff_mem d).2 hentry]
    rfl

/-- Under distinct names `apply` keeps what `pick` gives, as it stands. -/
theorem entries_apply_keep (d : Document) (distinct : names.Nodup) :
    ((keep names).apply d).entries = pick d names := by
  apply Table.entries_ofList
  -- no key is picked twice, so the table has the entries in the order in which they are picked
  have hinjective : Function.Injective Key.text := fun _ _ heq => Key.text.inj heq
  have hkeys : (names.map Key.text).Nodup := distinct.map hinjective
  rw [map_fst_pick]
  exact hkeys.filter _

/-- `apply` leaves every field under another name, in the order of the document. -/
theorem entries_apply_drop (d : Document) (names : List String) :
    ((drop names).apply d).entries = d.entries.filter (·.1 ∉ names.map Key.text) := by
  show d.entries.filter _ = _
  apply List.filter_congr
  intro e he
  have hnamed : (names.any fun name => e.1 = .text name) =
      decide (e.1 ∈ names.map Key.text) := by
    rw [Bool.eq_iff_iff]
    simp [@eq_comm _ e.1]
  show (!names.any fun name => e.1 = .text name) = _
  rw [hnamed, decide_not]

/-! ## Masking twice -/

/-- `apply` changes nothing in what it has masked before. -/
theorem apply_apply (p : Projection) (d : Document) : p.apply (p.apply d) = p.apply d := by
  cases p with
  | everything => rfl
  | keep names =>
    -- under a name of the mask, the masked document holds what the document holds
    have hpick : pick ((keep names).apply d) names = pick d names := by
      apply List.filterMap_congr
      intro name hname
      rw [get?_apply_keep, if_pos hname]
    show Table.ofList (pick ((keep names).apply d) names) = Table.ofList (pick d names)
    rw [hpick]
  | drop names =>
    apply Table.ext_entries
    rw [entries_apply_drop, entries_apply_drop, List.filter_filter]
    simp only [Bool.and_self]

/-- `applyValue?` gives back what it has given with the same mask. -/
private theorem applyValue?_of_applyValue? {v : Value} {d' : Document}
    (h : applyValue? d v = .ok (some d')) : applyValue? d' v = .ok (some d') := by
  obtain ⟨p, hp, rfl⟩ := applyValue?_eq_some_iff.1 h
  exact applyValue?_eq_some_iff.2 ⟨p, hp, (apply_apply p d).symm⟩

/-! ## Values that are no projections -/

/-- The values with which masking fails, by what is wrong with them. -/
inductive Unusable : Value → Prop where
  | scalar (s : Scalar) : Unusable (.scalar s)
  | list (items : List Value) : Unusable (.list items)
  /-- Some key is no name. -/
  | key {entries : List (Key × Value)} {e : Key × Value} (mem : e ∈ entries)
    (noText : ∀ name : String, e.1 ≠ .text name) : Unusable (.object entries)
  /-- Some flag is not one of 1, 0, true and false. -/
  | flag {entries : List (Key × Value)} {e : Key × Value} (mem : e ∈ entries)
    (noFlag : ∀ b, ¬ IsFlag e.2 b) : Unusable (.object entries)
  /-- Some field is to be kept and another one to be dropped. -/
  | mixed {entries : List (Key × Value)} {e f : Key × Value} (mem : e ∈ entries)
    (keeps : IsFlag e.2 true) (mem' : f ∈ entries) (drops : IsFlag f.2 false) :
    Unusable (.object entries)

/-- `IsFlag` reads a value as one flag. -/
theorem IsFlag.unique {v : Value} {b c : Bool} (h : IsFlag v b) (h' : IsFlag v c) : b = c := by
  cases h <;> cases h' <;> rfl

/-- Flags that are not for different things are all for the same, in the sense of `IsFlag`. -/
private theorem exists_forall_isFlag {entries : List (Key × Value)}
    (hflags : ∀ e ∈ entries, ∃ b, IsFlag e.2 b)
    (hmixed : ∀ e ∈ entries, ∀ f ∈ entries, IsFlag e.2 true → ¬ IsFlag f.2 false) :
    ∃ b, ∀ e ∈ entries, IsFlag e.2 b := by
  -- one flag to keep decides for all; without one all are to drop
  by_cases hkeep : ∃ e ∈ entries, IsFlag e.2 true
  · obtain ⟨e, he, htrue⟩ := hkeep
    refine ⟨true, fun f hf => ?_⟩
    obtain ⟨c, hc⟩ := hflags f hf
    cases c with
    | true => exact hc
    | false => exact absurd hc (hmixed e he f hf htrue)
  · refine ⟨false, fun f hf => ?_⟩
    obtain ⟨c, hc⟩ := hflags f hf
    cases c with
    | true => exact absurd ⟨f, hf, hc⟩ hkeep
    | false => exact hc

/-- `Unusable` are the values that are no projections. -/
theorem unusable_iff {v : Value} : Unusable v ↔ ¬ IsProjection v := by
  constructor
  · intro h hprojection
    obtain ⟨flags, b, hv, hflags⟩ := hprojection
    rw [mask] at hv
    -- every entry of a projection has a name and a flag for the one thing
    have hentry : ∀ e ∈ flags.map fun (f : String × Value) => (Key.text f.1, f.2),
        (∃ name, e.1 = .text name) ∧ IsFlag e.2 b := by
      intro e he
      obtain ⟨f, hf, rfl⟩ := List.mem_map.1 he
      exact ⟨⟨f.1, rfl⟩, hflags f hf⟩
    cases h with
    | scalar s => cases hv
    | list items => cases hv
    | key mem noText =>
      cases hv
      obtain ⟨name, hname⟩ := (hentry _ mem).1
      exact noText name hname
    | flag mem noFlag =>
      cases hv
      exact noFlag b (hentry _ mem).2
    | mixed mem keeps mem' drops =>
      cases hv
      have hsame := ((hentry _ mem).2.unique keeps).symm.trans ((hentry _ mem').2.unique drops)
      cases hsame
  · intro h
    cases v with
    | scalar s => exact .scalar s
    | list items => exact .list items
    | object entries =>
      -- without a fault every key is a name and every flag is for the same
      by_contra hfit
      have hkeys : ∀ e ∈ entries, e.1.isText = true := by
        intro e he
        by_contra hkey
        refine hfit (.key he fun name hname => hkey ?_)
        rw [hname]
        rfl
      have hflags : ∀ e ∈ entries, ∃ b, IsFlag e.2 b := by
        intro e he
        by_contra hflag
        exact hfit (.flag he fun b hb => hflag ⟨b, hb⟩)
      obtain ⟨b, hb⟩ := exists_forall_isFlag hflags
        fun e he f hf keeps drops => hfit (.mixed he keeps hf drops)
      obtain ⟨named, rfl⟩ := Value.exists_map_text hkeys
      exact h ⟨named, b, rfl, fun f hf => hb _ (List.mem_map_of_mem hf)⟩

/-! ## Sharing out a document -/

/-- Two masks name the same fields, each of them once, the first mask to keep them and the second
one to drop them. -/
structure Opposite (names : List String) (keeping dropping : List (String × Value)) : Prop where
  nonempty : names ≠ []
  distinct : names.Nodup
  keeps : keeping.map Prod.fst = names ∧ ∀ f ∈ keeping, IsFlag f.2 true
  drops : dropping.map Prod.fst = names ∧ ∀ f ∈ dropping, IsFlag f.2 false

/-- Two documents share out a third one by some names. -/
structure SharesOut (d : Document) (names : List String) (kept left : Document) : Prop where
  /-- The one has the named fields that there are, in the order of the names, -/
  named : kept.keys = (names.map Key.text).filter (· ∈ d)
  /-- the other one has all others, in the order of the document. -/
  others : left.keys = d.keys.filter (· ∉ names.map Key.text)
  /-- No field is in both, -/
  disjoint : ∀ key ∈ kept, key ∉ left
  /-- and together they have every field of the document, each with its value. -/
  together : (kept.entries ++ left.entries).Perm d.entries

/-- `apply` with two masks of the same distinct names shares the document out. -/
private theorem sharesOut_apply (d : Document) (distinct : names.Nodup) :
    SharesOut d names ((keep names).apply d) ((drop names).apply d) := by
  have hkept := entries_apply_keep d distinct
  have hleft := entries_apply_drop d names
  have hkeys : ((keep names).apply d).keys = (names.map Key.text).filter (· ∈ d) := by
    rw [Table.keys, hkept, map_fst_pick]
  have hrest : ((drop names).apply d).keys = d.keys.filter (· ∉ names.map Key.text) := by
    rw [Table.keys, hleft, Table.keys, List.filter_map]
    rfl
  -- a key of both would be one of the names and none of them
  have hdisjoint : ∀ key ∈ (keep names).apply d, key ∉ (drop names).apply d := by
    intro key hkey hkey'
    change key ∈ ((keep names).apply d).keys at hkey
    change key ∈ ((drop names).apply d).keys at hkey'
    rw [hkeys] at hkey
    rw [hrest] at hkey'
    exact of_decide_eq_true (List.mem_filter.1 hkey').2 (List.mem_filter.1 hkey).1
  refine ⟨hkeys, hrest, hdisjoint, ?_⟩
  -- no entry of a table occurs twice, so it is enough to compare members
  have happend : (((keep names).apply d).entries ++ ((drop names).apply d).entries).Nodup := by
    refine List.nodup_append.2 ⟨Table.nodup_entries _, Table.nodup_entries _, ?_⟩
    intro a ha b hb heq
    exact hdisjoint a.1 (List.mem_map_of_mem ha) (heq ▸ List.mem_map_of_mem hb)
  refine (List.perm_ext_iff_of_nodup happend d.nodup_entries).2 fun a => ?_
  rw [List.mem_append, hkept, hleft, mem_pick_iff, List.mem_filter, decide_eq_true_eq]
  by_cases hnamed : a.1 ∈ names.map Key.text <;> simp [hnamed]

/-- What masking does to a document. -/
structure MasksShareOut (d : Document) : Prop where
  /-- Two opposite masks share it out. -/
  shared : ∀ names keeping dropping, Opposite names keeping dropping → ∃ kept left,
    applyValue? d (mask keeping) = .ok (some kept) ∧
      applyValue? d (mask dropping) = .ok (some left) ∧ SharesOut d names kept left
  /-- What a mask has left, the same mask leaves again. -/
  again : ∀ v d', applyValue? d v = .ok (some d') → applyValue? d' v = .ok (some d')
  /-- Masking fails with a value that has one of the faults, if it has an answer, and with no
  other. -/
  refused : ∀ v, applyValue? d v = .ok none ↔ Unusable v ∧ ¬ Unanswered v
  /-- It has no answer for a value whose first entry that is no name with a flag cannot be shown. -/
  unanswered : ∀ v, applyValue? d v = .error .unwritable ↔ Unanswered v
  /-- All of these values have a fault, and an integer of too many digits. -/
  unshown : ∀ v, Unanswered v → Unusable v ∧ v.fits = false

/-- `applyValue?` with two opposite masks shares out every document, is done when it has been done
once, and fails or succeeds whatever the document. -/
theorem mask_sharesOut (d : Document) : MasksShareOut d := by
  constructor
  case shared =>
    intro names keeping dropping h
    -- a mask with all flags alike is read as one that keeps or drops its names
    have hread {flags : List (String × Value)} {b : Bool} (hnames : flags.map Prod.fst = names)
        (hflags : ∀ f ∈ flags, IsFlag f.2 b) :
        applyValue? d (mask flags) = .ok (some ((ofNames b names).apply d)) := by
      rw [applyValue?, ofValue_mask_of_isFlag hflags, hnames]
    obtain ⟨n, rest, rfl⟩ := List.exists_cons_of_ne_nil h.nonempty
    exact ⟨_, _, hread h.keeps.1 h.keeps.2, hread h.drops.1 h.drops.2,
      sharesOut_apply d h.distinct⟩
  case again =>
    intro v d' h
    exact applyValue?_of_applyValue? h
  case refused =>
    intro v
    rw [applyValue?_eq_none_iff, unusable_iff]
  case unanswered => exact fun v => applyValue?_eq_error_iff
  case unshown =>
    intro v h
    refine ⟨unusable_iff.2 h.not_isProjection, ?_⟩
    by_contra hfits
    exact not_unanswered_of_fits (by simpa using hfits) h

/-- A `mask` with a name that the document lacks, the id, and flags of both kinds. The id goes the
way of any field. -/
theorem mask_sharesOut_nameAndId :
    let d : Document := .ofList [(.text idField, .text "1"), (.text "val", .int 13),
      (.text "name", .text "Alice"), (.text "tags", .list [])]
    let keeping : List (String × Value) :=
      [("name", .bool true), ("missing", .int 1), (idField, .int 1)]
    let dropping : List (String × Value) :=
      [("name", .int 0), ("missing", .int 0), (idField, .bool false)]
    ∃ kept left, applyValue? d (mask keeping) = .ok (some kept) ∧
      applyValue? d (mask dropping) = .ok (some left) ∧
      kept.keys = [.text "name", .text idField] ∧ left.keys = [.text "val", .text "tags"] ∧
      applyValue? kept (mask keeping) = .ok (some kept) ∧
      applyValue? d (.object [(.text "val", .int 1), (.text "name", .bool false)]) = .ok none := by
  intro d keeping dropping
  -- the two masks name the same fields, in one order, with flags of either spelling
  have hopposite : Opposite ["name", "missing", idField] keeping dropping := by
    refine ⟨by decide, by decide, ⟨rfl, ?_⟩, ⟨rfl, ?_⟩⟩
    · simp [keeping, IsFlag.one, IsFlag.truth true]
    · simp [dropping, IsFlag.zero, IsFlag.truth false]
  have hd : MasksShareOut d := mask_sharesOut d
  obtain ⟨kept, left, hkeep, hdrop, hshares⟩ := hd.shared _ _ _ hopposite
  refine ⟨kept, left, hkeep, hdrop, ?_, ?_, (mask_sharesOut d).again _ _ hkeep, ?_⟩
  · rw [hshares.named]
    rfl
  · rw [hshares.others]
    rfl
  -- a mixed projection is refused: its flags are short enough to be shown
  · refine (hd.refused _).2 ⟨?_, fun h => ?_⟩
    · exact .mixed List.mem_cons_self .one (List.mem_cons_of_mem _ List.mem_cons_self)
        (.truth false)
    · have hlong := (hd.unshown _ h).2
      revert hlong
      decide

/-- `applyValue?` with an integer of too many digits in the place of a flag. The projection has a
fault, and masking does not fail with it: there is no answer. -/
theorem not_refused_unshownFlag :
    let v : Value := .object [(.text "a", unshownInteger)]
    Unusable v ∧ applyValue? (.ofList [(.text "a", .int 1)]) v = .error .unwritable := by
  intro v
  have hunanswered : Unanswered v :=
    ⟨_, rfl, [], _, [], rfl, nofun, .flag fits_unshownInteger⟩
  exact ⟨unusable_iff.2 hunanswered.not_isProjection, applyValue?_eq_error_iff.2 hunanswered⟩

end Projection

end DocStore
