import DocStore.Proofs.InsertedDocuments
import Mathlib.Data.Set.Finite.Basic

/-!
# The search for an id

The search for an id that is not in use draws again and again, and nothing in it says when to give
up: `Search` is this loop, by the number of its draws and what it ends with. Where all ids to come
are in use there is no `Search`. A source delivers its queue and then distinct ids, so this cannot
be: the collection would hold more ids than it has documents.

`IdSource.unused` carries a bound for its recursion. It finds what the loop ends with, whatever the
bound, as long as there are draws enough; the one that it carries is the least that always will do.

## Key results

- `IdSource.Search.exists_firstUnused`: a search ends with the first id that is not in use
- `IdSource.drawUnused_of_search`: a bound that leaves room for the search has no part in it
- `IdSource.search_ends`: from every source the search ends, within the bound
- `IdSource.exists_search_atBound`: it may take as many draws as the bound allows
-/

namespace DocStore

namespace IdSource

variable {docs : Collection} {src : IdSource} {n : Nat} {r : String × IdSource}

/-! ## One draw after another -/

/-- The source when so many ids have been drawn. -/
def after (src : IdSource) : Nat → IdSource
  | 0 => src
  | n + 1 => src.draw.2.after n

/-- `upcoming` after some draws are the ids behind those drawn. -/
private theorem upcoming_after (src : IdSource) (n i : Nat) :
    (src.after n).upcoming i = src.upcoming (n + i) := by
  induction n generalizing src with
  | zero => rw [after, Nat.zero_add]
  | succ n ih =>
    rw [after, ih, upcoming_draw]
    congr 1
    omega

/-- `draw` delivers the ids in the order in which they are to come. -/
private theorem draw_after_fst (src : IdSource) (i : Nat) :
    (src.after i).draw.1 = src.upcoming i := by
  rw [draw_fst, upcoming_after, Nat.add_zero]

/-- `upcoming` begins with the queue. -/
private theorem upcoming_of_lt {i : Nat} (h : i < src.queue.length) :
    src.upcoming i = src.queue[i] := by
  rw [upcoming, List.getElem?_eq_getElem h, Option.getD_some]

/-- `upcoming` names no id twice behind the queue. -/
private theorem eq_of_upcoming_eq {i j : Nat} (hi : src.queue.length ≤ i)
    (hj : src.queue.length ≤ j) (h : src.upcoming i = src.upcoming j) : i = j := by
  obtain ⟨a, rfl⟩ := Nat.exists_eq_add_of_le hi
  obtain ⟨b, rfl⟩ := Nat.exists_eq_add_of_le hj
  rw [upcoming_length_add, upcoming_length_add] at h
  have := src.supply_injective _ _ h
  omega

/-! ## The loop -/

/-- The loop that draws until an id is not in use, with the number of its draws and what it ends
with: the id, and the source as it is then. -/
inductive Search (docs : Collection) : IdSource → Nat → String × IdSource → Prop where
  /-- The id is not in use, and the loop ends. -/
  | found {src : IdSource} (unused : src.draw.1 ∉ docs) : Search docs src 1 src.draw
  /-- The id is in use. It is lost, and the loop goes on with what the draw has left. -/
  | again {src : IdSource} {n : Nat} {r : String × IdSource} (used : src.draw.1 ∈ docs)
    (rest : Search docs src.draw.2 n r) : Search docs src (n + 1) r

/-- `Search` ends with the first id to come that is not in use, where there is one. -/
private theorem Search.of_firstUnused (h : FirstUnused docs src.upcoming n) :
    Search docs src (n + 1) (src.after n).draw := by
  -- every id that comes before it is one more turn of the loop
  induction n generalizing src with
  | zero =>
    refine .found ?_
    rw [draw_fst]
    exact h.unused
  | succ n ih =>
    -- the first id is in use, so it is drawn in vain
    refine .again ?_ (ih ⟨?_, fun i hi => ?_⟩)
    · rw [draw_fst]
      exact h.before 0 (Nat.succ_pos n)
    · rw [upcoming_draw]
      exact h.unused
    · rw [upcoming_draw]
      exact h.before (i + 1) (Nat.succ_lt_succ hi)

/-- `Search` ends with nothing but the first id to come that is not in use. -/
theorem Search.exists_firstUnused (h : Search docs src n r) :
    ∃ k, n = k + 1 ∧ r = (src.after k).draw ∧ FirstUnused docs src.upcoming k := by
  -- by the turns of the loop: each moves the place of the id one further
  induction h with
  | @found src unused =>
    rw [draw_fst] at unused
    exact ⟨0, rfl, rfl, unused, nofun⟩
  | @again src n r used rest ih =>
    obtain ⟨k, rfl, rfl, hfirst⟩ := ih
    rw [draw_fst] at used
    refine ⟨k + 1, rfl, rfl, ?_, fun i hi => ?_⟩
    · rw [← upcoming_draw]
      exact hfirst.unused
    · cases i with
      | zero => exact used
      | succ i =>
        rw [← upcoming_draw]
        exact hfirst.before i (Nat.lt_of_succ_lt_succ hi)

/-- `drawUnused` with a bound that leaves room for the whole loop finds what the loop ends with. -/
theorem drawUnused_of_search (h : Search docs src n r) {again : Nat} (hn : n ≤ again + 1) :
    drawUnused docs again src = r := by
  induction h generalizing again with
  | @found src unused =>
    cases again with
    | zero => rfl
    | succ again =>
      rw [drawUnused, Table.contains_eq_decide_mem, decide_eq_false unused]
      rfl
  | @again src n r used rest ih =>
    cases again with
    -- the loop has a draw to come and the bound has none left
    | zero => cases rest <;> omega
    | succ again =>
      rw [drawUnused, Table.contains_eq_decide_mem, decide_eq_true used]
      exact ih (Nat.le_of_succ_le_succ hn)

/-! ## The loop ends -/

/-- The first id that is not in use comes before there can be more ids than documents: `upcoming`
has one so early. -/
theorem FirstUnused.le (h : FirstUnused docs src.upcoming n) :
    n ≤ src.queue.length + docs.size := by
  obtain ⟨i, hi, hunused⟩ := exists_upcoming_not_mem docs src
  have hni : n ≤ i := Nat.le_of_not_lt fun hlt => hunused (h.before i hlt)
  exact Nat.le_trans hni hi

/-- `drawUnused` draws the first id that is not in use if it may go that far. -/
private theorem drawUnused_of_firstUnused (h : FirstUnused docs src.upcoming n) {again : Nat}
    (hn : n ≤ again) : drawUnused docs again src = (src.after n).draw :=
  drawUnused_of_search (Search.of_firstUnused h) (Nat.succ_le_succ hn)

/-- How the search for an id goes: so many ids are drawn in vain, and one more. -/
structure Ends (docs : Collection) (src : IdSource) (inVain : Nat) : Prop where
  /-- What is drawn is first the queue, -/
  queued : ∀ i (h : i < src.queue.length), (src.after i).draw.1 = src.queue[i]
  /-- and behind it distinct ids. -/
  distinct : ∀ i j, src.queue.length ≤ i → src.queue.length ≤ j →
    (src.after i).draw.1 = (src.after j).draw.1 → i = j
  /-- The loop ends, -/
  ends : Search docs src (inVain + 1) (src.unused docs)
  /-- in one way only. -/
  only : ∀ n r, Search docs src n r → n = inVain + 1 ∧ r = src.unused docs
  /-- It draws no more than the ids of the queue, those in use, and one. -/
  within : inVain + 1 ≤ src.queue.length + docs.size + 1
  /-- What is found has been drawn last, and nothing has been drawn since. -/
  last : src.unused docs = (src.after inVain).draw
  /-- It is not in use, -/
  unused : (src.unused docs).1 ∉ docs
  /-- and all that has been drawn before is. -/
  before : ∀ i < inVain, (src.after i).draw.1 ∈ docs
  /-- With any other bound that allows these draws the same is found. -/
  unbounded : ∀ again, inVain ≤ again → drawUnused docs again src = src.unused docs
  /-- What comes without an id of its own is inserted under the one that is found, and the draws of
  an insertion are those of the search. -/
  inserted : ∀ v d, Document.ofValue? v = .ok d → d.givenId? = none →
    ∃ i, docs.insertValue src v = .ok i ∧ (i.id, i.ids) = src.unused docs

/-- `Search` ends from every source and for every collection: there are not documents enough for all
ids to be in use. -/
theorem search_ends (docs : Collection) (src : IdSource) : ∃ inVain, Ends docs src inVain := by
  obtain ⟨i, -, hunused⟩ := exists_upcoming_not_mem docs src
  -- everything follows from the first one of the upcoming ids that is not in use
  obtain ⟨k, hfirst⟩ := IdSource.exists_firstUnused ⟨i, hunused⟩
  have hfound : src.unused docs = (src.after k).draw := drawUnused_of_firstUnused hfirst hfirst.le
  exact ⟨k, {
    queued := fun i h => by rw [draw_after_fst, upcoming_of_lt h]
    distinct := fun i j hi hj h => by
      rw [draw_after_fst, draw_after_fst] at h
      exact eq_of_upcoming_eq hi hj h
    ends := by
      rw [hfound]
      exact .of_firstUnused hfirst
    only := fun n r h => by
      obtain ⟨k', rfl, rfl, hfirst'⟩ := h.exists_firstUnused
      obtain rfl := hfirst'.unique hfirst
      exact ⟨rfl, hfound.symm⟩
    within := Nat.succ_le_succ hfirst.le
    last := hfound
    unused := src.unused_not_mem docs
    before := fun i hi => by
      rw [draw_after_fst]
      exact hfirst.before i hi
    unbounded := fun again hk => by rw [drawUnused_of_firstUnused hfirst hk, hfound]
    inserted := fun v d hd hgiven => by
      rw [Collection.insertValue_of_document hd, hgiven]
      exact ⟨_, rfl, rfl⟩ }⟩

/-- Two draws find the id in use, and the third is taken. -/
example : ((counted "gen" 13 ["a", "a", "b", "c"]).unused (.ofList [("a", .empty)])).1 = "b" := by
  decide

/-! ## The bound is reached -/

/-- A `supply` without repetitions that begins with given distinct ids. -/
private theorem exists_supply (used : List String) (h : used.Nodup) :
    ∃ supply : Nat → String, (∀ i j, supply i = supply j → i = j) ∧
      ∀ i (hi : i < used.length), supply i = used[i] := by
  have hfresh : Set.Infinite {id | id ∈ used}ᶜ := used.finite_toSet.infinite_compl
  let fresh := hfresh.natEmbedding
  refine ⟨fun i => if hi : i < used.length then used[i] else fresh (i - used.length), ?_, ?_⟩
  -- both are ids in use, both are fresh, or they are of different kinds
  · intro i j heq
    by_cases hi : i < used.length <;> by_cases hj : j < used.length
    · simpa [hi, hj, h.getElem_inj_iff] using heq
    · simp only [hi, hj, dite_true, dite_false] at heq
      exact absurd (heq ▸ List.getElem_mem hi) (fresh (j - used.length)).2
    · simp only [hi, hj, dite_true, dite_false] at heq
      exact absurd (heq ▸ List.getElem_mem hj) (fresh (i - used.length)).2
    · simp only [hi, hj, dite_false] at heq
      have := fresh.injective (Subtype.ext heq)
      omega
  · intro i hi
    simp [hi]

/-- A `queue` of ids in use, and then a supply that begins with all of them: every draw that the
bound allows is made. -/
theorem exists_search_atBound (docs : Collection) {queue : List String}
    (hqueue : ∀ id ∈ queue, id ∈ docs) :
    ∃ src : IdSource, src.queue = queue ∧
      ∃ r, Search docs src (queue.length + docs.size + 1) r := by
  obtain ⟨supply, hinjective, hkeys⟩ := exists_supply docs.keys docs.nodup_keys
  have hsize : docs.keys.length = docs.size := List.length_map ..
  let src : IdSource := ⟨queue, supply, hinjective, 0⟩
  have hsupply (i : Nat) : src.upcoming (queue.length + i) = supply i := by
    rw [upcoming_length_add src i]
    exact congrArg supply (Nat.zero_add i)
  have hfirst : FirstUnused docs src.upcoming (queue.length + docs.size) := by
    constructor
    · rw [hsupply]
      intro hused
      -- the supply has delivered this id before
      obtain ⟨i, hi, heq⟩ := List.getElem_of_mem hused
      rw [← hkeys i hi] at heq
      have := hinjective _ _ heq
      omega
    · intro i hi
      rcases Nat.lt_or_ge i queue.length with hlt | hge
      · rw [upcoming_of_lt (show i < src.queue.length from hlt)]
        exact hqueue _ (List.getElem_mem hlt)
      · obtain ⟨j, rfl⟩ := Nat.exists_eq_add_of_le hge
        have hj : j < docs.keys.length := by omega
        rw [hsupply, hkeys j hj]
        exact List.getElem_mem hj
  exact ⟨src, rfl, _, Search.of_firstUnused hfirst⟩

end IdSource

end DocStore
