import DocStore.Proofs.DistinctKeys
import DocStore.Proofs.FieldEquality
import Mathlib.Data.List.Perm.Subperm

/-!
# Equality inside lists and objects

Equality that never crosses type tags looks at the tags of the two values that it is asked about,
and at no tags inside them. From there on truth values count as 0 and 1. So two scalars are equal
only within one type, while a list that holds 1 is equal to a list that holds a truth value. Nor is
not-a-number equal to itself, while a list that holds one is equal to a list that holds the same
one.

Values correspond if they have the same shape: lists of the same length, objects with the same keys.
Which lists and objects are equal is then said by the pairs of scalars in the same place. Equality
is within types at every depth for the values in which no such pair crosses types or is undefined.

## Key results

- `Value.sameWith_iff_corresponds`: equality across representations is correspondence
- `Value.equalThroughout`: what equality within types at the top means further down
-/

namespace DocStore

/-! ## Scalars -/

/-- A truth value and a number that is 0 for false and 1 for true. -/
inductive Scalar.Crosses : Scalar → Scalar → Prop where
  | boolNumber {b : Bool} {n : Number} (h : n.value? = (Number.int b.toNat).value?) :
    Crosses (.bool b) (.number n)
  | numberBool {b : Bool} {n : Number} (h : n.value? = (Number.int b.toNat).value?) :
    Crosses (.number n) (.bool b)

/-- Two scalars that are not-a-number. -/
def Scalar.Undefined (s t : Scalar) : Prop :=
  s = .number (.float .nan) ∧ t = .number (.float .nan)

/-- Two scalars in a place are equal where types do not matter: within one type, or across two of
them, or as one and the same not-a-number. -/
def Scalar.Alike (one : Place → Bool) (p : Place) (s t : Scalar) : Prop :=
  s.Equals t ∨ s.Crosses t ∨ one p = true ∧ s.Undefined t

/-- `Crosses` holds of scalars of two types only. -/
private theorem Scalar.Crosses.typeTag_ne {s t : Scalar} (h : s.Crosses t) :
    s.typeTag ≠ t.typeTag := by
  cases h with
  | boolNumber => exact nofun
  | numberBool => exact nofun

/-- `Number.same` does not depend on the order of the two. -/
private theorem Number.same_comm (m n : Number) : m.same n = n.same m := by
  rw [Bool.eq_iff_iff, same_iff, same_iff]
  simp only [and_comm]

/-- `Number.same` of an integer is to have its exact value. -/
private theorem Number.int_same_iff {k : Int} {n : Number} :
    (Number.int k).same n = true ↔ n.value? = (Number.int k).value? := by
  rw [same_iff]
  simp [value?]

/-- `Scalar.same` holds within a type and across types. -/
theorem Scalar.same_iff {s t : Scalar} : s.same t = true ↔ s.Equals t ∨ s.Crosses t := by
  by_cases htag : s.typeTag = t.typeTag
  · -- within one type nothing crosses
    have hnot : ¬ s.Crosses t := fun h => h.typeTag_ne htag
    simp [equals_iff, htag, hnot]
  · have hnot : ¬ s.Equals t := fun h => htag h.typeTag_eq
    simp only [hnot, false_or]
    constructor
    · intro h
      -- of two types, only truth values and numbers can be equal
      cases s with
      | bool b =>
        cases t with
        | number n => exact .boolNumber (Number.int_same_iff.1 h)
        | bool c => exact absurd rfl htag
        | _ => cases h
      | number m =>
        cases t with
        | bool c => exact .numberBool (Number.int_same_iff.1 (Number.same_comm m _ ▸ h))
        | number n => exact absurd rfl htag
        | _ => cases h
      | null =>
        cases t with
        | null => exact absurd rfl htag
        | _ => cases h
      | text a =>
        cases t with
        | text b => exact absurd rfl htag
        | _ => cases h
    · intro h
      cases h with
      | boolNumber h => exact Number.int_same_iff.2 h
      | numberBool h =>
        show Number.same _ _ = true
        rw [Number.same_comm]
        exact Number.int_same_iff.2 h

/-- `Equals` holds of not-a-number and no scalar. -/
private theorem Scalar.not_equals_nan {s : Scalar} : ¬ s.Equals (.number (.float .nan)) := by
  intro h
  cases h with
  | number _ h => cases h

/-- The scalars in a place are equal as `sameWith` compares them. -/
private theorem Scalar.alike_iff {one : Place → Bool} {s t : Scalar} :
    (s.same t || one [] && s.isNaN && t.isNaN) = true ↔ s.Alike one [] t := by
  simp [Alike, Undefined, isNaN, same_iff, or_assoc, and_assoc]

namespace Value

/-! ## Values of the same shape -/

/-- Two values have the same shape, and scalars in the same place are related: lists item by item,
objects by the values under their keys, whatever the order. -/
inductive Corresponds : (Place → Scalar → Scalar → Prop) → Value → Value → Prop where
  | scalar {R : Place → Scalar → Scalar → Prop} {s t : Scalar} (h : R [] s t) :
    Corresponds R (.scalar s) (.scalar t)
  | list {R : Place → Scalar → Scalar → Prop} {vs ws : List Value} (length : vs.length = ws.length)
    (items : ∀ (i : Nat) (v w : Value), vs[i]? = some v → ws[i]? = some w →
      Corresponds (fun p => R (.item i :: p)) v w) : Corresponds R (.list vs) (.list ws)
  | object {R : Place → Scalar → Scalar → Prop} {es fs : List (Key × Value)}
    (keys : (es.map Prod.fst).Perm (fs.map Prod.fst))
    (values : ∀ k v w, (k, v) ∈ es → (k, w) ∈ fs →
      Corresponds (fun p => R (.entry k :: p)) v w) : Corresponds R (.object es) (.object fs)

/-- The parts that stand in a place in two values, the values themselves among them. -/
inductive Paired : Place → Value → Value → Value → Value → Prop where
  | whole (v w : Value) : Paired [] v w v w
  | item {p : Place} {i : Nat} {vs ws : List Value} {v w v' w' : Value} (left : vs[i]? = some v)
    (right : ws[i]? = some w) (inside : Paired p v w v' w') :
    Paired (.item i :: p) (.list vs) (.list ws) v' w'
  | entry {p : Place} {es fs : List (Key × Value)} {k : Key} {v w v' w' : Value}
    (left : (k, v) ∈ es) (right : (k, w) ∈ fs) (inside : Paired p v w v' w') :
    Paired (.entry k :: p) (.object es) (.object fs) v' w'

variable {R : Place → Scalar → Scalar → Prop} {one : Place → Bool} {p : Place} {v w v' w' : Value}

/-- `Corresponds` for scalars: they are related. -/
private theorem corresponds_scalar_iff {s t : Scalar} :
    Corresponds R (.scalar s) (.scalar t) ↔ R [] s t := by
  constructor
  · intro h
    cases h with
    | scalar h => exact h
  · exact .scalar

/-- `Corresponds` for lists: item by item. -/
private theorem corresponds_list_iff {vs ws : List Value} :
    Corresponds R (.list vs) (.list ws) ↔ vs.length = ws.length ∧
      ∀ (i : Nat) (v w : Value), vs[i]? = some v → ws[i]? = some w →
        Corresponds (fun p => R (.item i :: p)) v w := by
  constructor
  · intro h
    cases h with
    | list length items => exact ⟨length, items⟩
  · intro h
    exact .list h.1 h.2

/-- `Corresponds` for objects: by the values under their keys. -/
private theorem corresponds_object_iff {es fs : List (Key × Value)} :
    Corresponds R (.object es) (.object fs) ↔
      (es.map Prod.fst).Perm (fs.map Prod.fst) ∧ ∀ k v w, (k, v) ∈ es → (k, w) ∈ fs →
        Corresponds (fun p => R (.entry k :: p)) v w := by
  constructor
  · intro h
    cases h with
    | object keys values => exact ⟨keys, values⟩
  · intro h
    exact .object h.1 h.2

/-- `Corresponds` goes on to parts in the same place. -/
private theorem Corresponds.of_paired (hp : Paired p v w v' w') (h : Corresponds R v w) :
    Corresponds (fun q => R (p ++ q)) v' w' := by
  -- one step to the place after the other, each of which is taken off the relation
  induction hp generalizing R with
  | whole v w => exact h
  | item left right _ ih => exact ih ((corresponds_list_iff.1 h).2 _ _ _ left right)
  | entry left right _ ih => exact ih ((corresponds_object_iff.1 h).2 _ _ _ left right)

/-- `Paired` parts of `Paired` parts are parts in the same place. -/
theorem Paired.trans {q : Place} {a b : Value} (hp : Paired p v w v' w')
    (hq : Paired q v' w' a b) : Paired (p ++ q) v w a b := by
  induction hp with
  | whole v w => exact hq
  | item left right _ ih => exact .item left right (ih hq)
  | entry left right _ ih => exact .entry left right (ih hq)

/-- `Corresponds` by any other relation of the scalars in the same place. -/
private theorem Corresponds.mono {R' : Place → Scalar → Scalar → Prop} (h : Corresponds R v w)
    (hscalars : ∀ p s t, Paired p v w (.scalar s) (.scalar t) → R p s t → R' p s t) :
    Corresponds R' v w := by
  induction h generalizing R' with
  | scalar h => exact .scalar (hscalars _ _ _ (.whole _ _) h)
  | list length items ih =>
    refine .list length fun i v w left right => ih i v w left right fun p s t hp => ?_
    exact hscalars _ s t (.item left right hp)
  | object keys values ih =>
    refine .object keys fun k v w left right => ih k v w left right fun p s t hp => ?_
    exact hscalars _ s t (.entry left right hp)

/-- `DistinctKeys` goes on to parts in the same place. -/
private theorem Paired.distinctKeys (hp : Paired p v w v' w') (hv : v.DistinctKeys)
    (hw : w.DistinctKeys) : v'.DistinctKeys ∧ w'.DistinctKeys := by
  -- down the way to the pair: the parts of a value with distinct keys have distinct keys
  induction hp with
  | whole v w => exact ⟨hv, hw⟩
  | item left right _ ih =>
    cases hv with
    | list insideV =>
      cases hw with
      | list insideW =>
        exact ih (insideV _ (List.mem_of_getElem? left)) (insideW _ (List.mem_of_getElem? right))
  | entry left right _ ih =>
    cases hv with
    | object _ insideV =>
      cases hw with
      | object _ insideW => exact ih (insideV _ left) (insideW _ right)

/-- `Corresponds` holds of values of one type, unless they are scalars. -/
theorem Corresponds.typeTag_eq (h : Corresponds R v w)
    (hscalar : ∀ s t, v = .scalar s → w = .scalar t → s.typeTag = t.typeTag) :
    v.typeTag = w.typeTag := by
  cases h with
  | scalar => exact hscalar _ _ rfl rfl
  | list => rfl
  | object => rfl

/-! ## Equality of lists and objects -/

/-- `sameItems` compares the items in the same place. -/
private theorem sameItems_iff {one : Nat → Place → Bool} {vs ws : List Value} :
    sameItems one vs ws = true ↔ vs.length = ws.length ∧
      ∀ (i : Nat) (v w : Value), vs[i]? = some v → ws[i]? = some w →
        sameWith (one i) v w = true := by
  -- induction on the first list; the places of the rest are one further on
  induction vs generalizing ws one with
  | nil => cases ws <;> simp [sameItems]
  | cons v rest ih =>
    cases ws with
    | nil => simp [sameItems]
    | cons w rest' =>
      simp only [sameItems, Bool.and_eq_true, ih, List.length_cons, Nat.add_right_cancel_iff]
      constructor
      · rintro ⟨hhead, hlength, hrest⟩
        refine ⟨hlength, fun i a b left right => ?_⟩
        cases i with
        | zero =>
          cases left
          cases right
          exact hhead
        | succ i => exact hrest i a b left right
      · rintro ⟨hlength, hall⟩
        exact ⟨hall 0 v w rfl rfl, hlength, fun i a b left right => hall (i + 1) a b left right⟩

/-- `sameEntries` finds an equal value for each entry under its key. -/
private theorem sameEntries_iff {one : Key → Place → Bool} {es fs : List (Key × Value)} :
    sameEntries one es fs = true ↔
      ∀ k v, (k, v) ∈ es → ∃ w, fs.lookup k = some w ∧ sameWith (one k) v w = true := by
  induction es with
  | nil => simp [sameEntries]
  | cons e rest ih =>
    obtain ⟨k, v⟩ := e
    rw [sameEntries, Bool.and_eq_true, ih]
    constructor
    -- the entry at the front is looked up in the other object, the others by induction
    · intro h k' v' hmem
      rcases List.mem_cons.1 hmem with heq | hmem
      · obtain ⟨rfl, rfl⟩ := Prod.mk.inj heq
        cases hlookup : fs.lookup k' with
        | none => simp [hlookup] at h
        | some w => exact ⟨w, rfl, by simpa [hlookup] using h.1⟩
      · exact h.2 k' v' hmem
    · intro h
      obtain ⟨w, hlookup, hsame⟩ := h k v List.mem_cons_self
      simp only [hlookup, hsame, true_and]
      exact fun k' v' hmem => h k' v' (List.mem_cons_of_mem _ hmem)

/-- `keys` of two objects of one size are the same if every key of the first is one of the second.
-/
private theorem perm_keys_of_subset {es fs : List (Key × Value)} (hes : (es.map Prod.fst).Nodup)
    (hlength : es.length = fs.length) (hsub : ∀ k ∈ es.map Prod.fst, k ∈ fs.map Prod.fst) :
    (es.map Prod.fst).Perm (fs.map Prod.fst) := by
  apply (List.subperm_of_subset hes hsub).perm_of_length_le
  rw [List.length_map, List.length_map, hlength]

/-- `sameWith` for objects with distinct keys: they have the same keys, with equal values. -/
private theorem sameWith_object_iff {es fs : List (Key × Value)} (hes : (es.map Prod.fst).Nodup)
    (hfs : (fs.map Prod.fst).Nodup) :
    sameWith one (.object es) (.object fs) = true ↔
      (es.map Prod.fst).Perm (fs.map Prod.fst) ∧ ∀ k v w, (k, v) ∈ es → (k, w) ∈ fs →
        sameWith (fun p => one (.entry k :: p)) v w = true := by
  rw [sameWith, Bool.and_eq_true, beq_iff_eq, sameEntries_iff]
  constructor
  · intro h
    obtain ⟨hlength, hentries⟩ := h
    constructor
    · apply perm_keys_of_subset hes hlength
      intro k hk
      obtain ⟨⟨_, v⟩, hmem, rfl⟩ := List.mem_map.1 hk
      obtain ⟨w, hlookup, -⟩ := hentries _ v hmem
      have hright := (Table.lookup_eq_some_iff_mem hfs).1 hlookup
      exact List.mem_map.2 ⟨_, hright, rfl⟩
    · intro k v w hleft hright
      obtain ⟨w', hlookup, hsame⟩ := hentries k v hleft
      -- there is only one value under a key
      rw [(Table.lookup_eq_some_iff_mem hfs).2 hright] at hlookup
      rwa [Option.some.inj hlookup]
  · intro h
    obtain ⟨hkeys, hvalues⟩ := h
    constructor
    · simpa using hkeys.length_eq
    · intro k v hleft
      obtain ⟨⟨_, w⟩, hright, rfl⟩ := List.mem_map.1 (hkeys.subset (List.mem_map_of_mem hleft))
      exact ⟨w, (Table.lookup_eq_some_iff_mem hfs).2 hright, hvalues _ v w hleft hright⟩

/-- `sameWith` is correspondence: the same shape, and scalars in the same place that are equal
within a type or across two of them, or are one not-a-number. -/
theorem sameWith_iff_corresponds (hv : v.DistinctKeys) (hw : w.DistinctKeys) :
    sameWith one v w = true ↔ Corresponds (Scalar.Alike one) v w := by
  -- the induction is on the first value; values of different shapes are not equal and do not
  -- correspond, and distinct keys make it enough that the keys of the first are in the second
  induction hv generalizing w one with
  | scalar s =>
    cases hw with
    | scalar t => rw [sameWith, corresponds_scalar_iff, Scalar.alike_iff]
    | list => exact iff_of_false (by simp [sameWith]) (by rintro ⟨⟩)
    | object => exact iff_of_false (by simp [sameWith]) (by rintro ⟨⟩)
  | @list vs insideV ih =>
    cases hw with
    | scalar => exact iff_of_false (by simp [sameWith]) (by rintro ⟨⟩)
    | @list ws insideW =>
      rw [sameWith, sameItems_iff, corresponds_list_iff]
      apply and_congr_right
      intro _
      refine forall₅_congr fun i v w left right => ?_
      exact ih v (List.mem_of_getElem? left) (insideW w (List.mem_of_getElem? right))
    | object => exact iff_of_false (by simp [sameWith]) (by rintro ⟨⟩)
  | @object es distinct insideV ih =>
    cases hw with
    | scalar => exact iff_of_false (by simp [sameWith]) (by rintro ⟨⟩)
    | list => exact iff_of_false (by simp [sameWith]) (by rintro ⟨⟩)
    | @object fs distinct' insideW =>
      rw [sameWith_object_iff distinct distinct', corresponds_object_iff]
      apply and_congr_right
      intro _
      refine forall₅_congr fun k v w left right => ?_
      exact ih (k, v) left (insideW (k, w) right)

/-! ## Equality that looks at the top -/

/-- Somewhere within two values scalars stand in the same place that are related. -/
def Meet (R : Scalar → Scalar → Prop) (v w : Value) : Prop :=
  ∃ p s t, Paired p v w (.scalar s) (.scalar t) ∧ R s t

section

variable {R : Scalar → Scalar → Prop}

/-- `Meet` within two scalars: they meet themselves. -/
private theorem meet_scalar_iff {s t : Scalar} : Meet R (.scalar s) (.scalar t) ↔ R s t := by
  constructor
  · intro h
    obtain ⟨_, _, _, hp, hrelated⟩ := h
    cases hp with
    | whole => exact hrelated
  · intro h
    exact ⟨[], s, t, .whole _ _, h⟩

/-- `Meet` within two lists: within two items in the same place. -/
private theorem meet_list_iff {vs ws : List Value} :
    Meet R (.list vs) (.list ws) ↔
      ∃ (i : Nat) (v w : Value), vs[i]? = some v ∧ ws[i]? = some w ∧ Meet R v w := by
  constructor
  · intro h
    obtain ⟨_, s, t, hp, hrelated⟩ := h
    cases hp with
    | item left right inside => exact ⟨_, _, _, left, right, _, s, t, inside, hrelated⟩
  · intro h
    obtain ⟨i, v, w, left, right, p, s, t, inside, hrelated⟩ := h
    exact ⟨.item i :: p, s, t, .item left right inside, hrelated⟩

/-- `Meet` within two objects: within two values under one key. -/
private theorem meet_object_iff {es fs : List (Key × Value)} :
    Meet R (.object es) (.object fs) ↔ ∃ k v w, (k, v) ∈ es ∧ (k, w) ∈ fs ∧ Meet R v w := by
  constructor
  · intro h
    obtain ⟨_, s, t, hp, hrelated⟩ := h
    cases hp with
    | entry left right inside => exact ⟨_, _, _, left, right, _, s, t, inside, hrelated⟩
  · intro h
    obtain ⟨k, v, w, left, right, p, s, t, inside, hrelated⟩ := h
    exact ⟨.entry k :: p, s, t, .entry left right inside, hrelated⟩

end

/-- The places inside a value, but not that of the value itself. -/
def inside (one : Place → Bool) (p : Place) : Bool := !p.isEmpty && one p

/-- What equality within types at the top means further down, for two values in which one
not-a-number may stand at some places. -/
structure EqualThroughout (one : Place → Bool) (v w : Value) : Prop where
  /-- The two values are of one type. Inside, truth values are taken for numbers, and a not-a-number
  for equal to itself. -/
  meaning : v.strictEqWith one w = true ↔
    v.typeTag = w.typeTag ∧ Corresponds (Scalar.Alike (inside one)) v w
  /-- All parts in the same place are equal within types, if no scalars meet across types and no
  not-a-number meets another one. -/
  everywhere : v.strictEqWith one w = true →
    ((∀ p v' w', Paired p v w v' w' →
        v'.typeTag = w'.typeTag ∧ v'.strictEqWith (fun q => one (p ++ q)) w' = true) ↔
      ¬ Meet Scalar.Crosses v w ∧ ¬ Meet Scalar.Undefined v w)
  /-- Equal scalars never meet across types, and not-a-number is equal to none. -/
  scalars : ∀ s t : Scalar, v = .scalar s → w = .scalar t →
    (v.strictEqWith one w = true ↔ s.Equals t)

/-- `strictEqWith` is to be of one type and to correspond. -/
private theorem strictEqWith_iff (hv : v.DistinctKeys) (hw : w.DistinctKeys) :
    v.strictEqWith one w = true ↔
      v.typeTag = w.typeTag ∧ Corresponds (Scalar.Alike (inside one)) v w := by
  rw [strictEqWith, Bool.and_eq_true, beq_iff_eq, ← sameWith_iff_corresponds hv hw]
  rfl

/-- `strictEqWith` of two scalars is equality within one type. -/
private theorem strictEqWith_scalar_iff {s t : Scalar} :
    (Value.scalar s).strictEqWith one (.scalar t) = true ↔ s.Equals t := by
  simp [strictEqWith, sameWith, Scalar.equals_iff, typeTag]

/-- `EqualThroughout` for values with distinct keys: they are equal within types at every depth if
their types are equal at the top, the values correspond, no scalars within them meet across types,
and no not-a-number meets another one. -/
theorem equalThroughout (hv : v.DistinctKeys) (hw : w.DistinctKeys) (one : Place → Bool) :
    EqualThroughout one v w := by
  constructor
  case meaning => exact strictEqWith_iff hv hw
  case everywhere =>
    intro hequal
    have hcorresponds := ((strictEqWith_iff hv hw).1 hequal).2
    constructor
    · intro hparts
      constructor
      · rintro ⟨p, s, t, hp, hcrosses⟩
        exact hcrosses.typeTag_ne (hparts _ _ _ hp).1
      · rintro ⟨p, s, t, hp, rfl, rfl⟩
        -- on its own, not-a-number is not equal to itself
        exact Scalar.not_equals_nan (strictEqWith_scalar_iff.1 (hparts _ _ _ hp).2)
    · rintro ⟨hapart, hdefined⟩ p v' w' hp
      -- so the scalars in one place are equal, and need not be one object for it
      have hscalars : Corresponds (fun _ => Scalar.Equals) v' w' := by
        refine (hcorresponds.of_paired hp).mono fun q s t hq halike => ?_
        rcases halike with hequals | hcrosses | ⟨-, hundefined⟩
        · exact hequals
        · exact absurd ⟨p ++ q, s, t, hp.trans hq, hcrosses⟩ hapart
        · exact absurd ⟨p ++ q, s, t, hp.trans hq, hundefined⟩ hdefined
      have htag : v'.typeTag = w'.typeTag := by
        apply hscalars.typeTag_eq
        rintro s t rfl rfl
        exact (corresponds_scalar_iff.1 hscalars).typeTag_eq
      obtain ⟨hv', hw'⟩ := hp.distinctKeys hv hw
      exact ⟨htag, (strictEqWith_iff hv' hw').2 ⟨htag, hscalars.mono fun _ _ _ _ h => .inl h⟩⟩
  case scalars =>
    rintro s t rfl rfl
    exact strictEqWith_scalar_iff

/-- A list of one not-a-number is equal to another list of the same one, and to no list of
another. -/
example :
    let v : Value := .list [.scalar (.number (.float .nan))]
    v.strictEqWith (fun p => p == [.item 0]) v = true ∧ v.strictEq v = false := by
  decide +kernel

/-- `strictEq` of two objects in whose lists an integer stands where the other one has a double, the
entries being in another order. -/
theorem equalThroughout_integerAndDouble :
    let zero : Value := .scalar (.number (.float (.finite false 0)))
    let v : Value := .object [(.text "on", .bool true), (.text "ns", .list [.int 0, .null])]
    let w : Value := .object [(.text "ns", .list [zero, .null]), (.text "on", .bool true)]
    v.DistinctKeys ∧ w.DistinctKeys ∧ v.strictEq w = true ∧
      ∀ p v' w', Paired p v w v' w' → v'.typeTag = w'.typeTag ∧ v'.strictEq w' = true := by
  intro zero v w
  have hv : v.DistinctKeys := distinctKeys_of_isStorable rfl (by decide)
  have hw : w.DistinctKeys := distinctKeys_of_isStorable rfl (by decide)
  have hequal : v.strictEq w = true := by decide +kernel
  -- every pair of scalars in one place is of one type and of no not-a-number
  have hflags {R : Scalar → Scalar → Prop} (hR : ¬ R (.bool true) (.bool true)) :
      ¬ Meet R (.bool true) (.bool true) := fun h => hR (meet_scalar_iff.1 h)
  have hlists {R : Scalar → Scalar → Prop}
      (hzero : ¬ R (.number (.int 0)) (.number (.float (.finite false 0))))
      (hnull : ¬ R .null .null) :
      ¬ Meet R (.list [.int 0, .null]) (.list [zero, .null]) := by
    rw [meet_list_iff]
    rintro ⟨i, a, b, left, right, hmeet⟩
    match i with
    | 0 =>
      cases left
      cases right
      exact hzero (meet_scalar_iff.1 hmeet)
    | 1 =>
      cases left
      cases right
      exact hnull (meet_scalar_iff.1 hmeet)
    | i + 2 => cases left
  have hapart {R : Scalar → Scalar → Prop} (hR : ¬ R (.bool true) (.bool true))
      (hzero : ¬ R (.number (.int 0)) (.number (.float (.finite false 0))))
      (hnull : ¬ R .null .null) :
      ¬ Meet R v w := by
    rw [meet_object_iff]
    rintro ⟨k, a, b, left, right, hmeet⟩
    simp only [List.mem_cons, Prod.mk.injEq, List.not_mem_nil, or_false] at left right
    rcases left with ⟨rfl, rfl⟩ | ⟨rfl, rfl⟩
    · obtain ⟨hkey, -⟩ | ⟨-, rfl⟩ := right
      · exact absurd hkey (by decide)
      · exact hflags hR hmeet
    · obtain ⟨-, rfl⟩ | ⟨hkey, -⟩ := right
      · exact hlists hzero hnull hmeet
      · exact absurd hkey (by decide)
  have hacross : ¬ Meet Scalar.Crosses v w :=
    hapart (fun h => h.typeTag_ne rfl) (fun h => h.typeTag_ne rfl) (fun h => h.typeTag_ne rfl)
  have hdefined : ¬ Meet Scalar.Undefined v w :=
    hapart (fun h => nomatch h.1) (fun h => nomatch h.1) (fun h => nomatch h.1)
  exact ⟨hv, hw, hequal,
    ((equalThroughout hv hw fun _ => false).everywhere hequal).2 ⟨hacross, hdefined⟩⟩

/-- `strictEq` lists may have items of different types in the same place. -/
theorem not_everywhere_listOfTruth :
    let v : Value := .list [.int 1]
    let w : Value := .list [.bool true]
    v.strictEq w = true ∧ Paired [.item 0] v w (.int 1) (.bool true) ∧
      (Value.int 1).strictEq (.bool true) = false :=
  ⟨by decide +kernel, .item rfl rfl (.whole _ _), rfl⟩

end Value

end DocStore
