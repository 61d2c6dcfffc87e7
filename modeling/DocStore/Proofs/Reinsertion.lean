import DocStore.Proofs.InsertedDocuments
import DocStore.Proofs.SnapshotRoundTrip
import Mathlib.Data.List.Nodup

/-!
# Loaded documents inserted again

The documents of a store file can also be inserted one after another. Loading and inserting are two
gates to a collection, and they agree on every document but one: a document under the empty id is
loaded as it is, while an insertion takes the empty id for none and draws another one.

So without the empty id the loaded collection comes into being again, and no id is drawn. With it,
the id that has been drawn takes its place; should it belong to a document further on, this one
comes too late and is refused.

## Key results

- `Collection.insertEach_of_hasOwnIds`: what becomes of documents that come with their ids
- `Snapshot.reinserted_of_load`: what becomes of the documents of a file
-/

namespace DocStore

/-! ## Insertions one after another -/

/-- What several insertions come to. -/
structure Intake where
  /-- For each value, the id under which it has been taken, or why it has been refused. -/
  answers : List (Except InsertError String)
  /-- The collection with the new documents. -/
  docs : Collection
  /-- The id source after the insertions. -/
  ids : IdSource

/-- Puts an answer in front. -/
def Intake.cons (answer : Except InsertError String) (i : Intake) : Intake :=
  { i with answers := answer :: i.answers }

namespace Collection

/-- Inserts values one after another. A value that is refused does not keep out the next one. -/
def insertEach (docs : Collection) (ids : IdSource) : List Value → Intake
  | [] => ⟨[], docs, ids⟩
  | v :: rest =>
    match docs.insertValue ids v with
    | .error e => (insertEach docs ids rest).cons (.error e)
    | .ok r => (insertEach r.docs r.ids rest).cons (.ok r.id)

variable {docs : Collection} {ids : IdSource} {d : Document} {id : String}

/-- `insertEach` of some values and then others: the others go into what the first have left. -/
private theorem insertEach_append (docs : Collection) (ids : IdSource) (vs ws : List Value) :
    insertEach docs ids (vs ++ ws) =
      let first := insertEach docs ids vs
      let second := insertEach first.docs first.ids ws
      { second with answers := first.answers ++ second.answers } := by
  induction vs generalizing docs ids with
  | nil => rfl
  | cons v rest ih =>
    rw [List.cons_append, insertEach, insertEach]
    cases docs.insertValue ids v with
    | error e => simp only [ih, Intake.cons, List.cons_append]
    | ok r => simp only [ih, Intake.cons, List.cons_append]

/-! ## Documents that come with their ids -/

/-- `insertValue` of a document that comes with its id takes it under this id, unless it is in use.
-/
private theorem insertValue_toValue (hd : Document.ofValue? d.toValue = .ok d)
    (hid : d.id? = some id) (hnonempty : id ≠ "") :
    docs.insertValue ids d.toValue =
      if docs.contains id then .error (.duplicateId id) else .ok ⟨id, docs.insert id d, ids⟩ := by
  have hgiven : d.givenId? = some id :=
    Document.givenId?_eq_some_iff.2 ⟨Document.id?_eq_some_iff.1 hid, hnonempty⟩
  rw [insertValue_of_document hd, hgiven]

/-- `insertValue` of a document with the empty id draws another one. -/
private theorem insertValue_toValue_of_empty (hd : Document.ofValue? d.toValue = .ok d)
    (hid : d.id? = some "") :
    docs.insertValue ids d.toValue =
      .ok ⟨(ids.unused docs).1, docs.insert (ids.unused docs).1
        (d.insert idField (.text (ids.unused docs).1)), (ids.unused docs).2⟩ := by
  have hgiven : d.givenId? = none := by
    rw [Document.givenId?, hid]
    rfl
  rw [insertValue_of_document hd, hgiven]

/-- Every document of a list is valid and comes with the id beside it, which is not empty. -/
def HasOwnIds (l : List (String × Document)) : Prop :=
  ∀ e ∈ l, Document.ofValue? e.2.toValue = .ok e.2 ∧ e.2.id? = some e.1 ∧ e.1 ≠ ""

/-- The answer for a document that comes with an id. -/
def ownAnswer (docs : Collection) (e : String × Document) : Except InsertError String :=
  if e.1 ∈ docs then .error (.duplicateId e.1) else .ok e.1

/-- `insertEach` of documents that come with distinct ids takes those whose ids have not been in use
before the first insertion. They go last in their order, and no id is drawn. -/
theorem insertEach_of_hasOwnIds {l : List (String × Document)} (hl : HasOwnIds l)
    (hnodup : (l.map Prod.fst).Nodup) (docs : Collection) (ids : IdSource) :
    let r := insertEach docs ids (l.map fun e => e.2.toValue)
    r.answers = l.map (ownAnswer docs) ∧ r.docs.entries = docs.entries ++ l.filter (·.1 ∉ docs) ∧
      r.ids = ids := by
  -- one document at a time; what is taken before it is under another id, so that it makes no
  -- difference to whether its own id is in use
  induction l generalizing docs with
  | nil => simp [insertEach]
  | cons e rest ih =>
    obtain ⟨⟨hd, hid, hnonempty⟩, hrest⟩ := List.forall_mem_cons.1 hl
    rw [List.map_cons, List.nodup_cons] at hnodup
    simp only [List.map_cons, insertEach, insertValue_toValue hd hid hnonempty,
      Table.contains_eq_decide_mem, decide_eq_true_eq]
    by_cases hused : e.1 ∈ docs
    · obtain ⟨hanswers, hdocs, hids⟩ := ih hrest hnodup.2 docs
      simp [hused, Intake.cons, ownAnswer, hanswers, hdocs, hids]
    · obtain ⟨hanswers, hdocs, hids⟩ := ih hrest hnodup.2 (docs.insert e.1 e.2)
      have hother : ∀ f ∈ rest, (f.1 ∈ docs.insert e.1 e.2 ↔ f.1 ∈ docs) := by
        intro f hf
        have hne : f.1 ≠ e.1 := fun heq => hnodup.1 (heq ▸ List.mem_map_of_mem hf)
        rw [Table.mem_insert_iff, or_iff_right hne]
      have hanswers' : rest.map (ownAnswer (docs.insert e.1 e.2)) = rest.map (ownAnswer docs) := by
        apply List.map_congr_left
        intro f hf
        simp only [ownAnswer, hother f hf]
      have hfilter : rest.filter (·.1 ∉ docs.insert e.1 e.2) = rest.filter (·.1 ∉ docs) := by
        apply List.filter_congr
        intro f hf
        simp only [hother f hf]
      rw [hanswers'] at hanswers
      rw [hfilter, Table.entries_insert_of_not_mem hused] at hdocs
      simp [hused, Intake.cons, ownAnswer, hanswers, hdocs, hids]

/-- `insertEach` into an empty collection takes documents that come with distinct ids as they are.
-/
private theorem insertEach_empty {l : List (String × Document)} (hl : HasOwnIds l)
    (hnodup : (l.map Prod.fst).Nodup) (ids : IdSource) :
    insertEach .empty ids (l.map fun e => e.2.toValue) =
      ⟨l.map fun e => .ok e.1, .ofList l, ids⟩ := by
  obtain ⟨hanswers, hdocs, hids⟩ := insertEach_of_hasOwnIds hl hnodup .empty ids
  have hnone (id : String) : id ∉ (.empty : Collection) := List.not_mem_nil
  -- nothing is in use, so nothing is left out
  have hsame : (insertEach .empty ids (l.map fun e => e.2.toValue)).docs = .ofList l := by
    apply Table.ext_entries
    rw [hdocs, Table.entries_ofList hnodup]
    simp [hnone]
  have hok : l.map (ownAnswer .empty) = l.map fun e => .ok e.1 := by
    apply List.map_congr_left
    intro e he
    rw [ownAnswer, if_neg (hnone e.1)]
  rw [← hok, ← hanswers, ← hsame]
  generalize insertEach .empty ids _ = r at hids ⊢
  rw [← hids]

/-- `insertEach` of documents that come with distinct ids, of which only one may be in use, which
has just been drawn: they are taken except the one that comes with it. -/
private theorem insertEach_of_drawn {l : List (String × Document)} (hl : HasOwnIds l)
    (hnodup : (l.map Prod.fst).Nodup) (hother : ∀ e ∈ l, e.1 ∉ docs) (hunused : id ∉ docs)
    (ids : IdSource) :
    let r := insertEach (docs.insert id d) ids (l.map fun e => e.2.toValue)
    r.answers = l.map (fun e => if e.1 = id then .error (.duplicateId id) else .ok e.1) ∧
      r.docs.entries = docs.entries ++ (id, d) :: l.filter (·.1 ≠ id) ∧ r.ids = ids := by
  have hmem : ∀ e ∈ l, (e.1 ∈ docs.insert id d ↔ e.1 = id) := fun e he => by
    rw [Table.mem_insert_iff, or_iff_left (hother e he)]
  -- of the documents behind, only the one with the drawn id finds it in use
  have hanswers : l.map (ownAnswer (docs.insert id d)) =
      l.map fun e => if e.1 = id then .error (.duplicateId id) else .ok e.1 := by
    apply List.map_congr_left
    intro e he
    simp only [ownAnswer, hmem e he]
    split
    · rename_i heq
      rw [heq]
    · rfl
  have hfilter : (l.filter fun e => e.1 ∉ docs.insert id d) = l.filter (·.1 ≠ id) := by
    apply List.filter_congr
    intro e he
    simp only [hmem e he]
  have hrun := insertEach_of_hasOwnIds hl hnodup (docs.insert id d) ids
  rw [hanswers, hfilter, Table.entries_insert_of_not_mem hunused, List.append_assoc] at hrun
  exact hrun

/-- `insertEach` of documents that come with distinct ids and one with the empty id. The id that is
drawn for it is not that of a document before it, and may be that of one behind. -/
private theorem insertEach_of_empty {before after : List (String × Document)}
    (hbefore : HasOwnIds before) (hafter : HasOwnIds after)
    (hnodup : ((before ++ after).map Prod.fst).Nodup) (hd : Document.ofValue? d.toValue = .ok d)
    (hid : d.id? = some "") {rest : IdSource} (hdrawn : ids.unused (.ofList before) = (id, rest)) :
    let r := insertEach .empty ids
      (before.map (fun e => e.2.toValue) ++ d.toValue :: after.map fun e => e.2.toValue)
    r.answers = (before.map fun e => .ok e.1) ++ .ok id ::
        after.map (fun e => if e.1 = id then .error (.duplicateId id) else .ok e.1) ∧
      r.docs.entries = before ++ (id, d.insert idField (.text id)) :: after.filter (·.1 ≠ id) ∧
      r.ids = rest := by
  rw [List.map_append, List.nodup_append] at hnodup
  obtain ⟨hnodupBefore, hnodupAfter, hapart⟩ := hnodup
  have hentries : (Table.ofList before).entries = before := Table.entries_ofList hnodupBefore
  have hunused : id ∉ (Table.ofList before : Collection) := by
    have hfresh := ids.unused_not_mem (.ofList before)
    rwa [hdrawn] at hfresh
  have hother : ∀ e ∈ after, e.1 ∉ (Table.ofList before : Collection) := by
    intro e he
    show e.1 ∉ (Table.ofList before).entries.map Prod.fst
    rw [hentries]
    exact fun hin => hapart e.1 hin e.1 (List.mem_map_of_mem he) rfl
  -- of the ids behind, only the one that has been drawn is in use by then
  obtain ⟨hrestAnswers, hrestDocs, hrestIds⟩ :=
    insertEach_of_drawn (d := d.insert idField (.text id)) hafter hnodupAfter hother hunused rest
  rw [hentries] at hrestDocs
  simp only [insertEach_append, insertEach_empty hbefore hnodupBefore, insertEach,
    insertValue_toValue_of_empty hd hid, hdrawn, Intake.cons]
  exact ⟨by rw [hrestAnswers], hrestDocs, hrestIds⟩

end Collection

/-! ## The documents of a file -/

namespace Snapshot

open Collection (insertEach HasOwnIds ownAnswer)

variable {files : FileSystem} {p : Path} {docs : Collection}

/-- What becomes of the documents of a collection that are inserted one after another into an empty
one. -/
structure Reinserted (docs : Collection) (ids : IdSource) (r : Intake) : Prop where
  /-- Without the empty id all of them are taken under their own ids, and the collection is there
  again. No id is drawn. -/
  named : "" ∉ docs → r = ⟨docs.keys.map .ok, docs, ids⟩
  /-- The document under the empty id is taken under the one that is drawn for it, in its place and
  with its other fields as they were. All others are taken under their own ids, except that this id
  is in use from then on. -/
  unnamed : ∀ before d after, docs.entries = before ++ ("", d) :: after →
    ∃ id rest, ids.unused (.ofList before) = (id, rest) ∧
      r.answers = (before.map fun e => .ok e.1) ++ .ok id ::
        after.map (fun e => if e.1 = id then .error (.duplicateId id) else .ok e.1) ∧
      r.docs.entries = before ++ (id, d.insert idField (.text id)) :: after.filter (·.1 ≠ id) ∧
      r.ids = rest

/-- `Reinserted` holds of valid documents under their own ids: they are taken again, up to the one
with the empty id. -/
private theorem reinserted_of_keeps {Q : Value → Prop} (h : docs.Keeps Q) (ids : IdSource) :
    Reinserted docs ids (insertEach .empty ids (docs.values.map Document.toValue)) := by
  have hvalues : docs.values.map Document.toValue = docs.entries.map fun e => e.2.toValue := by
    rw [Table.values, List.map_map]
    rfl
  have hnodup := docs.nodup_keys
  have hown {part : List (String × Document)} (hpart : ∀ e ∈ part, e ∈ docs.entries)
      (hnamed : "" ∉ part.map Prod.fst) : HasOwnIds part := fun e he =>
    ⟨(h e (hpart e he)).2.ofValue?, (h e (hpart e he)).1,
      fun hempty => hnamed (hempty ▸ List.mem_map_of_mem he)⟩
  rw [hvalues]
  constructor
  case named =>
    intro hnamed
    rw [Collection.insertEach_empty (hown (fun _ he => he) hnamed) hnodup ids,
      Table.ofList_entries, Table.keys, List.map_map]
    rfl
  case unnamed =>
    intro before d after hsplit
    have hmem := h ("", d) (hsplit ▸ List.mem_append_right _ List.mem_cons_self)
    rw [hsplit, List.map_append, List.map_cons] at hnodup
    -- the empty id stands in this place only
    obtain ⟨hempty, hothers⟩ := List.nodup_middle.1 hnodup |> List.nodup_cons.1
    rw [List.mem_append, not_or] at hempty
    have hbefore : HasOwnIds before :=
      hown (fun e he => hsplit ▸ List.mem_append_left _ he) hempty.1
    have hafter : HasOwnIds after :=
      hown (fun e he => hsplit ▸ List.mem_append_right _ (List.mem_cons_of_mem _ he)) hempty.2
    rw [← List.map_append] at hothers
    rw [hsplit, List.map_append, List.map_cons]
    exact ⟨_, _, rfl, Collection.insertEach_of_empty hbefore hafter hothers hmem.2.ofValue? hmem.1
      rfl⟩

/-- `Reinserted` holds of the documents of a file that are inserted one after another. -/
theorem reinserted_of_load (h : load files p = .ok docs) (ids : IdSource) :
    Reinserted docs ids (insertEach .empty ids (docs.values.map Document.toValue)) :=
  reinserted_of_keeps (keeps_of_load h) ids

/-! ## Two files -/

/-- Nothing but a store file with a text. -/
def soleFile (text : String) : FileSystem := FileSystem.empty.put ["s.json"] (.file text.toUTF8)

/-- `load` of the only file reads its text. -/
private theorem load_soleFile {text : String} {v : Value} (h : Json.read? text.toList = some v) :
    load (soleFile text) (Path.ofString "s.json") = ofValue (Path.ofString "s.json") v := by
  have hfind : (soleFile text).find (Path.ofString "s.json") = .ok (.file text.toUTF8) := rfl
  rw [load_of_find (by decide) hfind, ofContent, fromUTF8?_toUTF8, Option.bind_some, h]

/-- One key comes twice: it keeps its first place and takes its last document. The documents that
`load` finds are taken again, and the ids that could be drawn are left. -/
theorem reinserted_of_load_repeatedKey :
    let files := soleFile ("\x7b\"documents\":\x7b\"b\":\x7b\"_id\":\"b\"\x7d," ++
      "\"a\":\x7b\"_id\":\"a\"\x7d,\"b\":\x7b\"_id\":\"b\",\"n\":2\x7d\x7d\x7d")
    let ids : IdSource := .counted "id" 4 []
    ∃ docs, load files (Path.ofString "s.json") = .ok docs ∧ docs.keys = ["b", "a"] ∧
      insertEach .empty ids (docs.values.map Document.toValue) =
        ⟨[.ok "b", .ok "a"], docs, ids⟩ := by
  intro files ids
  have hload : load files (Path.ofString "s.json") = .ok (.ofList [
      ("b", .ofList [(.text idField, .text "b"), (.text "n", .int 2)]),
      ("a", .ofList [(.text idField, .text "a")])]) :=
    load_soleFile (v := .object [(.text "documents", .object [
      (.text "b", .object [(.text idField, .text "b"), (.text "n", .int 2)]),
      (.text "a", .object [(.text idField, .text "a")])])]) rfl
  exact ⟨_, hload, rfl, (reinserted_of_load hload ids).named (by decide)⟩

/-- `load` takes a document under the empty id, and it does not come under this id again. -/
theorem not_rebuilt_emptyId :
    let files := soleFile "\x7b\"documents\":\x7b\"\":\x7b\"_id\":\"\"\x7d\x7d\x7d"
    ∃ docs, load files (Path.ofString "s.json") = .ok docs ∧ docs.keys = [""] ∧
      let r := insertEach .empty (.counted "gen" 13 []) (docs.values.map Document.toValue)
      r.answers.map Except.toOption = [some "gen0000000000000"] ∧ r.docs ≠ docs := by
  intro files
  have hload : load files (Path.ofString "s.json") =
      .ok (.ofList [("", .ofList [(.text idField, .text "")])]) :=
    load_soleFile (v := .object [(.text "documents", .object [
      (.text "", .object [(.text idField, .text "")])])]) rfl
  refine ⟨_, hload, rfl, rfl, fun hsame => ?_⟩
  have hkeys := congrArg Table.keys hsame
  revert hkeys
  decide

end Snapshot

end DocStore
