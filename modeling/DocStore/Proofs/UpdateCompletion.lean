import DocStore.Proofs.DoubleRange
import DocStore.Proofs.LongIntegers
import DocStore.Proofs.UpdateSteps

/-!
# How updates end

An update takes its steps one after another. A step that cannot be carried out leaves the document
as it is, and all steps behind it follow. Two things end an update before its last step. A number is
to be added to a number, one of them is a double, and the other is an integer beyond the doubles; or
a step cannot be carried out for something that its error cannot show, since an integer in it has
too many digits. The steps before this one stand, and those behind it are not taken.

## Key results

- `Edit.apply_eq_failed_iff`: which step ends an update, and how
- `Update.run_carried_or_ends`: an update takes all of its steps, or all before the one that ends it
- `Update.run_document_eq_foldl`: one that comes to its end leaves what its steps on fields lead to
- `Update.exists_edits_run_document`: so does one that adds nothing, up to a step that is the same
  for every document
-/

namespace DocStore

/-! ## One step -/

/-- A step ends an update. -/
inductive Edit.Fails (d : Document) : Edit → UpdateFailure → Prop where
  /-- It adds a number to a field, one of the two numbers is a double, and the other is an integer
  beyond the doubles. -/
  | overflow {field : Key} {m n : Number} (notId : field ≠ .text idField)
    (isField : field.isFieldName = true) (present : d.get? field = some (.scalar (.number m)))
    (tooFar : m.TooFar n) : Fails d ⟨.increment, field, .scalar (.number n)⟩ .overflow
  /-- It is to be made on a key that is no name and cannot be shown. -/
  | field {op : UpdateOperator} {field : Key} {v : Value} (long : field.fits = false) :
    Fails d ⟨op, field, v⟩ .unwritable
  /-- It is to add what is no number and cannot be shown. -/
  | delta {field : Key} {v : Value} (notId : field ≠ .text idField)
    (isField : field.isFieldName = true) (noNumber : v.number? = none) (long : v.fits = false) :
    Fails d ⟨.increment, field, v⟩ .unwritable
  /-- It is to rename a field to what cannot be shown. -/
  | newName {field : Key} {v : Value} (notId : field ≠ .text idField)
    (isField : field.isFieldName = true) (long : v.fits = false) :
    Fails d ⟨.rename, field, v⟩ .unwritable

namespace Edit

variable {d d' : Document} {e : Edit} {field : Key} {v : Value} {f : UpdateFailure}

/-- `raised` ends no update for an error that can always be shown. -/
private theorem not_raised_eq_failed {x : EditError} (hfits : x.fits = true) :
    x.raised ≠ .failed f := by
  rw [Ne, EditError.raised_eq_failed_iff, hfits]
  simp

/-- How `increment` ends an update. -/
private theorem fails_of_increment (notId : field ≠ .text idField)
    (isField : field.isFieldName = true) (h : increment d field v = .failed f) :
    Fails d ⟨.increment, field, v⟩ f := by
  simp only [increment] at h
  split at h
  · rename_i hnone
    obtain ⟨long, rfl⟩ := EditError.raised_eq_failed_iff.1 h
    exact .delta notId isField hnone long
  · rename_i n hn
    obtain rfl := Value.number?_eq_some_iff.1 hn
    split at h
    · cases h
    · rename_i current hget
      split at h
      · exact absurd h (not_raised_eq_failed rfl)
      · rename_i m hm
        -- two numbers: the sum is too large, or the step is taken
        obtain rfl := Value.number?_eq_some_iff.1 hm
        split at h
        · cases h
        · rename_i hsum
          cases h
          exact .overflow notId isField hget (Number.add?_eq_none_iff.1 hsum)

/-- How `rename` ends an update. -/
private theorem fails_of_rename (notId : field ≠ .text idField)
    (isField : field.isFieldName = true) (h : rename d field v = .failed f) :
    Fails d ⟨.rename, field, v⟩ f := by
  unfold rename at h
  split at h
  · -- all errors about a new name can be shown
    split at h
    · exact absurd h (not_raised_eq_failed rfl)
    split at h
    · exact absurd h (not_raised_eq_failed rfl)
    split at h
    · exact absurd h (not_raised_eq_failed rfl)
    split at h
    · exact absurd h (not_raised_eq_failed rfl)
    · cases h
  · obtain ⟨long, rfl⟩ := EditError.raised_eq_failed_iff.1 h
    exact .newName notId isField long

/-- `push` ends no update: its errors can always be shown. -/
private theorem push_ne_failed : push d field v ≠ .failed f := by
  unfold push
  split
  · exact not_raised_eq_failed rfl
  split
  · simp
  · simp
  · exact not_raised_eq_failed rfl

/-- `assign` ends no update. -/
private theorem assign_ne_failed : assign d field v ≠ .failed f := by
  unfold assign
  split
  · simp
  · exact not_raised_eq_failed rfl

/-- `unset` ends no update. -/
private theorem unset_ne_failed : unset d field v ≠ .failed f := by
  unfold unset
  split <;> simp

/-- `rename` fails with a value that cannot be shown, which is no text. -/
private theorem rename_of_not_fits (long : v.fits = false) :
    rename d field v = .failed .unwritable := by
  unfold rename
  split
  · cases long
  · exact EditError.raised_eq_failed_iff.2 ⟨long, rfl⟩

/-- `apply` ends an update just on the steps that fail. -/
theorem apply_eq_failed_iff : e.apply d = .failed f ↔ e.Fails d f := by
  constructor
  · intro h
    obtain ⟨op, field, v⟩ := e
    simp only [apply] at h
    split at h
    · exact absurd h (not_raised_eq_failed rfl)
    split at h
    · obtain ⟨long, rfl⟩ := EditError.raised_eq_failed_iff.1 h
      exact .field long
    rename_i hid hname
    have isField : field.isFieldName = true := by simpa using hname
    cases op with
    | increment => exact fails_of_increment hid isField h
    | rename => exact fails_of_rename hid isField h
    | push => exact absurd h push_ne_failed
    | assign => exact absurd h assign_ne_failed
    | unset => exact absurd h unset_ne_failed
  · intro h
    cases h with
    | overflow notId isField present tooFar =>
      have hsum := Number.add?_eq_none_iff.2 tooFar
      simp [apply, notId, isField, increment, Value.number?, present, hsum]
    | @field op key w long =>
      -- a name can be shown
      have hname : key.isFieldName = false := by cases key <;> simp_all [Key.fits, Key.isFieldName]
      have hid : key ≠ .text idField := by rintro rfl; cases long
      simp [apply, hid, hname, EditError.raised, EditError.fits, long]
    | delta notId isField noNumber long =>
      simp [apply, notId, isField, increment, noNumber, EditError.raised, EditError.fits, long]
    | newName notId isField long =>
      simp [apply, notId, isField, rename_of_not_fits long]

/-- `Fails` for what an error cannot show is no matter of the document. -/
private theorem Fails.of_unwritable (h : e.Fails d .unwritable) (d' : Document) :
    e.Fails d' .unwritable := by
  cases h with
  | field long => exact .field long
  | delta notId isField noNumber long => exact .delta notId isField noNumber long
  | newName notId isField long => exact .newName notId isField long

/-- `Fails` for what an error cannot show is about the field or the value. -/
private theorem Fails.not_fits (h : e.Fails d .unwritable) :
    e.field.fits = false ∨ e.argument.fits = false := by
  cases h with
  | field long => exact .inl long
  | delta notId isField noNumber long => exact .inr long
  | newName notId isField long => exact .inr long

/-- `Fails` with an overflow is about an increment. -/
private theorem Fails.op_eq_increment (h : e.Fails d .overflow) : e.op = .increment := by
  cases h
  rfl

end Edit

namespace UpdateStep

/-- What a step does to a document, whether that is a change, and which warnings it gives. -/
inductive Takes (d : Document) : UpdateStep → Document → Bool → List UpdateWarning → Prop where
  | unknown (key : Key) : Takes d (.unknown key) d false [.unknownOperator key]
  | badOperand (op : UpdateOperator) (got : Value) :
    Takes d (.badOperand op got) d false [.operandNotAnObject op got]
  | changed {e : Edit} {d' : Document} (carriedOut : e.apply d = .changed d') :
    Takes d (.edit e) d' true []
  | unchanged {e : Edit} (nothing : e.apply d = .unchanged) : Takes d (.edit e) d false []
  /-- A step that cannot be carried out leaves the document as it is. -/
  | refused {e : Edit} {x : EditError} (refused : e.apply d = .refused x) :
    Takes d (.edit e) d false [.skipped x]

variable {s : UpdateStep} {d : Document}

/-- `Takes` holds of every step but the one that ends an update. -/
theorem takes_or_fails (s : UpdateStep) (d : Document) :
    (∃ d' changed ws, s.Takes d d' changed ws) ∨ ∃ e f, s = .edit e ∧ e.Fails d f := by
  cases s with
  | unknown key => exact .inl ⟨_, _, _, .unknown key⟩
  | badOperand op got => exact .inl ⟨_, _, _, .badOperand op got⟩
  | edit e =>
    cases h : e.apply d with
    | changed d' => exact .inl ⟨_, _, _, .changed h⟩
    | unchanged => exact .inl ⟨_, _, _, .unchanged h⟩
    | refused x => exact .inl ⟨_, _, _, .refused h⟩
    | failed f => exact .inr ⟨e, f, rfl, Edit.apply_eq_failed_iff.1 h⟩

end UpdateStep

namespace UpdateProgress

variable {p : UpdateProgress} {s : UpdateStep} {d' : Document} {changed : Bool}
  {ws : List UpdateWarning}

/-- `advance` by a step that is taken. -/
private theorem advance_of_takes (hp : p.failure = none) (h : s.Takes p.document d' changed ws) :
    p.advance s = ⟨d', p.changed || changed, p.warnings ++ ws, none⟩ := by
  obtain ⟨d, c, w, failure⟩ := p
  subst hp
  cases h with
  | unknown key => simp [advance, warn]
  | badOperand op got => simp [advance, warn]
  | changed carriedOut => simp [advance, carriedOut]
  | unchanged nothing => simp [advance, nothing]
  | refused refused => simp [advance, warn, refused]

/-- `advance` by a step that ends the update. -/
private theorem advance_of_fails (hp : p.failure = none) {e : Edit} {f : UpdateFailure}
    (h : e.Fails p.document f) : p.advance (.edit e) = { p with failure := some f } := by
  simp [advance, hp, Edit.apply_eq_failed_iff.2 h]

/-- `advance` takes no step behind the one that ends an update. -/
theorem foldl_of_failure (hp : p.failure ≠ none) (rest : List UpdateStep) :
    rest.foldl advance p = p := by
  refine List.foldlRecOn (motive := (· = p)) rest advance rfl fun q hq s _ => ?_
  subst hq
  simp [advance, Option.isSome_iff_ne_none.2 hp]

end UpdateProgress

/-! ## The whole update -/

namespace Update

/-- Several steps are taken one after another. -/
inductive Carried : Document → List UpdateStep → Document → Bool → List UpdateWarning → Prop where
  | done (d : Document) : Carried d [] d false []
  | step {d d₁ d₂ : Document} {s : UpdateStep} {rest : List UpdateStep} {c₁ c₂ : Bool}
    {w₁ w₂ : List UpdateWarning} (first : s.Takes d d₁ c₁ w₁) (behind : Carried d₁ rest d₂ c₂ w₂) :
    Carried d (s :: rest) d₂ (c₁ || c₂) (w₁ ++ w₂)

/-- An update comes to a step that ends it: all steps before are taken, and none behind. -/
inductive Ends (update : Value) (d d' : Document) (f : UpdateFailure) : Prop where
  | early {before after : List UpdateStep} {e : Edit} {changed : Bool} {ws : List UpdateWarning}
    (split : steps update = before ++ .edit e :: after)
    (taken : Carried d before d' changed ws) (fails : e.Fails d' f)

/-- An update takes all of its steps, and gives their warnings in order. -/
def TakesAll (update : Value) (d : Document) : Prop :=
  ∃ ws, Carried d (steps update) (run update d).document (run update d).changed ws ∧
    ws <+: (run update d).warnings

variable {d d' : Document} {steps' : List UpdateStep} {changed : Bool} {ws : List UpdateWarning}

/-- `Carried` are all steps of a list, or those before the one that ends the update. -/
private theorem carried_or_fails (steps' : List UpdateStep) (d : Document) :
    (∃ d' changed ws, Carried d steps' d' changed ws) ∨
      ∃ before e after d' changed ws f, steps' = before ++ .edit e :: after ∧
        Carried d before d' changed ws ∧ e.Fails d' f := by
  -- step by step: the document is the one that the steps before have left
  induction steps' generalizing d with
  | nil => exact .inl ⟨d, _, _, .done d⟩
  | cons s rest ih =>
    rcases s.takes_or_fails d with ⟨d₁, c₁, w₁, hfirst⟩ | ⟨e, f, hs, hfails⟩
    · rcases ih d₁ with
        ⟨d₂, c₂, w₂, hrest⟩ | ⟨before, e, after, d₂, c₂, w₂, f, hsplit, htaken, he⟩
      · exact .inl ⟨d₂, _, _, .step hfirst hrest⟩
      · refine .inr ⟨s :: before, e, after, d₂, _, _, f, ?_, .step hfirst htaken, he⟩
        rw [hsplit, List.cons_append]
    · refine .inr ⟨[], e, rest, d, _, _, f, ?_, .done d, hfails⟩
      rw [hs, List.nil_append]

/-- `advance` through steps that are taken leads to what they come to, whatever has been before. -/
theorem foldl_of_carried {p : UpdateProgress} (hp : p.failure = none)
    (h : Carried p.document steps' d' changed ws) :
    steps'.foldl UpdateProgress.advance p = ⟨d', p.changed || changed, p.warnings ++ ws, none⟩ := by
  generalize hd : p.document = d at h
  induction h generalizing p with
  | done d =>
    subst hd
    obtain ⟨d, c, w, failure⟩ := p
    subst hp
    simp
  | step first behind ih =>
    subst hd
    rw [List.foldl_cons, UpdateProgress.advance_of_takes hp first, ih rfl rfl, Bool.or_assoc,
      List.append_assoc]

/-- `run` where all steps of the update are taken. -/
theorem run_of_carried {update : Value} (h : Carried d (steps update) d' changed ws) :
    (run update d).failure = none ∧ (run update d).document = d' ∧
      (run update d).changed = changed ∧ ws <+: (run update d).warnings := by
  rw [run, foldl_of_carried rfl h]
  exact ⟨rfl, rfl, rfl, closing update, rfl⟩

/-- `Carried` steps leave the document that the steps on fields among them lead to. -/
private theorem document_of_carried (h : Carried d steps' d' changed ws) :
    d' = (steps'.filterMap edit?).foldl (fun d e => e.after d) d := by
  induction h with
  | done d => rfl
  | step first behind ih =>
    rw [ih]
    cases first with
    | unknown key => rfl
    | badOperand op got => rfl
    | changed carriedOut => simp [edit?, Edit.after, carriedOut]
    | unchanged nothing => simp [edit?, Edit.after, nothing]
    | refused refused => simp [edit?, Edit.after, refused]

/-- `run` where the update comes to a step that ends it. -/
theorem run_of_ends {update : Value} {f : UpdateFailure} (h : Ends update d d' f) :
    (run update d).failure = some f ∧ (run update d).document = d' := by
  obtain @⟨before, after, e, changed, ws, split, taken, fails⟩ := h
  have hbefore : before.foldl UpdateProgress.advance (.start d) = ⟨d', changed, ws, none⟩ :=
    foldl_of_carried (p := .start d) rfl taken
  rw [run, split, List.foldl_append, hbefore, List.foldl_cons,
    UpdateProgress.advance_of_fails rfl fails, UpdateProgress.foldl_of_failure (by simp)]
  exact ⟨rfl, rfl⟩

/-- `run` takes all steps, or comes to one that ends the update. -/
theorem run_carried_or_ends (update : Value) (d : Document) :
    ((run update d).failure = none ∧ TakesAll update d) ∨
      ∃ f, (run update d).failure = some f ∧ Ends update d (run update d).document f := by
  rcases carried_or_fails (steps update) d with
    ⟨d', changed, ws, htaken⟩ | ⟨before, e, after, d', changed, ws, f, hsplit, htaken, he⟩
  · obtain ⟨hfailure, hdocument, hchanged, hwarnings⟩ := run_of_carried htaken
    -- what the steps lead to is what the run reports
    have htaken' : Carried d (steps update) (run update d).document (run update d).changed ws := by
      rw [hdocument, hchanged]
      exact htaken
    exact .inl ⟨hfailure, ws, htaken', hwarnings⟩
  · have hends : Ends update d d' f := .early hsplit htaken he
    obtain ⟨hfailure, hdocument⟩ := run_of_ends hends
    refine .inr ⟨f, hfailure, ?_⟩
    rw [hdocument]
    exact hends

/-- `run` tells that an update ends early, and how. -/
theorem ends_of_run {update : Value} {f : UpdateFailure} (h : (run update d).failure = some f) :
    Ends update d (run update d).document f := by
  rcases run_carried_or_ends update d with ⟨hnone, -⟩ | ⟨f', hsome, hends⟩
  · rw [hnone] at h
    cases h
  · rw [hsome] at h
    exact Option.some.inj h ▸ hends

/-- `run` tells that an update takes all of its steps. -/
theorem takesAll_of_run {update : Value} (h : (run update d).failure = none) :
    TakesAll update d := by
  rcases run_carried_or_ends update d with ⟨-, htakes⟩ | ⟨f, hsome, -⟩
  · exact htakes
  · rw [hsome] at h
    cases h

/-- `run` that comes to its end leaves the document that the steps on fields lead to. -/
theorem run_document_eq_foldl {update : Value} (h : (run update d).failure = none) :
    (run update d).document = (edits update).foldl (fun d e => e.after d) d := by
  obtain ⟨ws, hcarried, -⟩ := takesAll_of_run h
  rw [edits_eq_filterMap]
  exact document_of_carried hcarried

/-! ## Updates that come to their ends -/

/-- `fits` goes from an object to the keys and values in it. -/
private theorem fits_of_mem {entries : List (Key × Value)} {key : Key} {v : Value}
    (hfits : (Value.object entries).fits = true) (hmem : (key, v) ∈ entries) :
    key.fits = true ∧ v.fits = true := by
  rw [Value.fits_iff] at hfits
  refine ⟨?_, (Value.fits_iff v).2 fun n hn => hfits n (.entry hmem hn)⟩
  cases key with
  | int n => exact intFits_iff.2 (hfits n (.key hmem))
  | _ => rfl

/-- `run` of an update that can be shown is not ended for an error that cannot. -/
private theorem failure_ne_unwritable {update : Value} (h : update.fits = true) (d : Document) :
    (run update d).failure ≠ some .unwritable := by
  intro hfailure
  obtain @⟨before, after, e, changed, ws, split, taken, fails⟩ := ends_of_run hfailure
  have hmem : .edit e ∈ steps update := split ▸ List.mem_append_right _ List.mem_cons_self
  obtain ⟨entries, key, operand, rfl, hentry, -, hfield⟩ := exists_operand_of_mem_steps hmem
  obtain ⟨hkey, hargument⟩ := fits_of_mem (fits_of_mem h hentry).2 hfield
  rcases fails.not_fits with hlong | hlong
  · exact absurd hkey (by simp [hlong])
  · exact absurd hargument (by simp [hlong])

/-- `run` of an update without increments does not overflow. -/
private theorem failure_ne_overflow {update : Value} (h : .increment ∉ operators update)
    (d : Document) :
    (run update d).failure ≠ some .overflow := by
  intro hfailure
  obtain ⟨split, taken, fails⟩ := ends_of_run hfailure
  have hmem : .edit _ ∈ steps update := split ▸ List.mem_append_right _ List.mem_cons_self
  exact h (fails.op_eq_increment ▸ op_mem_operators hmem)

/-- `run` of an update without increments that can be shown comes to its end. -/
theorem failure_eq_none {update : Value} (hnone : .increment ∉ operators update)
    (hfits : update.fits = true) (d : Document) : (run update d).failure = none := by
  cases hfailure : (run update d).failure with
  | none => rfl
  | some f =>
    cases f with
    | overflow => exact absurd hfailure (failure_ne_overflow hnone d)
    | unwritable => exact absurd hfailure (failure_ne_unwritable hfits d)

/-! ## Updates that add nothing -/

/-- `Takes` on one document what it takes on another, if it is no increment. -/
private theorem takes_of_takes {s : UpdateStep} (hop : ∀ e, s = .edit e → e.op ≠ .increment)
    {d₁ : Document} {c₁ : Bool} {w₁ : List UpdateWarning} (h : s.Takes d d₁ c₁ w₁)
    (d' : Document) : ∃ d₂ c₂ w₂, s.Takes d' d₂ c₂ w₂ := by
  rcases s.takes_or_fails d' with htakes | ⟨e, f, rfl, hfails⟩
  · exact htakes
  · cases f with
    | overflow => exact absurd hfails.op_eq_increment (hop e rfl)
    | unwritable =>
      have hfailed := Edit.apply_eq_failed_iff.2 (hfails.of_unwritable d)
      cases h <;> simp_all

/-- `Carried` on one document are the steps that are carried on another, if none is an increment. -/
private theorem carried_of_carried (hop : ∀ e, .edit e ∈ steps' → e.op ≠ .increment)
    (h : Carried d steps' d' changed ws) (d₁ : Document) :
    ∃ d₂ c₂ w₂, Carried d₁ steps' d₂ c₂ w₂ := by
  induction h generalizing d₁ with
  | done d => exact ⟨d₁, _, _, .done d₁⟩
  | step first behind ih =>
    obtain ⟨d₂, c₂, w₂, hfirst⟩ :=
      takes_of_takes (fun e he => hop e (he ▸ List.mem_cons_self)) first d₁
    obtain ⟨d₃, c₃, w₃, hrest⟩ := ih (fun e he => hop e (List.mem_cons_of_mem _ he)) d₂
    exact ⟨d₃, _, _, .step hfirst hrest⟩

/-- `run` of an update without increments ends alike on all documents, and takes the same steps on
all of them: those of a list that its steps on fields begin with. -/
theorem exists_edits_run_document {update : Value} (h : .increment ∉ operators update) :
    ∃ es, es <+: edits update ∧ ∃ f, ∀ d, (run update d).failure = f ∧
      (run update d).document = es.foldl (fun d e => e.after d) d := by
  have hop {before : List UpdateStep} (hsub : before <+: steps update) (e : Edit)
      (he : .edit e ∈ before) : e.op ≠ .increment := fun hincrement =>
    h (hincrement ▸ op_mem_operators (hsub.subset he))
  -- the empty document tells at which step the update ends on any other
  rcases carried_or_fails (steps update) .empty with
    ⟨d', changed, ws, htaken⟩ | ⟨before, e, after, d', changed, ws, f, hsplit, htaken, he⟩
  · refine ⟨edits update, List.prefix_rfl, none, fun d => ?_⟩
    obtain ⟨d₂, c₂, w₂, hcarried⟩ := carried_of_carried (hop List.prefix_rfl) htaken d
    have hfailure := (run_of_carried hcarried).1
    exact ⟨hfailure, run_document_eq_foldl hfailure⟩
  · have hinit : before <+: steps update := ⟨_, hsplit.symm⟩
    -- only an increment overflows, so it is what cannot be shown
    have hunwritable : f = .unwritable := by
      cases f with
      | unwritable => rfl
      | overflow =>
        have hmem : .edit e ∈ steps update := hsplit ▸ List.mem_append_right _ List.mem_cons_self
        exact absurd (he.op_eq_increment ▸ op_mem_operators hmem) h
    subst hunwritable
    refine ⟨before.filterMap edit?, ?_, some .unwritable, fun d => ?_⟩
    · rw [edits_eq_filterMap]
      exact hinit.filterMap edit?
    · obtain ⟨d₂, c₂, w₂, hcarried⟩ := carried_of_carried (hop hinit) htaken d
      obtain ⟨hfailure, hdocument⟩ := run_of_ends (.early hsplit hcarried (he.of_unwritable _))
      exact ⟨hfailure, hdocument.trans (document_of_carried hcarried)⟩

end Update

end DocStore
