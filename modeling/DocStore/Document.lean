import DocStore.Table
import DocStore.Value.Literal

/-!
# Documents

A `Document` is a table of fields. Which values make a document is decided by
`Document.ofValue?`: every field has a name that is not empty and does not begin with the operator
sign, and, the id field apart, holds a scalar, a list of scalars or an object of these one level
deep.

Main statement: `Document.toValue_of_ofValue?`, what is accepted is the object itself, entry by
entry.
-/

namespace DocStore

/-- The fields of a document in order. -/
abbrev Document := Table Key Value

/-- Documents by id, in order of arrival. -/
abbrev Collection := Table String Document

/-- The field that holds a document's id. -/
def idField : String := "_id"

/-- Whether a name begins with the operator sign. -/
def isOperatorName (s : String) : Bool := s.toList.head? == some '$'

/-- Whether a name may be the name of a field. -/
def isFieldName (s : String) : Bool := s != "" && !isOperatorName s

/-- Whether a key may be the name of a field. -/
def Key.isFieldName : Key → Bool
  | .text s => DocStore.isFieldName s
  | _ => false

/-- The name of a field is a text, not empty, and has no operator sign in front. -/
theorem Key.isFieldName_iff {k : Key} :
    k.isFieldName = true ↔
      ∃ name : String, k = .text name ∧ name ≠ "" ∧ name.toList.head? ≠ some '$' := by
  cases k with
  | text name => simp [Key.isFieldName, DocStore.isFieldName, isOperatorName]
  | _ => simp [Key.isFieldName]

/-- The reasons for which a value is no document. -/
inductive DocumentError where
  | notAnObject (got : Value)
  | keyNotText
  | badFieldName (name : String)
  | unsupportedValue (field : String)

/-- The text of a document error. -/
def DocumentError.message : DocumentError → String
  | .notAnObject got => "document must be a dict, got " ++ got.kindName
  | .keyNotText => "document keys must be strings"
  | .badFieldName name => "invalid field name: " ++ quoted name
  | .unsupportedValue field => "field " ++ quoted field ++ " holds an unsupported value"

namespace Document

/-- The document as an object. -/
def toValue (d : Document) : Value := .object d.entries

/-- The id that a document carries, if it is a text. -/
def id? (d : Document) : Option String :=
  match d.get? idField with
  | some (.scalar (.text s)) => some s
  | _ => none

/-- What is wrong with one entry of an object that is to be a document. The value of the id field
is not looked at. -/
def entryError? : Key × Value → Option DocumentError
  | (.text name, v) =>
    if !isFieldName name then some (.badFieldName name)
    else if name = idField || v.isStorable then none
    else some (.unsupportedValue name)
  | _ => some .keyNotText

/-- The document that a value is; else the first thing wrong with it. -/
def ofValue? : Value → Except DocumentError Document
  | .object entries =>
    match entries.findSome? entryError? with
    | some e => .error e
    | none => .ok (Table.ofList entries)
  | v => .error (.notAnObject v)

/-- An entry passes if its key is the name of a field and its value may stand there. -/
theorem entryError?_eq_none_iff {e : Key × Value} :
    entryError? e = none ↔
      e.1.isFieldName = true ∧ (e.1 = .text idField ∨ e.2.isStorable = true) := by
  obtain ⟨key, v⟩ := e
  cases key with
  | text name =>
    by_cases hname : isFieldName name = true
    · by_cases hv : name = idField ∨ v.isStorable = true
      · simp [entryError?, Key.isFieldName, hname, hv]
      · simp [entryError?, Key.isFieldName, hname, hv]
    · simp [entryError?, Key.isFieldName, hname]
  | _ => simp [entryError?, Key.isFieldName]

/-- A value is a document if it is an object whose entries all pass. -/
theorem ofValue?_eq_ok_iff {v : Value} {d : Document} :
    ofValue? v = .ok d ↔
      ∃ entries, v = .object entries ∧ (∀ e ∈ entries, entryError? e = none) ∧
        d = Table.ofList entries := by
  cases v with
  | object entries =>
    simp only [ofValue?]
    split
    · rename_i e he
      obtain ⟨a, ha, hae⟩ := List.exists_of_findSome?_eq_some he
      simp only [reduceCtorEq, Value.object.injEq, false_iff]
      rintro ⟨_, rfl, hall, -⟩
      simp [hall a ha] at hae
    · rename_i hnone
      rw [List.findSome?_eq_none_iff] at hnone
      constructor
      · rintro ⟨⟩
        exact ⟨entries, rfl, hnone, rfl⟩
      · rintro ⟨_, ⟨⟩, -, rfl⟩
        rfl
  | _ => simp [ofValue?]

/-- A document carries a text for its id if the id field holds it. -/
theorem id?_eq_some_iff {d : Document} {id : String} :
    d.id? = some id ↔ d.get? idField = some (.text id) := by
  unfold id?
  split <;> simp_all

/-- What is accepted is the object itself, entry by entry. -/
theorem toValue_of_ofValue? {entries : List (Key × Value)} {d : Document}
    (distinct : (entries.map Prod.fst).Nodup) (h : ofValue? (.object entries) = .ok d) :
    d.toValue = .object entries := by
  simp only [ofValue?] at h
  split at h
  · cases h
  · cases h
    rw [toValue, Table.entries_ofList distinct]

end Document

end DocStore
