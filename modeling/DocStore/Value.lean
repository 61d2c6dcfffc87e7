import DocStore.Double

/-!
# Values

The data that documents, queries, updates and projections are made of: scalars, lists and objects.
An object keeps its entries in order; its keys are normally texts, but a caller may hand in objects
with integer or null keys, and every gate of the library decides for itself what it thinks of
them.

`Value.same` is equality across representations: a number equals a number of the same exact value
whether integer or double, and inside lists and objects a boolean counts as 0 or 1. `strictEq`
looks at the type tags of the two values first, and at no tags inside them.

A value is a tree of plain data. What a caller can hold in a variable and is no such tree lies
outside: objects of other kinds, keys that are neither texts nor integers nor null, texts with lone
surrogates, and values so deep that to walk through them would exhaust the stack. Nor does a tree
say that one and the same object stands at two of its places. This shows in two ways only. A
not-a-number equals nothing, but inside lists and objects it is passed over where it is one object
with the one that it is compared to: `sameWith` is told at which places that is so. And to append to
a list changes it wherever it stands: documents that share lists have a module of their own.
-/

namespace DocStore

/-- A number: an integer of any size or a double. -/
inductive Number where
  | int (n : Int)
  | float (x : Double)
  deriving DecidableEq

/-- A value without parts. -/
inductive Scalar where
  | null
  | bool (b : Bool)
  | number (n : Number)
  | text (s : String)
  deriving DecidableEq

/-- A key of an object, normally a text. -/
inductive Key where
  | text (s : String)
  | int (n : Int)
  | null
  deriving DecidableEq

instance : Coe String Key := ⟨.text⟩

/-- A step from a value to one of its parts. -/
inductive PlaceStep where
  /-- To an item of a list. -/
  | item (i : Nat)
  /-- To the value under a key of an object. -/
  | entry (k : Key)
  deriving DecidableEq

/-- A place in a value: the steps that lead to it. -/
abbrev Place := List PlaceStep

/-- A value of any kind, nested to any depth. -/
inductive Value where
  | scalar (s : Scalar)
  | list (items : List Value)
  /-- An object with its entries in order. -/
  | object (entries : List (Key × Value))

/-- The type of a value as queries see it. -/
inductive TypeTag where
  | array
  | boolean
  | null
  | number
  | object
  | string
  deriving DecidableEq

namespace TypeTag

/-- The name of a type tag in queries. -/
def name : TypeTag → String
  | .array => "array"
  | .boolean => "boolean"
  | .null => "null"
  | .number => "number"
  | .object => "object"
  | .string => "string"

/-- All type tags, by name in alphabetical order. -/
def all : List TypeTag := [.array, .boolean, .null, .number, .object, .string]

/-- The type tag with a name. -/
def ofName? (s : String) : Option TypeTag := all.find? fun t => t.name == s

end TypeTag

namespace Key

/-- The key as a scalar. -/
def toScalar : Key → Scalar
  | .text s => .text s
  | .int n => .number (.int n)
  | .null => .null

/-- Whether the key is a name. -/
def isText : Key → Bool
  | .text _ => true
  | _ => false

end Key

/-! ## Numbers -/

namespace Number

/-- A point on the line of numbers: an exact number of units, or one of the two ends. -/
inductive Height where
  /-- Below every finite number. -/
  | bottom
  /-- A finite number, in units of the least positive double. -/
  | level (units : Int)
  /-- Above every finite number. -/
  | top
  deriving DecidableEq

/-- The order of heights. -/
def Height.cmp : Height → Height → Ordering
  | .bottom, .bottom => .eq
  | .bottom, _ => .lt
  | _, .bottom => .gt
  | .top, .top => .eq
  | .top, _ => .gt
  | _, .top => .lt
  | .level a, .level b => compare a b

/-- Where a number stands on the line; not-a-number stands nowhere. -/
def height? : Number → Option Height
  | .int n => some (.level (n * Double.unitsPerOne))
  | .float .nan => none
  | .float (.infinite negative) => some (if negative then .bottom else .top)
  | .float (.finite negative place) => some (.level (Double.signedUnits negative place))

/-- Compares two numbers by exact value; not-a-number compares with nothing. -/
def cmp? (a b : Number) : Option Ordering :=
  match a.height?, b.height? with
  | some x, some y => some (x.cmp y)
  | _, _ => none

/-- Whether two numbers have the same exact value. -/
def same (a b : Number) : Bool := a.cmp? b == some .eq

/-- The sum of two numbers: exact for integers; else rounded once to a double. There is none if an
integer term is beyond the greatest double. -/
def add? : Number → Number → Option Number
  | .int a, .int b => some (.int (a + b))
  | .float x, .float y => some (.float (x.add y))
  | .int a, .float y => (Double.ofInt? a).map fun x => .float (x.add y)
  | .float x, .int b => (Double.ofInt? b).map fun y => .float (x.add y)

end Number

/-! ## Views -/

namespace Scalar

/-- The scalar as a number, a truth value counting as 0 or 1. -/
def numeric? : Scalar → Option Number
  | .bool b => some (.int b.toNat)
  | .number n => some n
  | _ => none

/-- Whether two scalars are equal as numbers, or else equal. -/
def same (a b : Scalar) : Bool :=
  match a.numeric?, b.numeric? with
  | some x, some y => x.same y
  | none, none => a == b
  | _, _ => false

/-- Whether the scalar is not-a-number. -/
def isNaN (s : Scalar) : Bool := s == .number (.float .nan)

/-- The type tag of a scalar. -/
def typeTag : Scalar → TypeTag
  | .null => .null
  | .bool _ => .boolean
  | .number _ => .number
  | .text _ => .string

end Scalar

namespace Value

instance : Inhabited Value := ⟨.scalar .null⟩

/-- The null value. -/
abbrev null : Value := .scalar .null

/-- A truth value. -/
abbrev bool (b : Bool) : Value := .scalar (.bool b)

/-- An integer. -/
abbrev int (n : Int) : Value := .scalar (.number (.int n))

/-- A text. -/
abbrev text (s : String) : Value := .scalar (.text s)

/-- The scalar that the value is. -/
def scalar? : Value → Option Scalar
  | .scalar s => some s
  | _ => none

/-- The number that the value is. -/
def number? : Value → Option Number
  | .scalar (.number n) => some n
  | _ => none

/-- Whether the value is a scalar. -/
def isScalar : Value → Bool
  | .scalar _ => true
  | _ => false

/-- Whether the value is a number; a truth value is none. -/
def isNumber : Value → Bool
  | .scalar (.number _) => true
  | _ => false

/-- Whether the value is a scalar or a list of scalars. -/
def isFlat : Value → Bool
  | .scalar _ => true
  | .list items => items.all isScalar
  | .object _ => false

/-- Whether a field may hold the value: a flat value, or an object of flat values under names. -/
def isStorable : Value → Bool
  | .object entries => entries.all fun e => e.1.isText && e.2.isFlat
  | v => v.isFlat

/-- The type tag of a value. -/
def typeTag : Value → TypeTag
  | .scalar s => s.typeTag
  | .list _ => .array
  | .object _ => .object

/-- The name of the representation of a value, as messages give it. -/
def kindName : Value → String
  | .scalar .null => "NoneType"
  | .scalar (.bool _) => "bool"
  | .scalar (.number (.int _)) => "int"
  | .scalar (.number (.float _)) => "float"
  | .scalar (.text _) => "str"
  | .list _ => "list"
  | .object _ => "dict"

/-- Whether the value counts as true: null, false, zeros and everything empty do not. -/
def isTruthy : Value → Bool
  | .scalar .null => false
  | .scalar (.bool b) => b
  | .scalar (.number (.int n)) => n ≠ 0
  | .scalar (.number (.float x)) => !x.isZero
  | .scalar (.text s) => s ≠ ""
  | .list items => !items.isEmpty
  | .object entries => !entries.isEmpty

/-- Entries whose keys are all texts are entries under names. -/
theorem exists_map_text {entries : List (Key × Value)} (h : ∀ e ∈ entries, e.1.isText = true) :
    ∃ named : List (String × Value), entries = named.map fun e => (.text e.1, e.2) := by
  induction entries with
  | nil => exact ⟨[], rfl⟩
  | cons e rest ih =>
    obtain ⟨he, hrest⟩ := List.forall_mem_cons.1 h
    obtain ⟨named, rfl⟩ := ih hrest
    obtain ⟨key, v⟩ := e
    cases key with
    | text name => exact ⟨(name, v) :: named, rfl⟩
    | int n => cases he
    | null => cases he

/-! ## Equality -/

mutual

/-- Equality across representations: numbers by exact value, truth values as 0 and 1, lists item by
item, objects by the values under their keys, whatever the order. A not-a-number equals another one
at the places where the two are one object. -/
def sameWith (one : Place → Bool) : Value → Value → Bool
  | .scalar a, .scalar b => a.same b || one [] && a.isNaN && b.isNaN
  | .list as, .list bs => sameItems (fun i p => one (.item i :: p)) as bs
  | .object es, .object fs =>
    es.length == fs.length && sameEntries (fun k p => one (.entry k :: p)) es fs
  | _, _ => false

/-- Whether two lists are equal item by item. -/
def sameItems (one : Nat → Place → Bool) : List Value → List Value → Bool
  | [], [] => true
  | a :: as, b :: bs => sameWith (one 0) a b && sameItems (fun i => one (i + 1)) as bs
  | _, _ => false

/-- Whether every entry of the first list has an equal one under its key in the second. -/
def sameEntries (one : Key → Place → Bool) : List (Key × Value) → List (Key × Value) → Bool
  | [], _ => true
  | (k, v) :: es, fs =>
    -- keys are distinct and the lengths agree, so one direction is enough
    (match fs.lookup k with
      | some w => sameWith (one k) v w
      | none => false) && sameEntries one es fs

end

/-- Equality of two values that have no object in common. -/
def same (a b : Value) : Bool := sameWith (fun _ => false) a b

/-- Equality of two values with the same type tag, where one not-a-number may stand in both. Only
the tags of the two values themselves are compared: 1 equals 1.0 and no truth value, but a list of 1
equals a list of a truth value. The two values are compared as they are, one object or not. -/
def strictEqWith (one : Place → Bool) (a b : Value) : Bool :=
  a.typeTag == b.typeTag && sameWith (fun p => !p.isEmpty && one p) a b

/-- Equality of two values with the same type tag that have no object in common. -/
def strictEq (a b : Value) : Bool := strictEqWith (fun _ => false) a b

/-- `strictEq` compares the type tags, and then the values by `same`. -/
theorem strictEq_eq (a b : Value) : a.strictEq b = (a.typeTag == b.typeTag && a.same b) := by
  simp [strictEq, strictEqWith, same]

/-- `same` of two scalars is that of scalars. -/
theorem same_scalar (s t : Scalar) : (Value.scalar s).same (.scalar t) = s.same t := by
  simp [same, sameWith]

end Value

end DocStore
