import DocStore.Double.Text
import DocStore.Hex
import DocStore.Unicode.Printable
import DocStore.Value

/-!
# Values in messages

Messages show a value as a literal: `None`, `True`, numbers in full, quoted texts, `[1, 'a']`,
`{'a': 1}`. A text is quoted so that it can be read on one line: characters that are not printable
are written as escapes.

An integer of more than `digitLimit` digits is not put into digits, so a value with such an integer
in it has no literal that a message could show. `Value.literal` is what the literal would be,
`Value.fits` says whether it can be made.
-/

namespace DocStore

/-- The quote around a text: the single one, unless only that one occurs in the text. -/
def quoteFor (s : List Char) : Char :=
  if s.contains '\x27' && !s.contains '"' then '"' else '\x27'

/-- One character inside a quoted text. -/
def quotedChar (quote c : Char) : List Char :=
  if c = quote ∨ c = '\\' then ['\\', c]
  else if c = '\n' then ['\\', 'n']
  else if c = '\r' then ['\\', 'r']
  else if c = '\t' then ['\\', 't']
  else if Unicode.isPrintable c.toNat then [c]
  else if c.toNat < 0x100 then '\\' :: 'x' :: Hex.padded 2 c.toNat
  else if c.toNat < 0x10000 then '\\' :: 'u' :: Hex.padded 4 c.toNat
  else '\\' :: 'U' :: Hex.padded 8 c.toNat

/-- A text in quotes. -/
def quoted (s : String) : String :=
  let quote := quoteFor s.toList
  String.ofList (quote :: s.toList.flatMap (quotedChar quote) ++ [quote])

namespace Number

/-- The spelling of the doubles without digits in messages. -/
def messageSpelling : Double.Spelling := ⟨"nan", "inf"⟩

/-- A number in full. -/
def literal : Number → String
  | .int n => toString n
  | .float x => String.ofList (x.text messageSpelling)

end Number

/-- A scalar as a literal. -/
def Scalar.literal : Scalar → String
  | .null => "None"
  | .bool true => "True"
  | .bool false => "False"
  | .number n => n.literal
  | .text s => quoted s

/-- A key as a literal. -/
def Key.literal (k : Key) : String := k.toScalar.literal

namespace Value

mutual

/-- A value as a literal. -/
def literal : Value → String
  | .scalar s => s.literal
  | .list items => "[" ++ ", ".intercalate (itemLiterals items) ++ "]"
  | .object entries => "\x7b" ++ ", ".intercalate (entryLiterals entries) ++ "\x7d"

/-- The literals of the items of a list. -/
def itemLiterals : List Value → List String
  | [] => []
  | v :: rest => literal v :: itemLiterals rest

/-- The literals of the entries of an object. -/
def entryLiterals : List (Key × Value) → List String
  | [] => []
  | (k, v) :: rest => (k.literal ++ ": " ++ literal v) :: entryLiterals rest

end

end Value

/-! ## The limit of digits -/

/-- The greatest number of digits that an integer is written with or read from. -/
def digitLimit : Nat := 4300

/-- A text cannot be made, since an integer in it has too many digits. -/
inductive Unwritable where
  | unwritable
  deriving DecidableEq

/-- Whether an integer is within the limit. -/
def intFits (n : Int) : Bool := decide ((Nat.toDigits 10 n.natAbs).length ≤ digitLimit)

/-- Whether a key is within the limit. -/
def Key.fits : Key → Bool
  | .int n => intFits n
  | _ => true

namespace Value

mutual

/-- Whether all integers in a value are within the limit. -/
def fits : Value → Bool
  | .scalar (.number (.int n)) => intFits n
  | .scalar _ => true
  | .list items => itemsFit items
  | .object entries => entriesFit entries

/-- Whether all integers in the items of a list are within the limit. -/
def itemsFit : List Value → Bool
  | [] => true
  | v :: rest => fits v && itemsFit rest

/-- Whether all integers in the entries of an object are within the limit. -/
def entriesFit : List (Key × Value) → Bool
  | [] => true
  | (k, v) :: rest => k.fits && fits v && entriesFit rest

end

end Value

end DocStore
