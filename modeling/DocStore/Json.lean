import DocStore.Double.Reading
import DocStore.Hex
import DocStore.Value.Literal

/-!
# JSON tokens

The text of a JSON document is a list of tokens: brackets, braces, colons, commas and scalars.
Writing puts nothing between them. All characters outside printable ASCII are written as escapes.
Beyond the standard, the doubles without digits have names: `NaN`, `Infinity` and `-Infinity`.

Integers of more than `digitLimit` digits are neither written nor read.
-/

namespace DocStore.Json

/-- A unit of the text. -/
inductive Token where
  | openObject
  | closeObject
  | openList
  | closeList
  | colon
  | comma
  | scalar (s : Scalar)
  deriving DecidableEq

/-- The spelling of the doubles without digits. -/
def spelling : Double.Spelling := ⟨"NaN", "Infinity"⟩

/-! ## Writing -/

/-- A code unit of 16 bits as an escape. -/
def unitEscape (unit : Nat) : List Char := '\\' :: 'u' :: Hex.padded 4 unit

/-- A character inside a text: printable ASCII stands for itself, and beyond the basic plane two
code units stand for one character. -/
def charText (c : Char) : List Char :=
  if c = '"' then ['\\', '"']
  else if c = '\\' then ['\\', '\\']
  else if c = '\n' then ['\\', 'n']
  else if c = '\r' then ['\\', 'r']
  else if c = '\t' then ['\\', 't']
  else if c.toNat = 8 then ['\\', 'b']
  else if c.toNat = 12 then ['\\', 'f']
  else if ' ' ≤ c ∧ c ≤ '~' then [c]
  else if c.toNat < 0x10000 then unitEscape c.toNat
  else unitEscape (0xD800 + (c.toNat - 0x10000) / 0x400) ++
    unitEscape (0xDC00 + (c.toNat - 0x10000) % 0x400)

/-- A text in quotes. -/
def quotedText (s : List Char) : List Char := '"' :: s.flatMap charText ++ ['"']

/-- An integer in digits. -/
def intText : Int → List Char
  | .ofNat n => Nat.toDigits 10 n
  | .negSucc n => '-' :: Nat.toDigits 10 (n + 1)

/-- The text of a scalar. -/
def scalarText : Scalar → List Char
  | .null => ['n', 'u', 'l', 'l']
  | .bool true => ['t', 'r', 'u', 'e']
  | .bool false => ['f', 'a', 'l', 's', 'e']
  | .number (.int n) => intText n
  | .number (.float x) => x.text spelling
  | .text s => quotedText s.toList

namespace Token

/-- The text of a token. -/
def text : Token → List Char
  | .openObject => ['\x7b']
  | .closeObject => ['\x7d']
  | .openList => ['[']
  | .closeList => [']']
  | .colon => [':']
  | .comma => [',']
  | .scalar s => scalarText s

end Token

/-- A key as a text. -/
def keyName : Key → String
  | .text s => s
  | .int n => String.ofList (intText n)
  | .null => "null"

mutual

/-- The tokens of a value. -/
def tokens : Value → List Token
  | .scalar s => [.scalar s]
  | .list items => .openList :: itemTokens items ++ [.closeList]
  | .object entries => .openObject :: entryTokens entries ++ [.closeObject]

/-- The tokens of the items of a list. -/
def itemTokens : List Value → List Token
  | [] => []
  | [v] => tokens v
  | v :: rest => tokens v ++ .comma :: itemTokens rest

/-- The tokens of the entries of an object. -/
def entryTokens : List (Key × Value) → List Token
  | [] => []
  | [(k, v)] => .scalar (.text (keyName k)) :: .colon :: tokens v
  | (k, v) :: rest =>
    .scalar (.text (keyName k)) :: .colon :: (tokens v ++ .comma :: entryTokens rest)

end

/-- The text of a value; none if one of its integers is beyond the limit. -/
def write? (v : Value) : Option (List Char) :=
  if v.fits then some ((tokens v).flatMap Token.text) else none

end DocStore.Json
