import DocStore.Json
import DocStore.Table

/-!
# Reading JSON

`lex` turns a text into tokens, skipping blanks between them. `parse` is a machine that takes the
tokens one by one and keeps a stack of the lists and objects that are still open. A key that occurs
twice keeps its first place and takes its last value.
-/

namespace DocStore.Json

/-! ## Texts -/

/-- The character that a one-letter escape stands for. -/
def letterEscape? : Char → Option Nat
  | '"' => some 0x22
  | '\\' => some 0x5C
  | '/' => some 0x2F
  | 'b' => some 8
  | 'f' => some 12
  | 'n' => some 10
  | 'r' => some 13
  | 't' => some 9
  | _ => none

/-- The code points and escaped code units up to the closing quote, and what comes after it.
Control characters must be escaped. -/
def scanUnits : List Char → Option (List Nat × List Char)
  | [] => none
  | '"' :: rest => some ([], rest)
  | '\\' :: 'u' :: a :: b :: c :: d :: rest =>
    match Hex.value? [a, b, c, d], scanUnits rest with
    | some unit, some (units, after) => some (unit :: units, after)
    | _, _ => none
  | '\\' :: e :: rest =>
    match letterEscape? e, scanUnits rest with
    | some unit, some (units, after) => some (unit :: units, after)
    | _, _ => none
  | c :: rest =>
    if c.toNat < 0x20 ∨ c = '\\' then none
    else (scanUnits rest).map fun found => (c.toNat :: found.1, found.2)

/-- Whether a code unit is the first of two. -/
def isHigh (unit : Nat) : Bool := 0xD800 ≤ unit && unit ≤ 0xDBFF

/-- Whether a code unit is the second of two. -/
def isLow (unit : Nat) : Bool := 0xDC00 ≤ unit && unit ≤ 0xDFFF

/-- The characters of code points and code units. Half a pair on its own is no character: a text
with one lies outside the values, and a file that escapes one in a text is refused. -/
def joinUnits : List Nat → Option (List Char)
  | [] => some []
  | high :: low :: rest =>
    -- a pair of code units stands for one character beyond the basic plane
    if isHigh high && isLow low then
      (joinUnits rest).map (Char.ofNat (0x10000 + (high - 0xD800) * 0x400 + (low - 0xDC00)) :: ·)
    else if isHigh high || isLow high then none
    else (joinUnits (low :: rest)).map (Char.ofNat high :: ·)
  | [unit] => if isHigh unit || isLow unit then none else some [Char.ofNat unit]

/-- A text behind its opening quote. -/
def scanText (s : List Char) : Option (String × List Char) :=
  match scanUnits s with
  | some (units, rest) => (joinUnits units).map fun chars => (String.ofList chars, rest)
  | none => none

/-! ## Tokens -/

/-- The names of scalars. -/
def names : List (List Char × Scalar) := [
  ("null".toList, .null),
  ("true".toList, .bool true),
  ("false".toList, .bool false),
  ("NaN".toList, .number (.float .nan)),
  ("Infinity".toList, .number (.float (.infinite false))),
  ("-Infinity".toList, .number (.float (.infinite true)))]

/-- A name of a scalar in front of a list of characters, and the rest. -/
def scanName (s : List Char) : Option (Scalar × List Char) :=
  names.findSome? fun n => if n.1.isPrefixOf s then some (n.2, s.drop n.1.length) else none

/-- A number in front of a list of characters, and the rest. A zero in front is the whole part. -/
def scanScalarNumber (s : List Char) : Option (Scalar × List Char) :=
  match scanNumber s with
  | none => none
  | some (t, rest) =>
    -- whatever follows a zero in front cannot follow a number
    if 1 < t.whole.length && t.whole.head? == some '0' then none
    else if t.isReal then some (.number (.float t.toDouble), rest)
    else if t.whole.length ≤ digitLimit then some (.number (.int t.toInt), rest)
    else none

/-- Whether a character may stand between tokens. -/
def isBlank (c : Char) : Bool := c == ' ' || c == '\t' || c == '\n' || c == '\r'

/-- The token that a punctuation character is. -/
def punctuation? : Char → Option Token
  | '\x7b' => some .openObject
  | '\x7d' => some .closeObject
  | '[' => some .openList
  | ']' => some .closeList
  | ':' => some .colon
  | ',' => some .comma
  | _ => none

/-- The scalar that begins with a character, and what comes after it. -/
def scanScalar (c : Char) (rest : List Char) : Option (Scalar × List Char) :=
  if c = '"' then (scanText rest).map fun found => (.text found.1, found.2)
  else match scanName (c :: rest) with
    | some found => some found
    | none => scanScalarNumber (c :: rest)

/-- The tokens of a text, at most as many as given. -/
def lexUpTo : Nat → List Char → Option (List Token)
  | _, [] => some []
  | 0, _ :: _ => none
  | limit + 1, c :: rest =>
    if isBlank c then lexUpTo limit rest
    else match punctuation? c with
      | some t => (lexUpTo limit rest).map (t :: ·)
      | none =>
        match scanScalar c rest with
        | some (s, after) => (lexUpTo limit after).map (.scalar s :: ·)
        | none => none

/-- The tokens of a text. -/
def lex (s : List Char) : Option (List Token) := lexUpTo s.length s

/-! ## Values -/

/-- A list or an object that is still open. -/
inductive Frame where
  /-- A list with the items read, the last one first. -/
  | list (items : List Value)
  /-- An object with the entries read, and the key whose value is being read. -/
  | object (entries : List (Key × Value)) (key : Key)

/-- What has just been read, and with it what may come next. -/
inductive Phase where
  /-- A value comes next. -/
  | value
  /-- A list has been opened: a value or the end of the list comes next. -/
  | listStart
  /-- An object has been opened: a key or the end of the object comes next. -/
  | objectStart
  /-- A key comes next, in an object with these entries. -/
  | key (entries : List (Key × Value))
  /-- A colon comes next, in an object with these entries and behind this key. -/
  | colon (entries : List (Key × Value)) (key : Key)
  /-- A value is complete. -/
  | done (v : Value)

/-- The phase that a token leads to where a value comes next. -/
def startValue : Token → Option Phase
  | .scalar s => some (.done (.scalar s))
  | .openList => some .listStart
  | .openObject => some .objectStart
  | _ => none

/-- One token of the machine. -/
def step (phase : Phase) (stack : List Frame) (t : Token) : Option (Phase × List Frame) :=
  match phase, t with
  | .value, t => (startValue t).map (·, stack)
  | .listStart, .closeList => some (.done (.list []), stack)
  | .listStart, t => (startValue t).map (·, .list [] :: stack)
  | .objectStart, .closeObject => some (.done (.object []), stack)
  | .objectStart, .scalar (.text k) => some (.colon [] (.text k), stack)
  | .key entries, .scalar (.text k) => some (.colon entries (.text k), stack)
  | .colon entries key, .colon => some (.value, .object entries key :: stack)
  | .done v, t =>
    match stack, t with
    | .list items :: rest, .comma => some (.value, .list (v :: items) :: rest)
    | .list items :: rest, .closeList => some (.done (.list (v :: items).reverse), rest)
    | .object entries key :: rest, .comma => some (.key (Table.upsert key v entries), rest)
    | .object entries key :: rest, .closeObject =>
      some (.done (.object (Table.upsert key v entries)), rest)
    | _, _ => none
  | _, _ => none

/-- Runs the machine to the end of the tokens, where one value must be complete and nothing open. -/
def run : Phase → List Frame → List Token → Option Value
  | .done v, [], [] => some v
  | _, _, [] => none
  | phase, stack, t :: rest =>
    match step phase stack t with
    | some (phase, stack) => run phase stack rest
    | none => none

/-- The value with the given tokens. -/
def parse (ts : List Token) : Option Value := run .value [] ts

/-- The value written by a text. -/
def read? (s : List Char) : Option Value := (lex s).bind parse

end DocStore.Json
