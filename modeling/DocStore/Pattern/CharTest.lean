import DocStore.Pattern.Syntax
import DocStore.Unicode.Case
import DocStore.Unicode.Word

/-!
# Tests of one character

Literals, sets and classes with and without regard to letter case. When case is ignored, a
character is brought to lower case, and the lower-case letters that share an upper-case letter
count as one letter; under the ASCII switch only the letters from `A` to `Z` have a case.
-/

namespace DocStore.Pattern

/-- What is done with letter case. -/
inductive Folding where
  /-- Case counts. -/
  | exact
  /-- The case of ASCII letters does not count. -/
  | ascii
  /-- Case does not count. -/
  | full
  deriving DecidableEq

/-- What the switches in force say of letter case. -/
def Flags.folding (flags : Flags) : Folding :=
  if !flags.contains .ignoreCase then .exact else if flags.isAscii then .ascii else .full

/-- Whether a code point is an upper-case ASCII letter. -/
def isAsciiUpper (c : Nat) : Bool := 0x41 ≤ c && c ≤ 0x5A

/-- Whether a code point is a lower-case ASCII letter. -/
def isAsciiLower (c : Nat) : Bool := 0x61 ≤ c && c ≤ 0x7A

namespace Folding

/-- The lower case of a code point. -/
def lower : Folding → Nat → Nat
  | .exact, c => c
  | .ascii, c => if isAsciiUpper c then c + 0x20 else c
  | .full, c => Unicode.lower c

/-- Whether a code point has a case. -/
def isCased : Folding → Nat → Bool
  | .exact, _ => false
  | .ascii, c => isAsciiUpper c || isAsciiLower c
  | .full, c => Unicode.isCased c

/-- The lower-case code points that count as one with a lower-case code point. -/
def mates : Folding → Nat → List Nat
  | .full, c => c :: Unicode.sharers c
  | _, c => [c]

/-- The code points whose lower case is the given one. -/
def sources : Folding → Nat → List Nat
  | .exact, c => [c]
  | .ascii, c => if isAsciiUpper c then [] else if isAsciiLower c then [c, c - 0x20] else [c]
  | .full, c => Unicode.withLower c

/-- Whether a code point from `low` to `high` has a case. -/
def hasCasedIn : Folding → Nat → Nat → Bool
  | .exact, _, _ => false
  | .ascii, low, high => decide (low ≤ 0x5A ∧ 0x41 ≤ high) || decide (low ≤ 0x7A ∧ 0x61 ≤ high)
  | .full, low, high =>
    Unicode.lowerRuns.any (·.meets low high) || Unicode.upperRuns.any (·.meets low high)

end Folding

/-- Whether a character is a literal. -/
def literalTest (f : Folding) (code c : Nat) : Bool :=
  if f.isCased code then (f.mates (f.lower code)).contains (f.lower c) else c == code

/-- Whether a character belongs to a class. -/
def categoryTest (ascii : Bool) : Category → Nat → Bool
  | .digit, c => if ascii then 0x30 ≤ c && c ≤ 0x39 else Unicode.isDecimal c
  | .space, c => if ascii then c == 0x20 || (9 ≤ c && c ≤ 13) else Unicode.isSpace c
  | .word, c =>
    if ascii then isAsciiUpper c || isAsciiLower c || (0x30 ≤ c && c ≤ 0x39) || c == 0x5F
    else Unicode.isWord c

/-- The last code point of the basic plane. -/
def basicPlaneEnd : Nat := 0xFFFF

/-- Whether a member makes its set disregard letter case: one with a case, or one that reaches
beyond the basic plane. -/
def SetItem.needsFolding (f : Folding) : SetItem → Bool
  | .code c => f.isCased c || decide (basicPlaneEnd < c)
  | .range low high => f.hasCasedIn low high || decide (basicPlaneEnd < high)
  | .category _ _ => false

/-- Whether a character is meant by a member of a set as it stands. -/
def SetItem.exactTest (ascii : Bool) (c : Nat) : SetItem → Bool
  | .code point => c == point
  | .range low high => low ≤ c && c ≤ high
  | .category kind negated => categoryTest ascii kind c != negated

/-- Whether a lower-case character is meant by a member of a set when case is ignored. In the basic
plane the member is brought to lower case; beyond it a single code point is taken as it stands, and
a range also takes the upper case of the character. -/
def SetItem.foldedTest (f : Folding) (ascii : Bool) (c : Nat) : SetItem → Bool
  | .code point =>
    if basicPlaneEnd < point then c == point else (f.mates (f.lower point)).contains c
  | .range low high =>
    -- some code point of the range in the basic plane counts as `c`
    (f.mates c).any (fun mate => (f.sources mate).any fun source =>
      low ≤ source && source ≤ high && source ≤ basicPlaneEnd) ||
    (decide (basicPlaneEnd < high) &&
      ((low ≤ c && c ≤ high) || (low ≤ Unicode.upper c && Unicode.upper c ≤ high)))
  | .category kind negated => categoryTest ascii kind c != negated

/-- Whether a character belongs to a set. -/
def setTest (f : Folding) (ascii negated : Bool) (items : List SetItem) (c : Nat) : Bool :=
  let found :=
    if f != .exact && items.any (·.needsFolding f) then
      items.any (·.foldedTest f ascii (f.lower c))
    else items.any (·.exactTest ascii c)
  found != negated

end DocStore.Pattern
