import DocStore.Hex
import DocStore.Unicode.NameTable

/-!
# Characters by name

`codeNamed?` gives the code point of the character with a name. Most names are listed, and of these
the case of the letters does not matter. The names of some scripts end in the code point of the
character. Those of the syllables of Hangul spell the syllable.
-/

namespace DocStore.Unicode

/-! ## The listed names -/

/-- A name as it is listed: what it does not share with the name before. -/
structure NameEntry where
  /-- How many characters of the name before are kept at its beginning. -/
  front : Nat
  /-- How many are kept at its end. -/
  back : Nat
  middle : List Char

/-- The entries of a list of names. The text is read from its end, so that what has been read of an
entry is the rest of it. -/
def nameEntries : List Char → List NameEntry
  | [] => []
  | c :: text =>
    match nameEntries text with
    | [] => [⟨0, 0, [c]⟩]
    | e :: more =>
      if c.isLower then { e with front := e.front + (c.toNat - 'a'.toNat) } :: more
      else if c == '.' then { e with front := 0, back := e.front } :: more
      -- in front of an entry another one ends
      else if text.head?.any Char.isLower then ⟨0, 0, [c]⟩ :: e :: more
      else { e with middle := c :: e.middle } :: more

/-- The names that entries mean behind a name. -/
def namesBehind : List Char → List NameEntry → List (List Char)
  | _, [] => []
  | before, e :: more =>
    let name := before.take e.front ++ e.middle ++ before.drop (before.length - e.back)
    name :: namesBehind name more

/-- The code point with a name, of those in several runs behind a name. -/
def codeInRuns? (name : List Char) : List Char → List (Nat × List String) → Option Nat
  | _, [] => none
  | before, (first, texts) :: runs =>
    let names := namesBehind before (nameEntries (texts.flatMap String.toList))
    match names.idxOf? name with
    | some i => some (first + i)
    | none => codeInRuns? name (names.getLastD before) runs

/-- The entries share beginnings and ends. -/
example :
    let runs := [(32, ["aSPACEa.dPL"]), (65, ["dNEeT"])]
    ["SPACE", "PLACE", "PLANE", "PLANT", "PLAN"].map (fun name => codeInRuns? name.toList [] runs) =
      [some 32, some 33, some 65, some 66, none] := by
  decide

/-! ## Names that end in the code point -/

/-- The value of upper-case hexadecimal digits. -/
def upperHex? (digits : List Char) : Option Nat :=
  if digits.all fun c => c.isDigit || c.isUpper then Hex.value? digits else none

/-- What follows a beginning. -/
def behind? (start : String) (name : List Char) : Option (List Char) :=
  if start.toList.isPrefixOf name then some (name.drop start.length) else none

/-- A family of characters with one beginning of their names: behind it the code point follows. -/
structure NameFamily where
  start : String
  /-- The first and the last code point of each run of members. -/
  runs : List (Nat × Nat)

/-- Whether a code point belongs to a family. -/
def NameFamily.contains (f : NameFamily) (code : Nat) : Bool :=
  f.runs.any fun r => r.1 ≤ code && code ≤ r.2

/-- The families of which the case of the letters does not matter, and the digits are as few as
possible. -/
def listedFamilies : List NameFamily := [
  ⟨"CJK COMPATIBILITY IDEOGRAPH-", [(0xf900, 0xfa6d), (0xfa70, 0xfad9), (0x2f800, 0x2fa1d)]⟩,
  ⟨"KHITAN SMALL SCRIPT CHARACTER-", [(0x18b00, 0x18cd5)]⟩,
  ⟨"NUSHU CHARACTER-", [(0x1b170, 0x1b2fb)]⟩]

/-- The code point with a name of one of these families. -/
def codeInFamilies? (name : List Char) : Option Nat :=
  listedFamilies.findSome? fun f =>
    (behind? f.start name).bind fun digits =>
      (upperHex? digits).filter fun code => f.contains code && digits.head? != some '0'

/-- The ideographs, named by four or five digits. -/
def ideographs : NameFamily :=
  ⟨"CJK UNIFIED IDEOGRAPH-", [(0x3400, 0x4dbf), (0x4e00, 0x9fff), (0x20000, 0x2a6df),
    (0x2a700, 0x2b738), (0x2b740, 0x2b81d), (0x2b820, 0x2cea1), (0x2ceb0, 0x2ebe0),
    (0x30000, 0x3134a)]⟩

/-- The code point that digits behind the name of the ideographs mean. -/
def ideograph? (digits : List Char) : Option Nat :=
  if digits.length = 4 || digits.length = 5 then (upperHex? digits).filter ideographs.contains
  else none

/-! ## Syllables of Hangul -/

/-- The consonants that a syllable can begin with. -/
def hangulInitials : List String :=
  ["G", "GG", "N", "D", "DD", "R", "M", "B", "BB", "S", "SS", "", "J", "JJ", "C", "K", "T", "P",
    "H"]

/-- The vowels of a syllable. -/
def hangulVowels : List String :=
  ["A", "AE", "YA", "YAE", "EO", "E", "YEO", "YE", "O", "WA", "WAE", "OE", "YO", "U", "WEO", "WE",
    "WI", "YU", "EU", "YI", "I"]

/-- The consonants that a syllable can end with. -/
def hangulFinals : List String :=
  ["", "G", "GG", "GS", "N", "NJ", "NH", "D", "L", "LG", "LM", "LB", "LS", "LT", "LP", "LH", "M",
    "B", "BS", "S", "SS", "NG", "J", "C", "K", "T", "P", "H"]

/-- The place of the longest of several parts that a spelling begins with, and what follows it. -/
def longestPart? (parts : List String) (spelling : List Char) : Option (Nat × List Char) :=
  let found := (parts.zipIdx.filterMap fun (part, i) =>
    (behind? part spelling).map fun rest => (i, rest))
  found.foldl (fun best next =>
    match best with
    | some b => if next.2.length < b.2.length then some next else best
    | none => some next) none

/-- The code point of the syllable with a spelling. -/
def hangulSyllable? (spelling : List Char) : Option Nat := do
  let (initial, spelling) ← longestPart? hangulInitials spelling
  let (vowel, spelling) ← longestPart? hangulVowels spelling
  let (final, spelling) ← longestPart? hangulFinals spelling
  if spelling.isEmpty then
    some (0xac00 + (initial * hangulVowels.length + vowel) * hangulFinals.length + final)
  else none

/-! ## All names -/

/-- The code point of the character with a name. -/
def codeNamed? (name : List Char) : Option Nat :=
  match behind? "HANGUL SYLLABLE " name, behind? ideographs.start name with
  | some spelling, _ => hangulSyllable? spelling
  | none, some digits => ideograph? digits
  | none, none =>
    let upper := name.map Char.toUpper
    (codeInFamilies? upper).or (codeInRuns? upper [] nameRuns)

end DocStore.Unicode
