import DocStore.Double.Text

/-!
# Reading numbers

The text of a number is a sign, whole digits, and perhaps a fraction and an exponent. `scanNumber`
takes the longest such text from the front of a list of characters; `NumberText.toDouble` gives its
value, rounded once. `Double.ofText?` reads a text that is a number from end to end.
-/

namespace DocStore

/-- The parts of the text of a number. -/
structure NumberText where
  negative : Bool
  /-- The digits before the point. -/
  whole : List Char
  /-- The digits after the point. -/
  fraction : List Char
  exponent : Int
  /-- Whether there is a point or an exponent. -/
  isReal : Bool
  deriving DecidableEq

namespace NumberText

/-- The double that a text stands for. -/
def toDouble (t : NumberText) : Double :=
  .ofDecimal t.negative (Nat.ofDigitChars 10 (t.whole ++ t.fraction) 0)
    (t.exponent - (t.fraction.length : Int))

/-- The integer that a text without point and exponent stands for. -/
def toInt (t : NumberText) : Int :=
  let n : Int := Nat.ofDigitChars 10 t.whole 0
  if t.negative then -n else n

end NumberText

/-- Splits off the digits in front. -/
def scanDigits (s : List Char) : List Char × List Char :=
  (s.takeWhile Char.isDigit, s.dropWhile Char.isDigit)

/-- A point with digits behind it; without digits there is no fraction. -/
def scanFraction : List Char → List Char × List Char
  | '.' :: rest =>
    match scanDigits rest with
    | ([], _) => ([], '.' :: rest)
    | found => found
  | s => ([], s)

/-- The digits of an exponent behind its sign. -/
def scanPower (negative : Bool) (s : List Char) : Option (Int × List Char) :=
  match scanDigits s with
  | ([], _) => none
  | (digits, rest) =>
    let n : Int := Nat.ofDigitChars 10 digits 0
    some (if negative then -n else n, rest)

/-- A letter `e` with an integer behind it; without digits there is no exponent. -/
def scanExponent (s : List Char) : Option (Int × List Char) :=
  match s with
  | e :: rest =>
    if e = 'e' ∨ e = 'E' then
      match rest with
      | '-' :: digits => scanPower true digits
      | '+' :: digits => scanPower false digits
      | digits => scanPower false digits
    else none
  | [] => none

/-- The text of a number in front of a list of characters, and the rest. -/
def scanNumber (s : List Char) : Option (NumberText × List Char) :=
  let (negative, unsigned) := match s with
    | '-' :: rest => (true, rest)
    | other => (false, other)
  match scanDigits unsigned with
  | ([], _) => none
  | (whole, rest) =>
    let (fraction, rest) := scanFraction rest
    match scanExponent rest with
    | some (exponent, rest) => some (⟨negative, whole, fraction, exponent, true⟩, rest)
    | none => some (⟨negative, whole, fraction, 0, !fraction.isEmpty⟩, rest)

/-- The number written by a whole text. A sign may stand in front, and the digits on one side of the
point may be missing. -/
def decimalText? (s : List Char) : Option NumberText :=
  let (negative, unsigned) := match s with
    | '-' :: rest => (true, rest)
    | '+' :: rest => (false, rest)
    | other => (false, other)
  let (whole, rest) := scanDigits unsigned
  let (fraction, rest) := match rest with
    | '.' :: more => scanDigits more
    | other => ([], other)
  if whole.isEmpty && fraction.isEmpty then none
  else if rest.isEmpty then some ⟨negative, whole, fraction, 0, true⟩
  else match scanExponent rest with
    | some (exponent, []) => some ⟨negative, whole, fraction, exponent, true⟩
    | _ => none

/-- The double written by a whole text: a number, or one of the spellings given. -/
def Double.ofText? (spelling : Double.Spelling) (s : String) : Option Double :=
  if s = spelling.nan then some .nan
  else if s = spelling.infinity then some (.infinite false)
  else if s = "-" ++ spelling.infinity then some (.infinite true)
  else (decimalText? s.toList).map NumberText.toDouble

end DocStore
