/-!
# Hexadecimal digits

Numbers of a fixed width in lower-case hexadecimal digits, and the value of such a digit.
-/

namespace DocStore.Hex

/-- A number in hexadecimal digits, with zeros in front up to the width. -/
def padded (width n : Nat) : List Char :=
  let digits := Nat.toDigits 16 n
  List.replicate (width - digits.length) '0' ++ digits

/-- The value of a hexadecimal digit of either case. -/
def digit? (c : Char) : Option Nat :=
  if '0' ≤ c ∧ c ≤ '9' then some (c.toNat - '0'.toNat)
  else if 'a' ≤ c ∧ c ≤ 'f' then some (c.toNat - 'a'.toNat + 10)
  else if 'A' ≤ c ∧ c ≤ 'F' then some (c.toNat - 'A'.toNat + 10)
  else none

/-- The value of a run of hexadecimal digits; none if one of the characters is no such digit. -/
def value? (digits : List Char) : Option Nat :=
  digits.foldl (fun acc c => match acc, digit? c with
    | some n, some d => some (16 * n + d)
    | _, _ => none) (some 0)

end DocStore.Hex
