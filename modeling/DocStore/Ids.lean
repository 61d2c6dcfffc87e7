import DocStore.Document
import DocStore.Table

/-!
# Generated ids

An `IdSource` delivers ids one at a time: first a queue, which may repeat itself and may hold ids
already in use, then an endless supply of distinct ones. `IdSource.unused` draws until an id is not
in the collection; a supply of distinct ids makes that end within a known number of draws, which
bounds its recursion.

`urlSafeToken` writes 96 bits of chance as 16 characters that need no escaping in an address.
-/

namespace DocStore

-- powers are those of the core library, whatever else is imported
attribute [local instance (high)] instPowNat

/-- A stream of ids: a queue, then distinct ids. -/
structure IdSource where
  /-- The ids to be delivered first. -/
  queue : List String
  /-- The supply for when the queue is used up. -/
  supply : Nat → String
  /-- No id of the supply comes twice. -/
  supply_injective : ∀ i j, supply i = supply j → i = j
  /-- How many ids of the supply have been delivered. -/
  taken : Nat

namespace IdSource

/-- The next id, and the source after it. -/
def draw (src : IdSource) : String × IdSource :=
  match src.queue with
  -- an id from the queue is used up whether it will be taken or not
  | id :: rest => (id, { src with queue := rest })
  | [] => (src.supply src.taken, { src with taken := src.taken + 1 })

/-- Draws until an id is not in the collection, at most `again` times more than once. -/
def drawUnused (docs : Collection) : Nat → IdSource → String × IdSource
  | 0, src => src.draw
  | again + 1, src =>
    let drawn := src.draw
    if docs.contains drawn.1 then drawUnused docs again drawn.2 else drawn

/-- The first id of the source that is not in the collection. Every id drawn before it is in the
collection, so they are no more than the queue and the collection together. -/
def unused (docs : Collection) (src : IdSource) : String × IdSource :=
  drawUnused docs (src.queue.length + docs.size) src

end IdSource

/-! ## Counted ids -/

/-- A number in decimal digits, with zeros in front up to the width. -/
def paddedDecimal (width n : Nat) : List Char :=
  let digits := Nat.toDigits 10 n
  List.replicate (width - digits.length) '0' ++ digits

/-- `paddedDecimal` can be read back: the padding does not count. -/
theorem ofDigitChars_paddedDecimal (width n : Nat) :
    Nat.ofDigitChars 10 (paddedDecimal width n) 0 = n := by
  simp only [paddedDecimal]
  rw [Nat.ofDigitChars_append, Nat.ofDigitChars_replicate_zero, Nat.mul_zero,
    Nat.ofDigitChars_ten_toDigits]

/-- The id with a label and a number. -/
def countedId (label : String) (width n : Nat) : String :=
  String.ofList (label.toList ++ paddedDecimal width n)

/-- `countedId` gives different ids to different numbers. -/
theorem countedId_injective (label : String) (width i j : Nat)
    (h : countedId label width i = countedId label width j) : i = j := by
  have h' := List.append_cancel_left (String.ofList_inj.1 h)
  rw [← ofDigitChars_paddedDecimal width i, h', ofDigitChars_paddedDecimal]

/-- Ids from a queue, then labelled numbers counted from zero. -/
def IdSource.counted (label : String) (width : Nat) (queue : List String) : IdSource where
  queue := queue
  supply := countedId label width
  supply_injective := countedId_injective label width
  taken := 0

/-! ## Tokens -/

/-- The 64 characters of tokens. -/
def tokenAlphabet : List Char :=
  "ABCDEFGHIJKLMNOPQRSTUVWXYZabcdefghijklmnopqrstuvwxyz0123456789-_".toList

/-- The character for six bits. -/
def tokenChar (sextet : Nat) : Char := tokenAlphabet.getD (sextet % 64) 'A'

/-- 96 bits as 16 characters, the highest bits first. -/
def urlSafeToken (bits : Nat) : String :=
  String.ofList ((List.range 16).map fun i => tokenChar (bits / 64 ^ (15 - i)))

/-- Whether a text holds only characters of tokens. -/
def isUrlSafe (s : String) : Bool := s.toList.all tokenAlphabet.contains

end DocStore
