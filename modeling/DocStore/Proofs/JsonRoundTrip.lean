import DocStore.Proofs.NumberText

/-!
# JSON texts read back

`Json.read?` on what `Json.write?` gives. The two meet in the tokens: `lex` finds the tokens of a
text again, since no two scalars stand side by side, and `parse` builds the value from its tokens.
What comes back is `asRead v`: keys have become texts, and of two entries with one key the later
value stands in the place of the earlier. A value whose keys are distinct texts comes back as it is.

## Key results

- `scanText_quotedText`: a text in quotes reads back, whatever its characters
- `lex_flatMap_text`: the tokens of a text are found again
- `parse_tokens`: the tokens of a value give the value
- `read?_of_write?`: reading what was written
- `asRead_object`: an object with distinct texts for keys comes back with its entries in order
-/

namespace DocStore

/-! ## Hexadecimal digits -/

namespace Hex

/-- `digit?` reads the character that `digitChar` writes. -/
private theorem digit?_digitChar {d : Nat} (h : d < 16) : digit? d.digitChar = some d := by
  revert d
  decide

/-- `padded` to one place more writes the last digit behind the others. -/
private theorem padded_succ {width : Nat} (hw : 0 < width) (n : Nat) :
    padded (width + 1) n = padded width (n / 16) ++ [(n % 16).digitChar] := by
  simp only [padded]
  -- a number of one digit is padded with one zero more, any other loses its last digit
  by_cases h : n < 16
  · rw [Nat.toDigits_of_lt_base h, Nat.div_eq_of_lt h, Nat.toDigits_zero, Nat.mod_eq_of_lt h]
    obtain ⟨w, rfl⟩ : ∃ w, width = w + 1 := ⟨width - 1, by omega⟩
    simp [List.replicate_succ']
  · rw [Nat.toDigits_of_base_le (by decide) (by omega), List.length_append, List.length_singleton,
      Nat.add_sub_add_right, List.append_assoc]

/-- `padded` to four places writes sixteen bits in four digits. -/
private theorem padded_four {n : Nat} (h : n < 0x10000) :
    padded 4 n = [(n / 4096).digitChar, (n / 256 % 16).digitChar, (n / 16 % 16).digitChar,
      (n % 16).digitChar] := by
  have hlast : padded 1 (n / 4096) = [(n / 4096).digitChar] := by
    rw [padded, Nat.toDigits_of_lt_base (by omega)]
    rfl
  rw [padded_succ (by decide), padded_succ (by decide), padded_succ (by decide)]
  simp only [Nat.div_div_eq_div_mul, Nat.reduceMul, hlast, List.cons_append, List.nil_append]

/-- `value?` reads the four digits of `padded_four` back as sixteen bits. -/
private theorem value?_padded_four {n : Nat} (h : n < 0x10000) :
    value? [(n / 4096).digitChar, (n / 256 % 16).digitChar, (n / 16 % 16).digitChar,
      (n % 16).digitChar] = some n := by
  have h0 := digit?_digitChar (show n / 4096 < 16 by omega)
  have h1 := digit?_digitChar (show n / 256 % 16 < 16 by omega)
  have h2 := digit?_digitChar (show n / 16 % 16 < 16 by omega)
  have h3 := digit?_digitChar (show n % 16 < 16 by omega)
  simp only [value?, List.foldl_cons, List.foldl_nil, h0, h1, h2, h3, Option.some.injEq]
  omega

end Hex

namespace Json

/-! ## Characters of a text -/

/-- The code units that stand for a character. -/
def unitsOf (c : Char) : List Nat :=
  if c.toNat < 0x10000 then [c.toNat]
  else [0xD800 + (c.toNat - 0x10000) / 0x400, 0xDC00 + (c.toNat - 0x10000) % 0x400]

/-- Adds code units in front of what a scan has found. -/
def inFront (units : List Nat) (found : List Nat × List Char) : List Nat × List Char :=
  (units ++ found.1, found.2)

/-- `scanUnits` scans an escaped code unit as that unit. -/
private theorem scanUnits_unitEscape {unit : Nat} (h : unit < 0x10000) (s : List Char) :
    scanUnits (unitEscape unit ++ s) = (scanUnits s).map (inFront [unit]) := by
  simp only [unitEscape, Hex.padded_four h, List.cons_append, List.nil_append, scanUnits,
    Hex.value?_padded_four h]
  cases scanUnits s <;> rfl

/-- `scanUnits` scans a one-letter escape as the unit that the letter stands for. -/
private theorem scanUnits_letterEscape {e : Char} {unit : Nat} (he : letterEscape? e = some unit)
    (s : List Char) : scanUnits ('\\' :: e :: s) = (scanUnits s).map (inFront [unit]) := by
  have hu : e ≠ 'u' := by
    rintro rfl
    simp [letterEscape?] at he
  cases h : scanUnits s <;> simp [scanUnits, hu, he, h, inFront]

/-- `scanUnits` scans a printable character other than the quote and the backslash as itself. -/
private theorem scanUnits_plain {c : Char} (hquote : c ≠ '"') (hslash : c ≠ '\\')
    (hlow : 0x20 ≤ c.toNat) (s : List Char) :
    scanUnits (c :: s) = (scanUnits s).map (inFront [c.toNat]) := by
  have hprint : ¬ c.toNat < 0x20 := by omega
  cases h : scanUnits s <;> simp [scanUnits, hslash, hprint, h, inFront]

/-- A character is below the end of all code points and no half of a pair. -/
private theorem toNat_char_range (c : Char) :
    c.toNat < 0xD800 ∨ 0xDFFF < c.toNat ∧ c.toNat < 0x110000 := c.valid

/-- `unitsOf` a character of sixteen bits is the one of its number. -/
private theorem unitsOf_of_lt {c : Char} (h : c.toNat < 0x10000) : unitsOf c = [c.toNat] := if_pos h

/-- `scanUnits` scans a character inside a text as its code units. -/
private theorem scanUnits_charText (c : Char) (s : List Char) :
    scanUnits (charText c ++ s) = (scanUnits s).map (inFront (unitsOf c)) := by
  -- seven escapes with a letter, the printable characters, and one or two escaped units
  have hrange := toNat_char_range c
  unfold charText
  split
  · subst_vars
    exact scanUnits_letterEscape rfl s
  split
  · subst_vars
    exact scanUnits_letterEscape rfl s
  split
  · subst_vars
    exact scanUnits_letterEscape rfl s
  split
  · subst_vars
    exact scanUnits_letterEscape rfl s
  split
  · subst_vars
    exact scanUnits_letterEscape rfl s
  split
  · rename_i h8
    rw [unitsOf_of_lt (by omega), h8]
    exact scanUnits_letterEscape rfl s
  split
  · rename_i h12
    rw [unitsOf_of_lt (by omega), h12]
    exact scanUnits_letterEscape rfl s
  split
  · rename_i hquote hslash _ _ _ _ _ hprint
    have hlow : 0x20 ≤ c.toNat := hprint.1
    have hhigh : c.toNat ≤ 0x7E := hprint.2
    rw [unitsOf_of_lt (by omega)]
    exact scanUnits_plain hquote hslash hlow s
  split
  · rename_i hbmp
    rw [unitsOf_of_lt hbmp, scanUnits_unitEscape hbmp]
  -- beyond sixteen bits, two units are escaped one after the other
  · rename_i hbmp
    rw [List.append_assoc, scanUnits_unitEscape (by omega), scanUnits_unitEscape (by omega),
      unitsOf, if_neg hbmp]
    cases scanUnits s <;> rfl

/-- `scanUnits` scans what stands between quotes as the code units of its characters. -/
private theorem scanUnits_flatMap_charText (s rest : List Char) :
    scanUnits (s.flatMap charText ++ '"' :: rest) = some (s.flatMap unitsOf, rest) := by
  induction s with
  | nil => simp [scanUnits]
  | cons c s ih =>
    rw [List.flatMap_cons, List.append_assoc, scanUnits_charText, ih]
    rfl

/-- `joinUnits` leaves a code point alone that is no half of a pair. -/
private theorem joinUnits_cons {unit : Nat} (h : unit < 0xD800 ∨ 0xDFFF < unit) (units : List Nat) :
    joinUnits (unit :: units) = (joinUnits units).map (Char.ofNat unit :: ·) := by
  have hhigh : isHigh unit = false := by
    simp only [isHigh, Bool.and_eq_false_iff, decide_eq_false_iff_not]
    omega
  have hlow : isLow unit = false := by
    simp only [isLow, Bool.and_eq_false_iff, decide_eq_false_iff_not]
    omega
  cases units <;> simp [joinUnits, hhigh, hlow]

/-- `joinUnits` joins the code units of a character to that character. -/
private theorem joinUnits_unitsOf (c : Char) (units : List Nat) :
    joinUnits (unitsOf c ++ units) = (joinUnits units).map (c :: ·) := by
  -- below the pairs a unit is the character, beyond them the two halves make it up again
  have hrange := toNat_char_range c
  by_cases hbmp : c.toNat < 0x10000
  · rw [unitsOf_of_lt hbmp, List.singleton_append, joinUnits_cons (by omega), Char.ofNat_toNat]
  · have hhigh : isHigh (0xD800 + (c.toNat - 0x10000) / 0x400) = true := by
      simp only [isHigh, Bool.and_eq_true, decide_eq_true_eq]
      omega
    have hlow : isLow (0xDC00 + (c.toNat - 0x10000) % 0x400) = true := by
      simp only [isLow, Bool.and_eq_true, decide_eq_true_eq]
      omega
    have hjoin : 0x10000 + (0xD800 + (c.toNat - 0x10000) / 0x400 - 0xD800) * 0x400 +
        (0xDC00 + (c.toNat - 0x10000) % 0x400 - 0xDC00) = c.toNat := by omega
    rw [unitsOf, if_neg hbmp, List.cons_append, List.singleton_append, joinUnits,
      if_pos (by rw [hhigh, hlow]; rfl), hjoin, Char.ofNat_toNat]

/-- `joinUnits` gives back the characters whose code units it is given. -/
private theorem joinUnits_flatMap_unitsOf (s : List Char) :
    joinUnits (s.flatMap unitsOf) = some s := by
  induction s with
  | nil => rfl
  | cons c s ih => rw [List.flatMap_cons, joinUnits_unitsOf, ih, Option.map_some]

/-- `scanText` reads a text in quotes back, whatever its characters. -/
theorem scanText_quotedText (s : String) (rest : List Char) :
    scanText (s.toList.flatMap charText ++ '"' :: rest) = some (s, rest) := by
  simp only [scanText, scanUnits_flatMap_charText, joinUnits_flatMap_unitsOf, Option.map_some,
    String.ofList_toList]

/-! ## Scalars -/

/-- `scanDigits` splits digits off only where there are some. -/
private theorem exists_digit_of_scanDigits {s digits rest : List Char}
    (h : scanDigits s = (digits, rest)) (hne : digits ≠ []) :
    ∃ d more, s = d :: more ∧ d.isDigit = true := by
  cases s with
  | nil =>
    simp only [scanDigits, List.takeWhile_nil, Prod.mk.injEq] at h
    exact absurd h.1.symm hne
  | cons d more =>
    refine ⟨d, more, rfl, ?_⟩
    cases hd : d.isDigit with
    | true => rfl
    | false =>
      simp only [scanDigits, List.takeWhile_cons, hd, Prod.mk.injEq] at h
      exact absurd h.1.symm hne

/-- `scanNumber` reads nothing but what begins with a digit, or with a sign and a digit. -/
private theorem exists_digit_of_scanNumber {s : List Char} {r : NumberText × List Char}
    (h : scanNumber s = some r) :
    ∃ d more, d.isDigit = true ∧ (s = d :: more ∨ s = '-' :: d :: more) := by
  unfold scanNumber at h
  split at h
  rename_i negative unsigned hsign
  split at h
  · cases h
  · rename_i whole rest hne hscan
    -- `scanDigits` has read a digit where it has not failed; a sign may stand before it
    obtain ⟨d, more, rfl, hd⟩ := exists_digit_of_scanDigits hscan hne
    refine ⟨d, more, hd, ?_⟩
    split at hsign
    · cases hsign
      exact .inr rfl
    · cases hsign
      exact .inl rfl

/-- `isDigit` tells a character from those of which it does not hold. -/
private theorem ne_of_isDigit {c k : Char} (hc : c.isDigit = true) (hk : k.isDigit = false) :
    c ≠ k := by
  rintro rfl
  exact absurd hc (by simp [hk])

/-- The first character of a number: it is no blank, no punctuation and no quote. -/
def StartsScalar (c : Char) : Prop := isBlank c = false ∧ punctuation? c = none

/-- `StartsScalar` holds of every digit. -/
private theorem startsScalar_of_isDigit {c : Char} (h : c.isDigit = true) : StartsScalar c := by
  constructor
  · simp [isBlank, ne_of_isDigit h]
  · unfold punctuation?
    split
    all_goals first | rfl | exact absurd h (by decide)

/-- `scanName` finds no name where a number begins, with its sign or without. -/
private theorem scanName_of_digit {s more : List Char} {d : Char} (hd : d.isDigit = true)
    (hs : s = d :: more ∨ s = '-' :: d :: more) : scanName s = none := by
  have hn := (ne_of_isDigit hd (k := 'n') rfl).symm
  have ht := (ne_of_isDigit hd (k := 't') rfl).symm
  have hf := (ne_of_isDigit hd (k := 'f') rfl).symm
  have hN := (ne_of_isDigit hd (k := 'N') rfl).symm
  have hI := (ne_of_isDigit hd (k := 'I') rfl).symm
  have hm := (ne_of_isDigit hd (k := '-') rfl).symm
  rcases hs with rfl | rfl
  · simp [scanName, names, hn, ht, hf, hN, hI, hm]
  · simp [scanName, names, hI]

/-- What it takes for a text to read back as a scalar: it begins like a scalar and is scanned as
that scalar, whatever stops the scan behind it. -/
def ReadsAsScalar (text : List Char) (s : Scalar) : Prop :=
  ∀ rest, EndsNumber rest → ∃ c more, text = c :: more ∧ StartsScalar c ∧
    scanScalar c (more ++ rest) = some (s, rest)

/-- A text that `scanScalarNumber` reads as a scalar, whatever follows, reads back as that scalar.
-/
private theorem readsAsScalar_of_scanScalarNumber {text : List Char} {s : Scalar}
    (h : ∀ rest, EndsNumber rest → scanScalarNumber (text ++ rest) = some (s, rest)) :
    ReadsAsScalar text s := by
  intro rest hr
  -- the text is not empty: nothing is scanned as a number where it ends
  have hne : text ≠ [] := by
    rintro rfl
    have := h [] (by simp [EndsNumber])
    simp [scanScalarNumber, scanNumber, scanDigits] at this
  obtain ⟨c, more, rfl⟩ := List.exists_cons_of_ne_nil hne
  have hscan := h rest hr
  have hnumber : ∃ r, scanNumber (c :: (more ++ rest)) = some r := by
    cases hn : scanNumber (c :: (more ++ rest)) with
    | some r => exact ⟨r, rfl⟩
    | none => simp [scanScalarNumber, hn] at hscan
  obtain ⟨r, hr'⟩ := hnumber
  -- only the first character tells a number from a quote and a name
  obtain ⟨d, more', hd, hs⟩ := exists_digit_of_scanNumber hr'
  have hname := scanName_of_digit hd hs
  have hc : StartsScalar c ∧ c ≠ '"' := by
    rcases hs with hs | hs
    · obtain ⟨rfl, -⟩ := List.cons.inj hs
      exact ⟨startsScalar_of_isDigit hd, ne_of_isDigit hd rfl⟩
    · obtain ⟨rfl, -⟩ := List.cons.inj hs
      exact ⟨⟨rfl, rfl⟩, by decide⟩
  refine ⟨c, more, rfl, hc.1, ?_⟩
  rw [scanScalar, if_neg hc.2, hname]
  exact hscan

/-- `scalarText` of a scalar within the limit reads back. -/
private theorem readsAsScalar_scalarText (s : Scalar) (hs : (Value.scalar s).fits = true) :
    ReadsAsScalar (scalarText s) s := by
  -- three names, numbers as their texts are scanned, three more names, and texts in quotes
  match s with
  | .null =>
    intro rest _
    exact ⟨'n', ['u', 'l', 'l'], rfl, ⟨rfl, rfl⟩, by simp [scanScalar, scanName, names]⟩
  | .bool true =>
    intro rest _
    exact ⟨'t', ['r', 'u', 'e'], rfl, ⟨rfl, rfl⟩, by simp [scanScalar, scanName, names]⟩
  | .bool false =>
    intro rest _
    exact ⟨'f', ['a', 'l', 's', 'e'], rfl, ⟨rfl, rfl⟩, by simp [scanScalar, scanName, names]⟩
  | .number (.int n) =>
    have hn : intFits n = true := by simpa [Value.fits] using hs
    exact readsAsScalar_of_scanScalarNumber fun _ => scanScalarNumber_intText n hn
  | .number (.float .nan) =>
    intro rest _
    exact ⟨'N', ['a', 'N'], rfl, ⟨rfl, rfl⟩, by simp [scanScalar, scanName, names]⟩
  | .number (.float (.infinite false)) =>
    intro rest _
    exact ⟨'I', ['n', 'f', 'i', 'n', 'i', 't', 'y'], rfl, ⟨rfl, rfl⟩,
      by simp [scanScalar, scanName, names]⟩
  | .number (.float (.infinite true)) =>
    intro rest _
    exact ⟨'-', ['I', 'n', 'f', 'i', 'n', 'i', 't', 'y'], rfl, ⟨rfl, rfl⟩,
      by simp [scanScalar, scanName, names]⟩
  | .number (.float (.finite negative place)) =>
    exact readsAsScalar_of_scanScalarNumber fun _ => scanScalarNumber_text negative place
  | .text s =>
    intro rest _
    refine ⟨'"', s.toList.flatMap charText ++ ['"'], rfl, ⟨rfl, rfl⟩, ?_⟩
    rw [scanScalar, if_pos rfl, List.append_assoc]
    exact congrArg (Option.map _) (scanText_quotedText s rest)

/-! ## Tokens -/

/-- Whether a token is a scalar. -/
def Token.isScalar : Token → Bool
  | .scalar _ => true
  | _ => false

/-- `isScalar` holds of the tokens with a scalar. -/
private theorem exists_scalar_of_isScalar {t : Token} (h : t.isScalar = true) :
    ∃ s, t = .scalar s := by
  cases t with
  | scalar s => exact ⟨s, rfl⟩
  | _ => cases h

/-- A list of tokens whose text shows where each of them ends: integers are within the limit, and no
two scalars stand side by side. -/
def Lexable : List Token → Prop
  | [] => True
  | t :: rest =>
    (∀ s, t = .scalar s → (Value.scalar s).fits = true ∧ ∀ u ∈ rest.head?, u.isScalar = false) ∧
      Lexable rest

/-- `isScalar` fails of nothing but punctuation characters, and these end a number. -/
private theorem exists_punctuation_of_not_isScalar {t : Token} (h : t.isScalar = false) :
    ∃ c, t.text = [c] ∧ isBlank c = false ∧ punctuation? c = some t ∧ EndsNumber [c] := by
  cases t with
  | scalar s => exact absurd h (by simp [Token.isScalar])
  | _ => exact ⟨_, rfl, rfl, rfl, by simp [EndsNumber]⟩

/-- `EndsNumber` holds of what comes behind a scalar, since no scalar follows. -/
private theorem endsNumber_flatMap_text {ts : List Token} (h : ∀ t ∈ ts.head?, t.isScalar = false) :
    EndsNumber (ts.flatMap Token.text) := by
  cases ts with
  | nil => simp [EndsNumber]
  | cons t rest =>
    obtain ⟨c, htext, -, -, hends⟩ := exists_punctuation_of_not_isScalar (h t rfl)
    rw [List.flatMap_cons, htext]
    exact hends

/-- `lexUpTo` finds the tokens of a text again, as many as there are. -/
private theorem lexUpTo_flatMap_text (ts : List Token) (h : Lexable ts) {limit : Nat}
    (hlimit : ts.length ≤ limit) : lexUpTo limit (ts.flatMap Token.text) = some ts := by
  induction ts generalizing limit with
  | nil => simp [lexUpTo]
  | cons t rest ih =>
    obtain ⟨n, rfl⟩ : ∃ n, limit = n + 1 := ⟨limit - 1, by simp at hlimit; omega⟩
    have hrest : lexUpTo n (rest.flatMap Token.text) = some rest :=
      ih h.2 (by simpa using hlimit)
    rw [List.flatMap_cons]
    -- a token is one punctuation character or the text of a scalar
    cases ht : t.isScalar with
    | false =>
      obtain ⟨c, htext, hblank, hpunct, -⟩ := exists_punctuation_of_not_isScalar ht
      rw [htext, List.singleton_append, lexUpTo, hblank, hpunct]
      simp [hrest]
    | true =>
      -- what follows ends the scalar, so its text is scanned to the end and no further
      obtain ⟨s, rfl⟩ := exists_scalar_of_isScalar ht
      obtain ⟨hfits, hnext⟩ := h.1 s rfl
      obtain ⟨c, more, htext, ⟨hblank, hpunct⟩, hscan⟩ :=
        readsAsScalar_scalarText s hfits _ (endsNumber_flatMap_text hnext)
      rw [Token.text, htext, List.cons_append, lexUpTo, hblank, hpunct, hscan]
      simp [hrest]

-- the bound that `lex` puts on its recursion is enough: no token is written without a character
/-- `Lexable` tokens are not more than their characters. -/
private theorem length_le_length_flatMap_text (ts : List Token) (h : Lexable ts) :
    ts.length ≤ (ts.flatMap Token.text).length := by
  induction ts with
  | nil => simp
  | cons t rest ih =>
    have hrest := ih h.2
    -- each token is written with one character at least
    have htext : 0 < t.text.length := by
      cases ht : t.isScalar with
      | false =>
        obtain ⟨c, htext, -⟩ := exists_punctuation_of_not_isScalar ht
        simp [htext]
      | true =>
        obtain ⟨s, rfl⟩ := exists_scalar_of_isScalar ht
        obtain ⟨c, more, htext, -⟩ :=
          readsAsScalar_scalarText s (h.1 s rfl).1 [] (by simp [EndsNumber])
        simp [Token.text, htext]
    rw [List.flatMap_cons, List.length_append, List.length_cons]
    omega

/-- `lex` finds the tokens of a text again. -/
theorem lex_flatMap_text (ts : List Token) (h : Lexable ts) :
    lex (ts.flatMap Token.text) = some ts :=
  lexUpTo_flatMap_text ts h (length_le_length_flatMap_text ts h)

/-- Tokens that may follow a value: the first is no scalar. -/
def Follows (ts : List Token) : Prop := Lexable ts ∧ ∀ t ∈ ts.head?, t.isScalar = false

/-- `Follows` holds of what starts with no scalar. -/
private theorem follows_cons {t : Token} (ht : t.isScalar = false) {ts : List Token}
    (h : Lexable ts) :
    Follows (t :: ts) := by
  refine ⟨⟨?_, h⟩, ?_⟩
  · rintro s rfl
    exact absurd ht (by simp [Token.isScalar])
  · rintro u ⟨⟩
    exact ht

/-- A scalar within the limit may stand in front of what `Follows` a value. -/
private theorem lexable_scalar_cons {s : Scalar} (hs : (Value.scalar s).fits = true)
    {ts : List Token} (h : Follows ts) : Lexable (.scalar s :: ts) := by
  refine ⟨?_, h.1⟩
  rintro s' ⟨⟩
  exact ⟨hs, h.2⟩

/-- `itemTokens` puts a comma behind every item but the last. -/
private theorem itemTokens_cons_cons (v w : Value) (rest : List Value) :
    itemTokens (v :: w :: rest) = tokens v ++ .comma :: itemTokens (w :: rest) := by
  simp [itemTokens]

/-- `entryTokens` puts a colon behind every key and a comma behind every entry but the last. -/
private theorem entryTokens_cons_cons (k : Key) (v : Value) (e : Key × Value)
    (rest : List (Key × Value)) :
    entryTokens ((k, v) :: e :: rest) = .scalar (.text (keyName k)) :: .colon ::
      (tokens v ++ .comma :: entryTokens (e :: rest)) := by
  simp [entryTokens]

/-- `entriesFit` asks that every value fit. -/
private theorem entriesFit_cons {k : Key} {v : Value} {rest : List (Key × Value)}
    (h : Value.entriesFit ((k, v) :: rest) = true) :
    v.fits = true ∧ Value.entriesFit rest = true := by
  cases k <;> simp_all [Value.entriesFit]

-- by recursion over values; what follows the tokens is carried along, since it ends the last one
mutual

/-- `tokens` of a value within the limit show where each of them ends. -/
private theorem lexable_tokens (v : Value) (hv : v.fits = true) {after : List Token}
    (h : Follows after) :
    Lexable (tokens v ++ after) := by
  cases v with
  | scalar s => exact lexable_scalar_cons hv h
  | list items =>
    simp only [tokens, List.cons_append, List.append_assoc, List.nil_append]
    exact (follows_cons rfl (lexable_itemTokens items (by simpa [Value.fits] using hv)
      (follows_cons rfl h.1))).1
  | object entries =>
    simp only [tokens, List.cons_append, List.append_assoc, List.nil_append]
    exact (follows_cons rfl (lexable_entryTokens entries (by simpa [Value.fits] using hv)
      (follows_cons rfl h.1))).1

/-- `itemTokens` of items within the limit show where each of them ends. -/
private theorem lexable_itemTokens (items : List Value) (hv : Value.itemsFit items = true)
    {after : List Token} (h : Follows after) : Lexable (itemTokens items ++ after) := by
  match items with
  | [] => exact h.1
  | [v] => exact lexable_tokens v (by simpa [Value.itemsFit] using hv) h
  | v :: w :: rest =>
    rw [Value.itemsFit, Bool.and_eq_true] at hv
    rw [itemTokens_cons_cons, List.append_assoc, List.cons_append]
    exact lexable_tokens v hv.1 (follows_cons rfl (lexable_itemTokens (w :: rest) hv.2 h))

/-- `entryTokens` of entries within the limit show where each of them ends. -/
private theorem lexable_entryTokens (entries : List (Key × Value))
    (hv : Value.entriesFit entries = true) {after : List Token} (h : Follows after) :
    Lexable (entryTokens entries ++ after) := by
  match entries with
  | [] => exact h.1
  | [(k, v)] =>
    have hfits := (entriesFit_cons hv).1
    exact lexable_scalar_cons rfl (follows_cons rfl (lexable_tokens v hfits h))
  | (k, v) :: e :: rest =>
    obtain ⟨hfits, hrest⟩ := entriesFit_cons hv
    rw [entryTokens_cons_cons, List.cons_append, List.cons_append, List.append_assoc,
      List.cons_append]
    exact lexable_scalar_cons rfl (follows_cons rfl (lexable_tokens v hfits
      (follows_cons rfl (lexable_entryTokens (e :: rest) hrest h))))

end

/-! ## Values -/

mutual

/-- A value as it comes back: keys are texts, and of two entries with one key the later value stands
in the place of the earlier. -/
def asRead : Value → Value
  | .scalar s => .scalar s
  | .list items => .list (itemsAsRead items)
  | .object entries => .object (entriesAsRead [] entries)

/-- The items of a list as they come back. -/
def itemsAsRead : List Value → List Value
  | [] => []
  | v :: rest => asRead v :: itemsAsRead rest

/-- The entries of an object as they come back behind those already read. -/
def entriesAsRead (done : List (Key × Value)) : List (Key × Value) → List (Key × Value)
  | [] => done
  | (k, v) :: rest => entriesAsRead (Table.upsert (.text (keyName k)) (asRead v) done) rest

end

/-- `run` reads the first item of a list as it reads one behind a comma. -/
private theorem run_listStart_itemTokens (v : Value) (items : List Value) (stack : List Frame)
    (rest : List Token) :
    run .listStart stack (itemTokens (v :: items) ++ rest) =
      run .value (.list [] :: stack) (itemTokens (v :: items) ++ rest) := by
  cases v <;> cases items <;> rfl

/-- `run` reads the first key of an object as it reads one behind a comma. -/
private theorem run_objectStart_entryTokens (k : Key) (v : Value) (entries : List (Key × Value))
    (stack : List Frame) (rest : List Token) :
    run .objectStart stack (entryTokens ((k, v) :: entries) ++ rest) =
      run (.key []) stack (entryTokens ((k, v) :: entries) ++ rest) := by
  cases entries <;> rfl

-- by recursion over values, for any stack: what is open below a value is not looked at
mutual

/-- `run` is led by the tokens of a value to that value. -/
private theorem run_tokens (v : Value) (stack : List Frame) (rest : List Token) :
    run .value stack (tokens v ++ rest) = run (.done (asRead v)) stack rest := by
  -- empty lists and objects are closed right away, the others are left to their items
  match v with
  | .scalar s => rfl
  | .list [] => rfl
  | .list (v :: items) =>
    calc run .value stack (tokens (.list (v :: items)) ++ rest)
        = run .listStart stack (itemTokens (v :: items) ++ .closeList :: rest) := by
          simp only [tokens, List.cons_append, List.append_assoc, List.nil_append]
          rfl
      _ = run .value (.list [] :: stack) (itemTokens (v :: items) ++ .closeList :: rest) :=
          run_listStart_itemTokens v items stack _
      _ = run (.done (asRead (.list (v :: items)))) stack rest :=
          run_itemTokens (v :: items) (by simp) [] stack rest
  | .object [] => rfl
  | .object ((k, v) :: entries) =>
    calc run .value stack (tokens (.object ((k, v) :: entries)) ++ rest)
        = run .objectStart stack (entryTokens ((k, v) :: entries) ++ .closeObject :: rest) := by
          simp only [tokens, List.cons_append, List.append_assoc, List.nil_append]
          rfl
      _ = run (.key []) stack (entryTokens ((k, v) :: entries) ++ .closeObject :: rest) :=
          run_objectStart_entryTokens k v entries stack _
      _ = run (.done (asRead (.object ((k, v) :: entries)))) stack rest :=
          run_entryTokens ((k, v) :: entries) (by simp) [] stack rest

/-- `run` is led by the tokens of the items of a list to the list of them behind those already read,
of which the last one comes first. -/
private theorem run_itemTokens (items : List Value) (hne : items ≠ []) (done : List Value)
    (stack : List Frame) (rest : List Token) :
    run .value (.list done :: stack) (itemTokens items ++ .closeList :: rest) =
      run (.done (.list (done.reverse ++ itemsAsRead items))) stack rest := by
  match items with
  | [] => exact absurd rfl hne
  -- the last item has no comma behind it, and the list is closed
  | [v] =>
    rw [itemTokens, run_tokens, itemsAsRead, itemsAsRead, ← List.reverse_cons]
    rfl
  | v :: w :: items =>
    rw [itemTokens_cons_cons, List.append_assoc, List.cons_append, run_tokens, itemsAsRead,
      List.append_cons done.reverse, ← List.reverse_cons]
    exact run_itemTokens (w :: items) (by simp) (asRead v :: done) stack rest

/-- `run` is led by the tokens of the entries of an object to the object of them behind those
already read. -/
private theorem run_entryTokens (entries : List (Key × Value)) (hne : entries ≠ [])
    (done : List (Key × Value)) (stack : List Frame) (rest : List Token) :
    run (.key done) stack (entryTokens entries ++ .closeObject :: rest) =
      run (.done (.object (entriesAsRead done entries))) stack rest := by
  -- a key and a colon lead to the value
  have hkey : ∀ k ts, run (.key done) stack (.scalar (.text (keyName k)) :: .colon :: ts) =
      run .value (.object done (.text (keyName k)) :: stack) ts := fun _ _ => rfl
  match entries with
  | [] => exact absurd rfl hne
  | [(k, v)] =>
    rw [entryTokens, List.cons_append, List.cons_append, hkey, run_tokens]
    rfl
  | (k, v) :: e :: entries =>
    rw [entryTokens_cons_cons, List.cons_append, List.cons_append, hkey, List.append_assoc,
      List.cons_append, run_tokens, entriesAsRead]
    exact run_entryTokens (e :: entries) (by simp) _ stack rest

end

/-- `parse` makes the value of its tokens. -/
theorem parse_tokens (v : Value) : parse (tokens v) = some (asRead v) := by
  have h := run_tokens v [] []
  rw [List.append_nil] at h
  exact h

/-- `read?` gives back what `write?` was given, as it is read. -/
theorem read?_of_write? {v : Value} {s : List Char} (h : write? v = some s) :
    read? s = some (asRead v) := by
  unfold write? at h
  split at h
  · rename_i hfits
    cases h
    have hlex : Lexable (tokens v ++ []) := lexable_tokens v hfits ⟨trivial, by simp⟩
    rw [List.append_nil] at hlex
    rw [read?, lex_flatMap_text _ hlex, Option.bind_some, parse_tokens]
  · cases h

/-! ## Values that come back as they are -/

/-- `entriesAsRead` gives back entries with distinct texts for keys behind those already read, if
their values come back as they are. -/
private theorem entriesAsRead_append {entries done : List (Key × Value)}
    (hnodup : ((done ++ entries).map Prod.fst).Nodup)
    (htext : ∀ e ∈ entries, e.1.isText = true) (hv : ∀ e ∈ entries, asRead e.2 = e.2) :
    entriesAsRead done entries = done ++ entries := by
  -- a key that is not among those already read goes to the end
  induction entries generalizing done with
  | nil => simp [entriesAsRead]
  | cons e rest ih =>
    obtain ⟨k, v⟩ := e
    have hk : Key.text (keyName k) = k := by
      have := htext (k, v) List.mem_cons_self
      cases k with
      | text s => rfl
      | _ => exact absurd this (by simp [Key.isText])
    have hnew : k ∉ done.map Prod.fst := by
      intro hm
      rw [List.map_append, List.nodup_append] at hnodup
      exact hnodup.2.2 k hm k (by simp) rfl
    have hv' : asRead v = v := hv (k, v) List.mem_cons_self
    rw [entriesAsRead, hk, hv', Table.upsert_of_not_mem hnew, ih (by simpa using hnodup)
      (fun e he => htext e (List.mem_cons_of_mem _ he))
      (fun e he => hv e (List.mem_cons_of_mem _ he)), List.append_assoc, List.singleton_append]

/-- `asRead` gives back an object with distinct texts for keys, if its values come back as they are.
-/
theorem asRead_object {entries : List (Key × Value)} (hnodup : (entries.map Prod.fst).Nodup)
    (htext : ∀ e ∈ entries, e.1.isText = true) (hv : ∀ e ∈ entries, asRead e.2 = e.2) :
    asRead (.object entries) = .object entries := by
  have h : entriesAsRead [] entries = [] ++ entries := entriesAsRead_append hnodup htext hv
  rw [asRead, h, List.nil_append]

/-- `asRead` gives back scalars and lists of scalars as they are. -/
theorem asRead_of_isFlat {v : Value} (h : v.isFlat = true) : asRead v = v := by
  cases v with
  | scalar s => rfl
  | list items =>
    rw [asRead]
    congr 1
    simp only [Value.isFlat, List.all_eq_true] at h
    induction items with
    | nil => rfl
    | cons item rest ih =>
      -- an item of a flat list is a scalar, which is read as it is
      have hitem : asRead item = item := by
        have := h item List.mem_cons_self
        cases item with
        | scalar s => rfl
        | _ => exact absurd this (by simp [Value.isScalar])
      rw [itemsAsRead, hitem, ih fun item hm => h item (List.mem_cons_of_mem _ hm)]
  | object entries => exact absurd h (by simp [Value.isFlat])

end Json

end DocStore
