import DocStore.Hex
import DocStore.Pattern.Syntax
import DocStore.Pattern.Token
import DocStore.Unicode.Identifier
import DocStore.Unicode.Names
import DocStore.Unicode.Word

/-!
# Reading patterns

`Pattern.read` turns the text of a pattern into its tree, or says why it is refused. The reader
keeps the tokens still to come, the switches set for the whole pattern and the groups opened so
far. Its recursion is bounded by the number of tokens.

Of several faults the first met counts, and a fault of the finished tree (a look-behind without a
fixed width) counts only after all faults of reading.

A character may be given by its name in braces behind a backslash and an `N`. The names are those of
Unicode version 14 (`Unicode.codeNamed?`); a name that came later is refused. Patterns with lone
surrogates are no texts here, and patterns nested so deep that to read them would exhaust the stack
lie outside.
-/

namespace DocStore

/-- The reasons for which a pattern is refused. -/
inductive PatternError where
  | malformed
  | repeatTooLarge
  /-- A repetition count has too many digits to be read. -/
  | countTooLong
  /-- The pattern asks both for ASCII and for all letters. -/
  | clashingFlags
  deriving DecidableEq

namespace Pattern

/-- The state of the reader. -/
structure Reader where
  tokens : List Token
  /-- The switches set for the whole pattern. -/
  flags : Flags
  /-- The groups opened so far by number, with the width of those that are closed. -/
  groups : List (Option Width)
  names : List (String × Nat)
  /-- Inside a look-behind: the number of groups opened before it. -/
  lookbehindFrom : Option Nat
  /-- The numbers of the groups that conditions ask for. -/
  conditions : List Nat

/-- A step of the reader. -/
abbrev Read := StateT Reader (Except PatternError)

namespace Reader

/-- Refuses the pattern. -/
def refuse {α : Type} : Read α := throw .malformed

/-- Goes on at the given tokens. A stray backslash is noticed as soon as it comes next. -/
def moveTo (rest : List Token) : Read Unit :=
  if rest.head? == some .stray then refuse else modify fun s => { s with tokens := rest }

/-- The next token, which stays. -/
def peek : Read (Option Token) := do return (← get).tokens.head?

/-- Takes the next token. -/
def next? : Read (Option Token) := do
  match (← get).tokens with
  | [] => return none
  | t :: rest => moveTo rest; return some t

/-- Takes the next token, which must be there. -/
def next : Read Token := do
  match ← next? with
  | some t => return t
  | none => refuse

/-- Takes the next token if it is the given character. -/
def accept (c : Char) : Read Bool := do
  match (← get).tokens with
  | t :: rest => if t == .char c then moveTo rest; return true else return false
  | [] => return false

/-- Takes the given character, which must come next. -/
def expect (c : Char) : Read Unit := do
  if !(← accept c) then refuse

/-- Takes up to `limit` characters that pass the test. -/
def takeUpTo (limit : Nat) (p : Char → Bool) : Read (List Char) := do
  let tokens := (← get).tokens
  let taken := ((tokens.take limit).takeWhile fun t => (t.charIf p).isSome).filterMap (·.charIf p)
  if taken.isEmpty then return [] else moveTo (tokens.drop taken.length); return taken

/-- Takes all characters that pass the test. -/
def takeAll (p : Char → Bool) : Read (List Char) := do
  takeUpTo (← get).tokens.length p

/-- Takes a text that is not empty and the character that ends it. -/
def takeUntil (stop : Char) : Read (List Char) := do
  let tokens := (← get).tokens
  let taken := tokens.takeWhile fun t => t != .char stop && t != .stray
  match tokens.drop taken.length with
  | .char _ :: rest =>
    if taken.isEmpty then refuse else moveTo rest; return taken.flatMap Token.spelling
  | _ => refuse

/-- Skips everything through the given character; `atEnd` says whether the end of the pattern will
do as well. -/
def skipThrough (stop : Char) (atEnd : Bool) : Read Unit := do
  let rest := (← get).tokens.dropWhile fun t => t != .char stop && t != .stray
  match rest with
  | .char _ :: rest => moveTo rest
  | [] => if atEnd then moveTo [] else refuse
  | _ => refuse

/-! ## Groups -/

/-- Whether a group is opened and closed. -/
def isClosed (s : Reader) (group : Nat) : Bool :=
  match s.groups[group - 1]? with
  | some (some _) => true
  | _ => false

/-- Inside a look-behind, only groups closed before it may be referred to. -/
def checkLookbehind (group : Nat) : Read Unit := do
  let s ← get
  match s.lookbehindFrom with
  | none => return ()
  | some before => if !s.isClosed group || before < group then refuse

/-- A reference to a closed group. -/
def backreference (group : Nat) : Read Leaf := do
  match (← get).groups[group - 1]? with
  | some (some width) => checkLookbehind group; return .backreference group width
  | _ => refuse

/-- Opens a group, with a name if it has one. -/
def openGroup (name : Option String) : Read Nat := do
  let s ← get
  let number := s.groups.length + 1
  match name with
  | none => set { s with groups := s.groups ++ [none] }
  | some n =>
    if (s.names.lookup n).isSome then refuse
    set { s with groups := s.groups ++ [none], names := (n, number) :: s.names }
  return number

/-- Closes a group. -/
def closeGroup (number : Nat) (width : Width) : Read Unit :=
  modify fun s => { s with groups := s.groups.set (number - 1) (some width) }

/-! ## Escapes -/

/-- Whether a character is an octal digit. -/
def isOctal (c : Char) : Bool := '0' ≤ c && c ≤ '7'

/-- The code point written by exactly `count` hexadecimal digits. -/
def hexCode (count : Nat) : Read Nat := do
  let digits ← takeUpTo count fun c => (Hex.digit? c).isSome
  if digits.length < count then refuse
  match Hex.value? digits with
  | some n => if n ≤ 0x10FFFF then return n else refuse
  | none => refuse

/-- The code points of the escapes for control characters, and of the backslash. -/
def controlEscape? : Char → Option Nat
  | 'a' => some 7
  | 'b' => some 8
  | 'f' => some 12
  | 'n' => some 10
  | 'r' => some 13
  | 't' => some 9
  | 'v' => some 11
  | '\\' => some 92
  | _ => none

/-- The escapes for classes of characters. -/
def categoryEscape? : Char → Option SetItem
  | 'd' => some (.category .digit false)
  | 'D' => some (.category .digit true)
  | 's' => some (.category .space false)
  | 'S' => some (.category .space true)
  | 'w' => some (.category .word false)
  | 'W' => some (.category .word true)
  | _ => none

/-- The escapes for places. -/
def anchorEscape? : Char → Option Anchor
  | 'A' => some .textStart
  | 'b' => some .wordBoundary
  | 'B' => some .notWordBoundary
  | 'Z' => some .textEnd
  | _ => none

/-- The number written by octal digits. -/
def octalValue (digits : List Char) : Nat := Nat.ofDigitChars 8 digits 0

/-- The code point of the character whose name stands in braces. -/
def namedCode : Read Nat := do
  expect '\x7b'
  match Unicode.codeNamed? (← takeUntil '\x7d') with
  | some n => return n
  | none => refuse

/-- The code point of an escape that means the same inside and outside a set. A letter without a
meaning is refused. -/
def commonEscape (c : Char) : Read Nat :=
  match c with
  | 'x' => hexCode 2
  | 'u' => hexCode 4
  | 'U' => hexCode 8
  | 'N' => namedCode
  | c => if c.isAlpha then refuse else return c.toNat

/-- An escape inside a set. -/
def setEscape (c : Char) : Read SetItem := do
  if let some n := controlEscape? c then return .code n
  if let some item := categoryEscape? c then return item
  if isOctal c then
    let value := octalValue (c :: (← takeUpTo 2 isOctal))
    if value ≤ 0o377 then return .code value else refuse
  if c.isDigit then refuse
  return .code (← commonEscape c)

/-- An escape with a digit from 1 to 9: three octal digits are a code point, anything else is a
reference to a group by a number of one or two digits. -/
def digitEscape (c : Char) : Read Leaf := do
  match ← takeUpTo 1 Char.isDigit with
  | [d] =>
    if isOctal c && isOctal d then
      match ← takeUpTo 1 isOctal with
      | [e] =>
        -- three octal digits: a code point, which must fit in a byte
        let value := octalValue [c, d, e]
        if value ≤ 0o377 then return .literal value else refuse
      | _ => backreference (Nat.ofDigitChars 10 [c, d] 0)
    else backreference (Nat.ofDigitChars 10 [c, d] 0)
  | _ => backreference (Nat.ofDigitChars 10 [c] 0)

/-- An escape outside a set. -/
def escape (c : Char) : Read Leaf := do
  if let some a := anchorEscape? c then return .anchor a
  if let some item := categoryEscape? c then return .set false [item]
  if let some n := controlEscape? c then return .literal n
  if c == '0' then return .literal (octalValue (← takeUpTo 2 isOctal))
  if c.isDigit then digitEscape c
  else return .literal (← commonEscape c)

/-! ## Sets -/

/-- The member of a set that begins with a token. -/
def setMember : Token → Read SetItem
  | .escape c => setEscape c
  | .char c => return .code c.toNat
  | .stray => refuse

/-- The members of a set up to its closing bracket, the last one first. A bracket in the first
place is a member. -/
def setMembers : Nat → List SetItem → Read (List SetItem)
  | 0, _ => refuse
  | fuel + 1, acc => do
    let this ← next
    if this == .char ']' && !acc.isEmpty then return acc
    let item ← setMember this
    if ← accept '-' then
      let that ← next
      -- a hyphen in the last place stands for itself
      if that == .char ']' then return .code '-'.toNat :: item :: acc
      match item, ← setMember that with
      -- only code points can bound a range
      | .code low, .code high =>
        if high < low then refuse else setMembers fuel (.range low high :: acc)
      | _, _ => refuse
    else setMembers fuel (item :: acc)

/-- A set after its opening bracket. -/
def readSet : Read Leaf := do
  let negated ← accept '^'
  let members ← setMembers ((← get).tokens.length + 1) []
  match members.reverse.eraseDups with
  | [.code c] => return if negated then .notLiteral c else .literal c
  | items => return .set negated items

/-! ## Repetition -/

/-- The counts of repetition are below this number. -/
def repeatLimit : Nat := 4294967295

/-- The greatest number of digits in which an integer is read. -/
def digitLimit : Nat := 4300

/-- A count written in digits; none if there are none. -/
def repeatCount (digits : List Char) : Read (Option Nat) := do
  if digits.isEmpty then return none
  if digitLimit < digits.length then throw .countTooLong
  let n := Nat.ofDigitChars 10 digits 0
  if n < repeatLimit then return some n else throw .repeatTooLarge

/-- The bounds of a repetition after its opening brace; none if no closing brace follows in its
place, and then the brace stands for itself. -/
def repeatBounds? : Read (Option (Nat × Option Nat)) := do
  let here := (← get).tokens
  if here.head? == some (.char '\x7d') then return none
  let low ← takeAll Char.isDigit
  let high ← if ← accept ',' then takeAll Char.isDigit else pure low
  if ← accept '\x7d' then
    -- the bounds are read in order, so that the first one out of range counts
    let min := (← repeatCount low).getD 0
    match ← repeatCount high with
    | none => return some (min, none)
    | some max => if max < min then refuse else return some (min, some max)
  else
    -- back to the place behind the opening brace
    modify fun s => { s with tokens := here }
    return none

/-- The bounds of a repetition sign; none for a brace that stands for itself. -/
def quantifier? (c : Char) : Read (Option (Nat × Option Nat)) :=
  match c with
  | '?' => return some (0, some 1)
  | '*' => return some (0, none)
  | '+' => return some (1, none)
  | _ => repeatBounds?

/-- How a repetition chooses, by the sign behind it. -/
def readGreed : Read Greed := do
  if ← accept '?' then return .reluctant
  if ← accept '+' then return .possessive
  return .greedy

/-- The sequence that a repetition sign behind a node repeats: a plain group gives its body. A test
of a place cannot be repeated, and a repetition not once more. -/
def repeatable : List Node → Read (List Node)
  | .leaf (.anchor _) :: _ => refuse
  | .repeated .. :: _ => refuse
  | .group none [] [] body :: _ => return body
  | node :: _ => return [node]
  | [] => refuse

/-! ## Switches -/

/-- The switch with a letter. -/
def flag? : Char → Option Flag
  | 'a' => some .ascii
  | 'i' => some .ignoreCase
  | 'm' => some .multiLine
  | 's' => some .dotAll
  | 't' => some .template
  | 'u' => some .unicode
  | 'x' => some .verbose
  | _ => none

/-- Whether a switch chooses between ASCII and all letters. -/
def isTypeFlag (f : Flag) : Bool := f == .ascii || f == .unicode

/-- The switches turned off, up to the colon. -/
def readOff : Nat → Flags → Read Flags
  | 0, _ => refuse
  | fuel + 1, off => do
    match ← next with
    | .char ':' => if off.isEmpty then refuse else return off
    | .char c =>
      match flag? c with
      | some f => if isTypeFlag f then refuse else readOff fuel (f :: off)
      | none => refuse
    | _ => refuse

/-- The switches turned on, up to the sign behind them, which is returned. -/
def readOn : Nat → Flags → Read (Flags × Char)
  | 0, _ => refuse
  | fuel + 1, on => do
    match ← next with
    | .char c =>
      if c == ')' || c == '-' || c == ':' then return (on, c)
      match flag? c with
      | some f =>
        if isTypeFlag f && on.any (fun g => isTypeFlag g && g != f) then refuse
        else readOn fuel (f :: on)
      | none => refuse
    | _ => refuse

/-- The switches of a group from their first letter on, or none if they are for the whole pattern.
-/
def readFlags (first : Char) : Read (Option (Flags × Flags)) := do
  let fuel := (← get).tokens.length + 1
  let (on, sign) ← match flag? first with
    | some f => readOn fuel [f]
    | none => if first == '-' then pure ([], '-') else refuse
  if sign == ')' then
    -- no body: the switches hold for the whole pattern
    modify fun s => { s with flags := s.flags ++ on }
    return none
  if on.contains .template then refuse
  let off ← if sign == '-' then readOff fuel [] else pure []
  if off.contains .template || on.any off.contains then refuse
  return some (on, off)

/-! ## Conditions -/

/-- Whether a space may surround a number. -/
def isNumberSpace (c : Char) : Bool :=
  c == ' ' || ('\t' ≤ c && c ≤ '\r') || (128 ≤ c.toNat && Unicode.isSpace c.toNat)

/-- The number written by decimal digits of any script, with single low lines between them. -/
def decimalDigits? : Nat → List Char → Option Nat
  | acc, [] => some acc
  | acc, '_' :: c :: rest =>
    match Unicode.digitValue? c.toNat with
    | some d => decimalDigits? (10 * acc + d) rest
    | none => none
  | acc, c :: rest =>
    match Unicode.digitValue? c.toNat with
    | some d => decimalDigits? (10 * acc + d) rest
    | none => none

/-- The positive number written by a text, spaces around it and a plus sign not counting. -/
def groupNumber? (s : List Char) : Option Nat :=
  let trimmed := ((s.dropWhile isNumberSpace).reverse.dropWhile isNumberSpace).reverse
  let digits := match trimmed with
    | '+' :: rest => rest
    | other => other
  if digits.isEmpty || digits.head? == some '_' || digitLimit < (digits.filter (· != '_')).length
  then none
  else match decimalDigits? 0 digits with
    | some n => if 0 < n && n < 2147483647 then some n else none
    | none => none

/-- The group that a condition asks for, by name or by number. A number may refer to a group that
opens later, so it is looked at again at the end. -/
def conditionGroup (s : List Char) : Read Nat := do
  let group ←
    if Unicode.isIdentifier s then
      match (← get).names.lookup (String.ofList s) with
      | some n => pure n
      | none => refuse
    else
      match groupNumber? s with
      | some n => modify fun r => { r with conditions := n :: r.conditions }; pure n
      | none => refuse
  checkLookbehind group
  return group

/-- A name of a group up to the character that ends it. -/
def groupName (stop : Char) : Read String := do
  let name ← takeUntil stop
  if Unicode.isIdentifier name then return String.ofList name else refuse

/-- The group with a name that ends at the closing parenthesis, as a reference. -/
def namedBackreference : Read Leaf := do
  let name ← groupName ')'
  match (← get).names.lookup name with
  | some group => backreference group
  | none => refuse

/-! ## Sequences -/

/-- Whether a token is a blank that a verbose pattern skips. -/
def isBlank (t : Token) : Bool :=
  match t with
  | .char c => c == ' ' || ('\t' ≤ c && c ≤ '\r')
  | _ => false

/-- A finished sequence: plain groups give way to their bodies. -/
def flatten (nodes : List Node) : List Node := nodes.flatMap fun n =>
  match n with
  | .group none [] [] body => body
  | other => [other]

/-- What an opening parenthesis begins. -/
inductive Opening where
  | capture (name : Option String)
  /-- A group without a number. -/
  | plain (on off : Flags)
  /-- A group that is left for good. -/
  | atomic
  | ahead (negated : Bool)
  | behind (negated : Bool)
  /-- A choice by whether a group has taken part. -/
  | condition (group : Nat)
  /-- Nothing but this node. -/
  | node (l : Leaf)
  | comment
  /-- Switches for the whole pattern. -/
  | globalFlags

/-- Reads what stands behind an opening parenthesis, up to the body of the group. -/
def readOpening : Read Opening := do
  if !(← accept '?') then return .capture none
  match ← next with
  | .char 'P' =>
    if ← accept '<' then return .capture (some (← groupName '>'))
    if ← accept '=' then return .node (← namedBackreference)
    refuse
  | .char ':' => return .plain [] []
  | .char '#' => skipThrough ')' false; return .comment
  | .char '=' => return .ahead false
  | .char '!' => return .ahead true
  | .char '<' =>
    match ← next with
    | .char '=' => return .behind false
    | .char '!' => return .behind true
    | _ => refuse
  | .char '(' => return .condition (← conditionGroup (← takeUntil ')'))
  | .char '>' => return .atomic
  | .char c =>
    match ← readFlags c with
    | some (on, off) => return .plain on off
    | none => return .globalFlags
  | _ => refuse

/-- Whether a group's body is verbose. -/
def verboseIn (verbose : Bool) (on off : Flags) : Bool :=
  (verbose || on.contains .verbose) && !off.contains .verbose

/-- Runs a reader inside a look-behind. -/
def insideLookbehind {α : Type} (read : Read α) : Read α := do
  let outer := (← get).lookbehindFrom
  modify fun s => { s with lookbehindFrom := some (outer.getD s.groups.length) }
  let result ← read
  modify fun s => { s with lookbehindFrom := outer }
  return result

mutual

/-- Reads branches up to the end of the group, or of the pattern if `top`, and joins them. -/
def readChoice : Nat → Bool → Bool → Read (List Node)
  | 0, _, _ => refuse
  | fuel + 1, verbose, top => do
    match ← readBranches fuel verbose top [] with
    | [branch] => return branch
    | branches => return joinBranches ((branches.headD []).length + 1) branches

/-- Reads branches, the ones read before being given last first. -/
def readBranches : Nat → Bool → Bool → List (List Node) → Read (List (List Node))
  | 0, _, _, _ => refuse
  | fuel + 1, verbose, top, acc => do
    let branch ← readSequence fuel verbose (top && acc.isEmpty) []
    if ← accept '|' then
      let flags := (← get).flags
      -- switches set in the first branch hold in the ones after it
      let verbose := if top then flags.contains .verbose else verbose
      readBranches fuel verbose top (branch :: acc)
    else return (branch :: acc).reverse

/-- Reads a sequence up to a bar or the end of the group. `first` says that the sequence begins the
pattern; the nodes read before are given last first. -/
def readSequence : Nat → Bool → Bool → List Node → Read (List Node)
  | 0, _, _, _ => refuse
  | fuel + 1, verbose, first, acc => do
    match ← peek with
    | none => return flatten acc.reverse
    | some (.char '|') => return flatten acc.reverse
    | some (.char ')') => return flatten acc.reverse
    | some this =>
      let _ ← next
      -- blanks and comments are no nodes, so the pattern may still begin after them
      if verbose && isBlank this then return ← readSequence fuel verbose first acc
      if verbose && this == .char '#' then
        skipThrough '\n' true
        return ← readSequence fuel verbose first acc
      match this with
      | .stray => refuse
      | .escape c => readSequence fuel verbose first (.leaf (← escape c) :: acc)
      | .char '.' => readSequence fuel verbose first (.leaf .any :: acc)
      | .char '^' => readSequence fuel verbose first (.leaf (.anchor .caret) :: acc)
      | .char '$' => readSequence fuel verbose first (.leaf (.anchor .dollar) :: acc)
      | .char '[' => readSequence fuel verbose first (.leaf (← readSet) :: acc)
      | .char '(' => readGroup fuel verbose first acc
      | .char c =>
        if c == '*' || c == '+' || c == '?' || c == '\x7b' then
          match ← quantifier? c with
          | none => readSequence fuel verbose first (.leaf (.literal c.toNat) :: acc)
          | some (min, max) =>
            let body ← repeatable acc
            let greed ← readGreed
            readSequence fuel verbose first (.repeated min max greed body :: acc.tail)
        else readSequence fuel verbose first (.leaf (.literal c.toNat) :: acc)

/-- Reads a group behind its opening parenthesis, then the rest of the sequence it stands in. -/
def readGroup : Nat → Bool → Bool → List Node → Read (List Node)
  | 0, _, _, _ => refuse
  | fuel + 1, verbose, first, acc => do
    match ← readOpening with
    | .comment => readSequence fuel verbose first acc
    | .node l => readSequence fuel verbose first (.leaf l :: acc)
    | .globalFlags =>
      if !first || !acc.isEmpty then refuse
      readSequence fuel ((← get).flags.contains .verbose) first acc
    | .capture name =>
      let number ← openGroup name
      let body ← readChoice fuel verbose false
      expect ')'
      closeGroup number (sequenceWidth body)
      readSequence fuel verbose first (.group (some number) [] [] body :: acc)
    | .plain on off =>
      let body ← readChoice fuel (verboseIn verbose on off) false
      expect ')'
      readSequence fuel verbose first (.group none on off body :: acc)
    | .atomic =>
      let body ← readChoice fuel verbose false
      expect ')'
      readSequence fuel verbose first (.atomic body :: acc)
    | .ahead negated =>
      let body ← readChoice fuel verbose false
      expect ')'
      readSequence fuel verbose first (.lookahead negated body :: acc)
    | .behind negated =>
      let body ← insideLookbehind (readChoice fuel verbose false)
      expect ')'
      readSequence fuel verbose first (.lookbehind negated body :: acc)
    | .condition group =>
      let yes ← readSequence fuel verbose false []
      let no ← if ← accept '|' then readSequence fuel verbose false [] else pure []
      expect ')'
      readSequence fuel verbose first (.conditional group yes no :: acc)

end

/-- The reader before the first token. -/
def start (s : List Char) : Reader := ⟨tokenize s, [], [], [], none, []⟩

/-- The recursion depth that a number of tokens can need. -/
def depthFor (tokens : Nat) : Nat := 4 * tokens + 8

end Reader

end Pattern

/-- A pattern that has been read. -/
structure Pattern where
  source : String
  /-- The switches set for the whole of it. -/
  flags : Pattern.Flags
  body : List Pattern.Node

namespace Pattern

open Reader in
/-- Reads the whole pattern. -/
def readWhole : Read (List Node) := do
  moveTo (← get).tokens
  let body ← readChoice (depthFor (← get).tokens.length) false true
  let s ← get
  -- what is left to be found wrong, in this order
  if s.flags.contains .ascii && s.flags.contains .unicode then throw .clashingFlags
  if !s.tokens.isEmpty then refuse
  if s.conditions.any fun n => s.groups.length < n then refuse
  if !sequenceIsSound (s.flags.contains .template) body then refuse
  return body

/-- The pattern with a text, or why there is none. -/
def read (source : String) : Except PatternError Pattern :=
  match readWhole.run (Reader.start source.toList) with
  | .ok (body, s) => .ok ⟨source, s.flags, body⟩
  | .error e => .error e

end Pattern

end DocStore
