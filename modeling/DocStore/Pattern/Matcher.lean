import DocStore.Pattern.CharTest
import DocStore.Pattern.Reader

/-!
# Matching patterns

A `Matcher` takes a place in the text and a continuation for what comes after, and tries its own
possibilities in order until the continuation accepts one. A place carries the marks that groups
have left, so that giving up a possibility also gives up its marks.

`Node.matcher` gives each kind of node its matcher; `Pattern.search` tries every place of the text.
-/

namespace DocStore.Pattern

/-- A place in the text, with the marks of groups. -/
structure Place where
  /-- The number of characters before the place. -/
  index : Nat
  /-- Where groups were last entered, the latest mark first. -/
  opened : List (Nat × Nat)
  /-- Where groups were last left, the latest mark first. -/
  closed : List (Nat × Nat)

namespace Place

/-- The part of the text that a group has taken, from where to where. -/
def group? (p : Place) (group : Nat) : Option (Nat × Nat) :=
  match p.opened.lookup group, p.closed.lookup group with
  -- a group that has been entered anew, but not left, ends before it begins
  | some first, some last => if first ≤ last then some (first, last) else none
  | _, _ => none

end Place

/-- Tries the ways to go on from a place; the first one that the continuation accepts wins. -/
abbrev Matcher := Place → (Place → Option Place) → Option Place

namespace Matcher

/-- Matches nothing, everywhere. -/
def here : Matcher := fun p k => k p

/-- Matches nowhere. -/
def never : Matcher := fun _ _ => none

/-- Matches nothing where the test holds. -/
def guard (test : Place → Bool) : Matcher := fun p k => if test p then k p else none

/-- One after the other. -/
def seq (a b : Matcher) : Matcher := fun p k => a p fun q => b q k

/-- The first, else the second. -/
def orElse (a b : Matcher) : Matcher := fun p k =>
  match a p k with
  | some r => some r
  | none => b p k

/-- One character that passes the test. -/
def one (text : Array Nat) (test : Nat → Bool) : Matcher := fun p k =>
  match text[p.index]? with
  | some c => if test c then k { p with index := p.index + 1 } else none
  | none => none

/-- Marks the places where a group is entered and left. -/
def capture (group : Nat) (body : Matcher) : Matcher := fun p k =>
  body { p with opened := (group, p.index) :: p.opened } fun q =>
    k { q with closed := (group, q.index) :: q.closed }

/-- Takes the first way through the body and no other. -/
def atomic (body : Matcher) : Matcher := fun p k =>
  match body p some with
  | some q => k q
  | none => none

/-- Matches nothing where the body matches `back` characters before the place. The marks of the body
stay. -/
def assert (back : Nat) (body : Matcher) : Matcher := fun p k =>
  if p.index < back then none
  else match body { p with index := p.index - back } some with
    | some q => k { q with index := p.index }
    | none => none

/-- Matches nothing where the body does not match `back` characters before the place. -/
def refute (back : Nat) (body : Matcher) : Matcher := fun p k =>
  if p.index < back then k p
  else match body { p with index := p.index - back } some with
    | some _ => none
    | none => k p

/-- Whether a repetition may go on after `count` rounds. -/
def mayGoOn (max : Option Nat) (count : Nat) : Bool :=
  match max with
  | some m => count < m
  | none => true

/-- At least `min` and at most `max` rounds of the body, as many as possible first. From the least
count on, a round that has not moved ends the repetition: `last` is where the round before began.
-/
def greedy (body : Matcher) (min : Nat) (max : Option Nat) : Nat → Nat → Option Nat → Matcher
  | 0, _, _ => never
  | fuel + 1, count, last => fun p k =>
    -- below the least count a round counts even if it has not moved
    if count < min then body p fun q => greedy body min max fuel (count + 1) last q k
    else if mayGoOn max count && last != some p.index then
      match body p fun q => greedy body min max fuel (count + 1) (some p.index) q k with
      | some r => some r
      | none => k p
    else k p

/-- At least `min` and at most `max` rounds of the body, as few as possible first. -/
def reluctant (body : Matcher) (min : Nat) (max : Option Nat) : Nat → Nat → Option Nat → Matcher
  | 0, _, _ => never
  | fuel + 1, count, last => fun p k =>
    if count < min then body p fun q => reluctant body min max fuel (count + 1) last q k
    -- the rest is tried first, and one more round only where the rest has failed
    else match k p with
      | some r => some r
      | none =>
        if mayGoOn max count && last != some p.index then
          body p fun q => reluctant body min max fuel (count + 1) (some p.index) q k
        else none

/-- At least `min` and at most `max` rounds of the body, each left for good, as many as possible. -/
def possessive (body : Matcher) (min : Nat) (max : Option Nat) : Nat → Nat → Option Nat → Matcher
  | 0, _, _ => never
  | fuel + 1, count, last => fun p k =>
    if count < min then
      match body p some with
      | some q => possessive body min max fuel (count + 1) last q k
      | none => none
    else if mayGoOn max count && last != some p.index then
      match body p some with
      | some q => possessive body min max fuel (count + 1) (some p.index) q k
      | none => k p
    else k p

/-- A repetition. Beyond the least count every round but the last moves, which bounds the rounds. -/
def repeated (text : Array Nat) (min : Nat) (max : Option Nat) (greed : Greed) (body : Matcher) :
    Matcher :=
  let rounds := min + text.size + 3
  match greed with
  | .greedy => greedy body min max rounds 0 none
  | .reluctant => reluctant body min max rounds 0 none
  | .possessive => possessive body min max rounds 0 none

end Matcher

/-! ## Places -/

/-- The line end. -/
def lineEnd : Nat := 10

/-- Whether the text has a character of a word at an index. -/
def isWordAt (text : Array Nat) (ascii : Bool) (index : Nat) : Bool :=
  match text[index]? with
  | some c => categoryTest ascii .word c
  | none => false

/-- Whether a place is at one end of a word. -/
def isBoundary (text : Array Nat) (ascii : Bool) (index : Nat) : Bool :=
  let before := index != 0 && isWordAt text ascii (index - 1)
  before != isWordAt text ascii index

/-- Whether a place passes the test of an anchor. In the empty text, no place is an end of a word
and none is not. -/
def anchorTest (text : Array Nat) (flags : Flags) (index : Nat) : Anchor → Bool
  | .textStart => index == 0
  | .textEnd => index == text.size
  | .caret => index == 0 || (flags.contains .multiLine && text[index - 1]? == some lineEnd)
  | .dollar =>
    index == text.size ||
      (text[index]? == some lineEnd && (flags.contains .multiLine || index + 1 == text.size))
  | .wordBoundary => text.size != 0 && isBoundary text flags.isAscii index
  | .notWordBoundary => text.size != 0 && !isBoundary text flags.isAscii index

/-! ## Nodes -/

/-- The text that a group has taken, once more. -/
def backreferenceMatcher (text : Array Nat) (f : Folding) (group : Nat) : Matcher := fun p k =>
  match p.group? group with
  | none => none
  | some (first, last) =>
    let length := last - first
    let taken := text.extract first last
    let next := text.extract p.index (p.index + length)
    -- past the end of the text `next` is the shorter one, and the two differ
    if next.map f.lower == taken.map f.lower then k { p with index := p.index + length } else none

/-- The matcher of a leaf. -/
def Leaf.matcher (text : Array Nat) (flags : Flags) : Leaf → Matcher
  | .literal code => .one text (literalTest flags.folding code)
  | .notLiteral code => .one text fun c => !literalTest flags.folding code c
  | .any => .one text fun c => flags.contains .dotAll || c != lineEnd
  | .set negated items => .one text (setTest flags.folding flags.isAscii negated items)
  | .anchor a => .guard fun p => anchorTest text flags p.index a
  | .backreference group _ => backreferenceMatcher text flags.folding group

mutual

/-- The matcher of a node. -/
def Node.matcher (text : Array Nat) (flags : Flags) : Node → Matcher
  | .leaf l => l.matcher text flags
  | .group number on off body =>
    let inner := sequenceMatcher text (flags.scoped on off) body
    match number with
    | some n => .capture n inner
    | none => inner
  | .choice branches => choiceMatcher text flags branches
  | .repeated min max greed body => .repeated text min max greed (sequenceMatcher text flags body)
  | .atomic body => .atomic (sequenceMatcher text flags body)
  | .lookahead negated body =>
    if negated then .refute 0 (sequenceMatcher text flags body)
    else .assert 0 (sequenceMatcher text flags body)
  | .lookbehind negated body =>
    if negated then .refute (sequenceWidth body).low (sequenceMatcher text flags body)
    else .assert (sequenceWidth body).low (sequenceMatcher text flags body)
  | .conditional group yes no => fun p k =>
    if (p.group? group).isSome then sequenceMatcher text flags yes p k
    else sequenceMatcher text flags no p k

/-- The matcher of a sequence. -/
def sequenceMatcher (text : Array Nat) (flags : Flags) : List Node → Matcher
  | [] => .here
  | n :: rest => .seq (n.matcher text flags) (sequenceMatcher text flags rest)

/-- The matcher of a choice. -/
def choiceMatcher (text : Array Nat) (flags : Flags) : List (List Node) → Matcher
  | [] => .never
  | b :: rest => .orElse (sequenceMatcher text flags b) (choiceMatcher text flags rest)

end

/-- Whether the pattern matches somewhere in the text, letter case not counting. -/
def search (pattern : Pattern) (s : String) : Bool :=
  let text := (s.toList.map Char.toNat).toArray
  let matcher := sequenceMatcher text (.ignoreCase :: pattern.flags) pattern.body
  -- the place behind the last character counts too
  (List.range (text.size + 1)).any fun index => (matcher ⟨index, [], []⟩ some).isSome

end DocStore.Pattern
