/-!
# The syntax of patterns

A pattern is a sequence of nodes. Leaves test one character or one place of the text; the other
nodes combine sequences. Literals and sets speak of code points, because a pattern may name a code
point that no text can hold.

`Node.width` says how many characters a node can take at least and at most; a look-behind must have
a fixed width.
-/

namespace DocStore.Pattern

-- powers are those of the core library, whatever else is imported
attribute [local instance (high)] instPowNat

/-- The switches that change how a pattern is read or matched. -/
inductive Flag where
  /-- Classes, word ends and letter case know ASCII only. -/
  | ascii
  /-- Letter case does not count. -/
  | ignoreCase
  /-- `^` and `$` match at every line. -/
  | multiLine
  /-- `.` takes the end of a line too. -/
  | dotAll
  /-- Spaces and comments in the pattern do not count. -/
  | verbose
  /-- Classes, word ends and letter case know all letters, as they do unless told otherwise. -/
  | unicode
  /-- Repetition is not allowed. -/
  | template
  deriving DecidableEq

/-- A set of switches. -/
abbrev Flags := List Flag

/-- Whether classes and letter case know ASCII only. -/
def Flags.isAscii (flags : Flags) : Bool := flags.contains .ascii

/-- The switches inside a group that turns some on and some off. A choice between ASCII and all
letters replaces the one in force. -/
def Flags.scoped (flags on off : Flags) : Flags :=
  let chooses := on.contains .ascii || on.contains .unicode
  let kept := if chooses then flags.filter fun f => f != .ascii && f != .unicode else flags
  (kept ++ on).filter fun f => !off.contains f

/-- The classes of characters. -/
inductive Category where
  | digit
  | space
  | word
  deriving DecidableEq

/-- A member of a set. -/
inductive SetItem where
  | code (c : Nat)
  /-- The code points from one to another. -/
  | range (low high : Nat)
  /-- A class or its complement. -/
  | category (kind : Category) (negated : Bool)
  deriving DecidableEq

/-- A test of a place in the text. -/
inductive Anchor where
  /-- `^`: the start of the text, or of a line. -/
  | caret
  /-- `$`: the end of the text or before the line end that closes it, or the end of a line. -/
  | dollar
  | textStart
  | textEnd
  | wordBoundary
  | notWordBoundary
  deriving DecidableEq

/-- The least and the greatest number of characters that something can take. -/
structure Width where
  low : Nat
  high : Nat
  deriving DecidableEq

/-- Stands for a number of characters without bound. -/
def unboundedWidth : Nat := 2 ^ (64 : Nat)

/-- A node without parts. -/
inductive Leaf where
  | literal (code : Nat)
  /-- Any character but one. -/
  | notLiteral (code : Nat)
  /-- `.`: any character, as a rule but for the end of a line. -/
  | any
  /-- A set of characters or its complement. -/
  | set (negated : Bool) (items : List SetItem)
  | anchor (a : Anchor)
  /-- The text that a group has taken; the group's width stands with it. -/
  | backreference (group : Nat) (width : Width)
  deriving DecidableEq

/-- How a repetition chooses its count. -/
inductive Greed where
  /-- As many as possible, then fewer. -/
  | greedy
  /-- As few as possible, then more. -/
  | reluctant
  /-- As many as possible, and no other choice. -/
  | possessive
  deriving DecidableEq

/-- A part of a pattern. -/
inductive Node where
  | leaf (l : Leaf)
  /-- A group, which may have a number and may change switches. -/
  | group (number : Option Nat) (on off : Flags) (body : List Node)
  /-- One of several branches, the first that lets the rest match. -/
  | choice (branches : List (List Node))
  /-- A repetition, at least `min` times and at most `max` times. -/
  | repeated (min : Nat) (max : Option Nat) (greed : Greed) (body : List Node)
  /-- A group that is left for good once it has matched. -/
  | atomic (body : List Node)
  /-- A test of what follows. -/
  | lookahead (negated : Bool) (body : List Node)
  /-- A test of what comes before. -/
  | lookbehind (negated : Bool) (body : List Node)
  /-- One of two branches, by whether a group has taken part. -/
  | conditional (group : Nat) (yes no : List Node)

/-! ## Widths -/

namespace Width

/-- Nothing. -/
def zero : Width := ⟨0, 0⟩

/-- One after the other. -/
def add (a b : Width) : Width := ⟨a.low + b.low, a.high + b.high⟩

/-- One or the other. -/
def join (a b : Width) : Width := ⟨min a.low b.low, max a.high b.high⟩

/-- A number of times. -/
def times (w : Width) (min : Nat) : Option Nat → Width
  | some max => ⟨w.low * min, w.high * max⟩
  | none => ⟨w.low * min, if w.high = 0 then 0 else unboundedWidth⟩

end Width

/-- The width of a leaf. -/
def Leaf.width : Leaf → Width
  | .anchor _ => .zero
  | .backreference _ w => w
  | _ => ⟨1, 1⟩

mutual

/-- The width of a node. -/
def Node.width : Node → Width
  | .leaf l => l.width
  | .group _ _ _ body => sequenceWidth body
  | .choice branches => choiceWidth branches
  | .repeated min max _ body => (sequenceWidth body).times min max
  | .atomic body => sequenceWidth body
  | .lookahead _ _ => .zero
  | .lookbehind _ _ => .zero
  | .conditional _ yes no => (sequenceWidth yes).join (sequenceWidth no)

/-- The width of a sequence. -/
def sequenceWidth : List Node → Width
  | [] => .zero
  | n :: rest => n.width.add (sequenceWidth rest)

/-- The width of a choice. -/
def choiceWidth : List (List Node) → Width
  | [] => ⟨unboundedWidth, 0⟩
  | b :: rest => (sequenceWidth b).join (choiceWidth rest)

end

/-! ## Soundness of a tree -/

/-- The greatest number of characters that a look-behind may look at. -/
def maxLookbehind : Nat := 4294967295

/-- Whether a look-behind may have a width. -/
def Width.isFixed (w : Width) : Bool := w.low == w.high && decide (w.low ≤ maxLookbehind)

mutual

/-- Whether every look-behind in a node has a fixed width, and, if repetition is not allowed, there
is none. -/
def Node.isSound (noRepeats : Bool) : Node → Bool
  | .leaf _ => true
  | .group _ _ _ body => sequenceIsSound noRepeats body
  | .choice branches => choiceIsSound noRepeats branches
  | .repeated _ _ _ body => !noRepeats && sequenceIsSound noRepeats body
  | .atomic body => sequenceIsSound noRepeats body
  | .lookahead _ body => sequenceIsSound noRepeats body
  | .lookbehind _ body => (sequenceWidth body).isFixed && sequenceIsSound noRepeats body
  | .conditional _ yes no => sequenceIsSound noRepeats yes && sequenceIsSound noRepeats no

/-- Whether all nodes of a sequence are sound. -/
def sequenceIsSound (noRepeats : Bool) : List Node → Bool
  | [] => true
  | n :: rest => n.isSound noRepeats && sequenceIsSound noRepeats rest

/-- Whether all branches of a choice are sound. -/
def choiceIsSound (noRepeats : Bool) : List (List Node) → Bool
  | [] => true
  | b :: rest => sequenceIsSound noRepeats b && choiceIsSound noRepeats rest

end

/-! ## Joining branches -/

/-- The leaf that a sequence begins with. -/
def leadingLeaf? : List Node → Option Leaf
  | .leaf l :: _ => some l
  | _ => none

/-- The leaf with which all branches begin. -/
def commonLeaf? (branches : List (List Node)) : Option Leaf :=
  match branches with
  | [] => none
  | first :: rest =>
    match leadingLeaf? first with
    | none => none
    | some l => if rest.all fun b => leadingLeaf? b == some l then some l else none

/-- The members of the set that a branch of one character stands for. -/
def setItems? : List Node → Option (List SetItem)
  | [.leaf (.literal c)] => some [.code c]
  | [.leaf (.set false items)] => some items
  | _ => none

/-- The members of the set that all branches together stand for. -/
def allSetItems? : List (List Node) → Option (List SetItem)
  | [] => some []
  | b :: rest =>
    match setItems? b, allSetItems? rest with
    | some items, some more => some (items ++ more)
    | _, _ => none

/-- Several branches as one sequence: leaves with which all begin stand in front once, and branches
of one character each become a set. `steps` bounds the number of leaves taken out. -/
def joinBranches : Nat → List (List Node) → List Node
  | steps + 1, branches =>
    match commonLeaf? branches with
    | some l => .leaf l :: joinBranches steps (branches.map List.tail)
    -- no leaf in common, or a branch has come to its end
    | none =>
      match allSetItems? branches with
      | some items => [.leaf (.set false items.eraseDups)]
      | none => [.choice branches]
  | 0, branches => [.choice branches]

end DocStore.Pattern
