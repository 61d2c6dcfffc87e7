/-!
# Tokens of patterns

A pattern is read as a list of tokens: characters, and characters behind a backslash. A backslash
at the very end is a token of its own, at which reading stops.
-/

namespace DocStore.Pattern

/-- A unit of a pattern. -/
inductive Token where
  | char (c : Char)
  /-- A character behind a backslash. -/
  | escape (c : Char)
  /-- A backslash with nothing after it. -/
  | stray
  deriving DecidableEq

/-- The tokens of a pattern. -/
def tokenize : List Char → List Token
  | [] => []
  | ['\\'] => [.stray]
  | '\\' :: c :: rest => .escape c :: tokenize rest
  | c :: rest => .char c :: tokenize rest

/-- The characters that a token stands for in the pattern. -/
def Token.spelling : Token → List Char
  | .char c => [c]
  | .escape c => ['\\', c]
  | .stray => ['\\']

/-- The plain character that a token is, if it passes the test. -/
def Token.charIf (p : Char → Bool) : Token → Option Char
  | .char c => if p c then some c else none
  | _ => none

end DocStore.Pattern
