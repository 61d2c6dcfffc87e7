/-!
# Paths

A path is a root and a list of names. Repeated and trailing slashes and the name `.` carry no
meaning and vanish when a path is read; `..` stays, because what it means depends on links. Two
slashes in front are a root of their own, three or more are one.

Main statements: `mem_parts_ofString` (a name holds no slash, is not empty and is not `.`) and
`ofString_text_ofString` (what is written of a path reads as that path).
-/

namespace DocStore

/-- Where a path starts. -/
inductive PathRoot where
  | relative
  | slash
  /-- At the root written with two slashes. -/
  | doubleSlash
  deriving DecidableEq

/-- The text of a root. -/
def PathRoot.text : PathRoot → String
  | .relative => ""
  | .slash => "/"
  | .doubleSlash => "//"

/-- A root and the names below it. -/
structure Path where
  root : PathRoot
  parts : List String
  deriving DecidableEq

namespace Path

/-- Whether a name carries meaning in a path. -/
def isName (name : List Char) : Bool := name != [] && name != ['.']

/-- The root with which a text begins. -/
def rootOf : List Char → PathRoot
  | '/' :: '/' :: '/' :: _ => .slash
  | '/' :: '/' :: _ => .doubleSlash
  | '/' :: _ => .slash
  | _ => .relative

/-- The path written by a text. -/
def ofString (s : String) : Path where
  root := rootOf s.toList
  parts := ((s.toList.splitOn '/').filter isName).map String.ofList

/-- The text of a path. -/
def text (p : Path) : String :=
  if p.root = .relative ∧ p.parts = [] then "." else p.root.text ++ "/".intercalate p.parts

/-- The path one name further down. -/
def child (p : Path) (name : String) : Path := { p with parts := p.parts ++ [name] }

/-- The path without its last name. -/
def parent (p : Path) : Path := { p with parts := p.parts.dropLast }

/-- The last name of a path; empty if there is none. -/
def lastName (p : Path) : String := p.parts.getLastD ""

/-- Whether a path holds a character that no file system takes. -/
def hasNul (p : Path) : Bool := p.parts.any fun name => name.toList.contains '\x00'

/-! ## Reading and writing -/

/-- `splitOn` leaves its separator in none of the parts. -/
theorem not_mem_of_mem_splitOn (c : Char) (s name : List Char) (h : name ∈ s.splitOn c) :
    c ∉ name := by
  induction s generalizing name with
  | nil => simp_all
  | cons d rest ih =>
    change name ∈ (d :: rest).splitOnP (· == c) at h
    rw [List.splitOnP_cons_eq_if_modifyHead] at h
    split at h
    · rcases List.mem_cons.1 h with rfl | h
      · simp
      · exact ih name h
    · rename_i hd
      cases hs : rest.splitOnP (· == c) with
      | nil => rw [hs] at h; simp at h
      | cons first more =>
        rw [hs] at h
        rcases List.mem_cons.1 h with rfl | h
        · have := ih first (by change first ∈ rest.splitOnP (· == c); rw [hs]; simp)
          simp only [List.mem_cons, not_or]
          exact ⟨fun e => hd (by simp [e]), this⟩
        · exact ih name (by change name ∈ rest.splitOnP (· == c); rw [hs]; simp [h])

/-- A name of a path holds no slash, is not empty and is not `.`. -/
theorem mem_parts_ofString {s name : String} (h : name ∈ (ofString s).parts) :
    '/' ∉ name.toList ∧ isName name.toList := by
  obtain ⟨chars, hc, rfl⟩ := List.mem_map.1 h
  rw [List.mem_filter] at hc
  simpa using ⟨not_mem_of_mem_splitOn '/' s.toList chars hc.1, hc.2⟩

/-- Names joined by slashes do not begin with a slash. -/
theorem head_intercalate_ne_slash (names : List (List Char))
    (h : ∀ name ∈ names, '/' ∉ name ∧ isName name) (rest : List Char) :
    ['/'].intercalate names ≠ '/' :: rest := by
  match names with
  | [] => simp
  | [] :: _ => simp [isName] at h
  | (c :: name) :: more =>
    have hc := (h (c :: name) List.mem_cons_self).1
    intro e
    have : c = '/' := by
      cases more <;> simp [List.intercalate_cons_cons] at e <;> exact e.1
    simp [this] at hc

/-- `rootOf` reads the root off the text of a path. -/
theorem rootOf_text (root : PathRoot) (names : List (List Char))
    (h : ∀ name ∈ names, '/' ∉ name ∧ isName name) :
    rootOf (root.text.toList ++ ['/'].intercalate names) = root := by
  have hne := head_intercalate_ne_slash names h
  generalize ['/'].intercalate names = joined at hne
  match joined, hne with
  | [], _ => cases root <;> rfl
  | c :: more, hne =>
    have hc : c ≠ '/' := fun e => hne more (by rw [e])
    cases root <;> simp [PathRoot.text, rootOf, hc]

/-- `splitOn` finds the names of a path in its text again. -/
theorem filter_splitOn_text (root : PathRoot) (names : List (List Char))
    (h : ∀ name ∈ names, '/' ∉ name ∧ isName name) :
    ((root.text.toList ++ ['/'].intercalate names).splitOn '/').filter isName = names := by
  have hnames : ((['/'].intercalate names).splitOn '/').filter isName = names := by
    by_cases hn : names = []
    · subst hn; rfl
    · rw [List.splitOn_intercalate '/' (fun name hm => (h name hm).1) hn]
      exact List.filter_eq_self.2 fun name hm => (h name hm).2
  -- a slash in front adds an empty name, which carries no meaning
  have hslash (s : List Char) : ('/' :: s).splitOn '/' = [] :: s.splitOn '/' := by
    rw [List.splitOn, List.splitOnP_cons_eq_if_modifyHead]; rfl
  cases root
  · exact hnames
  · change (('/' :: _).splitOn '/').filter isName = names
    rw [hslash]; exact hnames
  · change (('/' :: '/' :: _).splitOn '/').filter isName = names
    rw [hslash, hslash]; exact hnames

/-- What is written of a path reads as that path. -/
theorem ofString_text_ofString (s : String) : ofString (ofString s).text = ofString s := by
  generalize hp : ofString s = p
  have h : ∀ name ∈ p.parts.map String.toList, '/' ∉ name ∧ isName name := by
    intro name hm
    obtain ⟨t, ht, rfl⟩ := List.mem_map.1 hm
    exact mem_parts_ofString (hp ▸ ht)
  obtain ⟨root, parts⟩ := p
  simp only [text]
  split
  · rename_i hd
    obtain ⟨rfl, rfl⟩ := hd
    rfl
  · have hl : (root.text ++ "/".intercalate parts).toList =
        root.text.toList ++ ['/'].intercalate (parts.map String.toList) := by
      rw [String.toList_append, String.toList_intercalate]; rfl
    simp only [ofString, hl, rootOf_text _ _ h, filter_splitOn_text _ _ h]
    simp [List.map_map, Function.comp_def]

end Path

end DocStore
