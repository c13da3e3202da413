import HttpDispatch.Text.Numeral
import HttpDispatch.Text.Split

/-!
# Property paths

The key of a structured value names a place inside it: `category.name`,
`[1].name`, `items[0][2]`.  A path is a sequence of steps, each into a field or
to an index.

* A field is a non-empty name without `.` and `[`.  A `.` separates it from what
  stands before it.
* An index is a numeral in brackets, up to the first `]`.  It follows directly,
  or after a `.`.

`PropertyPath.parse` reads the steps.  `PropertyPath.text` writes them in the
canonical form, in which no `.` stands before an index.
-/

namespace HttpDispatch

/-- One step of a property path. -/
inductive Step where
  /-- Into the field of an object. -/
  | field (name : String)
  /-- To an item of a list. -/
  | index (position : Nat)
  deriving DecidableEq, Repr

namespace PropertyPath

/-- Why a text is no property path. -/
inductive Fault where
  /-- A bracket is opened and not closed. -/
  | unterminatedIndex
  /-- A bracket holds no numeral. -/
  | invalidIndex (text : String)
  /-- A field has no name. -/
  | emptyName
  /-- A separator ends the path. -/
  | trailingDot
  /-- Something other than a step follows a step. -/
  | unexpected (rest : String)
  deriving DecidableEq, Repr

/-- The wording of a fault. -/
def Fault.message : Fault → String
  | unterminatedIndex => "unterminated index"
  | invalidIndex text => "invalid index '" ++ text ++ "'"
  | emptyName => "empty property name"
  | trailingDot => "trailing '.'"
  | unexpected rest => "unexpected '" ++ rest ++ "'"

/-- Whether a character belongs to the name of a field. -/
def isNameChar (c : Char) : Bool := c ≠ '.' && c ≠ '['

/-- **One step**, and the characters after it; there has to be a first character. -/
def step (first : Char) (rest : List Char) : Except Fault (Step × List Char) :=
  if first = '[' then
    match Text.cut? ']' rest with
    | none => .error .unterminatedIndex
    | some (digits, after) =>
      match Numeral.unsigned? 64 digits with
      | none => .error (.invalidIndex (String.ofList digits))
      | some n => .ok (.index n, after)
  else if isNameChar first then
    .ok (.field (String.ofList (first :: rest.takeWhile isNameChar)), rest.dropWhile isNameChar)
  else .error .emptyName

/-- **The start of the next step**, or of nothing: a separator has to be followed
by something, and without one only an index or the end may follow. -/
def separator : List Char → Except Fault (List Char)
  | [] => .ok []
  | c :: rest =>
    if c = '.' then if rest = [] then .error .trailingDot else .ok rest
    else if c = '[' then .ok (c :: rest)
    else .error (.unexpected (String.ofList (c :: rest)))

theorem length_step {first : Char} {rest after : List Char} {s : Step}
    (h : step first rest = .ok (s, after)) : after.length ≤ rest.length := by
  unfold step at h
  split at h
  · split at h
    · cases h
    · rename_i hc
      split at h
      · cases h
      · cases h
        rw [(Text.cut?_eq_some_iff.1 hc).1]
        simp
        omega
  · split at h
    · cases h
      exact (List.dropWhile_sublist _).length_le
    · cases h

theorem length_separator {cs rest : List Char} (h : separator cs = .ok rest) :
    rest.length ≤ cs.length := by
  unfold separator at h
  split at h
  · cases h
    simp
  · split at h
    · split at h
      · cases h
      · cases h
        simp
    · split at h
      · cases h
        simp
      · cases h

/-- The steps of a path, on characters. -/
def parseChars : List Char → Except Fault (List Step)
  | [] => .ok []
  | first :: rest =>
    match hs : step first rest with
    | .error fault => .error fault
    | .ok (s, after) =>
      match hr : separator after with
      | .error fault => .error fault
      | .ok next =>
        have := length_step hs
        have := length_separator hr
        (parseChars next).map (s :: ·)
  termination_by cs => cs.length
  decreasing_by
    simp
    omega

/-- **The steps of a path.** -/
def parse (path : String) : Except Fault (List Step) := parseChars path.toList

/-- One step, in canonical form, after other steps or not. -/
def stepText (first : Bool) : Step → List Char
  | .field name => if first then name.toList else '.' :: name.toList
  | .index n => '[' :: Nat.toDigits 10 n ++ [']']

/-- **The canonical text of some steps.** -/
def text : List Step → List Char
  | [] => []
  | s :: steps => stepText true s ++ steps.flatMap (stepText false)

@[simp] theorem parseChars_nil : parseChars [] = .ok [] := by simp [parseChars]

end PropertyPath

end HttpDispatch
