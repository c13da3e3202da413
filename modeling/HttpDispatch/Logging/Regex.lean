import HttpDispatch.Text.Alphabetic
import HttpDispatch.Text.Blank
import HttpDispatch.Text.Numeral
import HttpDispatch.Text.Numeric

/-!
# Regular expressions in a log filter

A filter may ask that the value of a field matches a regular expression.
`Regex.isValid` tells which texts are regular expressions.

* **Atoms** are characters, escapes, the dot and assertions.
* **Classes** in brackets hold characters, ranges, named classes and other classes,
  joined by `&&`, `--` and `~~`.
* **Groups** in parentheses may have a name, or flags.  Flags that stand alone count to
  the end of the group around them, further alternatives included.
* **Repetition** needs something before it.

An expression describes texts by code points, unless a flag makes it describe their
bytes.  What needs a table of characters is not available for code points: letters
regardless of their case, the classes of digits, blanks and word characters, and
assertions about words.  What could match a part of a character is not available for
bytes: the dot, bytes from 0x80 on, and every negated class.

## Design notes

**What a filter can write.**  A value ends at a comma, an equals sign or a closing brace.
So an opening brace, which would begin a count or the name of a property, is never
closed, and is refused outside classes.

**Depth.**  Expressions that are nested too deeply are refused.  Every function returns
the depth of what it reads: several parts in a row, several alternatives, a class, a
group and a repetition each count as one level.
-/

namespace HttpDispatch.Logging.Regex

/-- How deep an expression may be nested. -/
def depthLimit : Nat := 250

/-! ### Flags -/

/-- The flags that decide how an expression is read. -/
structure Mode where
  /-- Letters match regardless of their case. -/
  ignoreCase : Bool
  /-- Texts are described by code points. -/
  unicode : Bool
  /-- Blanks and comments are left out. -/
  spaced : Bool
  deriving DecidableEq, Repr

namespace Mode

/-- How an expression starts. -/
def start : Mode := ⟨false, true, false⟩

/-- Set the flag of a letter; other flags do not decide what is valid. -/
def set (m : Mode) (letter : Char) (value : Bool) : Mode :=
  match letter with
  | 'i' => { m with ignoreCase := value }
  | 'u' => { m with unicode := value }
  | 'x' => { m with spaced := value }
  | _ => m

end Mode

/-- The letters of the flags. -/
def flagLetters : List Char := "imsUuRx".toList

/-- **Read flags** up to a colon or a closing parenthesis: each letter at most once, and
at most one minus sign, before those that are taken away.  The result tells the signs
read, last first, and what is left. -/
def flags? (m : Mode) (seen : List Char) : List Char → Option (Mode × List Char × List Char)
  | [] => none
  | c :: cs =>
    if c = ':' || c = ')' then
      if seen.head? = some '-' then none else some (m, seen, c :: cs)
    else if c ∈ seen then none
    else if c = '-' || c ∈ flagLetters then flags? (m.set c ('-' ∉ seen)) (c :: seen) cs
    else none

/-- Move over blanks and comments; `comment` tells whether one has begun. -/
def skipBlanks (comment : Bool) : List Char → List Char
  | [] => []
  | c :: cs =>
    if comment then skipBlanks (c ≠ '\n') cs
    else if Text.isBlank c then skipBlanks false cs
    else if c = '#' then skipBlanks true cs
    else c :: cs

/-- Move over what is left out. -/
def Mode.skip (m : Mode) (cs : List Char) : List Char :=
  if m.spaced then skipBlanks false cs else cs

/-! ### Atoms -/

/-- What stands for one character or one place. -/
inductive Atom where
  /-- A character; `byte` if it is written with two digits. -/
  | literal (c : Char) (byte : Bool)
  /-- Any character. -/
  | any
  /-- A condition on the place; `word` if it is about words. -/
  | look (word : Bool)
  /-- Digits, blanks or word characters, or all others. -/
  | shorthand (negated : Bool)
  deriving DecidableEq, Repr

namespace Atom

/-- Whether an atom is available outside classes. -/
def isAvailable (m : Mode) : Atom → Bool
  | literal c byte => if m.unicode then !m.ignoreCase else !byte || c.toNat < 0x80
  | any => m.unicode
  | look word => !word || !m.unicode
  | shorthand negated => !m.unicode && !negated

/-- Whether an atom can be a member of a class. -/
def isMember (m : Mode) : Atom → Bool
  | literal c _ => if m.unicode then !m.ignoreCase else c.toNat < 0x80
  | any => false
  | look _ => false
  | shorthand negated => !m.unicode && !negated

end Atom

/-- Escapes of control characters. -/
def controls : List (Char × Char) :=
  [('a', '\x07'), ('f', '\x0c'), ('t', '\t'), ('n', '\n'), ('r', '\r'), ('v', '\x0b')]

/-- The number of digits of an escape by code point. -/
def hexWidth? : Char → Option Nat
  | 'x' => some 2
  | 'u' => some 4
  | 'U' => some 8
  | _ => none

/-- Read hexadecimal digits after `value`. -/
def hex? (m : Mode) : (count value : Nat) → List Char → Option (Nat × List Char)
  | 0, value, cs => some (value, cs)
  | count + 1, value, cs =>
    match m.skip cs with
    | [] => none
    | c :: rest => (Numeral.digitIn? 16 c).bind fun d => hex? m count (16 * value + d) rest

/-- Whether a sign may be escaped to stand for itself. -/
def isSign (c : Char) : Bool := c.toNat < 0x80 && !c.isAlphanum && c ≠ '<' && c ≠ '>'

/-- **Read an escape** after the backslash. -/
def escape? (m : Mode) : List Char → Option (Atom × List Char)
  | [] => none
  | c :: cs =>
    match hexWidth? c, controls.lookup c with
    | some width, _ => do
      let (code, rest) ← hex? m width 0 cs
      if h : code.isValidChar then some (.literal (Char.ofNatAux code h) (c = 'x'), rest) else none
    | none, some control => some (.literal control false, cs)
    | none, none =>
      if c ∈ ['d', 's', 'w'] then some (.shorthand false, cs)
      else if c ∈ ['D', 'S', 'W'] then some (.shorthand true, cs)
      else if c ∈ ['A', 'z'] then some (.look false, cs)
      else if c ∈ ['b', 'B', '<', '>'] then some (.look true, cs)
      else if isSign c then some (.literal c false, cs)
      else none

/-- **Read an atom** outside classes. -/
def atom? (m : Mode) : List Char → Option (Atom × List Char)
  | [] => none
  | '\\' :: cs => escape? m cs
  | '.' :: cs => some (.any, cs)
  | '^' :: cs => some (.look false, cs)
  | '$' :: cs => some (.look false, cs)
  | c :: cs => some (.literal c false, cs)

/-! ### Depth -/

/-- The depth of some parts in a row, or of alternatives. -/
def rowDepth (depths : List Nat) : Nat :=
  let deepest := depths.foldl Nat.max 0
  if 1 < depths.length then deepest + 1 else deepest

/-- The depth of a set after another one and an operator. -/
def joinDepth (before : Option Nat) (depth : Nat) : Nat :=
  match before with
  | none => depth
  | some d => Nat.max d depth + 1

/-! ### Classes -/

/-- The names of classes. -/
def classNames : List String :=
  ["alnum", "alpha", "ascii", "blank", "cntrl", "digit", "graph", "lower", "print", "punct",
    "space", "upper", "word", "xdigit"]

/-- Read a named class after its bracket: whether it is negated, and what is left. -/
def namedClass? : List Char → Option (Bool × List Char)
  | ':' :: cs =>
    let (negated, cs) := match cs with
      | '^' :: rest => (true, rest)
      | _ => (false, cs)
    let name := cs.takeWhile (· ≠ ':')
    match cs.drop name.length with
    | ':' :: ']' :: rest => if String.ofList name ∈ classNames then some (negated, rest) else none
    | _ => none
  | _ => none

/-- Read a character or an escape in a class. -/
def member? (m : Mode) : List Char → Option (Atom × List Char)
  | [] => none
  | '\\' :: cs => escape? m cs
  | c :: cs => some (.literal c false, cs)

/-- The next character that is not left out; of a comment only its sign is. -/
def peek? (m : Mode) (cs : List Char) : Option Char :=
  if m.spaced then
    match cs.dropWhile Text.isBlank with
    | '#' :: rest => (rest.dropWhile Text.isBlank).head?
    | rest => rest.head?
  else cs.head?

/-- **Read a member of a class**, or a range of characters. -/
def range? (m : Mode) (cs : List Char) : Option (List Char) := do
  let (first, rest) ← member? m cs
  let rest := m.skip rest
  let isRange := rest.head? = some '-' && peek? m (rest.drop 1) ∉ [some ']', some '-']
  if isRange then
    let (last, rest) ← member? m (m.skip (rest.drop 1))
    match first, last with
    | .literal a _, .literal b _ =>
      if a.toNat ≤ b.toNat && first.isMember m && last.isMember m then some rest else none
    | _, _ => none
  else if first.isMember m then some rest
  else none

/-- Read the sign of negation after the bracket of a class. -/
def openClass (m : Mode) (cs : List Char) : Bool × List Char :=
  match m.skip cs with
  | '^' :: rest => (true, rest)
  | rest => (false, rest)

/-- **Read a class** after its bracket and the sign of negation; `first` tells that a
hyphen, or a closing bracket if nothing was read, is a member still.  `before` is the
depth of what stands before the last operator, `members` holds the depths of the members
after it. -/
def class? : Nat → Mode → (first : Bool) → (before : Option Nat) → (members : List Nat) →
    List Char → Option (Nat × List Char)
  | 0, _, _, _, _, _ => none
  | fuel + 1, m, first, before, members, cs =>
    let operator (rest : List Char) : Option (Nat × List Char) :=
      class? fuel m false (some (joinDepth before (rowDepth members))) [] rest
    let isSet := Atom.isMember m (.literal ']' false)
    match m.skip cs with
    | [] => none
    | c :: rest =>
      if first && (c = '-' || (c = ']' && members.isEmpty)) then
        if isSet then class? fuel m (c = '-') before (0 :: members) rest else none
      else if c = ']' then some (joinDepth before (rowDepth members) + 1, rest)
      else if c ∈ ['&', '-', '~'] && rest.head? = some c then operator (rest.drop 1)
      else if c = '[' then
        -- what looks like the name of a class but is none is a class of its characters
        match namedClass? rest with
        | some (negated, rest) =>
          if (if m.unicode then !m.ignoreCase else !negated) then
            class? fuel m false before (0 :: members) rest
          else none
        | none =>
          let (negated, rest) := openClass m rest
          if m.unicode || !negated then
            match class? fuel m true none [] rest with
            | some (depth, rest) => class? fuel m false before (depth :: members) rest
            | none => none
          else none
      else match range? m (c :: rest) with
        | some rest => class? fuel m false before (0 :: members) rest
        | none => none

/-! ### Expressions -/

/-- How a group starts. -/
inductive GroupStart where
  /-- It has contents, which are read in a mode. -/
  | contents (m : Mode) (names : List (List Char)) (rest : List Char)
  /-- It only sets flags. -/
  | flags (m : Mode) (rest : List Char)

/-- Whether a text can be the name of a group. -/
def isGroupName : List Char → Bool
  | [] => false
  | c :: cs =>
    (c = '_' || Text.isAlphabetic c)
      && cs.all fun d => d ∈ ['_', '.', '[', ']'] || Text.isAlphabetic d || Text.isNumeric d

/-- Read the name of a group, which no other group has. -/
def groupName? (m : Mode) (names : List (List Char)) (cs : List Char) : Option GroupStart :=
  let name := cs.takeWhile (· ≠ '>')
  match cs.drop name.length with
  | '>' :: rest =>
    if isGroupName name && name ∉ names then some (.contents m (name :: names) rest) else none
  | _ => none

/-- **Read the start of a group** after its parenthesis.  Conditions on the text around
have the form of flags and names that do not exist. -/
def group? (m : Mode) (names : List (List Char)) : List Char → Option GroupStart
  | '?' :: 'P' :: '<' :: cs => groupName? m names cs
  | '?' :: '<' :: cs => groupName? m names cs
  | '?' :: cs =>
    match flags? m [] cs with
    | some (m, _, ':' :: rest) => some (.contents m names rest)
    | some (m, seen, ')' :: rest) => if seen = [] then none else some (.flags m rest)
    | _ => none
  | cs => some (.contents m names cs)

/-- A part of an expression. -/
structure Part where
  /-- Its depth. -/
  depth : Nat
  /-- Whether it can be repeated. -/
  repeats : Bool

/-- **Read an expression** to its end, or to the end of the group it is in.  `branches`
holds the depths of the alternatives before, `parts` the parts of this one, last first.
The result tells the depth, the names of groups, and what is left. -/
def expression? : Nat → (nested : Bool) → Mode → (names : List (List Char)) →
    (branches : List Nat) → (parts : List Part) → List Char →
    Option (Nat × List (List Char) × List Char)
  | 0, _, _, _, _, _, _ => none
  | fuel + 1, nested, m, names, branches, parts, cs =>
    let alternatives := rowDepth (parts.map Part.depth) :: branches
    match m.skip cs with
    | [] => if nested then none else some (rowDepth alternatives, names, [])
    | c :: rest =>
      if c = ')' then
        if nested then some (rowDepth alternatives, names, rest) else none
      else if c = '|' then expression? fuel nested m names alternatives [] rest
      else if c = '(' then
        match group? m names (m.skip rest) with
        | some (.flags m rest) =>
          expression? fuel nested m names branches (⟨0, false⟩ :: parts) rest
        | some (.contents inner names rest) =>
          match expression? fuel true inner names [] [] rest with
          | some (depth, names, rest) =>
            expression? fuel nested m names branches (⟨depth + 1, true⟩ :: parts) rest
          | none => none
        | none => none
      else if c = '[' then
        let (negated, rest) := openClass m rest
        if m.unicode || !negated then
          match class? fuel m true none [] rest with
          | some (depth, rest) =>
            expression? fuel nested m names branches (⟨depth, true⟩ :: parts) rest
          | none => none
        else none
      else if c ∈ ['?', '*', '+'] then
        match parts with
        | last :: others =>
          if last.repeats then
            let rest := if rest.head? = some '?' then rest.drop 1 else rest
            expression? fuel nested m names branches (⟨last.depth + 1, true⟩ :: others) rest
          else none
        | [] => none
      -- a count, which cannot be closed
      else if c = '\x7b' then none
      else match atom? m (c :: rest) with
        | some (a, rest) =>
          if a.isAvailable m then
            expression? fuel nested m names branches (⟨0, true⟩ :: parts) rest
          else none
        | none => none

/-- **Whether a text is a regular expression.**  Every call moves over a character, so a
budget of one more than there are suffices. -/
def isValid (cs : List Char) : Bool :=
  match expression? (cs.length + 1) false .start [] [] [] cs with
  | some (depth, _, _) => depth ≤ depthLimit
  | none => false

end HttpDispatch.Logging.Regex
