import HttpDispatch.Yaml.Cursor

/-!
# Scalars written as blocks

A block scalar is a run of lines, indented further than the collection it stands in.
Its header may fix the depth of the indentation, otherwise the first line that is not
empty does, and may tell what becomes of the line breaks at the end.

* A **literal** block keeps its lines.
* A **folded** block joins them by spaces, except around empty lines and lines that
  start with a blank.
-/

namespace HttpDispatch.Yaml

/-- What becomes of the line breaks at the end of a block. -/
inductive Chomping where
  /-- None is kept. -/
  | strip
  /-- The first is kept. -/
  | clip
  /-- All are kept. -/
  | keep
  deriving DecidableEq, Repr

namespace Chomping

/-- The meaning of a sign in a header. -/
def ofSign? : Char → Option Chomping
  | '-' => some strip
  | '+' => some keep
  | _ => none

end Chomping

/-- What the header of a block says. -/
structure BlockHeader where
  /-- What becomes of the line breaks at the end. -/
  chomping : Chomping
  /-- The depth of the indentation, if given. -/
  depth : Option Nat
  deriving DecidableEq, Repr

namespace BlockHeader

/-- A depth between one and nine. -/
def depth? (c : Char) : Option Nat :=
  if '1' ≤ c ∧ c ≤ '9' then some (c.toNat - '0'.toNat) else none

/-- **Read a header**: a chomping sign and a depth, in either order, each at most once.
The result tells how many characters were read; zero as a depth is refused. -/
def read? (cs : List Char) : Option (BlockHeader × Nat) :=
  match cs with
  | a :: rest =>
    match Chomping.ofSign? a, depth? a with
    | some chomping, _ =>
      match rest with
      | b :: _ =>
        if b = '0' then none
        else match depth? b with
          | some depth => some (⟨chomping, some depth⟩, 2)
          | none => some (⟨chomping, none⟩, 1)
      | [] => some (⟨chomping, none⟩, 1)
    | none, some depth =>
      match rest.head?.bind Chomping.ofSign? with
      | some chomping => some (⟨chomping, some depth⟩, 2)
      | none => some (⟨.clip, some depth⟩, 1)
    | none, none => if a = '0' then none else some (⟨.clip, none⟩, 0)
  | [] => some (⟨.clip, none⟩, 0)

end BlockHeader

/-- The part of a block that has been read. -/
structure Block where
  /-- The text, last character first. -/
  text : List Char
  /-- The break of the last line, if it has one. -/
  lineEnd : Option Char
  /-- The breaks of empty lines after it, last first. -/
  more : List Char
  /-- Whether the last line starts with a blank. -/
  indented : Bool

namespace Block

/-- Nothing read. -/
def empty : Block := ⟨[], none, [], false⟩

/-- **Start a line** with a character: settle the breaks before it. -/
def startLine (folded : Bool) (b : Block) (c : Char) : Block :=
  let joined := folded && b.lineEnd = some '\n' && !b.indented && !isSpace c
  let before :=
    if joined then (if b.more = [] then [' '] else b.more) else b.more ++ b.lineEnd.toList
  ⟨c :: (before ++ b.text), none, [], isSpace c⟩

/-- Go on in a line. -/
def push (b : Block) (c : Char) : Block := { b with text := c :: b.text }

/-- Break a line. -/
def breakLine (b : Block) (c : Char) : Block := { b with lineEnd := some c }

/-- Break an empty line. -/
def breakEmpty (b : Block) (c : Char) : Block := { b with more := c :: b.more }

/-- **The text of the block.** -/
def finish (b : Block) (chomping : Chomping) : List Char :=
  let ending := match chomping with
    | .strip => []
    | .clip => b.lineEnd.toList
    | .keep => b.more ++ b.lineEnd.toList
  (ending ++ b.text).reverse

end Block

/-- **The depth of an indentation** that is given by the lines themselves: the largest
column reached by the spaces of the empty lines at the start and of the line after
them.  No tab may stand there. -/
def measureDepth : List Char → (column deepest : Nat) → Option Nat
  | [], column, deepest => some (max column deepest)
  | c :: cs, column, deepest =>
    if c = ' ' then measureDepth cs (column + 1) deepest
    else if c = '\t' then none
    else if isBreak c then measureDepth cs 0 (max column deepest)
    else some (max column deepest)

/-- **Read the lines of a block**, whose text starts in the column `depth`; `inText`
tells whether the indentation of the line has been passed.  No tab may stand in an
indentation. -/
def blockLines (folded : Bool) (depth : Nat) (inText : Bool) (b : Block) :
    List Char → Place → Option (Block × Cursor)
  | [], p => some (b, ⟨p, []⟩)
  | c :: cs, p =>
    if inText then
      if isBreak c then blockLines folded depth false (b.breakLine c) cs p.nextLine
      else blockLines folded depth true (b.push c) cs (p.next c)
    else if p.column < depth && c = ' ' then
      blockLines folded depth false b cs (p.next c)
    else if p.column < depth && c = '\t' then none
    else if isBreak c then blockLines folded depth false (b.breakEmpty c) cs p.nextLine
    else if p.column = depth then
      blockLines folded depth true (b.startLine folded c) cs (p.next c)
    else some (b, ⟨p, c :: cs⟩)

/-- **Read a block scalar** after its sign; `least` is the least column of its text,
in a collection whose column is one less. -/
def blockScalar? (folded : Bool) (least : Nat) (c : Cursor) : Option (List Char × Cursor) := do
  let (header, length) ← BlockHeader.read? c.rest
  let start ← (c.advance length).leaveLine?
  let depth ← match header.depth with
    | some depth => some (least - 1 + depth)
    | none => (measureDepth start.rest 0 0).map fun deepest => max deepest (max least 1)
  let (b, stop) ← blockLines folded depth false .empty start.rest start.toPlace
  return (b.finish header.chomping, stop)

end HttpDispatch.Yaml
