/-!
# Positions in a YAML text

The structure of a YAML text is given by its lines and columns, so reading it means
moving a `Cursor` that knows its `Place`.

Five ways to break a line are in use.  Carriage return, line feed, the two of them
together and next line (U+0085) all mean the same; `unifyBreaks` writes them as line
feeds before anything is read.  Line and paragraph separators (U+2028 and U+2029)
break a line, too, but stay what they are in the text of a scalar.
-/

namespace HttpDispatch.Yaml

/-! ### Characters -/

/-- Whether a character may stand in a text. -/
def isAllowed (c : Char) : Bool :=
  c = '\t' || c = '\n' || c = '\r' || (0x20 ≤ c.toNat && c.toNat ≤ 0x7E) || c = '\u0085'
    || (0xA0 ≤ c.toNat && c.toNat ≤ 0xFFFD) || 0x10000 ≤ c.toNat

/-- Write the line breaks that mean the same as line feeds. -/
def unifyBreaks : List Char → List Char
  | [] => []
  | '\r' :: '\n' :: cs => '\n' :: unifyBreaks cs
  | '\r' :: cs => '\n' :: unifyBreaks cs
  | '\u0085' :: cs => '\n' :: unifyBreaks cs
  | c :: cs => c :: unifyBreaks cs

/-- Whether a character breaks a line. -/
def isBreak (c : Char) : Bool := c = '\n' || c = '\u2028' || c = '\u2029'

/-- Whether a character is a blank within a line. -/
def isSpace (c : Char) : Bool := c = ' ' || c = '\t'

/-- Whether a text starts with something that separates tokens, or is empty. -/
def startsGap : List Char → Bool
  | [] => true
  | c :: _ => isSpace c || isBreak c

/-- Whether a character delimits collections in brackets and their items. -/
def isFlowSign (c : Char) : Bool := c ∈ [',', '[', ']', '\x7b', '\x7d']

/-- Whether a text that starts in a column is a document marker of three signs. -/
def startsMarker (sign : Char) (column : Nat) (cs : List Char) : Bool :=
  column = 0 && cs.take 3 = [sign, sign, sign] && startsGap (cs.drop 3)

/-- Whether one of the two document markers stands here. -/
def startsAnyMarker (column : Nat) (cs : List Char) : Bool :=
  startsMarker '-' column cs || startsMarker '.' column cs

/-! ### Places -/

/-- A place in a text. -/
structure Place where
  /-- The number of lines before it. -/
  line : Nat
  /-- The number of characters before it in its line. -/
  column : Nat
  /-- The number of bytes before it in its line. -/
  bytes : Nat
  deriving DecidableEq, Repr

namespace Place

/-- Where a text starts. -/
def start : Place := ⟨0, 0, 0⟩

/-- The place behind a character of a line. -/
def next (p : Place) (c : Char) : Place := ⟨p.line, p.column + 1, p.bytes + c.utf8Size⟩

/-- The place behind some characters of a line. -/
def after (p : Place) (cs : List Char) : Place := cs.foldl next p

/-- Where the next line starts. -/
def nextLine (p : Place) : Place := ⟨p.line + 1, 0, 0⟩

end Place

/-! ### Cursors -/

/-- A place in a text, and what is left of the text. -/
structure Cursor extends Place where
  /-- The text that is left. -/
  rest : List Char
  deriving Repr

namespace Cursor

/-- Whether nothing is left. -/
def atEnd (c : Cursor) : Bool := c.rest.isEmpty

/-- Move over some characters of a line. -/
def advance (c : Cursor) (count : Nat) : Cursor :=
  ⟨c.toPlace.after (c.rest.take count), c.rest.drop count⟩

/-- Move to where `rest` is left in the same line. -/
def upTo (c : Cursor) (rest : List Char) : Cursor := c.advance (c.rest.length - rest.length)

/-- Move over the blanks of a line. -/
def skipSpace (c : Cursor) : Cursor := c.advance (c.rest.takeWhile isSpace).length

/-- **Move over what may follow in a line that has ended**: blanks, a comment and the
line break. -/
def leaveLine? (c : Cursor) : Option Cursor :=
  let after := c.skipSpace
  let after := match after.rest with
    | '#' :: _ => after.advance (after.rest.takeWhile fun ch => !isBreak ch).length
    | _ => after
  match after.rest with
  | [] => some after
  | ch :: cs => if isBreak ch then some ⟨after.nextLine, cs⟩ else none

end Cursor

end HttpDispatch.Yaml
