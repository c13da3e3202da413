import HttpDispatch.Yaml.Block
import HttpDispatch.Yaml.Scalar
import HttpDispatch.Yaml.Tag

/-!
# The layout of a YAML text

`tokens?` reads the tokens of a text, those included that its columns stand for.

* **Blocks.**  The dash of an item and the key of an entry open a collection in their
  column unless one is open there.  A token ends all collections whose column lies
  further right.  Inside brackets columns do not count.
* **Keys.**  That a node was a key is known only when its colon is met.  So the place
  where a key may have started is kept for each pair of brackets, and the sign of the
  key is put in there (`Layout.markKey`).  A key and its colon have to stand in one
  line, at most `keyReach` bytes apart.

## Design notes

**Required keys.**  What starts in the column of the innermost block has to be a key, so
losing such a place is an error.

**Where keys may start.**  At the start of a line, after the sign of an item or of a
collection, but not after another node.  Only where no key may start are tabs allowed
before a token.
-/

namespace HttpDispatch.Yaml

/-- How many bytes a key may be long. -/
def keyReach : Nat := 1024

/-- A place where a key may have started. -/
structure KeyPlace where
  /-- The number of tokens before it. -/
  position : Nat
  /-- Where it is. -/
  start : Place
  /-- Whether a key has to start there. -/
  required : Bool
  deriving DecidableEq, Repr

/-- Whether the key would have to be longer than it may. -/
def KeyPlace.isLost (k : KeyPlace) (p : Place) : Bool :=
  k.start.line < p.line || k.start.bytes + keyReach < p.bytes

/-- **What is known of a text up to a cursor.** -/
structure Layout where
  /-- The place reached. -/
  cursor : Cursor
  /-- The tokens so far, last first. -/
  tokens : List Token
  /-- The columns of the open blocks, innermost first. -/
  blocks : List Nat
  /-- Where a key may have started inside the innermost brackets. -/
  keyPlace : Option KeyPlace
  /-- The same for the brackets around them, and for no brackets at all. -/
  outer : List (Option KeyPlace)
  /-- Whether a key may start here. -/
  keyAllowed : Bool

namespace Layout

/-- The start of a text. -/
def start (cs : List Char) : Layout := ⟨⟨.start, cs⟩, [], [], none, [], true⟩

/-- Whether brackets are open. -/
def inBrackets (s : Layout) : Bool := !s.outer.isEmpty

/-- The least column right of the innermost block. -/
def least (s : Layout) : Nat := match s.blocks with
  | [] => 0
  | column :: _ => column + 1

/-- Whether a key has to start here. -/
def needsKey (s : Layout) : Bool := !s.inBrackets && s.blocks.head? = some s.cursor.column

/-! ### Tokens -/

/-- Add a token. -/
def emit (s : Layout) (t : Token) : Layout := { s with tokens := t :: s.tokens }

/-- Add a token of some characters and move over them. -/
def sign (s : Layout) (t : Token) (length : Nat := 1) : Layout :=
  { s.emit t with cursor := s.cursor.advance length }

/-- Put a token behind the first `position` ones. -/
def insert (s : Layout) (position : Nat) (t : Token) : Layout :=
  let later := s.tokens.length - position
  { s with tokens := s.tokens.take later ++ t :: s.tokens.drop later }

/-! ### Blocks -/

/-- **Open a block** in a column, unless one is open there or further right; its token
goes behind the first `position` ones. -/
def openBlock (s : Layout) (t : Token) (column position : Nat) : Layout :=
  if s.inBrackets || column < s.least then s
  else { s.insert position t with blocks := column :: s.blocks }

/-- Open a block at the cursor. -/
def openBlockHere (s : Layout) (t : Token) : Layout :=
  s.openBlock t s.cursor.column s.tokens.length

/-- **End the blocks** whose column is at least `least`. -/
def closeBlocks (least : Nat) (s : Layout) : Layout :=
  if s.inBrackets then s
  else
    let closed := s.blocks.takeWhile (least ≤ ·)
    { s with
      blocks := s.blocks.drop closed.length
      tokens := closed.map (fun _ => Token.blockEnd) ++ s.tokens }

/-! ### Keys -/

/-- Forget a place that lies too far back. -/
def refresh? (p : Place) : Option KeyPlace → Option (Option KeyPlace)
  | none => some none
  | some k => if k.isLost p then (if k.required then none else some none) else some (some k)

/-- **Forget the places that lie too far back.** -/
def dropLost? (s : Layout) : Option Layout := do
  let keyPlace ← refresh? s.cursor.toPlace s.keyPlace
  let outer ← s.outer.mapM (refresh? s.cursor.toPlace)
  return { s with keyPlace, outer }

/-- Forget the place inside the innermost brackets. -/
def dropKey? (s : Layout) : Option Layout :=
  if s.keyPlace.any KeyPlace.required then none else some { s with keyPlace := none }

/-- **Remember that a key may start here**, if it may. -/
def noteKey? (s : Layout) : Option Layout :=
  if !s.keyAllowed then some s
  else do
    let place := ⟨s.tokens.length, s.cursor.toPlace, s.needsKey⟩
    return { ← s.dropKey? with keyPlace := some place }

/-- **Put in the sign of a key** that started at a place, and of the mapping it opens. -/
def markKey (s : Layout) (k : KeyPlace) : Layout :=
  { (s.insert k.position .key).openBlock .blockMapping k.start.column k.position with
    keyPlace := none, keyAllowed := false }

/-! ### Gaps -/

/-- Move to the next token from a place in a line; `comment` tells whether the rest of
the line is one, `tabs` whether tabs may stand here.  The result tells, too, whether a
line was left. -/
def skipFrom (brackets : Bool) :
    List Char → Place → (comment tabs left : Bool) → Cursor × Bool
  | [], p, _, _, left => (⟨p, []⟩, left)
  | c :: cs, p, comment, tabs, left =>
    if isBreak c then skipFrom brackets cs p.nextLine false brackets true
    else if comment then skipFrom brackets cs (p.next c) true tabs left
    else if c = ' ' || (c = '\t' && tabs) then
      skipFrom brackets cs (p.next c) false tabs left
    else if c = '#' then skipFrom brackets cs (p.next c) true tabs left
    else (⟨p, c :: cs⟩, left)

/-- **Move to the next token**, ending the blocks that it does not belong to.  Outside
brackets a key may start in a new line. -/
def toToken? (s : Layout) : Option Layout := do
  let c := s.cursor
  let (cursor, left) :=
    skipFrom s.inBrackets c.rest c.toPlace false (s.inBrackets || !s.keyAllowed) false
  let keyAllowed := s.keyAllowed || (left && !s.inBrackets)
  -- a place that lies too far back is lost before its colon could be met
  let s ← dropLost? { s with cursor, keyAllowed }
  return s.closeBlocks (s.cursor.column + 1)

/-! ### Reading tokens -/

/-- A token that ends all blocks: a document marker or a directive. -/
def topLevel? (s : Layout) (t : Token) (stop : Cursor) : Option Layout := do
  let s ← (s.closeBlocks 0).dropKey?
  return { s.emit t with cursor := stop, keyAllowed := false }

/-- An opening bracket. -/
def openBrackets? (s : Layout) (t : Token) : Option Layout := do
  let s ← s.noteKey?
  return { s.sign t with outer := s.keyPlace :: s.outer, keyPlace := none, keyAllowed := true }

/-- A closing bracket. -/
def closeBrackets? (s : Layout) (t : Token) : Option Layout := do
  let s ← s.dropKey?
  return { s.sign t with
    outer := s.outer.drop 1, keyPlace := s.outer.head?.join, keyAllowed := false }

/-- A comma. -/
def comma? (s : Layout) : Option Layout := do
  let s ← s.dropKey?
  return { s.sign .comma with keyAllowed := true }

/-- The dash of an item. -/
def blockItem? (s : Layout) : Option Layout := do
  guard (s.inBrackets || s.keyAllowed)
  let s ← (s.openBlockHere .blockSequence).dropKey?
  return { s.sign .blockItem with keyAllowed := true }

/-- The sign of a key. -/
def key? (s : Layout) : Option Layout := do
  guard (s.inBrackets || s.keyAllowed)
  let s ← (s.openBlockHere .blockMapping).dropKey?
  return { s.sign .key with keyAllowed := !s.inBrackets }

/-- **The sign of a value**, after a key without a sign of its own or after one that has
it. -/
def value? (s : Layout) : Option Layout :=
  match s.keyPlace with
  | some k => some ((s.markKey k).sign .value)
  | none =>
    if !s.inBrackets && !s.keyAllowed then none
    else some { (s.openBlockHere .blockMapping).sign .value with keyAllowed := !s.inBrackets }

/-- A token that may start a key, and where it ends. -/
def content? (s : Layout) (read : Option (Token × Cursor)) : Option Layout := do
  let s ← s.noteKey?
  let (t, stop) ← read
  return { s.emit t with cursor := stop, keyAllowed := false }

/-- A scalar in quotes. -/
def quoted? (s : Layout) (read : Option (List Char × Cursor)) : Option Layout :=
  s.content? (read.map fun (text, stop) => (.scalar text .quoted, stop))

/-- A scalar without quotes.  If a line was left, a key may start where it ends. -/
def plain? (s : Layout) : Option Layout := do
  let c := s.cursor
  let p ← plain s.inBrackets s.least [] .empty c.rest c.toPlace
  let s ← s.content? (some (.scalar p.text .plain, p.stop))
  return { s with keyAllowed := p.leftLine }

/-- A scalar written as a block. -/
def block? (s : Layout) (style : Style) : Option Layout := do
  let s ← s.dropKey?
  let (text, stop) ← blockScalar? (style = .folded) s.least (s.cursor.advance 1)
  return { s.emit (.scalar text style) with cursor := stop, keyAllowed := true }

/-- **Read the token at the cursor.** -/
def read? (s : Layout) : Option Layout :=
  let c := s.cursor
  match c.rest with
  | [] => some s
  | ch :: cs =>
    if c.column = 0 && ch = '%' then
      match directive? c with
      | some (t, stop) => s.topLevel? t stop
      | none => none
    else if startsMarker '-' c.column c.rest then s.topLevel? .documentStart (c.advance 3)
    else if startsMarker '.' c.column c.rest then s.topLevel? .documentEnd (c.advance 3)
    else if ch = '[' then s.openBrackets? .openSequence
    else if ch = '\x7b' then s.openBrackets? .openMapping
    else if ch = ']' then s.closeBrackets? .closeSequence
    else if ch = '\x7d' then s.closeBrackets? .closeMapping
    else if ch = ',' then s.comma?
    else if ch = '-' && startsGap cs then s.blockItem?
    else if ch = '?' && (s.inBrackets || startsGap cs) then s.key?
    else if ch = ':' && (s.inBrackets || startsGap cs) then s.value?
    else if ch = '*' then
      s.content? ((anchorName? (c.advance 1)).map fun (name, stop) => (.alias name, stop))
    else if ch = '&' then
      s.content? ((anchorName? (c.advance 1)).map fun (name, stop) => (.anchor name, stop))
    else if ch = '!' then s.content? (tag? s.inBrackets c)
    else if ch = '|' && !s.inBrackets then s.block? .literal
    else if ch = '>' && !s.inBrackets then s.block? .folded
    else if ch = '\x27' then s.quoted? (single [] .empty cs (c.next ch))
    else if ch = '"' then s.quoted? (double [] .empty cs (c.next ch))
    else if startsPlain s.inBrackets c.rest then s.plain?
    else none

/-- The tokens of a text that has been read. -/
def finish? (s : Layout) : Option (List Token) := do
  let s ← (s.closeBlocks 0).dropKey?
  return s.tokens.reverse

/-- Read all tokens.  Every one has a character, so a budget of one more than the
characters that are left suffices. -/
def run? : Nat → Layout → Option (List Token)
  | 0, _ => none
  | fuel + 1, s => do
    let s ← s.toToken?
    if s.cursor.atEnd then s.finish? else run? fuel (← s.read?)

end Layout

/-- **The tokens of a text**, or `none` if it has none.  A byte order mark at the start
is no part of a token, but takes up a column. -/
def tokens? (text : String) : Option (List Token) :=
  let cs := text.toList
  if !cs.all isAllowed then none
  else
    let s := Layout.start (unifyBreaks cs)
    let s := match cs with
      | '\uFEFF' :: _ => { s with cursor := s.cursor.advance 1 }
      | _ => s
    s.run? (cs.length + 1)

end HttpDispatch.Yaml
