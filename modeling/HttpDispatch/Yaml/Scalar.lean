import HttpDispatch.Text.Numeral
import HttpDispatch.Yaml.Cursor

/-!
# Plain and quoted scalars

* A **plain** scalar ends before a colon or a comment sign that a blank makes
  one, inside brackets also before a bracket or a comma.  It goes on in the next
  line if that is indented far enough.
* A **quoted** scalar ends at its quote.  No document marker may stand in it.

## Design notes

**Gaps.**  What blanks and line breaks mean is decided by what follows them, so they
are kept as a `Gap` until then.  Blanks within a line count, those around a line break
do not.  A break that is a line feed becomes a space, or nothing if empty lines
follow, whose breaks are kept.
-/

namespace HttpDispatch.Yaml

/-! ### Gaps -/

/-- Blanks and line breaks just read. -/
inductive Gap where
  /-- Blanks within a line, last first. -/
  | spaces (cs : List Char)
  /-- At least one line break: the first one unless it was escaped, and the others,
  last first. -/
  | breaks (first : Option Char) (more : List Char)
  deriving DecidableEq, Repr

namespace Gap

/-- Nothing read. -/
def empty : Gap := spaces []

/-- Add a blank; it does not count in a new line. -/
def addSpace (c : Char) : Gap → Gap
  | spaces cs => spaces (c :: cs)
  | breaks first more => breaks first more

/-- Add a line break; blanks before it do not count. -/
def addBreak (c : Char) : Gap → Gap
  | spaces _ => breaks (some c) []
  | breaks first more => breaks first (c :: more)

/-- Whether a line break was read. -/
def leftLine : Gap → Bool
  | spaces _ => false
  | breaks _ _ => true

/-- **What a gap stands for**, in front of `text`, last characters first. -/
def onto (text : List Char) : Gap → List Char
  | spaces cs => cs ++ text
  | breaks (some '\n') [] => ' ' :: text
  | breaks (some '\n') more => more ++ text
  | breaks first more => more ++ first.toList ++ text

end Gap

/-! ### Plain scalars -/

/-- Whether a plain scalar can start here. -/
def startsPlain (brackets : Bool) : List Char → Bool
  | [] => false
  | c :: cs =>
    if c = '-' then match cs with
      | [] => true
      | d :: _ => !isSpace d
    else if c = '?' || c = ':' then !brackets && !startsGap cs
    else !isSpace c && !isBreak c && !isFlowSign c
      && c ∉ ['#', '&', '*', '!', '|', '>', '\x27', '"', '%', '@', '\x60']

/-- A plain scalar and where it ends. -/
structure Plain where
  /-- Its text. -/
  text : List Char
  /-- The place of the next token. -/
  stop : Cursor
  /-- Whether that is in a later line. -/
  leftLine : Bool

/-- Whether a plain scalar ends before its next character. -/
def endsPlain (brackets : Bool) (c : Char) (cs : List Char) : Bool :=
  (c = ':' && startsGap cs) || (brackets && isFlowSign c)

/-- Whether a plain scalar cannot go on after a gap. -/
def endsAfterGap (brackets : Bool) (least column : Nat) (c : Char) (cs : List Char) : Bool :=
  (!brackets && column < least) || startsAnyMarker column (c :: cs) || c = '#'

/-- Whether a colon stands in brackets where it is neither part of a text nor before
a value. -/
def isStrayColon (brackets : Bool) (c : Char) (cs : List Char) : Bool :=
  brackets && c = ':' && cs.head?.any fun d => d = '?' || isFlowSign d

/-- **Read a plain scalar**; `least` is the least column of its later lines, and no tab
may stand left of it. -/
def plain (brackets : Bool) (least : Nat) (text : List Char) (gap : Gap) :
    List Char → Place → Option Plain
  | [], p => some ⟨text.reverse, ⟨p, []⟩, gap.leftLine⟩
  | c :: cs, p =>
    if isBreak c then plain brackets least text (gap.addBreak c) cs p.nextLine
    else if isSpace c then
      -- a tab would leave open how far the line is indented
      if c = '\t' && gap.leftLine && p.column < least then none
      else plain brackets least text (gap.addSpace c) cs (p.next c)
    else if gap ≠ .empty && endsAfterGap brackets least p.column c cs then
      some ⟨text.reverse, ⟨p, c :: cs⟩, gap.leftLine⟩
    else if isStrayColon brackets c cs then none
    else if endsPlain brackets c cs then
      some ⟨text.reverse, ⟨p, c :: cs⟩, gap.leftLine⟩
    else plain brackets least (c :: gap.onto text) .empty cs (p.next c)

/-! ### Quoted scalars -/

/-- **Read a scalar in single quotes**, after the opening one. -/
def single (text : List Char) (gap : Gap) :
    List Char → Place → Option (List Char × Cursor)
  | [], _ => none
  | c :: cs, p =>
    if isBreak c then single text (gap.addBreak c) cs p.nextLine
    else if isSpace c then single text (gap.addSpace c) cs (p.next c)
    else if startsAnyMarker p.column (c :: cs) then none
    else if c = '\x27' then match cs with
      | '\x27' :: rest => single ('\x27' :: gap.onto text) .empty rest ((p.next c).next c)
      | _ => some ((gap.onto text).reverse, ⟨p.next c, cs⟩)
    else single (c :: gap.onto text) .empty cs (p.next c)

/-- Escapes of one character. -/
def escapes : List (Char × Char) :=
  [('0', '\x00'), ('a', '\x07'), ('b', '\x08'), ('t', '\t'), ('\t', '\t'), ('n', '\n'),
    ('v', '\x0b'), ('f', '\x0c'), ('r', '\r'), ('e', '\x1b'), (' ', ' '), ('"', '"'), ('/', '/'),
    ('\\', '\\'), ('N', '\u0085'), ('_', '\u00a0'), ('L', '\u2028'), ('P', '\u2029')]

/-- The number of digits of an escape by code point. -/
def escapeWidth? : Char → Option Nat
  | 'x' => some 2
  | 'u' => some 4
  | 'U' => some 8
  | _ => none

/-- Read an escape after the backslash: its character, and its length. -/
def escape? : List Char → Option (Char × Nat)
  | [] => none
  | c :: cs =>
    match escapes.lookup c with
    | some e => some (e, 1)
    | none => do
      let width ← escapeWidth? c
      let code ← Numeral.inBase? 16 (cs.take width)
      if h : (cs.take width).length = width ∧ code.isValidChar then
        some (Char.ofNatAux code h.2, width + 1)
      else none

/-- **Read a scalar in double quotes**, after the opening one.  An escaped line break
stands for nothing. -/
def double (text : List Char) (gap : Gap) (rest : List Char) (p : Place) :
    Option (List Char × Cursor) :=
  match rest with
  | [] => none
  | c :: cs =>
    if isBreak c then double text (gap.addBreak c) cs p.nextLine
    else if isSpace c then double text (gap.addSpace c) cs (p.next c)
    else if startsAnyMarker p.column (c :: cs) then none
    else if c = '"' then some ((gap.onto text).reverse, ⟨p.next c, cs⟩)
    else if c = '\\' then
      if cs.head?.any isBreak then
        -- blanks before the backslash count, those after the break do not
        double (gap.onto text) (.breaks none []) (cs.drop 1) p.nextLine
      else match escape? cs with
        | some (e, length) =>
          double (e :: gap.onto text) .empty (cs.drop length) ((p.next c).after (cs.take length))
        | none => none
    else double (c :: gap.onto text) .empty cs (p.next c)
  termination_by rest.length
  decreasing_by all_goals (simp only [List.length_drop, List.length_cons]; omega)

end HttpDispatch.Yaml
