import HttpDispatch.Text.Numeral
import HttpDispatch.Yaml.Cursor
import HttpDispatch.Yaml.Token

/-!
# Anchors, tags and directives

The tokens about a node, and those about a document: a line that starts with a percent
sign tells the version of the format, or lets a handle stand for the start of tags.

In a tag, a percent sign and two hexadecimal digits stand for a byte.  The bytes written
this way have to come in runs of the form of a UTF-8 character.
-/

namespace HttpDispatch.Yaml

/-- Whether a character may stand in a name. -/
def isWordChar (c : Char) : Bool :=
  ('0' ≤ c && c ≤ '9') || ('A' ≤ c && c ≤ 'Z') || ('a' ≤ c && c ≤ 'z') || c = '-' || c = '_'

/-! ### Anchors -/

/-- **Read a name** after its sign.  It is not empty, and only some signs may follow it
directly. -/
def anchorName? (c : Cursor) : Option (List Char × Cursor) :=
  let name := c.rest.takeWhile isWordChar
  let stop := c.advance name.length
  let ends := match stop.rest with
    | [] => true
    | d :: _ => isSpace d || isBreak d || d ∈ ['?', ':', ',', ']', '\x7d', '%', '@', '\x60']
  if !name.isEmpty && ends then some (name, stop) else none

/-! ### Tags -/

/-- How many bytes follow a byte in a character that starts with it. -/
def tailLength? (byte : Nat) : Option Nat :=
  if byte < 0x80 then some 0
  else if byte < 0xC0 then none
  else if byte < 0xE0 then some 1
  else if byte < 0xF0 then some 2
  else if byte < 0xF8 then some 3
  else none

/-- Whether a character may stand in a tag; `signs` allows a comma and brackets. -/
def isTagChar (signs : Bool) (c : Char) : Bool :=
  isWordChar c
    || c ∈ [';', '/', '?', ':', '@', '&', '=', '+', '$', '.', '!', '~', '*', '\x27', '(', ')']
    || (signs && c ∈ [',', '[', ']'])

/-- How many bytes have to follow a byte, if `tail` bytes from it on belong to a character
that has begun. -/
def tailAfter? (tail byte : Nat) : Option Nat :=
  if tail = 0 then tailLength? byte
  else if 0x80 ≤ byte ∧ byte < 0xC0 then some (tail - 1)
  else none

/-- **Read the bytes of a tag** as far as they go; `tail` more bytes belong to the
character that has begun. -/
def tagBytes (signs : Bool) (tail : Nat) (read : Tag) : List Char → Option (Tag × List Char)
  | [] => if tail = 0 then some (read.reverse, []) else none
  | c :: cs =>
    if c = '%' then
      match cs with
      | a :: b :: rest => do
        let byte ← Numeral.inBase? 16 [a, b]
        let tail ← tailAfter? tail byte
        tagBytes signs tail (byte.toUInt8 :: read) rest
      | _ => none
    else if tail ≠ 0 then none
    else if isTagChar signs c then tagBytes signs 0 (c.toNat.toUInt8 :: read) cs
    else some (read.reverse, c :: cs)

/-- What counts of the bytes of a tag: those before a zero. -/
def beforeZero (bytes : Tag) : Tag := bytes.takeWhile (· ≠ 0)

/-- The bytes of a tag, at least one. -/
def tagBytes? (signs : Bool) (c : Cursor) : Option (Tag × Cursor) := do
  let (bytes, rest) ← tagBytes signs 0 [] c.rest
  guard (bytes ≠ [])
  return (beforeZero bytes, c.upTo rest)

/-- The word after an exclamation mark, and the mark that closes it if there is one. -/
def markedWord (c : Cursor) : List Char × Cursor :=
  let word := (c.rest.drop 1).takeWhile isWordChar
  let stop := c.advance (1 + word.length)
  match stop.rest with
  | '!' :: _ => ('!' :: word ++ ['!'], stop.advance 1)
  | _ => ('!' :: word, stop)

/-- **Read a tag**, at its exclamation mark: the whole tag between angle brackets, or a
handle with two marks and the rest, or a single mark and the rest.  A mark alone is a
tag, too. -/
def tag? (brackets : Bool) (c : Cursor) : Option (Token × Cursor) := do
  let (token, stop) ← match c.rest with
    | '!' :: '<' :: _ => do
      let (bytes, stop) ← tagBytes? true (c.advance 2)
      match stop.rest with
      | '>' :: _ => some (Token.tag [] bytes, stop.advance 1)
      | _ => none
    | _ => do
      let (name, stop) := markedWord c
      if name.length ≠ 1 ∧ name.getLast? = some '!' then
        let (bytes, stop) ← tagBytes? false stop
        some (Token.tag name bytes, stop)
      else
        -- no second mark: the word belongs to what follows the only one
        let (bytes, rest) ← tagBytes false 0 [] (c.rest.drop 1)
        let bytes := beforeZero bytes
        if bytes = [] then some (Token.tag [] Tag.nonSpecific, c.upTo rest)
        else some (Token.tag ['!'] bytes, c.upTo rest)
  guard (startsGap stop.rest || (brackets && stop.rest.head? = some ','))
  return (token, stop)

/-! ### Directives -/

/-- A part of a version, of at most nine digits. -/
def versionPart? (c : Cursor) : Option (Nat × Cursor) :=
  let digits := c.rest.takeWhile fun d => '0' ≤ d && d ≤ '9'
  if digits ≠ [] ∧ digits.length ≤ 9 then
    some (digits.foldl (fun n d => 10 * n + (d.toNat - '0'.toNat)) 0, c.advance digits.length)
  else none

/-- The two parts of a version. -/
def versionDirective? (c : Cursor) : Option (Token × Cursor) := do
  let (major, stop) ← versionPart? c.skipSpace
  match stop.rest with
  | '.' :: _ => do
    let (minor, stop) ← versionPart? (stop.advance 1)
    return (.version major minor, stop)
  | _ => none

/-- A handle and the start of the tags that it stands for. -/
def handleDirective? (c : Cursor) : Option (Token × Cursor) := do
  let c := c.skipSpace
  guard (c.rest.head? = some '!')
  let (name, stop) := markedWord c
  guard (name.length = 1 || name.getLast? = some '!')
  guard (stop.rest.head?.any isSpace)
  let (bytes, stop) ← tagBytes? true stop.skipSpace
  guard (startsGap stop.rest)
  return (.handle name bytes, stop)

/-- **Read a directive**, at its percent sign, to the end of its line. -/
def directive? (c : Cursor) : Option (Token × Cursor) := do
  let name := (c.rest.drop 1).takeWhile isWordChar
  let stop := c.advance (1 + name.length)
  guard (startsGap stop.rest)
  let (token, stop) ←
    if name = "YAML".toList then versionDirective? stop
    else if name = "TAG".toList then handleDirective? stop
    else none
  return (token, ← stop.leaveLine?)

end HttpDispatch.Yaml
