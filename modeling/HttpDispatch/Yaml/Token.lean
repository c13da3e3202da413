/-!
# YAML tokens

The signs of a YAML text, and the blocks that its columns stand for.
-/

namespace HttpDispatch.Yaml

/-- How a scalar is written. -/
inductive Style where
  /-- Without quotes. -/
  | plain
  /-- In quotes of either kind. -/
  | quoted
  /-- As a block of lines. -/
  | literal
  /-- As a block of lines to be joined. -/
  | folded
  deriving DecidableEq, Repr

/-- **A tag**: a sequence of bytes that names the type of a node. -/
abbrev Tag := List UInt8

namespace Tag

/-- The tag of bytes that are ASCII characters. -/
def ofAscii (text : String) : Tag := text.toList.map fun c => c.toNat.toUInt8

/-- The tag that does not tell a type.  A scalar that has it counts as one without a
tag. -/
def nonSpecific : Tag := ofAscii "!"

/-- What the tags of standard types start with. -/
def standard : Tag := ofAscii "tag:yaml.org,2002:"

/-- The tag of a standard type. -/
def ofType (name : String) : Tag := standard ++ ofAscii name

/-- The name after the exclamation mark of a tag that is not a standard one. -/
def local? : Tag → Option (List UInt8)
  | [] => none
  | mark :: name => if [mark] = nonSpecific then some name else none

end Tag

/-- A token. -/
inductive Token where
  /-- The marker before a document. -/
  | documentStart
  /-- The marker after a document. -/
  | documentEnd
  /-- The directive that tells the version. -/
  | version (major minor : Nat)
  /-- The directive that lets a handle stand for the start of a tag. -/
  | handle (name : List Char) (lead : Tag)
  /-- A sequence in a column begins. -/
  | blockSequence
  /-- A mapping in a column begins. -/
  | blockMapping
  /-- The innermost collection in a column ends. -/
  | blockEnd
  /-- The dash before an item in a column. -/
  | blockItem
  /-- An opening bracket. -/
  | openSequence
  /-- A closing bracket. -/
  | closeSequence
  /-- An opening brace. -/
  | openMapping
  /-- A closing brace. -/
  | closeMapping
  /-- A comma between items in brackets. -/
  | comma
  /-- A key follows. -/
  | key
  /-- The value of a key follows. -/
  | value
  /-- A name for the node that follows. -/
  | anchor (name : List Char)
  /-- The node that has a name. -/
  | alias (name : List Char)
  /-- The tag of the node that follows: a handle, which may be empty, and what it
  stands before. -/
  | tag (handle : List Char) (rest : Tag)
  /-- A scalar. -/
  | scalar (text : List Char) (style : Style)
  deriving DecidableEq, Repr

end HttpDispatch.Yaml
