import HttpDispatch.Text.Numeral
import HttpDispatch.Yaml.Token

/-!
# YAML nodes

What a document holds: scalars, sequences, mappings, and aliases, which stand for
another node of the document.  A scalar keeps its text, the way it is written and its
tag, since these decide what it can be read as.

* Any scalar is a text.
* A plain scalar can be a number, a truth value or nothing, whatever its tag.  So can
  one written as a literal block, if its tag asks for that.

The readers of this module expect nodes that are no aliases; `Document.resolve` gives
them.
-/

namespace HttpDispatch.Yaml

/-- A node of a document. -/
inductive Node where
  /-- A scalar. -/
  | scalar (text : String) (style : Style) (tag : Option Tag)
  /-- A sequence of nodes. -/
  | sequence (items : List Node)
  /-- A mapping, in the order of the document. -/
  | mapping (entries : List (Node × Node))
  /-- A node that stands elsewhere under a number. -/
  | alias (number : Nat)
  deriving Repr, Inhabited

namespace Node

/-- The node that stands where nothing is written. -/
def absent : Node := scalar "" .plain none

/-! ### Scalars as values -/

/-- The text of a scalar, however written. -/
def text? : Node → Option String
  | scalar text _ _ => some text
  | _ => none

/-- The text of a scalar that may be a value of the type with a standard name. -/
def valueText? (type : String) : Node → Option String
  | scalar text .plain _ => some text
  | scalar text .literal (some tag) => if tag = Tag.ofType type then some text else none
  | _ => none

/-- **The truth value of a scalar.** -/
def bool? (n : Node) : Option Bool := (n.valueText? "bool").bind fun text =>
  if text ∈ ["true", "True", "TRUE"] then some true
  else if text ∈ ["false", "False", "FALSE"] then some false
  else none

/-- The number that some characters mean: decimal without superfluous zeros in front, or
with the mark of base sixteen, eight or two, after at most one plus sign. -/
def naturalOf? (cs : List Char) : Option Nat :=
  match (match cs with
    | '+' :: rest => rest
    | _ => cs) with
  | '0' :: 'x' :: rest => Numeral.inBase? 16 rest
  | '0' :: 'o' :: rest => Numeral.inBase? 8 rest
  | '0' :: 'b' :: rest => Numeral.inBase? 2 rest
  | '0' :: _ :: _ => none
  | digits => Numeral.inBase? 10 digits

/-- **The unsigned number of a scalar**, of at most `bits` bits. -/
def unsigned? (bits : Nat) (n : Node) : Option Nat :=
  (n.valueText? "int").bind fun text => (naturalOf? text.toList).filter (· < Nat.pow 2 bits)

/-! ### Nothing -/

/-- Whether a word means nothing. -/
def isNullWord (text : String) : Bool := text ∈ ["~", "null", "Null", "NULL"]

/-- **Whether a node stands for no value.**  Only a plain scalar can: without a tag if it
is empty or a word that means nothing.  With the tag of nothing it has to be such a
word, and there is no answer if it is not. -/
def isNull? : Node → Option Bool
  | scalar text .plain none => some (text = "" || isNullWord text)
  | scalar text .plain (some tag) =>
    if tag = Tag.ofType "null" then (if isNullWord text then some true else none)
    else some false
  | _ => some false

/-! ### Collections and choices -/

/-- The entries of a mapping; nothing written counts as a mapping without entries. -/
def entries? : Node → Option (List (Node × Node))
  | mapping entries => some entries
  | scalar "" .plain _ => some []
  | _ => none

/-- The name that a tag gives to a choice. -/
def choiceOfTag? (tag : Option Tag) : Option String :=
  (tag.bind Tag.local?).bind fun name => String.fromUTF8? ⟨name.toArray⟩

/-- **The name of a choice** without contents: that of the tag if it gives one, and then
the scalar has to stand for nothing; otherwise the text. -/
def choice? : Node → Option String
  | scalar text style tag =>
    match choiceOfTag? tag with
    | some name => if style = .plain && (text = "" || isNullWord text) then some name else none
    | none => some text
  | _ => none

end Node

/-! ### Documents -/

/-- **A document**: its root, and the nodes that aliases stand for. -/
structure Document where
  /-- The outermost node. -/
  root : Node
  /-- Nodes under numbers; of a number the first one counts. -/
  numbered : List (Nat × Node)
  deriving Repr

namespace Document

/-- The node that a node stands for.  What has a number is no alias itself, so that one
step suffices. -/
def resolve (d : Document) : Node → Node
  | .alias number => (d.numbered.lookup number).getD .absent
  | n => n

end Document

end HttpDispatch.Yaml
