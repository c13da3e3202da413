import HttpDispatch.Json.Printer
import HttpDispatch.Text.Alphabetic
import HttpDispatch.Text.Numeric

/-!
# JSON values as XML

A value is written as an element: its scalars as text, the items of a list as
`item` elements, the members of an object as elements named after their keys.
Null is an empty-element tag.

Writing has two steps.  `Xml.ofJson` builds the element tree, and `Xml.write`
writes a tree as markup.  All escaping is in the second step, so that a text can
never become markup; all naming is in the first.

## Main definitions

* `Xml.Node` — a text, an empty-element tag, or an element with content
* `Xml.elementName` — the element name for a key
* `Xml.ofJson`, `Xml.write`
* `Xml.document` — a whole document, with its declaration
-/

namespace HttpDispatch.Xml

/-- A piece of an XML document. -/
inductive Node where
  /-- Text between tags. -/
  | text (content : String)
  /-- An empty-element tag. -/
  | empty (name : String)
  /-- A start tag, content and an end tag. -/
  | element (name : String) (content : List Node)
  deriving Repr, Inhabited

/-! ### Names -/

/-- Whether an element name takes over a character from a key. -/
def isNameChar (c : Char) : Bool :=
  Text.isAlphabetic c || Text.isNumeric c || c = '_' || c = '-' || c = '.'

/-- Whether an element name may start with a character. -/
def isNameStart (c : Char) : Bool := Text.isAlphabetic c || c = '_'

/-- `elementName` on characters. -/
def nameChars (key : List Char) : List Char :=
  match key.map fun c => if isNameChar c then c else '_' with
  | [] => ['_']
  | c :: rest => if isNameStart c then c :: rest else '_' :: c :: rest

/-- **The element name for a key**: what is no letter, digit, `_`, `-` or `.` becomes
`_`, and a `_` comes in front unless the name starts with a letter or `_`. -/
def elementName (key : String) : String := String.ofList (nameChars key.toList)

/-! ### The element tree of a value -/

/-- The content of an element that holds a text: an empty text is nothing. -/
def textContent (s : String) : List Node := if s = "" then [] else [.text s]

mutual

/-- **The element of a value.** -/
def ofJson (name : String) : Json → Node
  | .null => .empty name
  | .bool b => .element name [.text (if b then "true" else "false")]
  | .number n => .element name [.text (String.ofList n.write)]
  | .string s => .element name (textContent s)
  | .array items => .element name (ofItems items)
  | .object members => .element name (ofMembers members)

/-- The elements of the items of a list. -/
def ofItems : List Json → List Node
  | [] => []
  | item :: items => ofJson "item" item :: ofItems items

/-- The elements of the members of an object. -/
def ofMembers : List (String × Json) → List Node
  | [] => []
  | (key, value) :: members => ofJson (elementName key) value :: ofMembers members

end

/-! ### Markup -/

/-- How a character of a text is written: the five that have an entity by it. -/
def escapeChar (c : Char) : List Char :=
  if c = '&' then "&amp;".toList
  else if c = '<' then "&lt;".toList
  else if c = '>' then "&gt;".toList
  else if c = '"' then "&quot;".toList
  else if c = '\'' then "&apos;".toList
  else [c]

mutual

/-- **The markup of a node.** -/
def write : Node → List Char
  | .text content => content.toList.flatMap escapeChar
  | .empty name => '<' :: name.toList ++ ['/', '>']
  | .element name content =>
    '<' :: name.toList ++ '>' :: writeAll content ++ '<' :: '/' :: name.toList ++ ['>']

/-- The markup of some nodes, one after the other. -/
def writeAll : List Node → List Char
  | [] => []
  | node :: nodes => write node ++ writeAll nodes

end

/-- The declaration in front of a document. -/
def declaration : String := "<?xml version=\"1.0\" encoding=\"UTF-8\"?>"

/-- **The document of a value**, whose root element is `result`. -/
def document (value : Json) : List Char := declaration.toList ++ write (ofJson "result" value)

end HttpDispatch.Xml
