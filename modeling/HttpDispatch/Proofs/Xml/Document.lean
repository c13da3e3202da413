import HttpDispatch.Negotiation.Translator
import HttpDispatch.Proofs.Number.Writing
import HttpDispatch.Proofs.Text.Utf8
import HttpDispatch.Proofs.Xml.Name
import Mathlib.Data.List.Forall2

/-!
# Documents are read back

`readDocument?_xml`: the bytes that a value is translated into are the bytes of a document
that can be read, and what is read is the element tree of the value, whatever keys and texts
it holds.  So no text can open or close an element, and no key can do more than name one.

What the element tree of a value is is said by a relation, `Shows`, clause by clause, without
regard to how the tree is built.  That the tree can be read from its markup is left to
`read?_write`; it remains to see that it is legible (`legible_ofJson`), for which names are
all that matters.
-/

namespace HttpDispatch.Xml

/-! ### Texts -/

/-- A text that is not empty is legible content. -/
theorem allLegible_text {s : String} (h : s ≠ "") : AllLegible [.text s] :=
  ⟨h, fun _ => nofun, trivial⟩

/-- A node that is no text can stand in front of legible content. -/
theorem allLegible_cons {node : Node} {nodes : List Node} (hnode : node.Legible)
    (htext : node.isText = false) (hnodes : AllLegible nodes) : AllLegible (node :: nodes) :=
  ⟨hnode, fun h => absurd (htext.symm.trans h) (by decide), hnodes⟩

/-! ### Trees of values -/

/-- The node of a value is no text. -/
theorem isText_ofJson (name : String) (value : Json) : (ofJson name value).isText = false := by
  cases value <;> rfl

mutual

/-- **The tree of a value is legible.** -/
theorem legible_ofJson {name : String} (hname : isReadable name.toList = true) :
    (value : Json) → (ofJson name value).Legible
  | .null => hname
  | .bool true => ⟨hname, allLegible_text (by decide)⟩
  | .bool false => ⟨hname, allLegible_text (by decide)⟩
  | .number n => ⟨hname, allLegible_text (mt String.ofList_eq_empty_iff.1 n.write_ne_nil)⟩
  | .string s => by
      refine ⟨hname, ?_⟩
      unfold textContent
      split
      · trivial
      · next hs => exact allLegible_text hs
  | .array items => ⟨hname, allLegible_ofItems items⟩
  | .object members => ⟨hname, allLegible_ofMembers members⟩

/-- The trees of the items of a list are legible. -/
theorem allLegible_ofItems : (items : List Json) → AllLegible (ofItems items)
  | [] => trivial
  | item :: items =>
    allLegible_cons (legible_ofJson (by decide) item) (isText_ofJson _ _)
      (allLegible_ofItems items)

/-- The trees of the members of an object are legible. -/
theorem allLegible_ofMembers : (members : List (String × Json)) →
    AllLegible (ofMembers members)
  | [] => trivial
  | (key, value) :: members =>
    allLegible_cons (legible_ofJson (isReadable_elementName key) value) (isText_ofJson _ _)
      (allLegible_ofMembers members)

end

/-! ### What a tree shows -/

/-- **A node shows a value** under a name. -/
inductive Shows : String → Json → Node → Prop
  /-- Null is an empty-element tag. -/
  | null (name : String) : Shows name .null (.empty name)
  /-- A truth value is a text. -/
  | truth (name : String) (b : Bool) :
      Shows name (.bool b) (.element name [.text (if b then "true" else "false")])
  /-- A number is the text that it is written as. -/
  | number (name : String) (n : Number) :
      Shows name (.number n) (.element name [.text (String.ofList n.write)])
  /-- A text is that text. -/
  | text (name : String) {s : String} (ne : s ≠ "") :
      Shows name (.string s) (.element name [.text s])
  /-- The empty text is nothing. -/
  | blank (name : String) : Shows name (.string "") (.element name [])
  /-- A list is an element for each item, in order. -/
  | array (name : String) {items : List Json} {nodes : List Node}
      (each : List.Forall₂ (Shows "item") items nodes) :
      Shows name (.array items) (.element name nodes)
  /-- An object is an element for each member, in order, with the name that is made of the
  key. -/
  | object (name : String) {members : List (String × Json)} {nodes : List Node}
      (each : List.Forall₂ (fun member node => Shows (elementName member.1) member.2 node)
        members nodes) :
      Shows name (.object members) (.element name nodes)

mutual

/-- The tree of a value shows it. -/
theorem shows_ofJson (name : String) : (value : Json) → Shows name value (ofJson name value)
  | .null => .null name
  | .bool b => .truth name b
  | .number n => .number name n
  | .string s => by
      by_cases hs : s = ""
      · subst hs
        exact .blank name
      · have htree := Shows.text name hs
        rwa [← show textContent s = [.text s] from if_neg hs] at htree
  | .array items => .array name (shows_ofItems items)
  | .object members => .object name (shows_ofMembers members)

/-- The trees of the items of a list show them. -/
theorem shows_ofItems : (items : List Json) →
    List.Forall₂ (Shows "item") items (ofItems items)
  | [] => .nil
  | item :: items => .cons (shows_ofJson "item" item) (shows_ofItems items)

/-- The trees of the members of an object show them. -/
theorem shows_ofMembers : (members : List (String × Json)) →
    List.Forall₂ (fun member node => Shows (elementName member.1) member.2 node) members
      (ofMembers members)
  | [] => .nil
  | (key, value) :: members =>
    .cons (shows_ofJson (elementName key) value) (shows_ofMembers members)

end

mutual

/-- A value is shown in one way only. -/
theorem Shows.eq_ofJson {name : String} {node : Node} :
    {value : Json} → Shows name value node → node = ofJson name value
  | _, .null _ => rfl
  | _, .truth _ _ => rfl
  | _, .number _ _ => rfl
  | _, .text _ ne => by rw [ofJson, textContent, if_neg ne]
  | _, .blank _ => rfl
  | _, .array _ each => congrArg (Node.element name) (eq_ofItems each)
  | _, .object _ each => congrArg (Node.element name) (eq_ofMembers each)

/-- The items of a list are shown in one way only. -/
theorem eq_ofItems {nodes : List Node} :
    {items : List Json} → List.Forall₂ (Shows "item") items nodes → nodes = ofItems items
  | _, .nil => rfl
  | _, .cons first rest => by rw [ofItems, first.eq_ofJson, eq_ofItems rest]

/-- The members of an object are shown in one way only. -/
theorem eq_ofMembers {nodes : List Node} :
    {members : List (String × Json)} →
      List.Forall₂ (fun member node => Shows (elementName member.1) member.2 node) members
        nodes → nodes = ofMembers members
  | _, .nil => rfl
  | _, .cons first rest => by rw [ofMembers, first.eq_ofJson, eq_ofMembers rest]

end

/-- **The tree of a value is the one that shows it.** -/
theorem shows_iff {name : String} {value : Json} {node : Node} :
    Shows name value node ↔ node = ofJson name value :=
  ⟨Shows.eq_ofJson, fun h => h ▸ shows_ofJson name value⟩

/-! ### Documents -/

/-- **Read a document**: the markup after the declaration. -/
def readDocument? (bytes : List UInt8) : Option Node :=
  match Utf8.decode bytes with
  | .ok cs => (cs.dropPrefix? declaration.toList).bind read?
  | .error _ => none

/-- A document of a legible tree is read back. -/
theorem readDocument?_encode {root : Node} (h : root.Legible) (hroot : root.isText = false) :
    readDocument? (Utf8.encode (declaration.toList ++ write root)) = some root := by
  have hbody : (declaration.toList ++ write root).dropPrefix? declaration.toList
      = some (write root) :=
    List.dropPrefix?_eq_some_iff.2 ⟨_, rfl, BEq.rfl⟩
  rw [readDocument?, Utf8.decode_encode]
  simp only [hbody, Option.bind_some, read?_write h hroot]

/-- **What a value is translated into can be read**, and what is read is the one tree that
shows the value under the name `result`.  No other legible tree has the same document. -/
theorem readDocument?_xml (value : Json) :
    ∃ bytes root, Translator.xml.run value = .ok bytes ∧ readDocument? bytes = some root ∧
      (∀ node, Shows "result" value node ↔ node = root) ∧
      ∀ tree : Node, tree.Legible → tree.isText = false →
        Utf8.encode (declaration.toList ++ write tree) = bytes → tree = root := by
  have hread : readDocument? (Utf8.encode (document value)) = some (ofJson "result" value) :=
    readDocument?_encode (legible_ofJson (by decide) value) (isText_ofJson _ _)
  refine ⟨_, _, rfl, hread, fun node => shows_iff, ?_⟩
  intro tree htree hroot hbytes
  rw [← hbytes, readDocument?_encode htree hroot] at hread
  exact Option.some.inj hread

/-- What looks like markup is a name in a key, and a text in a text. -/
example : read? (write (ofJson "result" (.object [("a>b", .string "</a_b>&lt;")]))) =
    some (.element "result" [.element "a_b" [.text "</a_b>&lt;"]]) := rfl

end HttpDispatch.Xml
