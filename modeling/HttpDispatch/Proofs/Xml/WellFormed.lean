import HttpDispatch.Proofs.Xml.Document

/-!
# When a document is well-formed

A document is well-formed by XML 1.0, fifth edition, if it can be read, its names match the
production Name and its texts consist of characters of the production Char.  A translated value
can always be read (`readDocument?_xml`), but for the rest it depends on the value.
`wellFormed_xml_iff` is the exact condition.

* A text at any depth must consist of characters of the production.  The translator replaces
  the five characters that have an entity and passes on all others, among them the control
  characters, which the standard excludes.
* A key at any depth must hold no stray and not start with a mark, see
  `Standard.isName_elementName`.

Numbers and truth values are always in order.
-/

namespace HttpDispatch.Xml

/-! ### Conforming trees -/

/-- The production Char. -/
def Standard.charTable : CodePoints :=
  [(0x9, 0xA), (0xD, 0xD), (0x20, 0xD7FF), (0xE000, 0xFFFD), (0x10000, 0x10FFFF)]

/-- All characters are of the production Char. -/
def Standard.IsText (s : String) : Prop := ∀ c ∈ s.toList, charTable.has c = true

open Standard

mutual

/-- **A conforming tree**: its names are names and its texts are texts by the standard. -/
def Node.Conforms : Node → Prop
  | .text s => IsText s
  | .empty name => isName name.toList = true
  | .element name content => isName name.toList = true ∧ AllConform content

/-- All nodes of a list conform. -/
def AllConform : List Node → Prop
  | [] => True
  | node :: nodes => node.Conforms ∧ AllConform nodes

end

/-- **A well-formed document**: it is read as a conforming tree. -/
def WellFormed (bytes : List UInt8) : Prop :=
  ∃ root, readDocument? bytes = some root ∧ root.Conforms

/-! ### Conditions on values -/

/-- A key that gives a name: it holds no stray and does not start with a mark. -/
def NamesElement (key : String) : Prop :=
  (∀ c ∈ key.toList, isStray c = false) ∧ ∀ c ∈ key.toList.head?, markTable.has c = false

mutual

/-- **Every text and every key** of a value, at any depth, has some property. -/
def Everywhere (text key : String → Prop) : Json → Prop
  | .null => True
  | .bool _ => True
  | .number _ => True
  | .string s => text s
  | .array items => EverywhereInItems text key items
  | .object members => EverywhereInMembers text key members

/-- Every text and every key of some values has some property. -/
def EverywhereInItems (text key : String → Prop) : List Json → Prop
  | [] => True
  | item :: items => Everywhere text key item ∧ EverywhereInItems text key items

/-- Every text and every key of some members, their own keys included, has some property. -/
def EverywhereInMembers (text key : String → Prop) : List (String × Json) → Prop
  | [] => True
  | (k, value) :: members =>
    key k ∧ Everywhere text key value ∧ EverywhereInMembers text key members

end

/-! ### Trees of values -/

/-- A figure is a character of the standard. -/
theorem has_charTable_of_isFigure {c : Char} (h : isFigure c = true) :
    charTable.has c = true := by
  have hothers : ['-', '+', '.', 'e'].all charTable.has = true := by decide
  rw [isFigure, Bool.or_eq_true, List.contains_iff_mem] at h
  rcases h with h | h
  · have hdigit : '0'.toNat ≤ c.toNat ∧ c.toNat ≤ '9'.toNat := by
      simpa [Char.isDigit, UInt32.le_iff_toNat_le] using h
    have hrange : CodePoints.Within c.toNat (0x20, 0xD7FF) :=
      ⟨Nat.le_trans (by decide) hdigit.1, Nat.le_trans hdigit.2 (by decide)⟩
    exact CodePoints.hasCode_of_mem (by decide) (by decide) hrange
  · exact List.all_eq_true.1 hothers c h

/-- Numbers are written in characters of the standard. -/
theorem isText_number (n : Number) : IsText (String.ofList n.write) := by
  intro c hc
  rw [String.toList_ofList] at hc
  exact has_charTable_of_isFigure (n.figures_write c hc)

/-- Truth values are written in characters of the standard. -/
theorem isText_truth (b : Bool) : IsText (if b then "true" else "false") := by
  cases b with
  | true => exact List.all_eq_true.1 (by decide)
  | false => exact List.all_eq_true.1 (by decide)

/-- The content that holds a text conforms exactly if the text does. -/
theorem allConform_textContent {s : String} : AllConform (textContent s) ↔ IsText s := by
  unfold textContent
  split
  · next h => simp [AllConform, h, IsText]
  · exact and_iff_left trivial

mutual

/-- **The tree of a value conforms** exactly if its own name is a name, its texts are texts and
its keys give names. -/
theorem conforms_ofJson (name : String) : (value : Json) →
    ((ofJson name value).Conforms ↔
      isName name.toList = true ∧ Everywhere IsText NamesElement value)
  | .null => (and_iff_left trivial).symm
  | .bool b => and_congr_right fun _ => iff_of_true ⟨isText_truth b, trivial⟩ trivial
  | .number n => and_congr_right fun _ => iff_of_true ⟨isText_number n, trivial⟩ trivial
  | .string _ => and_congr_right fun _ => allConform_textContent
  | .array items => and_congr_right fun _ => allConform_ofItems items
  | .object members => and_congr_right fun _ => allConform_ofMembers members

/-- The trees of the items of a list conform exactly if their texts and keys do. -/
theorem allConform_ofItems : (items : List Json) →
    (AllConform (ofItems items) ↔ EverywhereInItems IsText NamesElement items)
  | [] => Iff.rfl
  | item :: items =>
    have hitem : (ofJson "item" item).Conforms ↔ Everywhere IsText NamesElement item :=
      (conforms_ofJson "item" item).trans (and_iff_right (by decide))
    and_congr hitem (allConform_ofItems items)

/-- The trees of the members of an object conform exactly if their texts and keys do. -/
theorem allConform_ofMembers : (members : List (String × Json)) →
    (AllConform (ofMembers members) ↔ EverywhereInMembers IsText NamesElement members)
  | [] => Iff.rfl
  | (key, value) :: members =>
    have hvalue : (ofJson (elementName key) value).Conforms ↔
        NamesElement key ∧ Everywhere IsText NamesElement value :=
      (conforms_ofJson (elementName key) value).trans
        (and_congr_left' (isName_elementName key))
    (and_congr hvalue (allConform_ofMembers members)).trans and_assoc

end

/-! ### Documents -/

/-- **A value is translated into a well-formed document** exactly if its texts consist of
characters of the standard and its keys hold no strays and do not start with marks. -/
theorem wellFormed_xml_iff (value : Json) :
    ∃ bytes, Translator.xml.run value = .ok bytes ∧
      (WellFormed bytes ↔ Everywhere IsText NamesElement value) := by
  have hread : readDocument? (Utf8.encode (document value)) = some (ofJson "result" value) :=
    readDocument?_encode (legible_ofJson (by decide) value) (isText_ofJson _ _)
  have hroot : (ofJson "result" value).Conforms ↔ Everywhere IsText NamesElement value :=
    (conforms_ofJson "result" value).trans (and_iff_right (by decide))
  refine ⟨_, rfl, ?_⟩
  rw [← hroot]
  constructor
  · rintro ⟨root, hread', hconforms⟩
    rw [hread] at hread'
    cases hread'
    exact hconforms
  · exact fun hconforms => ⟨_, hread, hconforms⟩

/-- A control character in a text is passed on, though no document may hold it. -/
example : ¬ Everywhere IsText NamesElement (.string "\u0001") := fun htext =>
  absurd (htext '\u0001' (by decide)) (by decide)

end HttpDispatch.Xml
