import HttpDispatch.Text.CodePoints

/-!
# Blank characters and trimming

A character is blank if it has the Unicode property White_Space: the six ASCII
blanks, the next-line and no-break spaces, and the spaces and separators of the
general punctuation and ideographic blocks.  Zero-width characters are not blank.
`Text.trim` drops blank characters at both ends of a text.
-/

namespace HttpDispatch.Text

/-- The code points with the property White_Space. -/
def blankTable : CodePoints :=
  [(0x09, 0x0D), (0x20, 0x20), (0x85, 0x85), (0xA0, 0xA0), (0x1680, 0x1680),
    (0x2000, 0x200A), (0x2028, 0x2029), (0x202F, 0x202F), (0x205F, 0x205F), (0x3000, 0x3000)]

/-- Whether a character is blank. -/
def isBlank (c : Char) : Bool := blankTable.has c

/-- Drop blank characters at the end. -/
def trimEnd (cs : List Char) : List Char := (cs.reverse.dropWhile isBlank).reverse

/-- **Drop blank characters at both ends.** -/
def trim (cs : List Char) : List Char := trimEnd (cs.dropWhile isBlank)

/-- `trim` for stored text. -/
def trimmed (s : String) : String := String.ofList (trim s.toList)

@[simp] theorem trim_nil : trim [] = [] := rfl

/-- Nothing is dropped from a text without blank characters. -/
theorem trim_of_not_blank {cs : List Char} (h : ∀ c ∈ cs, isBlank c = false) : trim cs = cs := by
  have hnone : ∀ cs : List Char, (∀ c ∈ cs, isBlank c = false) → cs.dropWhile isBlank = cs := by
    intro cs h
    cases cs with
    | nil => rfl
    | cons c cs => exact List.dropWhile_cons_of_neg (by simp [h c List.mem_cons_self])
  rw [trim, hnone cs h, trimEnd, hnone cs.reverse fun c hc => h c (List.mem_reverse.1 hc),
    List.reverse_reverse]

end HttpDispatch.Text
