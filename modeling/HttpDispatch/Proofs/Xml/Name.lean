import HttpDispatch.Proofs.Text.CodePoints
import HttpDispatch.Proofs.Xml.Reader

/-!
# The names of elements

The name that is made of a key can always be read (`isReadable_elementName`): it is not empty,
and no character of it has a meaning in tags.

Whether it is also a name by the grammar of XML 1.0, fifth edition, is another matter.  Names
are made with the Unicode properties Alphabetic and Numeric, while the grammar lists ranges of
its own (`Standard.nameStartTable`, `Standard.nameTable`).  `Standard.isName_elementName` says
for which keys the two agree.  They part over two sets of characters:

* the **strays**, which are taken over from the key, though no name may hold them: ordinal
  indicators, superscripts, fractions, the micro sign, and digits and letters in circles;
* the **marks**, which a name may hold, but not start with.
-/

namespace HttpDispatch.Xml

/-! ### How a name is made -/

/-- What becomes of a character of a key. -/
def keep (c : Char) : Char := if isNameChar c then c else '_'

/-- A name is the key with each character kept or replaced, and `_` in front if it could not
start otherwise. -/
theorem nameChars_cons (c : Char) (cs : List Char) :
    nameChars (c :: cs) =
      if isNameStart (keep c) then keep c :: cs.map keep else '_' :: keep c :: cs.map keep :=
  rfl

theorem isNameChar_underscore : isNameChar '_' = true := by decide

/-- What is kept can stand in a name. -/
theorem isNameChar_keep (c : Char) : isNameChar (keep c) = true := by
  unfold keep
  split
  · assumption
  · exact isNameChar_underscore

/-- All characters of a name can stand in one. -/
theorem isNameChar_of_mem_nameChars {key : List Char} {c : Char} (h : c ∈ nameChars key) :
    isNameChar c = true := by
  cases key with
  | nil => rw [List.mem_singleton.1 h, isNameChar_underscore]
  | cons d ds =>
      have hkept : ∀ c ∈ keep d :: ds.map keep, isNameChar c = true :=
        List.forall_mem_cons.2 ⟨isNameChar_keep d, List.forall_mem_map.2 fun e _ =>
          isNameChar_keep e⟩
      rw [nameChars_cons] at h
      split at h
      · exact hkept c h
      · rcases List.mem_cons.1 h with rfl | h
        · exact isNameChar_underscore
        · exact hkept c h

theorem nameChars_ne_nil (key : List Char) : nameChars key ≠ [] := by
  cases key with
  | nil => exact List.cons_ne_nil _ _
  | cons c cs =>
      rw [nameChars_cons]
      split
      · exact List.cons_ne_nil _ _
      · exact List.cons_ne_nil _ _

/-- What can stand in a name has no meaning in tags. -/
theorem isDelimiter_of_isNameChar {c : Char} (h : isNameChar c = true) :
    isDelimiter c = false := by
  have hdelimiters : delimiters.all (fun d => !isNameChar d) = true := by decide
  refine Bool.eq_false_iff.2 fun hc => ?_
  have hmem : c ∈ delimiters := by simpa [isDelimiter] using hc
  have hnot := List.all_eq_true.1 hdelimiters c hmem
  rw [h] at hnot
  cases hnot

/-- **Every key gives a name that can be read.** -/
theorem isReadable_elementName (key : String) : isReadable (elementName key).toList = true := by
  rw [elementName, String.toList_ofList, Reader.isReadable_iff]
  exact ⟨nameChars_ne_nil _, fun c hc => isDelimiter_of_isNameChar (isNameChar_of_mem_nameChars hc)⟩

/-! ### Names by the standard -/

namespace Standard

/-- The production NameStartChar. -/
def nameStartTable : CodePoints :=
  [(0x3A, 0x3A), (0x41, 0x5A), (0x5F, 0x5F), (0x61, 0x7A), (0xC0, 0xD6), (0xD8, 0xF6),
    (0xF8, 0x2FF), (0x370, 0x37D), (0x37F, 0x1FFF), (0x200C, 0x200D), (0x2070, 0x218F),
    (0x2C00, 0x2FEF), (0x3001, 0xD7FF), (0xF900, 0xFDCF), (0xFDF0, 0xFFFD), (0x10000, 0xEFFFF)]

/-- What the production NameChar has beyond NameStartChar. -/
def nameTable : CodePoints :=
  [(0x2D, 0x2E), (0x30, 0x39), (0xB7, 0xB7), (0x300, 0x36F), (0x203F, 0x2040)]

/-- Whether a name may hold a character. -/
def nameChar (c : Char) : Bool := nameStartTable.has c || nameTable.has c

/-- **The production Name.** -/
def isName : List Char → Bool
  | [] => false
  | c :: cs => nameStartTable.has c && cs.all nameChar

/-- Alphabetic characters that no name may hold: ordinal indicators, the micro sign, and
letters in circles. -/
def strayLetterTable : CodePoints := [(0xAA, 0xAA), (0xB5, 0xB5), (0xBA, 0xBA), (0x24B6, 0x24E9)]

/-- Numeric characters that no name may hold: superscripts, fractions, and numbers in circles,
in parentheses and with full stops. -/
def strayDigitTable : CodePoints :=
  [(0xB2, 0xB3), (0xB9, 0xB9), (0xBC, 0xBE), (0x2460, 0x249B), (0x24EA, 0x24FF),
    (0x2776, 0x2793)]

/-- Whether a character is a **stray**: alphabetic or numeric, and in no name. -/
def isStray (c : Char) : Bool := strayLetterTable.has c || strayDigitTable.has c

/-- Alphabetic characters that a name may hold, but not start with: the **marks**. -/
def markTable : CodePoints := [(0x345, 0x345), (0x363, 0x36F)]

open Text CodePoints

variable {c : Char}

/-! ### Where Unicode and the standard part -/

/-- An alphabetic character can start a name, or it is a stray or a mark. -/
theorem of_isAlphabetic (h : isAlphabetic c = true) :
    markTable.has c = true ∨ strayLetterTable.has c = true ∨ nameStartTable.has c = true := by
  have hcover : ∃ t ∈ [markTable, strayLetterTable, nameStartTable], t.has c = true :=
    exists_has_of_uncovered (by decide) (by decide +kernel) h
  simpa using hcover

/-- A numeric character can stand in a name, or it is a stray. -/
theorem of_isNumeric (h : isNumeric c = true) :
    strayDigitTable.has c = true ∨ nameTable.has c = true ∨ nameStartTable.has c = true := by
  have hcover : ∃ t ∈ [strayDigitTable, nameTable, nameStartTable], t.has c = true :=
    exists_has_of_uncovered (by decide) (by decide) h
  simpa using hcover

theorem isAscending_alphabeticTable : isAscending alphabeticTable = true := by decide +kernel

/-- A stray is alphabetic or numeric. -/
theorem of_isStray (h : isStray c = true) : isAlphabetic c = true ∨ isNumeric c = true :=
  (Bool.or_eq_true_iff.1 h).imp
    (has_of_inside isAscending_alphabeticTable (by decide +kernel))
    (has_of_inside (by decide) (by decide))

/-- No name may hold a stray. -/
theorem nameChar_of_isStray (h : isStray c = true) : nameChar c = false := by
  have hstart : strayLetterTable.Apart nameStartTable ∧ strayDigitTable.Apart nameStartTable := by
    decide
  have hrest : strayLetterTable.Apart nameTable ∧ strayDigitTable.Apart nameTable := by
    decide
  rw [nameChar, Bool.or_eq_false_iff]
  rcases Bool.or_eq_true_iff.1 h with h | h
  · exact ⟨not_has_of_apart hstart.1 h, not_has_of_apart hrest.1 h⟩
  · exact ⟨not_has_of_apart hstart.2 h, not_has_of_apart hrest.2 h⟩

/-- A mark is alphabetic. -/
theorem isAlphabetic_of_mark (h : markTable.has c = true) : isAlphabetic c = true :=
  has_of_inside isAscending_alphabeticTable (by decide) h

/-- A name may hold a mark. -/
theorem nameTable_of_mark (h : markTable.has c = true) : nameTable.has c = true :=
  has_of_inside (by decide) (by decide) h

/-- No name may start with a mark. -/
theorem nameStart_of_mark (h : markTable.has c = true) : nameStartTable.has c = false :=
  not_has_of_apart (by decide) h

/-! ### The characters of a key -/

/-- A name takes over what is alphabetic or numeric. -/
theorem isNameChar_of_alphanumeric (h : isAlphabetic c = true ∨ isNumeric c = true) :
    isNameChar c = true := by
  rcases h with h | h <;> simp [isNameChar, h]

/-- **What is made of a character can stand in a name, unless it is a stray.** -/
theorem nameChar_keep (c : Char) : nameChar (keep c) = !isStray c := by
  cases hstray : isStray c with
  | true =>
      have hkeep : keep c = c := if_pos (isNameChar_of_alphanumeric (of_isStray hstray))
      rw [hkeep, nameChar_of_isStray hstray]
      rfl
  | false =>
      obtain ⟨hletter, hdigit⟩ := Bool.or_eq_false_iff.1 hstray
      unfold keep
      split
      · next hname =>
        -- marks count here: they cannot start a name, but stand in one
        simp only [isNameChar, Bool.or_eq_true, decide_eq_true_eq] at hname
        rcases hname with (((h | h) | rfl) | rfl) | rfl
        · rcases of_isAlphabetic h with h | h | h
          · simp [nameChar, nameTable_of_mark h]
          · exact absurd (hletter.symm.trans h) nofun
          · simp [nameChar, h]
        · rcases of_isNumeric h with h | h | h
          · exact absurd (hdigit.symm.trans h) nofun
          · simp [nameChar, h]
          · simp [nameChar, h]
        all_goals decide
      · decide

/-- **What is made of a character, if it can start a name in the eyes of Unicode, can start one,
unless the character is a stray or a mark.** -/
theorem nameStart_keep (h : isNameStart (keep c) = true) :
    nameStartTable.has (keep c) = true ↔ isStray c = false ∧ markTable.has c = false := by
  constructor
  · intro hstart
    have hname : nameChar (keep c) = true := by rw [nameChar, hstart, Bool.true_or]
    rw [nameChar_keep] at hname
    refine ⟨by simpa using hname, Bool.eq_false_iff.2 fun hmark => ?_⟩
    have hkeep : keep c = c :=
      if_pos (isNameChar_of_alphanumeric (.inl (isAlphabetic_of_mark hmark)))
    rw [hkeep, nameStart_of_mark hmark] at hstart
    cases hstart
  · rintro ⟨hstray, hmark⟩
    have hletter := (Bool.or_eq_false_iff.1 hstray).1
    unfold keep at h ⊢
    split at h
    · next hname =>
      rw [if_pos hname]
      rw [isNameStart, Bool.or_eq_true, decide_eq_true_eq] at h
      rcases h with h | rfl
      · rcases of_isAlphabetic h with h | h | h
        · exact absurd (hmark.symm.trans h) nofun
        · exact absurd (hletter.symm.trans h) nofun
        · exact h
      · decide
    · next hname =>
      rw [if_neg hname]
      decide

/-- A character that cannot start a name in the eyes of Unicode is no mark. -/
theorem mark_of_not_isNameStart (h : ¬ isNameStart (keep c) = true) :
    markTable.has c = false := by
  refine Bool.eq_false_iff.2 fun hmark => h ?_
  have halpha := isAlphabetic_of_mark hmark
  have hkeep : keep c = c := if_pos (isNameChar_of_alphanumeric (.inl halpha))
  rw [hkeep, isNameStart, halpha, Bool.true_or]

/-- All characters of a key are kept as characters of names, unless there are strays. -/
theorem all_nameChar_map_keep (cs : List Char) :
    (cs.map keep).all nameChar = true ↔ ∀ c ∈ cs, isStray c = false := by
  simp [nameChar_keep]

/-- **A key gives a name by the standard** exactly if it holds no stray and does not start with
a mark. -/
theorem isName_elementName (key : String) :
    isName (elementName key).toList = true ↔
      (∀ c ∈ key.toList, isStray c = false) ∧ ∀ c ∈ key.toList.head?, markTable.has c = false := by
  have hunderscore : nameStartTable.has '_' = true := by decide
  rw [elementName, String.toList_ofList]
  cases key.toList with
  | nil => simp [nameChars, isName, hunderscore]
  | cons c cs =>
      rw [nameChars_cons, List.forall_mem_cons]
      simp only [List.head?_cons, Option.mem_some_iff, forall_eq']
      split
      · next hstart =>
        rw [isName, Bool.and_eq_true, nameStart_keep hstart, all_nameChar_map_keep,
          and_right_comm]
      · next hstart =>
        rw [isName, hunderscore, Bool.true_and, List.all_cons, Bool.and_eq_true,
          all_nameChar_map_keep, nameChar_keep, Bool.not_eq_true',
          and_iff_left (mark_of_not_isNameStart hstart)]

/-- The ordinal indicator is a letter, but not of a name. -/
example : isName (elementName "1 ª").toList = false := by decide

end Standard

end HttpDispatch.Xml
