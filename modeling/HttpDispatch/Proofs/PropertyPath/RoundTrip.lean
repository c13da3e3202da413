import HttpDispatch.Proofs.PropertyPath.Grammar

/-!
# Reading back the canonical text of a property path

`PropertyPath.text` writes steps and `PropertyPath.parse` reads them.  Steps whose
names are non-empty and free of `.` and `[`, and whose indices fit in 64 bits, come
back as they were (`PropertyPath.parse_text`).

Nothing has to be read for that: the grammar has the canonical text (`spells_text`), and what it
has is read.  Conversely the steps of every path are writable (`Spells.writable`), so a path may
be replaced by the canonical text of its steps (`accepts_and_rewrites`).
-/

namespace HttpDispatch

/-! ### Numerals -/

namespace Numeral

theorem isDigit_iff (c : Char) : isDigit c = true ↔ c.isDigit = true := by
  simp only [isDigit, Char.isDigit, Bool.and_eq_true, decide_eq_true_eq, ge_iff_le]
  rfl

theorem isDigit_of_mem_toDigits {n : Nat} {c : Char} (h : c ∈ Nat.toDigits 10 n) :
    isDigit c = true :=
  (isDigit_iff c).2 (Nat.isDigit_of_mem_toDigits (by decide) (by decide) h)

theorem natural?_toDigits (n : Nat) : natural? (Nat.toDigits 10 n) = some n := by
  have value : digitsValue (Nat.toDigits 10 n) = n := by
    have h := Nat.ofDigitChars_ten_toDigits (n := n)
    rwa [Nat.ofDigitChars_eq_foldl] at h
  rw [natural?, if_pos, value]
  exact ⟨Nat.toDigits_ne_nil, List.all_eq_true.2 fun _ => isDigit_of_mem_toDigits⟩

/-- **A natural that fits comes back** from its decimal digits. -/
theorem unsigned?_toDigits {bits n : Nat} (h : n < Nat.pow 2 bits) :
    unsigned? bits (Nat.toDigits 10 n) = some n := by
  unfold unsigned?
  split
  · rename_i rest heq
    have := isDigit_of_mem_toDigits (n := n) (c := '+') (by simp [heq])
    exact absurd this (by decide)
  · simp only [natural?_toDigits, Option.bind_eq_bind, Option.bind_some, if_pos h]

end Numeral

namespace PropertyPath

/-! ### Steps that can be written -/

/-- **A step that can be written**: a non-empty name without `.` and `[`, or an index
that fits in 64 bits. -/
def Writable : Step → Prop
  | .field name => name ≠ "" ∧ ∀ c ∈ name.toList, isNameChar c = true
  | .index n => n < Nat.pow 2 64

/-- The characters of a name can be looked over one by one. -/
theorem writable_field {name : String} (hne : name ≠ "")
    (hall : name.toList.all isNameChar = true) : Writable (.field name) :=
  ⟨hne, List.all_eq_true.1 hall⟩

/-- The text of the steps that follow another one. -/
def tailText (steps : List Step) : List Char := steps.flatMap (stepText false)

/-! ### The canonical text is spelled by the grammar -/

theorem item_stepText {s : Step} (hs : Writable s) : Item s (stepText true s) := by
  cases s with
  | field name =>
      obtain ⟨hne, hname⟩ := hs
      have hitem : Item (.field (String.ofList name.toList)) name.toList := by
        refine .name (fun hnil => hne (String.toList_eq_nil_iff.1 hnil)) ?_ ?_
        · exact fun hmem => absurd (hname '.' hmem) (by decide)
        · exact fun hmem => absurd (hname '[' hmem) (by decide)
      rwa [String.ofList_toList] at hitem
  | index n => exact .index (Numeral.unsigned?_eq_some_iff.1 (Numeral.unsigned?_toDigits hs))

theorem further_tailText {steps : List Step} (hsteps : ∀ s ∈ steps, Writable s) :
    Further steps (tailText steps) := by
  induction steps with
  | nil => exact .done
  | cons s steps ih =>
      obtain ⟨hs, hrest⟩ := List.forall_mem_cons.1 hsteps
      cases s with
      | field name => exact .dotted (item_stepText hs) (ih hrest)
      | index n => exact .direct (item_stepText hs) (ih hrest)

/-- **The canonical text of writable steps spells them.** -/
theorem spells_text {steps : List Step} (hsteps : ∀ s ∈ steps, Writable s) :
    Spells steps (text steps) := by
  cases steps with
  | nil => exact .nothing
  | cons s steps =>
      obtain ⟨hs, hrest⟩ := List.forall_mem_cons.1 hsteps
      exact .items (item_stepText hs) (further_tailText hrest)

/-- **Writable steps come back** from their canonical text. -/
theorem parse_text {steps : List Step} (hsteps : ∀ s ∈ steps, Writable s) :
    parse (String.ofList (text steps)) = .ok steps := by
  rw [parse_eq_ok_iff, String.toList_ofList]
  exact spells_text hsteps

/-- Different writable steps have different texts. -/
theorem text_injective {steps steps' : List Step} (h : ∀ s ∈ steps, Writable s)
    (h' : ∀ s ∈ steps', Writable s) (heq : text steps = text steps') :
    steps = steps' := by
  have hparse := parse_text h
  rw [heq, parse_text h'] at hparse
  exact (Except.ok.inj hparse).symm

/-! ### The steps of a path can be written -/

theorem Item.writable {s : Step} {item : List Char} (h : Item s item) : Writable s := by
  cases h with
  | @name name hne hdot hbracket =>
      refine ⟨fun hempty => hne (String.ofList_eq_empty_iff.1 hempty), fun c hc => ?_⟩
      rw [String.toList_ofList] at hc
      exact isNameChar_eq_true_iff.2 ⟨fun heq => hdot (heq ▸ hc), fun heq => hbracket (heq ▸ hc)⟩
  | index hnumeral => exact hnumeral.lt

theorem Further.writable {steps : List Step} {rest : List Char} (h : Further steps rest) :
    ∀ s ∈ steps, Writable s := by
  induction h with
  | done => simp
  | dotted hitem _ ih => exact List.forall_mem_cons.2 ⟨hitem.writable, ih⟩
  | direct hitem _ ih => exact List.forall_mem_cons.2 ⟨hitem.writable, ih⟩

theorem Spells.writable {steps : List Step} {cs : List Char} (h : Spells steps cs) :
    ∀ s ∈ steps, Writable s := by
  cases h with
  | nothing => simp
  | items hitem hfurther => exact List.forall_mem_cons.2 ⟨hitem.writable, hfurther.writable⟩

/-- **What is accepted, and what comes back.**  A text is read if the grammar has it, as the steps
it has there.  Writable steps come back from their canonical text, and so do those of every path
that is read, however it was written. -/
theorem accepts_and_rewrites :
    (∀ path steps, parse path = .ok steps ↔ Spells steps path.toList) ∧
      (∀ steps, (∀ s ∈ steps, Writable s) → parse (String.ofList (text steps)) = .ok steps) ∧
      (∀ path steps, parse path = .ok steps →
        (∀ s ∈ steps, Writable s) ∧ parse (String.ofList (text steps)) = .ok steps) := by
  refine ⟨fun _ _ => parse_eq_ok_iff, fun _ => parse_text, fun path steps hread => ?_⟩
  have hwritable := (parse_eq_ok_iff.1 hread).writable
  exact ⟨hwritable, parse_text hwritable⟩

/-- A dot before an index, a plus sign and zeros before a number, and a bracket in a name: all of
it is read, and the canonical text has the first two no more. -/
theorem accepts_and_rewrites_tags :
    let path := "tags.[+007][0].na]me"
    let steps : List Step := [.field "tags", .index 7, .index 0, .field "na]me"]
    Spells steps path.toList ∧ parse path = .ok steps ∧ (∀ s ∈ steps, Writable s) ∧
      String.ofList (text steps) = "tags[7][0].na]me" ∧
      parse "tags[7][0].na]me" = .ok steps := by
  intro path steps
  have hseven := @Numeral.Unsigned.plus 64 "007".toList (by decide)
    (List.all_eq_true.1 (by decide)) (by decide)
  have hzero := @Numeral.Unsigned.plain 64 "0".toList (by decide)
    (List.all_eq_true.1 (by decide)) (by decide)
  have htags := @Item.name "tags".toList (by decide) (by decide) (by decide)
  have hname := @Item.name "na]me".toList (by decide) (by decide) (by decide)
  have hderivation := Spells.items htags
    (.dotted (.index hseven) (.direct (.index hzero) (.dotted hname .done)))
  have hspells : Spells steps path.toList :=
    (congrArg₂ Spells (by decide) (by decide)).mp hderivation
  obtain ⟨hreads, -, hrewrites⟩ := accepts_and_rewrites
  have hread := (hreads path steps).2 hspells
  obtain ⟨hwritable, hagain⟩ := hrewrites path steps hread
  have htext : String.ofList (text steps) = "tags[7][0].na]me" := by decide
  exact ⟨hspells, hread, hwritable, htext, htext ▸ hagain⟩

end PropertyPath

end HttpDispatch
