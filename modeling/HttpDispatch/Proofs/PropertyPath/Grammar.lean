import HttpDispatch.PropertyPath
import Mathlib.Data.List.Basic

/-!
# The grammar of property paths

`PropertyPath.parse` takes turns between two kinds of items and looks for a separator after each.
`PropertyPath.Spells` says without a reader which texts are property paths, and of which steps: a
path is nothing at all, or an item and further ones behind it.  A dot stands before every further
name and may stand before a further index.

`PropertyPath.parse_eq_ok_iff` says that the two agree on every text.  Both directions follow the
grammar: `item_of_step` and `spells_of_parseChars` find the derivation of what was read,
`step_of_item` and `parseChars_of_spells` read what was derived.

### What is load-bearing

A name is read as far as it goes.  The grammar does not say so, and need not: what stands behind
an item begins with a dot or a bracket, which no name holds (`Further.isNameChar_head`).  An index
is closed by the first `]`, and no numeral holds one.
-/

namespace HttpDispatch

/-! ### Numerals -/

namespace Numeral

/-- **An unsigned numeral** that fits in some bits: at least one digit, with a plus sign in front
or without. -/
inductive Unsigned (bits : Nat) : Nat → List Char → Prop
  /-- Digits. -/
  | plain {digits : List Char} :
      digits ≠ [] → (∀ c ∈ digits, isDigit c = true) → digitsValue digits < Nat.pow 2 bits →
        Unsigned bits (digitsValue digits) digits
  /-- Digits behind a plus sign. -/
  | plus {digits : List Char} :
      digits ≠ [] → (∀ c ∈ digits, isDigit c = true) → digitsValue digits < Nat.pow 2 bits →
        Unsigned bits (digitsValue digits) ('+' :: digits)

theorem natural?_eq_some_iff {cs : List Char} {n : Nat} :
    natural? cs = some n ↔ cs ≠ [] ∧ (∀ c ∈ cs, isDigit c = true) ∧ digitsValue cs = n := by
  simp only [natural?, Option.ite_none_right_eq_some, List.all_eq_true, Option.some.injEq,
    and_assoc]

/-- **The numerals that are read** are the unsigned ones that fit. -/
theorem unsigned?_eq_some_iff {bits n : Nat} {cs : List Char} :
    unsigned? bits cs = some n ↔ Unsigned bits n cs := by
  constructor
  · intro h
    obtain ⟨value, hvalue, hfits⟩ := Option.bind_eq_some_iff.1 h
    obtain ⟨hlt, rfl⟩ := Option.ite_none_right_eq_some.1 hfits |>.imp_right Option.some.inj
    split at hvalue
    · obtain ⟨hne, hdigits, rfl⟩ := natural?_eq_some_iff.1 hvalue
      exact .plus hne hdigits hlt
    · obtain ⟨hne, hdigits, rfl⟩ := natural?_eq_some_iff.1 hvalue
      exact .plain hne hdigits hlt
  · intro h
    cases h with
    | plain hne hdigits hlt =>
        have hread := natural?_eq_some_iff.2 ⟨hne, hdigits, rfl⟩
        unfold unsigned?
        split
        · exact absurd (hdigits '+' List.mem_cons_self) (by decide)
        · rw [hread]
          exact if_pos hlt
    | plus hne hdigits hlt =>
        rw [unsigned?, natural?_eq_some_iff.2 ⟨hne, hdigits, rfl⟩]
        exact if_pos hlt

theorem Unsigned.lt {bits n : Nat} {cs : List Char} (h : Unsigned bits n cs) :
    n < Nat.pow 2 bits := by
  cases h with
  | plain _ _ hlt => exact hlt
  | plus _ _ hlt => exact hlt

/-- Digits, and perhaps a plus sign: no numeral holds any other character. -/
theorem Unsigned.not_mem {bits n : Nat} {cs : List Char} (h : Unsigned bits n cs) {c : Char}
    (hdigit : isDigit c = false) (hplus : c ≠ '+') : c ∉ cs := by
  have hnone {digits : List Char} (hdigits : ∀ d ∈ digits, isDigit d = true) : c ∉ digits :=
    fun hmem => by simp [hdigits c hmem] at hdigit
  cases h with
  | plain _ hdigits => exact hnone hdigits
  | plus _ hdigits => simp [hplus, hnone hdigits]

end Numeral

namespace PropertyPath

/-! ### The grammar -/

/-- **A step as it stands in a path.** -/
inductive Item : Step → List Char → Prop
  /-- A name has at least one character, and neither a dot nor an opening bracket. -/
  | name {name : List Char} : name ≠ [] → '.' ∉ name → '[' ∉ name →
      Item (.field (String.ofList name)) name
  /-- An index is a numeral in brackets. -/
  | index {n : Nat} {numeral : List Char} : Numeral.Unsigned 64 n numeral →
      Item (.index n) ('[' :: numeral ++ [']'])

/-- **Further steps**, behind another one. -/
inductive Further : List Step → List Char → Prop
  /-- There are none. -/
  | done : Further [] []
  /-- A dot may stand before any item. -/
  | dotted {s : Step} {steps : List Step} {item rest : List Char} :
      Item s item → Further steps rest → Further (s :: steps) ('.' :: item ++ rest)
  /-- An index needs none. -/
  | direct {n : Nat} {steps : List Step} {item rest : List Char} :
      Item (.index n) item → Further steps rest → Further (.index n :: steps) (item ++ rest)

/-- **The texts that are property paths**, with their steps. -/
inductive Spells : List Step → List Char → Prop
  /-- Nothing at all. -/
  | nothing : Spells [] []
  /-- An item and further ones. -/
  | items {s : Step} {steps : List Step} {item rest : List Char} :
      Item s item → Further steps rest → Spells (s :: steps) (item ++ rest)

theorem isNameChar_eq_true_iff {c : Char} : isNameChar c = true ↔ c ≠ '.' ∧ c ≠ '[' := by
  simp [isNameChar]

theorem Item.ne_nil {s : Step} {item : List Char} (h : Item s item) : item ≠ [] := by
  cases h with
  | name hne => exact hne
  | index => exact List.cons_ne_nil _ _

/-- **What stands behind an item is not part of a name.** -/
theorem Further.isNameChar_head {steps : List Step} {rest : List Char} (h : Further steps rest) :
    ∀ c ∈ rest.head?, isNameChar c = false := by
  cases h with
  | done => simp
  | dotted => simp [isNameChar]
  | direct hitem =>
      cases hitem
      simp [isNameChar]

/-! ### The reader -/

/-- The defining equation of the reader. -/
theorem parseChars_cons (first : Char) (rest : List Char) :
    parseChars (first :: rest) =
      match step first rest with
      | .error fault => .error fault
      | .ok (s, after) =>
        match separator after with
        | .error fault => .error fault
        | .ok next => (parseChars next).map (s :: ·) := by
  rw [parseChars]
  split
  · rename_i fault hs
    simp only [hs]
  · rename_i s after hs
    simp only [hs]
    split
    · rename_i fault hr
      simp only [hr]
    · rename_i next hr
      simp only [hr]

/-- What is read of a path that begins with a step. -/
theorem parseChars_cons_eq_ok_iff {first : Char} {rest : List Char} {steps : List Step} :
    parseChars (first :: rest) = .ok steps ↔
      ∃ s after next others, step first rest = .ok (s, after) ∧ separator after = .ok next ∧
        parseChars next = .ok others ∧ steps = s :: others := by
  rw [parseChars_cons]
  constructor
  · intro h
    split at h
    · cases h
    · rename_i s after hstep
      split at h
      · cases h
      · rename_i next hseparator
        cases hothers : parseChars next with
        | error fault =>
            rw [hothers] at h
            cases h
        | ok others =>
            rw [hothers] at h
            cases h
            exact ⟨s, after, next, others, hstep, hseparator, hothers, rfl⟩
  · rintro ⟨s, after, next, others, hstep, hseparator, hothers, rfl⟩
    simp only [hstep, hseparator, hothers]
    rfl

/-- **What may stand between two steps**: nothing at the end, a dot, or nothing before a
bracket. -/
theorem separator_eq_ok_iff {after next : List Char} :
    separator after = .ok next ↔
      after = [] ∧ next = [] ∨ (next ≠ [] ∧ after = '.' :: next) ∨
        (next.head? = some '[' ∧ after = next) := by
  cases after with
  | nil => simp +contextual [separator, eq_comm]
  | cons c rest =>
      have hdirect : (next.head? = some '[' ∧ c :: rest = next) ↔ (c = '[' ∧ c :: rest = next) := by
        constructor
        · rintro ⟨hhead, rfl⟩
          exact ⟨Option.some.inj hhead, rfl⟩
        · rintro ⟨rfl, rfl⟩
          exact ⟨rfl, rfl⟩
      rw [hdirect, separator]
      split_ifs with hdot hrest hbracket
      · simp +contextual [hdot, hrest, eq_comm]
      · simp +contextual [hdot, hrest, eq_comm]
      · simp [hbracket]
      · simp [hdot, hbracket]

/-- What may follow a step are further steps, if there are steps behind the separator. -/
theorem Further.of_separator {steps : List Step} {after next : List Char}
    (hseparator : separator after = .ok next) (hnext : Spells steps next) :
    Further steps after := by
  rcases separator_eq_ok_iff.1 hseparator with ⟨rfl, rfl⟩ | ⟨hne, rfl⟩ | ⟨hhead, rfl⟩
  · generalize hcs : ([] : List Char) = cs at hnext
    cases hnext with
    | nothing => exact hcs ▸ .done
    | items hitem => exact absurd (List.append_eq_nil_iff.1 hcs.symm).1 hitem.ne_nil
  · cases hnext with
    | nothing => exact absurd rfl hne
    | items hitem hfurther => exact .dotted hitem hfurther
  · cases hnext with
    | nothing => cases hhead
    | items hitem hfurther =>
        rw [List.head?_append_of_ne_nil _ hitem.ne_nil] at hhead
        cases hitem with
        | name _ _ hbracket => exact absurd (List.mem_of_head? hhead) hbracket
        | index hnumeral => exact .direct (.index hnumeral) hfurther

/-- What a step takes away is an item. -/
theorem item_of_step {first : Char} {rest after : List Char} {s : Step}
    (h : step first rest = .ok (s, after)) :
    ∃ item, Item s item ∧ first :: rest = item ++ after := by
  unfold step at h
  split_ifs at h with hbracket hname
  · subst hbracket
    split at h
    · cases h
    · rename_i numeral behind hcut
      split at h
      · cases h
      · rename_i n hnumeral
        cases h
        refine ⟨_, .index (Numeral.unsigned?_eq_some_iff.1 hnumeral), ?_⟩
        rw [(Text.cut?_eq_some_iff.1 hcut).1]
        simp
  · cases h
    have hall : ∀ c ∈ first :: rest.takeWhile isNameChar, isNameChar c = true := by
      intro c hc
      rcases List.mem_cons.1 hc with rfl | hc
      · exact hname
      · exact List.all_eq_true.1 List.all_takeWhile c hc
    refine ⟨first :: rest.takeWhile isNameChar, .name (List.cons_ne_nil _ _) ?_ ?_, ?_⟩
    · exact fun hmem => absurd (hall '.' hmem) (by decide)
    · exact fun hmem => absurd (hall '[' hmem) (by decide)
    · rw [List.cons_append, List.takeWhile_append_dropWhile]

/-- **An item is read as it was written**, as long as no character of a name stands behind it. -/
theorem step_of_item {s : Step} {item after : List Char} (h : Item s item)
    (hafter : ∀ c ∈ after.head?, isNameChar c = false) :
    ∃ first rest, item ++ after = first :: rest ∧ step first rest = .ok (s, after) := by
  cases h with
  | @name name hne hdot hbracket =>
      obtain ⟨first, more, rfl⟩ := List.exists_cons_of_ne_nil hne
      have hall : ∀ c ∈ first :: more, isNameChar c = true := fun c hc =>
        isNameChar_eq_true_iff.2 ⟨fun heq => hdot (heq ▸ hc), fun heq => hbracket (heq ▸ hc)⟩
      obtain ⟨hfirst, hmore⟩ := List.forall_mem_cons.1 hall
      have hnone : after.takeWhile isNameChar = [] ∧ after.dropWhile isNameChar = after := by
        cases after with
        | nil => simp
        | cons c after => simp [hafter c rfl]
      refine ⟨first, more ++ after, rfl, ?_⟩
      rw [step, if_neg (isNameChar_eq_true_iff.1 hfirst).2, if_pos hfirst,
        List.takeWhile_append_of_pos hmore, List.dropWhile_append_of_pos hmore, hnone.1, hnone.2,
        List.append_nil]
  | @index n numeral hnumeral =>
      have hcut : Text.cut? ']' (numeral ++ ']' :: after) = some (numeral, after) :=
        Text.cut?_eq_some_iff.2 ⟨rfl, hnumeral.not_mem (by decide) (by decide)⟩
      refine ⟨'[', numeral ++ ']' :: after, by simp, ?_⟩
      rw [step, if_pos rfl, hcut]
      simp only [Numeral.unsigned?_eq_some_iff.2 hnumeral]

/-! ### Both directions -/

/-- **What is read has been written.** -/
theorem spells_of_parseChars {cs : List Char} {steps : List Step}
    (h : parseChars cs = .ok steps) : Spells steps cs := by
  induction hn : cs.length using Nat.strongRecOn generalizing cs steps with
  | ind n ih =>
  cases cs with
  | nil =>
      rw [parseChars_nil] at h
      cases h
      exact .nothing
  | cons first rest =>
      obtain ⟨s, after, next, others, hstep, hseparator, hothers, rfl⟩ :=
        parseChars_cons_eq_ok_iff.1 h
      have hlt : next.length < n := by
        have := length_step hstep
        have := length_separator hseparator
        simp only [List.length_cons] at hn
        omega
      obtain ⟨item, hitem, hcs⟩ := item_of_step hstep
      rw [hcs]
      exact .items hitem (.of_separator hseparator (ih _ hlt hothers rfl))

/-- The steps behind another one are read once their separator is gone. -/
theorem parseChars_of_further {steps : List Step} {after : List Char} (h : Further steps after) :
    ∃ next, separator after = .ok next ∧ parseChars next = .ok steps := by
  induction h with
  | done => exact ⟨[], rfl, parseChars_nil⟩
  | @dotted s steps item rest hitem hfurther ih =>
      obtain ⟨next, hseparator, hnext⟩ := ih
      obtain ⟨first, more, htext, hstep⟩ := step_of_item hitem hfurther.isNameChar_head
      refine ⟨first :: more, ?_, parseChars_cons_eq_ok_iff.2
        ⟨s, rest, next, steps, hstep, hseparator, hnext, rfl⟩⟩
      rw [List.cons_append, htext]
      exact separator_eq_ok_iff.2 (.inr (.inl ⟨List.cons_ne_nil _ _, rfl⟩))
  | @direct n steps item rest hitem hfurther ih =>
      obtain ⟨next, hseparator, hnext⟩ := ih
      obtain ⟨first, more, htext, hstep⟩ := step_of_item hitem hfurther.isNameChar_head
      have hbracket : (item ++ rest).head? = some '[' := by
        cases hitem
        rfl
      refine ⟨item ++ rest, separator_eq_ok_iff.2 (.inr (.inr ⟨hbracket, rfl⟩)), ?_⟩
      rw [htext]
      exact parseChars_cons_eq_ok_iff.2 ⟨_, rest, next, steps, hstep, hseparator, hnext, rfl⟩

/-- **What is written is read.** -/
theorem parseChars_of_spells {cs : List Char} {steps : List Step} (h : Spells steps cs) :
    parseChars cs = .ok steps := by
  cases h with
  | nothing => exact parseChars_nil
  | @items s steps item rest hitem hfurther =>
      obtain ⟨next, hseparator, hnext⟩ := parseChars_of_further hfurther
      obtain ⟨first, more, htext, hstep⟩ := step_of_item hitem hfurther.isNameChar_head
      rw [htext]
      exact parseChars_cons_eq_ok_iff.2 ⟨s, rest, next, steps, hstep, hseparator, hnext, rfl⟩

/-- **The paths that are read** are those of the grammar, with the steps that it gives them. -/
theorem parse_eq_ok_iff {path : String} {steps : List Step} :
    parse path = .ok steps ↔ Spells steps path.toList :=
  ⟨spells_of_parseChars, parseChars_of_spells⟩

end PropertyPath

end HttpDispatch
