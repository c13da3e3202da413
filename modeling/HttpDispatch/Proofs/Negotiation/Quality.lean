import HttpDispatch.Negotiation.Accept
import HttpDispatch.Proofs.Number.Order
import Mathlib.Tactic.NormNum

/-!
# Qualities as numbers

A quality is stored as the position of its number, and texts without a positive quality have
none.  Here the text of a quality means a number between zero and one, its **weight**, and the
parameters of an entry have the weight of the last quality among them (`Accept.Weighs`).

`Quality.HasValue` ties the two together.  What is read from parameters has their weight
(`Accept.exists_quality?_iff`), and comparing positions is comparing weights
(`Quality.HasValue.code_le_code_iff`).
-/

namespace HttpDispatch

/-! ### Weights -/

/-- A number cut off at zero and at one. -/
def clamp (w : Rat) : Rat := max 0 (min 1 w)

/-- **The weight of a number** in single precision, which is infinite if it is too large for
the format.  What is no number weighs nothing. -/
def FloatText.weight : FloatText → Rat
  | nan => 0
  | infinite negative => if negative then 0 else 1
  | finite negative value =>
    match binary32.ofDecimal value with
    | none => if negative then 0 else 1
    | some x => clamp (if negative then -x.value else x.value)

/-- **The weight that a text means**; a text that cannot be read means one. -/
def Quality.weight (text : List Char) : Rat := (FloatText.parse? text).elim 1 FloatText.weight

/-- **The weight of an entry** of a header is that of the last quality among its
parameters. -/
inductive Accept.Weighs : List (List Char) → Rat → Prop
  /-- Without a quality it is one. -/
  | unstated {parameters : List (List Char)}
      (hnone : ∀ p ∈ parameters, ¬['q', '='] <+: Text.trim p) : Weighs parameters 1
  /-- Otherwise qualities in front of the last one do not matter. -/
  | stated {front back : List (List Char)} {p text : List Char}
      (hp : Text.trim p = ['q', '='] ++ text)
      (hlast : ∀ p' ∈ back, ¬['q', '='] <+: Text.trim p') :
      Weighs (front ++ p :: back) (Quality.weight (Text.trim text))

/-! ### Positions -/

namespace Quality

/-- **A quality is the position of a number.** -/
def HasValue (q : Quality) (w : Rat) : Prop :=
  ∃ x, binary32.Canonical x ∧ binary32.code x = q.code ∧ x.value = w

/-- **Comparing positions is comparing numbers.** -/
theorem HasValue.code_le_code_iff {a b : Quality} {v w : Rat} (ha : a.HasValue v)
    (hb : b.HasValue w) : a.code ≤ b.code ↔ v ≤ w := by
  obtain ⟨x, hx, hcode, rfl⟩ := ha
  obtain ⟨y, hy, hcode', rfl⟩ := hb
  rw [← hcode, ← hcode', BinaryFormat.code_le_code_iff (by decide) hx hy]

theorem HasValue.unique {q : Quality} {v w : Rat} (hv : q.HasValue v) (hw : q.HasValue w) :
    v = w :=
  le_antisymm ((hv.code_le_code_iff hw).1 le_rfl) ((hw.code_le_code_iff hv).1 le_rfl)

theorem code_pos_iff {x : Dyadic} (hx : binary32.Canonical x) :
    0 < binary32.code x ↔ 0 < x.value := by
  have hzero : binary32.zero.value = 0 := by simp [Dyadic.value, BinaryFormat.zero]
  rw [← hzero, ← not_le, ← not_le,
    ← BinaryFormat.code_le_code_iff (by decide) hx (BinaryFormat.canonical_zero _)]
  rfl

theorem HasValue.pos {q : Quality} {w : Rat} (h : q.HasValue w) : 0 < w := by
  obtain ⟨x, hx, hcode, rfl⟩ := h
  exact (code_pos_iff hx).1 (hcode ▸ q.pos)

theorem hasValue_unit : unit.HasValue 1 :=
  ⟨⟨2 ^ 23, -23⟩, by decide, by decide, by norm_num [Dyadic.value]⟩

/-- **What is read has a weight**: no quality is one of at most zero. -/
def Reads : Option Quality → Rat → Prop
  | none, w => w ≤ 0
  | some q, w => q.HasValue w

theorem Reads.exists_iff {o : Option Quality} {v w : Rat} (h : Reads o w) :
    (∃ q, o = some q ∧ q.HasValue v) ↔ w = v ∧ 0 < v := by
  constructor
  · rintro ⟨q, rfl, hq⟩
    exact ⟨HasValue.unique h hq, hq.pos⟩
  · rintro ⟨rfl, hpos⟩
    cases o with
    | none => exact absurd hpos (not_lt.2 h)
    | some q => exact ⟨q, rfl, h⟩

/-- A position is cut off where the number is. -/
theorem reads_ofCode? {x : Dyadic} (hx : binary32.Canonical x) :
    Reads (ofCode? (binary32.code x)) (clamp x.value) := by
  by_cases hpos : 0 < binary32.code x
  · have hclamp : clamp x.value = min 1 x.value :=
      max_eq_right (le_min zero_le_one ((code_pos_iff hx).1 hpos).le)
    rw [ofCode?, dif_pos hpos, hclamp]
    obtain ⟨one, hone, hcode, hvalue⟩ := hasValue_unit
    have hunit : unitCode ≤ binary32.code x ↔ 1 ≤ x.value := by
      rw [← hvalue, ← BinaryFormat.code_le_code_iff (by decide) hone hx, hcode]
      rfl
    by_cases hle : unitCode ≤ binary32.code x
    · exact ⟨one, hone, hcode.trans (min_eq_right hle).symm,
        hvalue.trans (min_eq_left (hunit.1 hle)).symm⟩
    · exact ⟨x, hx, (min_eq_left (not_le.1 hle).le).symm,
        (min_eq_right (not_le.1 fun h => hle (hunit.2 h)).le).symm⟩
  · have hvalue : x.value ≤ 0 := not_lt.1 fun h => hpos ((code_pos_iff hx).2 h)
    rw [ofCode?, dif_neg hpos]
    exact max_le le_rfl ((min_le_right _ _).trans hvalue)

theorem clamp_neg {x : Dyadic} : clamp (-x.value) = 0 := by
  have hvalue : 0 ≤ x.value := by
    unfold Dyadic.value
    positivity
  exact max_eq_left ((min_le_right _ _).trans (neg_nonpos.2 hvalue))

/-- **The quality of a text has its weight.** -/
theorem reads_parse? (text : List Char) : Reads (parse? text) (weight text) := by
  unfold parse? weight
  cases FloatText.parse? text with
  | none => exact hasValue_unit
  | some read =>
      cases read with
      | nan => exact le_rfl
      | infinite negative =>
          cases negative
          · exact hasValue_unit
          · exact le_rfl
      | finite negative value =>
          cases hround : binary32.ofDecimal value with
          | none =>
              cases negative <;> simp [FloatText.weight, hround, Reads, hasValue_unit]
          | some x =>
              have hx : binary32.Canonical x := BinaryFormat.canonical_ofDecimal (by decide) hround
              cases negative
              · simpa [FloatText.weight, hround] using reads_ofCode? hx
              · simp [FloatText.weight, hround, Reads, clamp_neg]

end Quality

namespace Accept

theorem reads_quality? {parameters : List (List Char)} {w : Rat} (h : Weighs parameters w) :
    Quality.Reads (quality? parameters) w := by
  have hnothing {ps : List (List Char)} (hps : ∀ p ∈ ps, ¬['q', '='] <+: Text.trim p) :
      ps.filterMap (fun p => ['q', '='].isPrefixOf? (Text.trim p)) = [] := by
    refine List.filterMap_eq_nil_iff.2 fun p hp => Option.eq_none_iff_forall_ne_some.2 ?_
    intro text htext
    exact hps p hp ⟨text, List.isPrefixOf?_eq_some_iff_append_eq.1 htext⟩
  cases h with
  | unstated hnone =>
      rw [quality?, hnothing hnone]
      exact Quality.hasValue_unit
  | stated hp hlast =>
      rename_i front back p text
      have hread : ['q', '='].isPrefixOf? (Text.trim p) = some text :=
        List.isPrefixOf?_eq_some_iff_append_eq.2 hp.symm
      have hgiven : (front ++ p :: back).filterMap (fun p => ['q', '='].isPrefixOf? (Text.trim p))
          = front.filterMap (fun p => ['q', '='].isPrefixOf? (Text.trim p)) ++ [text] := by
        rw [List.filterMap_append, List.filterMap_cons, hread, hnothing hlast]
      rw [quality?, hgiven, List.getLast?_concat]
      exact Quality.reads_parse? (Text.trim text)

/-- Every list of parameters has a weight. -/
theorem exists_weighs (parameters : List (List Char)) : ∃ w, Weighs parameters w := by
  induction parameters with
  | nil => exact ⟨1, .unstated (by simp)⟩
  | cons p ps ih =>
      obtain ⟨w, hw⟩ := ih
      cases hw with
      | unstated hnone =>
          by_cases hp : ['q', '='] <+: Text.trim p
          · obtain ⟨text, htext⟩ := hp
            exact ⟨_, @Weighs.stated [] ps p text htext.symm hnone⟩
          · exact ⟨1, .unstated (List.forall_mem_cons.2 ⟨hp, hnone⟩)⟩
      | stated hlead hlast => exact ⟨_, @Weighs.stated (p :: _) _ _ _ hlead hlast⟩

/-- **The quality of an entry has its weight**, if that is positive. -/
theorem exists_quality?_iff {parameters : List (List Char)} {w : Rat} :
    (∃ q, quality? parameters = some q ∧ q.HasValue w) ↔ Weighs parameters w ∧ 0 < w := by
  obtain ⟨v, hv⟩ := exists_weighs parameters
  have hreads := reads_quality? hv
  constructor
  · intro h
    obtain ⟨rfl, hpos⟩ := hreads.exists_iff.1 h
    exact ⟨hv, hpos⟩
  · rintro ⟨hw, hpos⟩
    exact (reads_quality? hw).exists_iff.2 ⟨rfl, hpos⟩

end Accept

end HttpDispatch
