import HttpDispatch.Proofs.StableOrder

/-!
# The preferred hit in a list

Routes and media ranges are chosen by the same procedure: the candidates are
sorted by falling rank, the sort being stable, and the first one that fits is
taken.  This module says what that procedure finds without mentioning the sort.

`Preferred` is the specification: of all hits the one of highest rank, and of
those the one that stands first in the list **as it was given**.
`find?_mergeSort_eq_some_iff` shows that searching the sorted list finds exactly
that element, and `Preferred.unique` that there is no second one.

### What is load-bearing

Sortedness alone only bounds the ranks.  That the *first* of several equally
ranked hits wins needs stability, in the form of `filter_rank_mergeSort`: the
elements of one rank are the same list before and after sorting.
-/

namespace HttpDispatch.Preference

variable {α : Type}

/-- **`a` is the preferred hit** in a list: a hit with no hit of at least its rank
before it, and none of higher rank behind it. -/
def Preferred (rank : α → Nat) (hit : α → Bool) (l : List α) (a : α) : Prop :=
  ∃ before behind, l = before ++ a :: behind ∧ hit a = true ∧
    (∀ x ∈ before, hit x = true → rank x < rank a) ∧
    ∀ x ∈ behind, hit x = true → rank x ≤ rank a

/-- Whether `a` may stand before `b` in a list sorted by falling rank. -/
def ranksFirst (rank : α → Nat) (a b : α) : Bool := rank b ≤ rank a

theorem ranksFirst_trans (rank : α → Nat) (a b c : α)
    (hab : ranksFirst rank a b = true) (hbc : ranksFirst rank b c = true) :
    ranksFirst rank a c = true := by
  simp only [ranksFirst, decide_eq_true_eq] at *
  omega

theorem ranksFirst_total (rank : α → Nat) (a b : α) :
    (ranksFirst rank a b || ranksFirst rank b a) = true := by
  simp only [ranksFirst, Bool.or_eq_true, decide_eq_true_eq]
  omega

/-- **The hits of one rank** are the same list before and after sorting. -/
theorem filter_rank_mergeSort (rank : α → Nat) (hit : α → Bool) (n : Nat)
    (l : List α) :
    (l.mergeSort (ranksFirst rank)).filter (fun x => hit x && rank x == n)
      = l.filter fun x => hit x && rank x == n := by
  set keep : α → Bool := fun x => hit x && rank x == n with hkeep
  have equal : (l.filter keep).Pairwise fun a b => ranksFirst rank a b = true := by
    refine List.pairwise_of_forall_mem_list fun a ha b hb => ?_
    simp only [hkeep, List.mem_filter, Bool.and_eq_true, beq_iff_eq] at ha hb
    simp only [ranksFirst, decide_eq_true_eq]
    omega
  -- the elements of one rank never need an exchange, so a stable sort leaves them in order
  exact StableOrder.filter_mergeSort (ranksFirst_trans rank) (ranksFirst_total rank) equal

/-- A preferred hit is the first one of its rank, and its rank is the highest. -/
theorem preferred_iff (rank : α → Nat) (hit : α → Bool) (l : List α) (a : α) :
    Preferred rank hit l a ↔
      l.find? (fun x => hit x && rank x == rank a) = some a ∧
        ∀ x ∈ l, hit x = true → rank x ≤ rank a := by
  rw [List.find?_eq_some_iff_append]
  constructor
  · rintro ⟨before, behind, rfl, ha, hbefore, hbehind⟩
    refine ⟨⟨by simp [ha], before, behind, rfl, fun x hx => ?_⟩, fun x hx hhit => ?_⟩
    · by_cases hhit : hit x = true
      · have := hbefore x hx hhit
        simp only [hhit, Bool.true_and, Bool.not_eq_true', beq_eq_false_iff_ne]
        omega
      · simp [hhit]
    · rcases List.mem_append.1 hx with hx | hx
      · exact Nat.le_of_lt (hbefore x hx hhit)
      · rcases List.mem_cons.1 hx with rfl | hx
        · exact Nat.le_refl _
        · exact hbehind x hx hhit
  · rintro ⟨⟨ha, before, behind, rfl, hbefore⟩, hle⟩
    refine ⟨before, behind, rfl, by simpa using ha, fun x hx hhit => ?_,
      fun x hx hhit => hle x (by simp [hx]) hhit⟩
    have hne := hbefore x hx
    simp only [hhit, Bool.true_and, Bool.not_eq_true', beq_eq_false_iff_ne] at hne
    exact Nat.lt_of_le_of_ne (hle x (by simp [hx]) hhit) hne

/-- There is at most one preferred hit. -/
theorem Preferred.unique {rank : α → Nat} {hit : α → Bool} {l : List α} {a b : α}
    (ha : Preferred rank hit l a) (hb : Preferred rank hit l b) : a = b := by
  rw [preferred_iff] at ha hb
  have amem := List.mem_of_find?_eq_some ha.1
  have bmem := List.mem_of_find?_eq_some hb.1
  have ahit := List.find?_some ha.1
  have bhit := List.find?_some hb.1
  simp only [Bool.and_eq_true] at ahit bhit
  have rank_eq : rank a = rank b :=
    Nat.le_antisymm (hb.2 a amem ahit.1) (ha.2 b bmem bhit.1)
  have h := ha.1
  rw [rank_eq, hb.1] at h
  exact (Option.some.inj h).symm

/-- What the search of the sorted list finds is preferred. -/
theorem preferred_of_find?_mergeSort {rank : α → Nat} {hit : α → Bool} {l : List α}
    {a : α} (h : (l.mergeSort (ranksFirst rank)).find? hit = some a) :
    Preferred rank hit l a := by
  obtain ⟨ha, before, behind, hsplit, hbefore⟩ := List.find?_eq_some_iff_append.1 h
  have sorted := List.pairwise_mergeSort (ranksFirst_trans rank) (ranksFirst_total rank) l
  rw [hsplit] at sorted
  have hbehind : ∀ x ∈ behind, rank x ≤ rank a := fun x hx => by
    have := List.rel_of_pairwise_cons (List.pairwise_append.1 sorted).2.1 hx
    simpa [ranksFirst] using this
  rw [preferred_iff]
  constructor
  · rw [← List.head?_filter, ← filter_rank_mergeSort, hsplit, List.filter_append,
      List.filter_eq_nil_iff.2, List.nil_append, List.filter_cons_of_pos]
    · rfl
    · simp [ha]
    · intro x hx
      have := hbefore x hx
      simp only [Bool.not_eq_true'] at this
      simp [this]
  · intro x hx hhit
    have hx : x ∈ l.mergeSort (ranksFirst rank) := List.mem_mergeSort.2 hx
    rw [hsplit] at hx
    rcases List.mem_append.1 hx with hx | hx
    · exact absurd (hbefore x hx) (by simp [hhit])
    · rcases List.mem_cons.1 hx with rfl | hx
      · exact Nat.le_refl _
      · exact hbehind x hx

/-- **The first hit after sorting by falling rank is the preferred hit** of the
list as it was given. -/
theorem find?_mergeSort_eq_some_iff (rank : α → Nat) (hit : α → Bool) (l : List α)
    (a : α) :
    (l.mergeSort (ranksFirst rank)).find? hit = some a ↔ Preferred rank hit l a := by
  refine ⟨preferred_of_find?_mergeSort, fun ha => ?_⟩
  cases hfind : (l.mergeSort (ranksFirst rank)).find? hit with
  | none =>
      obtain ⟨before, behind, rfl, hit_a, -⟩ := ha
      rw [List.find?_eq_none] at hfind
      exact absurd hit_a (hfind a (List.mem_mergeSort.2 (by simp)))
  | some b => rw [(preferred_of_find?_mergeSort hfind).unique ha]

/-- Leaving out elements that are no hits changes nothing. -/
theorem preferred_filter_iff {rank : α → Nat} {hit : α → Bool} {l : List α}
    (keep : α → Bool) (hkeep : ∀ x ∈ l, hit x = true → keep x = true) (a : α) :
    Preferred rank hit (l.filter keep) a ↔ Preferred rank hit l a := by
  rw [preferred_iff, preferred_iff, ← List.head?_filter, ← List.head?_filter,
    List.filter_filter, List.filter_congr (q := fun x => hit x && rank x == rank a)
      fun x hx => ?same]
  case same =>
    by_cases hhit : hit x = true
    · simp [hhit, hkeep x hx hhit]
    · simp [hhit]
  refine and_congr_right fun _ => ⟨fun h x hx hhit => ?_, fun h x hx hhit => ?_⟩
  · exact h x (List.mem_filter.2 ⟨hx, hkeep x hx hhit⟩) hhit
  · exact h x (List.mem_of_mem_filter hx) hhit

/-- A search for an image is a search for what has one. -/
theorem findSome?_eq_some_iff_find? {β : Type} {f : α → Option β} {l : List α} {b : β} :
    l.findSome? f = some b ↔ ∃ a, l.find? (fun x => (f x).isSome) = some a ∧ f a = some b := by
  induction l with
  | nil => simp
  | cons a l ih => cases h : f a <;> simp [h, ih]

/-- Two neighbours may be exchanged if not both are kept. -/
theorem filter_swap {keep : α → Bool} {a b : α} (h : ¬(keep a = true ∧ keep b = true))
    (l : List α) : (a :: b :: l).filter keep = (b :: a :: l).filter keep := by
  by_cases ha : keep a = true
  · have hb : ¬keep b = true := fun hb => h ⟨ha, hb⟩
    simp [ha, hb]
  · simp [List.filter_cons, ha]

/-- **What is preferred depends on the hits of each rank only.** -/
theorem preferred_congr {rank : α → Nat} {hit : α → Bool} {l l' : List α}
    (h : ∀ n, l.filter (fun x => hit x && rank x == n) = l'.filter fun x => hit x && rank x == n)
    (a : α) : Preferred rank hit l a ↔ Preferred rank hit l' a := by
  have hmem {x : α} (hx : hit x = true) : x ∈ l ↔ x ∈ l' := by
    have hiff : x ∈ l.filter (fun y => hit y && rank y == rank x) ↔
        x ∈ l'.filter fun y => hit y && rank y == rank x := by rw [h]
    simpa [hx] using hiff
  rw [preferred_iff, preferred_iff, ← List.head?_filter, ← List.head?_filter, h]
  exact and_congr_right fun _ => ⟨fun hle x hx hhit => hle x ((hmem hhit).2 hx) hhit,
    fun hle x hx hhit => hle x ((hmem hhit).1 hx) hhit⟩

/-- **What is preferred among the images of a list**, told by the list itself. -/
theorem preferred_filterMap_iff {β : Type} {rank : α → Nat} {hit : α → Bool} {f : β → Option α}
    {l : List β} {a : α} :
    Preferred rank hit (l.filterMap f) a ↔
      ∃ before b behind, l = before ++ b :: behind ∧ f b = some a ∧ hit a = true ∧
        (∀ b' ∈ before, ∀ x, f b' = some x → hit x = true → rank x < rank a) ∧
        ∀ b' ∈ behind, ∀ x, f b' = some x → hit x = true → rank x ≤ rank a := by
  constructor
  · rintro ⟨before, behind, hsplit, ha, hbefore, hbehind⟩
    obtain ⟨front, back, rfl, rfl, hback⟩ := List.filterMap_eq_append_iff.1 hsplit
    obtain ⟨skipped, b, rest, rfl, hskipped, hb, rfl⟩ := List.filterMap_eq_cons_iff.1 hback
    refine ⟨front ++ skipped, b, rest, by simp, hb, ha, fun b' hb' x hx => ?_, fun b' hb' x hx =>
      hbehind x (List.mem_filterMap.2 ⟨b', hb', hx⟩)⟩
    rcases List.mem_append.1 hb' with hb' | hb'
    · exact hbefore x (List.mem_filterMap.2 ⟨b', hb', hx⟩)
    · rw [hskipped b' hb'] at hx
      cases hx
  · rintro ⟨before, b, behind, rfl, hb, ha, hbefore, hbehind⟩
    refine ⟨before.filterMap f, behind.filterMap f, ?_, ha, fun x hx => ?_, fun x hx => ?_⟩
    · rw [List.filterMap_append, List.filterMap_cons_some hb]
    · obtain ⟨b', hb', hx⟩ := List.mem_filterMap.1 hx
      exact hbefore b' hb' x hx
    · obtain ⟨b', hb', hx⟩ := List.mem_filterMap.1 hx
      exact hbehind b' hb' x hx

end HttpDispatch.Preference
