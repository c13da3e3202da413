import Mathlib.Data.List.Basic
import Mathlib.Order.Lattice

/-!
# Stable order

Sorting is stable: elements that need no exchange stay in the order they had
(`StableOrder.filter_mergeSort`).  `StableOrder.Arranged` turns this into a description of the
sorted list that mentions no sort, and `StableOrder.Arranged.unique` shows that nothing is left
open by it.

What follows is that a list may as well be sorted while it grows: what is put behind an arranged
list and sorted in comes to stand where it would stand if all had been sorted at once
(`StableOrder.Arranged.mergeSort_append`).
-/

namespace HttpDispatch.StableOrder

variable {α κ : Type} {l : List α}

/-- **A stable sort keeps the order of elements that need no exchange.** -/
theorem filter_mergeSort {le : α → α → Bool} {keep : α → Bool}
    (trans : ∀ a b c, le a b = true → le b c = true → le a c = true)
    (total : ∀ a b, (le a b || le b a) = true)
    (equal : (l.filter keep).Pairwise fun a b => le a b = true) :
    (l.mergeSort le).filter keep = l.filter keep := by
  have sub : (l.filter keep).Sublist (l.mergeSort le) :=
    List.sublist_mergeSort trans total equal List.filter_sublist
  have subFilter : (l.filter keep).Sublist ((l.mergeSort le).filter keep) := by
    have h := sub.filter keep
    rwa [List.filter_filter, List.filter_congr (q := keep) (by simp)] at h
  have perm := (List.mergeSort_perm l le).filter keep
  exact (subFilter.eq_of_length perm.length_eq.symm).symm

variable [LinearOrder κ] {key : α → κ} {arranged : List α}

/-- **A list is arranged by a key**: the same elements, by ascending key, and those of one key in
the order they had. -/
structure Arranged (key : α → κ) (l arranged : List α) : Prop where
  /-- The elements are the same, each as often. -/
  perm : arranged.Perm l
  /-- No key is followed by a lower one. -/
  ascending : arranged.Pairwise fun a b => key a ≤ key b
  /-- Elements of one key stay in order. -/
  filter_eq : ∀ k, arranged.filter (fun a => key a = k) = l.filter fun a => key a = k

/-- A stable sort arranges. -/
theorem arranged_mergeSort (key : α → κ) (l : List α) :
    Arranged key l (l.mergeSort fun a b => key a ≤ key b) := by
  have trans : ∀ a b c, decide (key a ≤ key b) = true → decide (key b ≤ key c) = true →
      decide (key a ≤ key c) = true := by
    simpa using fun a b c => @le_trans κ _ (key a) (key b) (key c)
  have total : ∀ a b, (decide (key a ≤ key b) || decide (key b ≤ key a)) = true := by
    simpa using fun a b => le_total (key a) (key b)
  refine ⟨List.mergeSort_perm l _, ?_, fun k => filter_mergeSort trans total ?_⟩
  · simpa using List.pairwise_mergeSort trans total l
  · refine List.pairwise_of_forall_mem_list fun a ha b hb => ?_
    simp only [List.mem_filter, decide_eq_true_eq] at ha hb ⊢
    rw [ha.2, hb.2]

/-- The first element of a list by ascending key has the least key of all. -/
theorem key_le_of_mem {a b : α} (h : (a :: l).Pairwise fun a b => key a ≤ key b)
    (hb : b ∈ a :: l) : key a ≤ key b := by
  rcases List.mem_cons.1 hb with rfl | hb
  · exact le_rfl
  · exact List.rel_of_pairwise_cons h hb

/-- **Nothing is left open**: two lists by ascending key are equal if they have the same elements
of each key, in the same order. -/
theorem eq_of_filter_eq {l' : List α} (h : l.Pairwise fun a b => key a ≤ key b)
    (h' : l'.Pairwise fun a b => key a ≤ key b)
    (heq : ∀ k, l.filter (fun a => key a = k) = l'.filter fun a => key a = k) : l = l' := by
  have hmem : ∀ a, a ∈ l ↔ a ∈ l' := by
    intro a
    have hfilter : a ∈ l.filter (fun b => key b = key a) ↔
        a ∈ l'.filter fun b => key b = key a := by rw [heq]
    simpa using hfilter
  induction l generalizing l' with
  | nil =>
      cases l' with
      | nil => rfl
      | cons b m => exact absurd ((hmem b).2 List.mem_cons_self) List.not_mem_nil
  | cons a l ih =>
      cases l' with
      | nil => exact absurd ((hmem a).1 List.mem_cons_self) List.not_mem_nil
      | cons b m =>
          -- each of the two heads is an element of the other list
          have hkey : key a = key b :=
            le_antisymm (key_le_of_mem h ((hmem b).2 List.mem_cons_self))
              (key_le_of_mem h' ((hmem a).1 List.mem_cons_self))
          have hheads := heq (key a)
          rw [List.filter_cons_of_pos (by simp), List.filter_cons_of_pos (by simp [hkey]),
            List.cons.injEq] at hheads
          obtain ⟨rfl, hsame⟩ := hheads
          have hrest : ∀ k, l.filter (fun a => key a = k) = m.filter fun a => key a = k := by
            intro k
            by_cases hk : key a = k
            · exact hk ▸ hsame
            · have hk' := heq k
              rwa [List.filter_cons_of_neg (by simpa using hk),
                List.filter_cons_of_neg (by simpa using hk)] at hk'
          have htails : ∀ c, c ∈ l ↔ c ∈ m := by
            intro c
            have hfilter : c ∈ l.filter (fun b => key b = key c) ↔
                c ∈ m.filter fun b => key b = key c := by rw [hrest]
            simpa using hfilter
          rw [ih h.of_cons h'.of_cons hrest htails]

namespace Arranged

/-- **There is one arrangement.** -/
theorem unique {arranged' : List α} (h : Arranged key l arranged)
    (h' : Arranged key l arranged') : arranged = arranged' :=
  eq_of_filter_eq h.ascending h'.ascending fun k => (h.filter_eq k).trans (h'.filter_eq k).symm

theorem eq_mergeSort (h : Arranged key l arranged) :
    arranged = l.mergeSort fun a b => key a ≤ key b :=
  h.unique (arranged_mergeSort key l)

/-- **Sorting in what is put behind** keeps a list arranged. -/
theorem mergeSort_append (h : Arranged key l arranged) (more : List α) :
    Arranged key (l ++ more) ((arranged ++ more).mergeSort fun a b => key a ≤ key b) where
  perm := (List.mergeSort_perm _ _).trans (h.perm.append_right more)
  ascending := (arranged_mergeSort key _).ascending
  filter_eq := by
    intro k
    rw [(arranged_mergeSort key _).filter_eq, List.filter_append, List.filter_append,
      h.filter_eq]

end Arranged

end HttpDispatch.StableOrder
