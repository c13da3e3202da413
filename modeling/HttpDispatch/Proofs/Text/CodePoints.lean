import HttpDispatch.Text.CodePoints

/-!
# Comparing sets of code points

Whether some tables hold all that another one holds can be decided range by range, without
looking at single code points: `CodePoints.uncovered` takes their ranges away from those of the
other, and if nothing is left, every member of it is a member of one of them
(`exists_has_of_uncovered`).  Likewise for a table whose ranges are parts of the ranges of
another (`has_of_inside`), and for tables whose ranges are apart (`not_has_of_apart`).

All three read a table as what lies in *some* range of it.  For the look-up, which stops early, that
is the same if the ranges ascend (`hasCode_of_mem`).
-/

namespace HttpDispatch.CodePoints

/-- A number lies in a range. -/
def Within (n : Nat) (r : Nat × Nat) : Prop := r.1 ≤ n ∧ n ≤ r.2

/-! ### Ascending tables -/

/-- Whether the ranges of a table start in ascending order. -/
def isAscending : CodePoints → Bool
  | [] => true
  | [_] => true
  | r :: s :: table => r.1 ≤ s.1 && isAscending (s :: table)

/-- The first range of an ascending table starts first. -/
theorem le_of_isAscending {r s : Nat × Nat} {table : CodePoints}
    (hasc : isAscending (r :: table) = true) (hs : s ∈ table) : r.1 ≤ s.1 := by
  induction table generalizing r with
  | nil => cases hs
  | cons t table ih =>
      obtain ⟨hle, hasc⟩ := Bool.and_eq_true_iff.1 hasc
      have hrt : r.1 ≤ t.1 := of_decide_eq_true hle
      rcases List.mem_cons.1 hs with rfl | hs
      · exact hrt
      · exact Nat.le_trans hrt (ih hasc hs)

/-- **What lies in a range of an ascending table is a member.** -/
theorem hasCode_of_mem {table : CodePoints} (hasc : isAscending table = true) {r : Nat × Nat}
    (hr : r ∈ table) {n : Nat} (hn : Within n r) : table.hasCode n = true := by
  induction table with
  | nil => cases hr
  | cons s table ih =>
      obtain ⟨low, high⟩ := s
      -- the look-up does not stop here: the range of `n` starts no earlier than this one
      have hlow : low ≤ n := by
        rcases List.mem_cons.1 hr with rfl | hr
        · exact hn.1
        · exact Nat.le_trans (le_of_isAscending hasc hr) hn.1
      rw [hasCode, if_neg (Nat.not_lt.2 hlow)]
      split
      · rfl
      · next hhigh =>
        rcases List.mem_cons.1 hr with rfl | hr
        · exact absurd hn.2 hhigh
        · cases table with
          | nil => cases hr
          | cons t table => exact ih (Bool.and_eq_true_iff.1 hasc).2 hr

/-! ### Covers -/

/-- What is left of a range `r` without a range `s`. -/
def minus (r s : Nat × Nat) : CodePoints :=
  (if r.1 < s.1 then [(r.1, min r.2 (s.1 - 1))] else []) ++
    if s.2 < r.2 then [(max r.1 (s.2 + 1), r.2)] else []

/-- A number in a range is in the other range or in what is left. -/
theorem within_or_exists_minus {n : Nat} {r : Nat × Nat} (hn : Within n r) (s : Nat × Nat) :
    Within n s ∨ ∃ t ∈ minus r s, Within n t := by
  obtain ⟨hlow, hhigh⟩ := hn
  by_cases hbelow : n < s.1
  · refine .inr ⟨(r.1, min r.2 (s.1 - 1)), ?_, hlow, by simp only; omega⟩
    rw [minus, if_pos (by omega)]
    exact List.mem_append_left _ List.mem_cons_self
  by_cases habove : s.2 < n
  · refine .inr ⟨(max r.1 (s.2 + 1), r.2), ?_, by simp only; omega, hhigh⟩
    rw [minus, if_pos (show s.2 < r.2 by omega)]
    exact List.mem_append_right _ List.mem_cons_self
  exact .inl ⟨by omega, by omega⟩

/-- What is left of the ranges of a table without those of another, which are taken away from
the last to the first. -/
def uncovered (table cover : CodePoints) : CodePoints :=
  cover.foldr (fun s rest => rest.flatMap (minus · s)) table

/-- A number in a range of a table is in a range of the other one or in what is left. -/
theorem exists_within_uncovered {n : Nat} {table : CodePoints} (cover : CodePoints)
    {r : Nat × Nat} (hr : r ∈ table) (hn : Within n r) :
    (∃ s ∈ cover, Within n s) ∨ ∃ t ∈ uncovered table cover, Within n t := by
  induction cover with
  | nil => exact .inr ⟨r, hr, hn⟩
  | cons s cover ih =>
      rcases ih with ⟨u, hu, hn⟩ | ⟨t, ht, hn⟩
      · exact .inl ⟨u, List.mem_cons_of_mem _ hu, hn⟩
      · rcases within_or_exists_minus hn s with hs | ⟨u, hu, hn⟩
        · exact .inl ⟨s, List.mem_cons_self, hs⟩
        · exact .inr ⟨u, List.mem_flatMap.2 ⟨t, ht, hu⟩, hn⟩

/-- **If nothing is left, every member is a member of one of the other tables.** -/
theorem exists_has_of_uncovered {table : CodePoints} {cover : List CodePoints}
    (hcover : ∀ t ∈ cover, isAscending t = true) (h : uncovered table cover.flatten = [])
    {c : Char} (hc : table.has c = true) : ∃ t ∈ cover, t.has c = true := by
  obtain ⟨r, hr, hn⟩ := exists_range_of_hasCode hc
  rcases exists_within_uncovered cover.flatten hr hn with ⟨s, hs, hn⟩ | ⟨t, ht, -⟩
  · obtain ⟨t, ht, hs⟩ := List.mem_flatten.1 hs
    exact ⟨t, ht, hasCode_of_mem (hcover t ht) hs hn⟩
  · rw [h] at ht
    cases ht

/-! ### Ranges in ranges -/

/-- **Inside**: each range of a table is part of one of the other table. -/
def Inside (table table' : CodePoints) : Prop :=
  ∀ r ∈ table, ∃ s ∈ table', s.1 ≤ r.1 ∧ r.2 ≤ s.2

instance (table table' : CodePoints) : Decidable (Inside table table') :=
  inferInstanceAs (Decidable (∀ r ∈ table, ∃ s ∈ table', _))

/-- **A table inside another one has no other members.** -/
theorem has_of_inside {table table' : CodePoints} (hasc : isAscending table' = true)
    (h : Inside table table') {c : Char} (hc : table.has c = true) : table'.has c = true := by
  obtain ⟨r, hr, hlow, hhigh⟩ := exists_range_of_hasCode hc
  obtain ⟨s, hs, hlow', hhigh'⟩ := h r hr
  exact hasCode_of_mem hasc hs ⟨Nat.le_trans hlow' hlow, Nat.le_trans hhigh hhigh'⟩

/-! ### Tables that are apart -/

/-- **Apart**: no range of one table meets one of the other. -/
def Apart (table table' : CodePoints) : Prop := ∀ r ∈ table, ∀ s ∈ table', r.2 < s.1 ∨ s.2 < r.1

instance (table table' : CodePoints) : Decidable (Apart table table') :=
  inferInstanceAs (Decidable (∀ r ∈ table, ∀ s ∈ table', _))

/-- **Tables that are apart share no member.** -/
theorem not_has_of_apart {table table' : CodePoints} (h : Apart table table') {c : Char}
    (hc : table.has c = true) : table'.has c = false := by
  refine Bool.eq_false_iff.2 fun hc' => ?_
  obtain ⟨r, hr, hlow, hhigh⟩ := exists_range_of_hasCode hc
  obtain ⟨s, hs, hlow', hhigh'⟩ := exists_range_of_hasCode hc'
  have hapart := h r hr s hs
  omega

end HttpDispatch.CodePoints
