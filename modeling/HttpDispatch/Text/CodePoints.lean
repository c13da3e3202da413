/-!
# Sets of code points

A character property is given by the ranges of code points that have it, in
ascending order.  The tables of this library are written this way and asked
through `CodePoints.has`, which stops at the first range that lies above.
-/

namespace HttpDispatch

/-- A set of code points: inclusive ranges, ascending and apart. -/
abbrev CodePoints := List (Nat × Nat)

namespace CodePoints

/-- **Membership**: some range holds `n`. -/
def hasCode : CodePoints → Nat → Bool
  | [], _ => false
  | (low, high) :: rest, n =>
    if n < low then false else if n ≤ high then true else hasCode rest n

/-- Whether a character is in the set. -/
def has (table : CodePoints) (c : Char) : Bool := table.hasCode c.toNat

@[simp] theorem hasCode_nil (n : Nat) : hasCode [] n = false := rfl

/-- A member lies in one of the ranges. -/
theorem exists_range_of_hasCode {table : CodePoints} {n : Nat} (h : table.hasCode n = true) :
    ∃ r ∈ table, r.1 ≤ n ∧ n ≤ r.2 := by
  induction table with
  | nil => simp at h
  | cons r table ih =>
    obtain ⟨low, high⟩ := r
    rw [hasCode] at h
    split at h
    · cases h
    · split at h
      · exact ⟨(low, high), by simp, by omega, by assumption⟩
      · obtain ⟨r, hr, hn⟩ := ih h
        exact ⟨r, List.mem_cons_of_mem _ hr, hn⟩

end CodePoints

end HttpDispatch
