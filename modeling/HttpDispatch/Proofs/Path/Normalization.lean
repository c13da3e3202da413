import HttpDispatch.Path
import Mathlib.Data.List.Basic

/-!
# The normal form of a normal form

The normal form of a path is the path without **one** slash at its end.  It need not be its
own normal form: of two slashes at the end the second is still there, and is dropped if the
normal form is taken once more.

* `Path.EndsInTwoSlashes` — a path with two slashes at its end and something before them.
* `Path.normalize_normalize_eq_iff` — taking the normal form twice is taking it once for
  all other paths, and only for these.
* `Path.segmentCount_normalize_lt` — the slash that goes with the second time was the end of
  a segment, so the path loses a segment with it.  No pattern matches both.
* `Path.join_segmentsChars_slash` — behind the leading slash, the segments joined by slashes
  are the path again.
-/

namespace HttpDispatch

namespace Path

/-- A path **ends in two slashes**, and something stands before them. -/
def EndsInTwoSlashes (path : String) : Prop :=
  2 < path.toList.length ∧ ['/', '/'] <:+ path.toList

instance (path : String) : Decidable (EndsInTwoSlashes path) :=
  inferInstanceAs (Decidable (_ ∧ _))

theorem endsInTwoSlashes_iff {path : String} :
    EndsInTwoSlashes path ↔ ∃ front, front ≠ [] ∧ path.toList = front ++ ['/', '/'] := by
  constructor
  · rintro ⟨hlength, front, hfront⟩
    refine ⟨front, ?_, hfront.symm⟩
    rintro rfl
    rw [← hfront] at hlength
    simp at hlength
  · rintro ⟨front, hne, hpath⟩
    have hpos := List.length_pos_iff.2 hne
    refine ⟨?_, front, hpath.symm⟩
    rw [hpath, List.length_append, List.length_cons, List.length_singleton]
    omega

/-! ### One slash at the end -/

/-- The slash behind something is dropped. -/
theorem normalizeChars_append_slash {front : List Char} (h : front ≠ []) :
    normalizeChars (front ++ ['/']) = front := by
  have hpos := List.length_pos_iff.2 h
  have hlength : 1 < (front ++ ['/']).length := by
    rw [List.length_append, List.length_singleton]
    omega
  rw [normalizeChars, if_pos ⟨hlength, List.getLast?_concat⟩, List.dropLast_concat]

theorem normalizeChars_of_getLast?_ne {cs : List Char} (h : cs.getLast? ≠ some '/') :
    normalizeChars cs = cs := by
  rw [normalizeChars, if_neg fun hslash => h hslash.2]

/-- A path that does not end in a slash is its own normal form. -/
theorem normalize_of_getLast?_ne {path : String} (h : path.toList.getLast? ≠ some '/') :
    normalize path = path := by
  rw [normalize, normalizeChars_of_getLast?_ne h, String.ofList_toList]

/-- **The normal form of a path looks at its end only**: what stands in front of a slash with
something behind it stays in front. -/
theorem normalizeChars_append {front cs : List Char} (h : cs ≠ []) :
    normalizeChars (front ++ '/' :: cs) = front ++ normalizeChars ('/' :: cs) := by
  have hpos := List.length_pos_iff.2 h
  have hlong : 1 < ('/' :: cs).length := by
    rw [List.length_cons]
    omega
  have hlonger : 1 < (front ++ '/' :: cs).length := by
    rw [List.length_append]
    omega
  simp only [normalizeChars, hlong, hlonger, true_and,
    List.getLast?_append_of_ne_nil _ (List.cons_ne_nil '/' cs)]
  split
  · exact List.dropLast_append_of_ne_nil (List.cons_ne_nil '/' cs)
  · rfl

/-- A path that its normal form shortens has a slash at its end, behind something. -/
theorem exists_append_slash_of_normalizeChars_ne {cs : List Char} (h : normalizeChars cs ≠ cs) :
    ∃ front, front ≠ [] ∧ cs = front ++ ['/'] := by
  rw [normalizeChars] at h
  split at h
  · rename_i hslash
    obtain ⟨front, hfront⟩ := List.getLast?_eq_some_iff.1 hslash.2
    refine ⟨front, ?_, hfront⟩
    rintro rfl
    rw [hfront] at hslash
    exact absurd hslash.1 (by simp)
  · exact absurd rfl h

/-! ### Once more -/

/-- **Of two slashes the first time drops one and the second time the other.** -/
theorem normalize_of_endsInTwoSlashes {path : String} (h : EndsInTwoSlashes path) :
    ∃ front, front ≠ [] ∧ (normalize path).toList = front ++ ['/'] ∧
      (normalize (normalize path)).toList = front := by
  obtain ⟨front, hne, hpath⟩ := endsInTwoSlashes_iff.1 h
  have honce : (normalize path).toList = front ++ ['/'] := by
    have hassoc : front ++ ['/', '/'] = (front ++ ['/']) ++ ['/'] := by simp
    rw [toList_normalize, hpath, hassoc]
    exact normalizeChars_append_slash (by simp)
  refine ⟨front, hne, honce, ?_⟩
  rw [toList_normalize, honce, normalizeChars_append_slash hne]

/-- **The normal form is its own normal form** unless the path ends in two slashes. -/
theorem normalize_normalize_eq_iff {path : String} :
    normalize (normalize path) = normalize path ↔ ¬ EndsInTwoSlashes path := by
  constructor
  · intro heq hends
    obtain ⟨front, -, honce, htwice⟩ := normalize_of_endsInTwoSlashes hends
    rw [heq, honce] at htwice
    simpa using congrArg List.length htwice
  · intro hends
    by_contra hne
    have hchars : normalizeChars (normalize path).toList ≠ (normalize path).toList := by
      intro heq
      apply hne
      apply String.toList_injective
      rw [toList_normalize, heq]
    obtain ⟨front, hfront, hslash⟩ := exists_append_slash_of_normalizeChars_ne hchars
    rw [toList_normalize] at hslash
    -- the first time has dropped a slash as well, or there would be two normal forms
    have hdropped : normalizeChars path.toList ≠ path.toList := by
      intro heq
      rw [toList_normalize, heq] at hchars
      exact hchars heq
    obtain ⟨longer, hlonger, hpath⟩ := exists_append_slash_of_normalizeChars_ne hdropped
    rw [hpath, normalizeChars_append_slash hlonger] at hslash
    refine hends (endsInTwoSlashes_iff.2 ⟨front, hfront, ?_⟩)
    rw [hpath, hslash, List.append_assoc]
    rfl

/-! ### Segments -/

/-- A slash at the end is the end of a segment. -/
theorem length_segmentsChars_lt {front : List Char} (h : front ≠ []) :
    (segmentsChars front).length < (segmentsChars (front ++ ['/'])).length := by
  obtain ⟨c, cs, rfl⟩ := List.exists_cons_of_ne_nil h
  by_cases hc : c = '/'
  · subst hc
    cases cs with
    | nil => decide
    | cons d ds =>
        rw [List.cons_append, List.cons_append, segmentsChars_slash_cons,
          segmentsChars_slash_cons, Text.length_split, Text.length_split, ← List.cons_append,
          List.count_append]
        simp
  · rw [List.cons_append, segmentsChars_cons_of_ne hc, segmentsChars_cons_of_ne hc,
      Text.length_split, Text.length_split, ← List.cons_append, List.count_append]
    simp

theorem length_segments (path : String) :
    (segments path).length = (segmentsChars path.toList).length := by
  rw [segments, List.length_map]

/-- **A path that ends in two slashes loses a segment** when its normal form is taken for the
path itself. -/
theorem segmentCount_normalize_lt {path : String} (h : EndsInTwoSlashes path) :
    segmentCount (normalize path) < segmentCount path := by
  obtain ⟨front, hne, honce, htwice⟩ := normalize_of_endsInTwoSlashes h
  rw [segmentCount, segmentCount, length_segments, length_segments, honce, htwice]
  exact length_segmentsChars_lt hne

/-! ### Segments written back -/

theorem join_segmentsChars_slash (cs : List Char) :
    Text.join '/' (segmentsChars ('/' :: cs)) = cs := by
  cases cs with
  | nil => rfl
  | cons c cs => rw [segmentsChars_slash_cons, Text.join_split]

theorem join_segmentsChars_of_ne {c : Char} (h : c ≠ '/') (cs : List Char) :
    Text.join '/' (segmentsChars (c :: cs)) = c :: cs := by
  rw [segmentsChars_cons_of_ne h, Text.join_split]

/-- The normal form starts with a slash if the path does. -/
theorem head?_normalize {path : String} (h : path.toList.head? = some '/') :
    (normalize path).toList.head? = some '/' := by
  obtain ⟨rest, hrest⟩ := List.head?_eq_some_iff.1 h
  rw [toList_normalize, hrest, normalizeChars]
  split
  · rename_i hslash
    cases rest with
    | nil => exact absurd hslash.1 (by simp)
    | cons c rest => rfl
  · rfl

end Path

end HttpDispatch
