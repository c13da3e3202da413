/-!
# Cutting text at a separator

Paths, query strings, header values and property paths are all read by cutting
text at one separator.  Two cuts suffice:

* `split` — cut at **every** occurrence, so there is always one piece more than
  there are separators (`split_ne_nil`), and empty pieces are kept;
* `cut?` — cut at the **first** occurrence only, or report that there is none.

`join` writes pieces back.  `join_split` and `split_join` make the two inverse
to each other: splitting loses nothing, and pieces free of the separator come
back as they were.

Readers work on lists, because there every function is a structural recursion
with short laws; text is stored as `String`.  The cuts are generic in what the
list holds: characters for text, bytes for the fields of a form.
-/

namespace HttpDispatch.Text

variable {α : Type} [DecidableEq α]

/-! ### Every occurrence -/

/-- **Cut at every occurrence** of `sep`.  The pieces are in order, and an empty
text has the single empty piece. -/
def split (sep : α) : List α → List (List α)
  | [] => [[]]
  | c :: cs =>
    if c = sep then [] :: split sep cs
    else match split sep cs with
      | [] => [[c]]
      | piece :: pieces => (c :: piece) :: pieces

/-- **Write pieces back**, with `sep` between any two of them. -/
def join (sep : α) : List (List α) → List α
  | [] => []
  | [piece] => piece
  | piece :: next :: pieces => piece ++ sep :: join sep (next :: pieces)

@[simp] theorem split_nil (sep : α) : split sep [] = [[]] := rfl

theorem split_ne_nil (sep : α) (cs : List α) : split sep cs ≠ [] := by
  cases cs with
  | nil => simp
  | cons c cs =>
    rw [split]
    split
    · simp
    · split <;> simp

/-- A separator in front contributes one empty piece. -/
theorem split_sep_cons (sep : α) (cs : List α) :
    split sep (sep :: cs) = [] :: split sep cs := by
  simp [split]

/-- Any other character in front joins the first piece. -/
theorem split_cons_of_ne {sep c : α} (h : c ≠ sep) {cs piece : List α}
    {pieces : List (List α)} (hs : split sep cs = piece :: pieces) :
    split sep (c :: cs) = (c :: piece) :: pieces := by
  simp [split, h, hs]

/-- Splitting loses nothing. -/
theorem join_split (sep : α) (cs : List α) : join sep (split sep cs) = cs := by
  induction cs with
  | nil => rfl
  | cons c cs ih =>
    obtain ⟨piece, pieces, hs⟩ := List.exists_cons_of_ne_nil (split_ne_nil sep cs)
    rw [hs] at ih
    by_cases hc : c = sep
    · subst hc
      rw [split_sep_cons, hs]
      simp [join, ih]
    · rw [split_cons_of_ne hc hs]
      cases pieces with
      | nil => simpa [join] using ih
      | cons next rest => simpa [join] using ih

/-- There is one piece more than there are separators. -/
theorem length_split (sep : α) (cs : List α) : (split sep cs).length = cs.count sep + 1 := by
  induction cs with
  | nil => rfl
  | cons c cs ih =>
    obtain ⟨piece, pieces, hs⟩ := List.exists_cons_of_ne_nil (split_ne_nil sep cs)
    by_cases hc : c = sep
    · subst hc
      rw [split_sep_cons, List.length_cons, ih, List.count_cons_self]
    · rw [split_cons_of_ne hc hs, List.count_cons_of_ne hc, ← ih, hs]
      rfl

/-- No piece holds the separator. -/
theorem sep_not_mem_of_mem_split {sep : α} {cs piece : List α}
    (h : piece ∈ split sep cs) : sep ∉ piece := by
  induction cs generalizing piece with
  | nil => simp_all [split]
  | cons c cs ih =>
    obtain ⟨first, rest, hs⟩ := List.exists_cons_of_ne_nil (split_ne_nil sep cs)
    by_cases hc : c = sep
    · subst hc
      rw [split_sep_cons] at h
      rcases List.mem_cons.1 h with rfl | h
      · simp
      · exact ih h
    · rw [split_cons_of_ne hc hs] at h
      rcases List.mem_cons.1 h with rfl | h
      · have := @ih first (by simp [hs])
        simp [Ne.symm hc, this]
      · exact ih (by simp [hs, h])

/-- A text without the separator is its own single piece. -/
theorem split_of_sep_not_mem {sep : α} {cs : List α} (h : sep ∉ cs) :
    split sep cs = [cs] := by
  induction cs with
  | nil => rfl
  | cons c cs ih =>
    simp only [List.mem_cons, not_or] at h
    exact split_cons_of_ne (Ne.symm h.1) (ih h.2)

/-- **A separator parts two texts**: each is split by itself. -/
theorem split_append_sep_cons (sep : α) (front cs : List α) :
    split sep (front ++ sep :: cs) = split sep front ++ split sep cs := by
  induction front with
  | nil => exact split_sep_cons sep cs
  | cons c front ih =>
    by_cases hc : c = sep
    · subst hc
      rw [List.cons_append, split_sep_cons, split_sep_cons, ih, List.cons_append]
    · obtain ⟨piece, pieces, hs⟩ := List.exists_cons_of_ne_nil (split_ne_nil sep front)
      rw [hs, List.cons_append] at ih
      rw [List.cons_append, split_cons_of_ne hc ih, split_cons_of_ne hc hs, List.cons_append]

/-- A piece without the separator, then the separator, is split off as it is. -/
theorem split_append_sep {sep : α} {piece : List α} (h : sep ∉ piece) (cs : List α) :
    split sep (piece ++ sep :: cs) = piece :: split sep cs := by
  rw [split_append_sep_cons, split_of_sep_not_mem h, List.singleton_append]

/-- Pieces without the separator come back from their joined text. -/
theorem split_join {sep : α} {pieces : List (List α)} (hne : pieces ≠ [])
    (h : ∀ piece ∈ pieces, sep ∉ piece) : split sep (join sep pieces) = pieces := by
  induction pieces with
  | nil => exact absurd rfl hne
  | cons piece pieces ih =>
    cases pieces with
    | nil => exact split_of_sep_not_mem (h piece (by simp))
    | cons next rest =>
      rw [join, split_append_sep (h piece (by simp)),
        ih (by simp) fun p hp => h p (List.mem_cons_of_mem _ hp)]

/-! ### The first occurrence -/

/-- **Cut at the first occurrence** of `sep`: the text before it and the text
after it, or `none` if it does not occur. -/
def cut? (sep : α) : List α → Option (List α × List α)
  | [] => none
  | c :: cs =>
    if c = sep then some ([], cs)
    else (cut? sep cs).map fun (before, after) => (c :: before, after)

theorem cut?_eq_none_iff {sep : α} {cs : List α} : cut? sep cs = none ↔ sep ∉ cs := by
  induction cs with
  | nil => simp [cut?]
  | cons c cs ih =>
    by_cases hc : c = sep
    · simp [cut?, hc]
    · simp [cut?, hc, ih, Ne.symm hc]

theorem cut?_eq_some_iff {sep : α} {cs before after : List α} :
    cut? sep cs = some (before, after) ↔ cs = before ++ sep :: after ∧ sep ∉ before := by
  induction cs generalizing before with
  | nil => simp [cut?]
  | cons c cs ih =>
    by_cases hc : c = sep
    · subst hc
      cases before with
      | nil => simp [cut?, eq_comm]
      | cons b before =>
        have : ¬ (c :: cs = b :: before ++ c :: after ∧ c ∉ b :: before) := by
          rintro ⟨h, hn⟩
          simp only [List.cons_append, List.cons.injEq, List.mem_cons, not_or] at h hn
          exact hn.1 h.1
        simpa [cut?] using this
    · cases before with
      | nil => simp [cut?, hc]
      | cons b before =>
        simp only [cut?, if_neg hc, Option.map_eq_some_iff, Prod.exists, Prod.mk.injEq,
          List.cons_append, List.cons.injEq, List.mem_cons, not_or]
        constructor
        · rintro ⟨x, y, h, ⟨rfl, rfl⟩, rfl⟩
          obtain ⟨h1, h2⟩ := ih.1 h
          exact ⟨⟨rfl, h1⟩, Ne.symm hc, h2⟩
        · rintro ⟨⟨rfl, h1⟩, -, h2⟩
          exact ⟨before, after, ih.2 ⟨h1, h2⟩, ⟨rfl, rfl⟩, rfl⟩

end HttpDispatch.Text
