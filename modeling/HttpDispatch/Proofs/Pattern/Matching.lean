import HttpDispatch.Pattern
import Mathlib.Data.List.Basic

/-!
# What a match says about the path

A match binds the variables of a pattern; writing the bound values back into the
pattern gives the segments of the path again.  So a pattern and its bindings
determine the path up to its normal form, and a match at two paths with the same
bindings is a match at the same segments.

## Main definitions

* `Pattern.fill` — segments with values in place of the variables

## Main statements

* `Pattern.length_of_bindSegments?` — a match has as many segments as the path
* `Pattern.fill_of_bindSegments?` — filling in undoes matching
* `Pattern.names_of_bindSegments?` — a match binds every variable once
-/

namespace HttpDispatch

/-- One segment with a value in place of its variable. -/
def Segment.fill (value : String) : Segment → String
  | literal text => text
  | capture _ => value
  | affixed lead _ tail => lead ++ value ++ tail

namespace Pattern

/-- **Fill values in for the variables**, in template order; the text of literals
stays.  Filling stops where the values run out. -/
def fill : List Segment → List String → List String
  | [], _ => []
  | .literal text :: segments, values => text :: fill segments values
  | segment :: segments, value :: values => segment.fill value :: fill segments values
  | _ :: _, [] => []

/-! ### One segment -/

theorem bind?_literal {text value : String} {bound : Bindings}
    (h : (Segment.literal text).bind? value = some bound) :
    text = value ∧ bound = [] := by
  simp only [Segment.bind?] at h
  split at h
  · rename_i heq
    exact ⟨heq, (Option.some.inj h).symm⟩
  · cases h

theorem bind?_capture {name value : String} {bound : Bindings}
    (h : (Segment.capture name).bind? value = some bound) :
    value ≠ "" ∧ bound = [(name, value)] := by
  simp only [Segment.bind?] at h
  split at h
  · cases h
  · rename_i hne
    exact ⟨hne, (Option.some.inj h).symm⟩

theorem bind?_affixed {lead name tail value : String} {bound : Bindings}
    (h : (Segment.affixed lead name tail).bind? value = some bound) :
    ∃ middle, middle ≠ "" ∧ value = lead ++ middle ++ tail ∧ bound = [(name, middle)] := by
  simp only [Segment.bind?, Option.bind_eq_bind, Option.bind_eq_some_iff] at h
  obtain ⟨rest, hrest, middle, hmiddle, h⟩ := h
  split at h
  · cases h
  · rename_i hne
    rw [List.isPrefixOf?_eq_some_iff_append_eq] at hrest
    rw [List.isSuffixOf?_eq_some_iff_append_eq] at hmiddle
    refine ⟨String.ofList middle, ?_, ?_, (Option.some.inj h).symm⟩
    · intro hempty
      exact hne (by simpa using congrArg String.toList hempty)
    · apply String.toList_injective
      simp [← hrest, ← hmiddle]

/-! ### All segments -/

/-- A match has as many segments as the path. -/
theorem length_of_bindSegments? {segments : List Segment} {values : List String}
    {bound : Bindings} (h : bindSegments? segments values = some bound) :
    segments.length = values.length := by
  fun_induction bindSegments? segments values generalizing bound with
  | case1 => rfl
  | case2 segment segments value values ih =>
      simp only [Option.bind_eq_bind, Option.bind_eq_some_iff] at h
      obtain ⟨first, -, rest, hrest, -⟩ := h
      simp [ih hrest]
  | case3 => cases h

/-- **Filling in the bound values undoes matching.** -/
theorem fill_of_bindSegments? {segments : List Segment} {values : List String}
    {bound : Bindings} (h : bindSegments? segments values = some bound) :
    fill segments (bound.map Prod.snd) = values := by
  fun_induction bindSegments? segments values generalizing bound with
  | case1 =>
      cases h
      rfl
  | case2 segment segments value values ih =>
      simp only [Option.bind_eq_bind, Option.bind_eq_some_iff] at h
      obtain ⟨first, hfirst, rest, hrest, h⟩ := h
      cases h
      have htail := ih hrest
      cases segment with
      | literal text =>
          obtain ⟨rfl, rfl⟩ := bind?_literal hfirst
          simp [fill, htail]
      | capture name =>
          obtain ⟨-, rfl⟩ := bind?_capture hfirst
          simp [fill, Segment.fill, htail]
      | affixed lead name tail =>
          obtain ⟨middle, -, rfl, rfl⟩ := bind?_affixed hfirst
          simp [fill, Segment.fill, htail]
  | case3 => cases h

/-- One segment binds its own variable. -/
theorem names_of_bind? {segment : Segment} {value : String} {bound : Bindings}
    (h : segment.bind? value = some bound) : bound.map Prod.fst = segment.name?.toList := by
  cases segment with
  | literal text =>
      obtain ⟨-, rfl⟩ := bind?_literal h
      rfl
  | capture name =>
      obtain ⟨-, rfl⟩ := bind?_capture h
      rfl
  | affixed lead name tail =>
      obtain ⟨middle, -, -, rfl⟩ := bind?_affixed h
      rfl

/-- **A match binds every variable once**, in template order. -/
theorem names_of_bindSegments? {segments : List Segment} {values : List String}
    {bound : Bindings} (h : bindSegments? segments values = some bound) :
    bound.map Prod.fst = segments.filterMap Segment.name? := by
  fun_induction bindSegments? segments values generalizing bound with
  | case1 =>
      cases h
      rfl
  | case2 segment segments value values ih =>
      simp only [Option.bind_eq_bind, Option.bind_eq_some_iff] at h
      obtain ⟨first, hfirst, rest, hrest, h⟩ := h
      cases h
      rw [List.map_append, names_of_bind? hfirst, ih hrest]
      cases hname : segment.name? <;> simp [hname]
  | case3 => cases h

/-- A pattern only matches paths with as many segments as it has. -/
theorem segmentCount_of_bind? {p : Pattern} {path : String} {bound : Bindings}
    (h : p.bind? path = some bound) : p.segmentCount = Path.segmentCount path :=
  length_of_bindSegments? h

/-- **A pattern and its bindings determine the segments of the path.** -/
theorem segments_eq_of_bind?_eq {p : Pattern} {path path' : String} {bound : Bindings}
    (h : p.bind? path = some bound) (h' : p.bind? path' = some bound) :
    Path.segments (Path.normalize path) = Path.segments (Path.normalize path') :=
  (fill_of_bindSegments? h).symm.trans (fill_of_bindSegments? h')

end Pattern

end HttpDispatch
