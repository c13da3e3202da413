import HttpDispatch.Negotiation.Registry
import HttpDispatch.Proofs.Path.Normalization
import Mathlib.Data.List.Basic
import Mathlib.Data.String.Basic

/-!
# Extensions of paths

The extension of a path is found by reading it from its end.  `Path.Carries` says
forwards what is found: the path is a stem, a dot and the extension, and neither the
stem ends in a slash nor has the extension a dot or a slash in it
(`Registry.extension?_eq_some_iff`).

Two consequences matter to whoever looks for an extension.

* A path with an extension does not end in a slash, so it is its own normal form
  (`Path.Carries.normalize_eq`), and a path that ends in one has none.
* The stem has the same slashes, but never the same segments as the path
  (`Path.Carries.segments_stem_ne`): no route binds the same values at both.
-/

namespace HttpDispatch

namespace Path

/-! ### Stem and extension -/

/-- **A path carries an extension** behind a stem. -/
structure Carries (path stem extension : List Char) : Prop where
  /-- A dot stands between the two. -/
  eq_append : path = stem ++ '.' :: extension
  /-- Something stands before the dot. -/
  stem_ne_nil : stem ≠ []
  /-- It stands in the same segment. -/
  getLast?_stem : stem.getLast? ≠ some '/'
  /-- Something stands behind the dot. -/
  extension_ne_nil : extension ≠ []
  /-- It was the last dot. -/
  dot_not_mem : '.' ∉ extension
  /-- It stands in the last segment. -/
  slash_not_mem : '/' ∉ extension

namespace Carries

variable {path stem extension : List Char}

/-- A path with an extension does not end in a slash. -/
theorem getLast?_ne (h : Carries path stem extension) : path.getLast? ≠ some '/' := by
  intro hslash
  rw [h.eq_append, List.getLast?_append_of_ne_nil _ (List.cons_ne_nil _ _),
    List.getLast?_cons_of_ne_nil h.extension_ne_nil] at hslash
  exact h.slash_not_mem (List.mem_of_getLast? hslash)

/-- **A path and its stem have different segments.** -/
theorem segmentsChars_stem_ne (h : Carries path stem extension) :
    segmentsChars stem ≠ segmentsChars path := by
  intro heq
  obtain ⟨c, rest, rfl⟩ := List.exists_cons_of_ne_nil h.stem_ne_nil
  have hjoin := congrArg (Text.join '/') heq
  rw [h.eq_append, List.cons_append] at hjoin
  by_cases hc : c = '/'
  · subst hc
    rw [join_segmentsChars_slash, join_segmentsChars_slash] at hjoin
    simpa using congrArg List.length hjoin
  · rw [join_segmentsChars_of_ne hc, join_segmentsChars_of_ne hc] at hjoin
    simpa using congrArg List.length hjoin

end Carries

end Path

namespace Registry

/-! ### The last segment -/

theorem slash_not_mem_lastSegment (path : List Char) : '/' ∉ lastSegment path := by
  intro hslash
  rw [lastSegment, List.mem_reverse] at hslash
  have hall := List.all_takeWhile (p := fun c => decide (c ≠ '/')) (l := path.reverse)
  have hne := List.all_eq_true.1 hall '/' hslash
  simp at hne

theorem exists_append_lastSegment (path : List Char) :
    ∃ front, path = front ++ lastSegment path := by
  refine ⟨(path.reverse.dropWhile (· ≠ '/')).reverse, ?_⟩
  rw [lastSegment, ← List.reverse_append, List.takeWhile_append_dropWhile,
    List.reverse_reverse]

/-- What has no slash in it prolongs the last segment. -/
theorem lastSegment_append (path : List Char) {more : List Char} (h : '/' ∉ more) :
    lastSegment (path ++ more) = lastSegment path ++ more := by
  have hmore : ∀ c ∈ more.reverse, decide (c ≠ '/') = true := by
    intro c hc
    rw [decide_eq_true_eq]
    rintro rfl
    exact h (List.mem_reverse.1 hc)
  rw [lastSegment, lastSegment, List.reverse_append, List.takeWhile_append_of_pos hmore,
    List.reverse_append, List.reverse_reverse]

theorem lastSegment_ne_nil {path : List Char} (hne : path ≠ [])
    (h : path.getLast? ≠ some '/') : lastSegment path ≠ [] := by
  obtain ⟨front, c, rfl⟩ := (List.eq_nil_or_concat' path).resolve_left hne
  have hc : '/' ∉ [c] := by simpa [eq_comm] using h
  rw [lastSegment_append front hc]
  simp

/-! ### What is found -/

/-- What is found in the last segment. -/
theorem extensionChars?_eq_some_iff_lastSegment {path extension : List Char} :
    extensionChars? path = some extension ↔
      ∃ stem, lastSegment path = stem ++ '.' :: extension ∧ stem ≠ [] ∧ extension ≠ [] ∧
        '.' ∉ extension := by
  constructor
  · intro h
    unfold extensionChars? at h
    split at h
    · cases h
    · rename_i before after hcut
      split at h
      · cases h
      · rename_i hne
        cases h
        obtain ⟨hreverse, hdot⟩ := Text.cut?_eq_some_iff.1 hcut
        refine ⟨after.reverse, ?_, ?_, ?_, ?_⟩
        · rw [← List.reverse_reverse (lastSegment path), hreverse]
          simp
        · exact fun hnil => hne (.inl (List.reverse_eq_nil_iff.1 hnil))
        · exact fun hnil => hne (.inr (List.reverse_eq_nil_iff.1 hnil))
        · exact fun hmem => hdot (List.mem_reverse.1 hmem)
  · rintro ⟨stem, hsegment, hstem, hextension, hdot⟩
    have hcut : Text.cut? '.' (lastSegment path).reverse
        = some (extension.reverse, stem.reverse) := by
      rw [hsegment, Text.cut?_eq_some_iff]
      exact ⟨by simp, fun hmem => hdot (List.mem_reverse.1 hmem)⟩
    rw [extensionChars?, hcut]
    simp [hstem, hextension]

/-- **The extension that is found** is the one that the path carries. -/
theorem extensionChars?_eq_some_iff {path extension : List Char} :
    extensionChars? path = some extension ↔ ∃ stem, Path.Carries path stem extension := by
  rw [extensionChars?_eq_some_iff_lastSegment]
  constructor
  · rintro ⟨segment, hsegment, hne, hextension, hdot⟩
    -- the stem is all that stands before the last segment, with the start of that segment
    obtain ⟨front, hpath⟩ := exists_append_lastSegment path
    have hslash := slash_not_mem_lastSegment path
    rw [hsegment] at hslash hpath
    simp only [List.mem_append, List.mem_cons, not_or] at hslash
    refine ⟨front ++ segment, ?_, ?_, ?_, hextension, hdot, hslash.2.2⟩
    · rw [List.append_assoc]
      exact hpath
    · simp [hne]
    · rw [List.getLast?_append_of_ne_nil _ hne]
      exact fun hlast => hslash.1 (List.mem_of_getLast? hlast)
  · rintro ⟨stem, h⟩
    have hslash : '/' ∉ '.' :: extension := by simp [h.slash_not_mem]
    refine ⟨lastSegment stem, ?_, lastSegment_ne_nil h.stem_ne_nil h.getLast?_stem,
      h.extension_ne_nil, h.dot_not_mem⟩
    rw [h.eq_append]
    exact lastSegment_append stem hslash

theorem extension?_eq_some_iff {path extension : String} :
    extension? path = some extension ↔
      ∃ stem, Path.Carries path.toList stem extension.toList := by
  rw [← extensionChars?_eq_some_iff, extension?, Option.map_eq_some_iff]
  constructor
  · rintro ⟨chars, hchars, rfl⟩
    rwa [String.toList_ofList]
  · intro h
    exact ⟨_, h, String.ofList_toList⟩

/-! ### Known extensions -/

variable {r : Registry} {path extension : String}

/-- **An extension is known** if the path carries it and a translator is registered for
it. -/
theorem knownExtension?_eq_some_iff :
    r.knownExtension? path = some extension ↔
      (∃ stem, Path.Carries path.toList stem extension.toList) ∧
        ∃ t, r.byExtension.get? (Text.lower extension) = some t := by
  rw [knownExtension?, Option.filter_eq_some_iff, extension?_eq_some_iff,
    SortedMap.contains, Option.isSome_iff_exists]

/-- A path whose extension is known is its own normal form. -/
theorem normalize_of_knownExtension? (h : r.knownExtension? path = some extension) :
    Path.normalize path = path := by
  obtain ⟨⟨stem, hcarries⟩, -⟩ := knownExtension?_eq_some_iff.1 h
  exact Path.normalize_of_getLast?_ne hcarries.getLast?_ne

/-- **Stripping leaves the stem.** -/
theorem carries_stripKnownExtension (h : r.knownExtension? path = some extension) :
    Path.Carries path.toList (r.stripKnownExtension path).toList extension.toList := by
  obtain ⟨⟨stem, hcarries⟩, -⟩ := knownExtension?_eq_some_iff.1 h
  have hstrip : (r.stripKnownExtension path).toList = stem := by
    rw [stripKnownExtension, h]
    simp [hcarries.eq_append]
  rwa [hstrip]

/-- A path with an extension behind it carries just that extension. -/
theorem carries_append (hne : path.toList ≠ []) (hslash : path.toList.getLast? ≠ some '/')
    (hextension : extension ≠ "") (hchars : ∀ c ∈ extension.toList, c ≠ '/' ∧ c ≠ '.') :
    Path.Carries (path ++ "." ++ extension).toList path.toList extension.toList where
  eq_append := by simp
  stem_ne_nil := hne
  getLast?_stem := hslash
  extension_ne_nil := by simpa using hextension
  dot_not_mem := fun h => (hchars '.' h).2 rfl
  slash_not_mem := fun h => (hchars '/' h).1 rfl

/-- **Stripping undoes what was put behind a path.** -/
theorem stripKnownExtension_append
    (h : r.knownExtension? (path ++ "." ++ extension) = some extension) :
    r.stripKnownExtension (path ++ "." ++ extension) = path := by
  have hcarries := (carries_stripKnownExtension h).eq_append
  have happend : (path ++ "." ++ extension).toList
      = path.toList ++ '.' :: extension.toList := by simp
  rw [happend] at hcarries
  exact (String.toList_injective (List.append_cancel_right hcarries)).symm

/-- The translator for a path is the one registered for its known extension. -/
theorem forPath?_of_knownExtension? {t : Translator}
    (h : r.knownExtension? path = some extension)
    (ht : r.byExtension.get? (Text.lower extension) = some t) : r.forPath? path = some t := by
  have hext := (knownExtension?_eq_some_iff.1 h).1
  rw [forPath?, extension?_eq_some_iff.2 hext, Option.bind_some, ht]

/-- **A path that ends in a slash asks for no translator.** -/
theorem forPath?_of_getLast?_eq (h : path.toList.getLast? = some '/') :
    r.forPath? path = none := by
  cases hext : extension? path with
  | none => rw [forPath?, hext, Option.bind_none]
  | some extension =>
      obtain ⟨stem, hcarries⟩ := extension?_eq_some_iff.1 hext
      exact absurd h hcarries.getLast?_ne

end Registry

end HttpDispatch
