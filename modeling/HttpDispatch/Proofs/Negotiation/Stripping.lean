import HttpDispatch.Proofs.Entries
import HttpDispatch.Proofs.Negotiation.Extension

/-!
# Paths without their extension

An extension is known or not, and a known one may be stripped from its path.
`Registry.Recognizes` says of a whole path what that takes: the path is a stem, a dot and an
extension that is registered, where the last segment of the stem is not empty.

* `Registry.getLast?_split` — the last segment is the last of the pieces between slashes.
* `Path.Carries.segmentCount_stem` — the stem has as many segments as the path.
* `Path.exists_cut` — the stem ends at a position of the path, as many bytes before its end as the
  dot and the extension take.

### What is load-bearing

The stem must not end in a slash.  The path `/.json` would leave the stem `/`, which has no
segment where the path has one.
-/

namespace HttpDispatch

namespace Path

/-! ### Segments -/

/-- A dot and an extension behind a stem start no segment. -/
theorem Carries.length_segmentsChars {path stem extension : List Char}
    (h : Carries path stem extension) :
    (segmentsChars stem).length = (segmentsChars path).length := by
  have hnone : '/' ∉ '.' :: extension := by simp [h.slash_not_mem]
  have hcount (front : List Char) :
      (front ++ '.' :: extension).count '/' = front.count '/' := by
    rw [List.count_append, List.count_eq_zero_of_not_mem hnone, Nat.add_zero]
  obtain ⟨c, rest, rfl⟩ := List.exists_cons_of_ne_nil h.stem_ne_nil
  rw [h.eq_append]
  by_cases hc : c = '/'
  · subst hc
    -- the slash in front is not all of the stem, which ends in another character
    obtain ⟨d, rest, rfl⟩ : ∃ d ds, rest = d :: ds :=
      List.exists_cons_of_ne_nil fun hnil => h.getLast?_stem (by rw [hnil]; rfl)
    rw [List.cons_append, List.cons_append, segmentsChars_slash_cons, segmentsChars_slash_cons,
      Text.length_split, Text.length_split, ← List.cons_append, hcount]
  · rw [List.cons_append, segmentsChars_cons_of_ne hc, segmentsChars_cons_of_ne hc,
      Text.length_split, Text.length_split, ← List.cons_append, hcount]

/-- **The stem has as many segments as the path.** -/
theorem Carries.segmentCount_stem {path stem : String} {extension : List Char}
    (h : Carries path.toList stem.toList extension) : segmentCount stem = segmentCount path := by
  rw [segmentCount, segmentCount, normalize_of_getLast?_ne h.getLast?_stem,
    normalize_of_getLast?_ne h.getLast?_ne, length_segments, length_segments,
    h.length_segmentsChars]

/-! ### Bytes -/

/-- **A stem ends between two characters of its path**: where the bytes of what follows begin. -/
theorem exists_cut {path stem behind : String} (h : path = stem ++ behind) :
    behind.utf8ByteSize ≤ path.utf8ByteSize ∧
      ∃ cut : path.Pos, cut.offset.byteIdx = path.utf8ByteSize - behind.utf8ByteSize ∧
        (path.sliceTo cut).copy = stem := by
  have hsize : path.utf8ByteSize = stem.utf8ByteSize + behind.utf8ByteSize := by
    rw [h, String.utf8ByteSize_append]
  have hvalid : stem.rawEndPos.IsValid path :=
    String.Pos.Raw.isValid_iff_exists_append.2 ⟨stem, behind, h, rfl⟩
  refine ⟨hsize ▸ Nat.le_add_left _ _, ⟨stem.rawEndPos, hvalid⟩, ?_, ?_⟩
  · rw [hsize, Nat.add_sub_cancel]
    rfl
  · exact String.copy_sliceTo_eq_iff_exists_splits.2 ⟨behind, h, rfl⟩

end Path

namespace Registry

/-! ### The last segment -/

/-- Behind a slash the last segment starts anew. -/
theorem lastSegment_append_slash (front : List Char) {segment : List Char} (h : '/' ∉ segment) :
    lastSegment (front ++ '/' :: segment) = segment := by
  have hnil : lastSegment (front ++ ['/']) = [] := by simp [lastSegment]
  have happend := lastSegment_append (front ++ ['/']) h
  rwa [List.append_assoc, List.singleton_append, hnil, List.nil_append] at happend

/-- **The last segment is the last piece between slashes.** -/
theorem getLast?_split (path : List Char) :
    (Text.split '/' path).getLast? = some (lastSegment path) := by
  by_cases hslash : '/' ∈ path
  · obtain ⟨behind, front, hreverse, hnone⟩ :=
      List.eq_append_cons_of_mem (List.mem_reverse.2 hslash)
    have hpath : path = front.reverse ++ '/' :: behind.reverse := by
      rw [← List.reverse_reverse path, hreverse]
      simp
    have hbehind : '/' ∉ behind.reverse := fun hmem => hnone (List.mem_reverse.1 hmem)
    rw [hpath, lastSegment_append_slash _ hbehind, Text.split_append_sep_cons,
      Text.split_of_sep_not_mem hbehind, List.getLast?_concat]
  · have hwhole := lastSegment_append [] hslash
    rw [List.nil_append] at hwhole
    rw [Text.split_of_sep_not_mem hslash, hwhole]
    rfl

theorem lastSegment_eq_nil_iff {path : List Char} :
    lastSegment path = [] ↔ path = [] ∨ path.getLast? = some '/' := by
  constructor
  · intro hnil
    by_contra hne
    obtain ⟨hpath, hlast⟩ := not_or.1 hne
    exact lastSegment_ne_nil hpath hlast hnil
  · rintro (rfl | hlast)
    · rfl
    · obtain ⟨front, rfl⟩ := List.getLast?_eq_some_iff.1 hlast
      exact lastSegment_append_slash front List.not_mem_nil

/-! ### Recognised extensions -/

/-- **A registry recognises an extension of a path** behind a stem. -/
structure Recognizes (r : Registry) (path stem extension : String) : Prop where
  /-- A dot stands between the two. -/
  eq_append : path = stem ++ "." ++ extension
  /-- Something stands behind the dot. -/
  extension_ne : extension ≠ ""
  /-- It stands in the last segment. -/
  slash_not_mem : '/' ∉ extension.toList
  /-- It was the last dot. -/
  dot_not_mem : '.' ∉ extension.toList
  /-- Something stands before the dot, in the same segment. -/
  segment_ne : (Text.split '/' stem.toList).getLast? ≠ some []
  /-- A translator is registered for the extension in lower case. -/
  registered : Text.lower extension ∈ r.extensions

variable {r : Registry} {path stem extension : String}

/-- A recognised extension is one that the path carries. -/
theorem recognizes_iff :
    r.Recognizes path stem extension ↔
      Path.Carries path.toList stem.toList extension.toList ∧
        ∃ t, r.byExtension.get? (Text.lower extension) = some t := by
  have hsegment : (Text.split '/' stem.toList).getLast? ≠ some [] ↔
      stem.toList ≠ [] ∧ stem.toList.getLast? ≠ some '/' := by
    rw [getLast?_split, ne_eq, Option.some.injEq, lastSegment_eq_nil_iff, not_or]
  have hregistered : Text.lower extension ∈ r.extensions ↔
      ∃ t, r.byExtension.get? (Text.lower extension) = some t :=
    r.byExtension.mem_keys_iff_get? _
  constructor
  · rintro ⟨rfl, hne, hslash, hdot, hstem, hknown⟩
    refine ⟨⟨by simp, (hsegment.1 hstem).1, (hsegment.1 hstem).2, ?_, hdot, hslash⟩,
      hregistered.1 hknown⟩
    simpa using hne
  · rintro ⟨⟨happend, hstem, hlast, hne, hdot, hslash⟩, hknown⟩
    refine ⟨String.toList_injective ?_, ?_, hslash, hdot, hsegment.2 ⟨hstem, hlast⟩,
      hregistered.2 hknown⟩
    · simpa using happend
    · simpa using hne

/-- **A known extension is recognised behind some stem.** -/
theorem knownExtension?_eq_some_iff_recognizes :
    r.knownExtension? path = some extension ↔ ∃ stem, r.Recognizes path stem extension := by
  simp only [knownExtension?_eq_some_iff, recognizes_iff, exists_and_right]
  refine and_congr_left fun _ => ⟨?_, ?_⟩
  · rintro ⟨stem, hcarries⟩
    exact ⟨String.ofList stem, by rwa [String.toList_ofList]⟩
  · rintro ⟨stem, hcarries⟩
    exact ⟨stem.toList, hcarries⟩

/-- **What is known of an extension, and what stripping it leaves.**  An extension is known exactly
if the registry recognises it behind a stem.  Stripping then leaves that stem, which has as many
segments as the path; it ends between two characters of the path, the bytes of the dot and of the
extension before its end.  A path without a known extension is left as it is. -/
theorem knownExtension?_and_strip (r : Registry) (path : String) :
    (∀ extension, r.knownExtension? path = some extension ↔
        ∃ stem, r.Recognizes path stem extension) ∧
      (∀ stem extension, r.Recognizes path stem extension →
        r.stripKnownExtension path = stem ∧
          Path.segmentCount stem = Path.segmentCount path ∧
          extension.utf8ByteSize + 1 ≤ path.utf8ByteSize ∧
          ∃ cut : path.Pos,
            cut.offset.byteIdx = path.utf8ByteSize - (extension.utf8ByteSize + 1) ∧
              (path.sliceTo cut).copy = stem) ∧
      (r.knownExtension? path = none → r.stripKnownExtension path = path) := by
  refine ⟨fun _ => knownExtension?_eq_some_iff_recognizes, fun stem extension h => ?_,
    fun hnone => by rw [stripKnownExtension, hnone]⟩
  have hknown := knownExtension?_eq_some_iff_recognizes.2 ⟨stem, h⟩
  have hpath : path = stem ++ ("." ++ extension) := by
    rw [h.eq_append, String.append_assoc]
  have hbytes : ("." ++ extension).utf8ByteSize = extension.utf8ByteSize + 1 := by
    rw [String.utf8ByteSize_append, Nat.add_comm]
    rfl
  have hcut := Path.exists_cut hpath
  rw [hbytes] at hcut
  have hstrip : r.stripKnownExtension path = stem := by
    rw [h.eq_append] at hknown ⊢
    exact stripKnownExtension_append hknown
  exact ⟨hstrip, (recognizes_iff.1 h).1.segmentCount_stem, hcut⟩

/-- Of several dots the last one counts, letter case does not, and a character of two bytes before
the dot moves the cut by two; a dot with nothing before it in its segment is none at all. -/
theorem knownExtension?_and_strip_archive :
    let path := "/v1.2/é.tar.JSON"
    let stem := "/v1.2/é.tar"
    builtIn.Recognizes path stem "JSON" ∧ builtIn.knownExtension? path = some "JSON" ∧
      builtIn.stripKnownExtension path = stem ∧ Path.segmentCount stem = Path.segmentCount path ∧
      (∃ cut : path.Pos, cut.offset.byteIdx = 12 ∧ (path.sliceTo cut).copy = stem) ∧
      builtIn.knownExtension? "/v1.2/.json" = none ∧
      builtIn.stripKnownExtension "/v1.2/.json" = "/v1.2/.json" := by
  intro path stem
  have hrecognizes : builtIn.Recognizes path stem "JSON" := by
    refine ⟨by decide, by decide, by decide, by decide, by decide, by decide +kernel⟩
  obtain ⟨hknown, hstrip, -⟩ := knownExtension?_and_strip builtIn path
  obtain ⟨hstem, hcount, -, hcut⟩ := hstrip stem "JSON" hrecognizes
  obtain ⟨-, -, hother⟩ := knownExtension?_and_strip builtIn "/v1.2/.json"
  have hnone : builtIn.knownExtension? "/v1.2/.json" = none := by decide +kernel
  exact ⟨hrecognizes, (hknown "JSON").2 ⟨stem, hrecognizes⟩, hstem, hcount, hcut, hnone,
    hother hnone⟩

end Registry

end HttpDispatch
