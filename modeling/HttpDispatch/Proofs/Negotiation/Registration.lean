import HttpDispatch.Negotiation.Registry
import HttpDispatch.Proofs.Entries

/-!
# What is registered

A registry is built from translators in order.  Each is found under its media type, in whatever
letter case that is written, unless a later one has the same (`Registry.forMediaType?_of_build`).
JSON is always there.  The last resort of a registry is the default that was named, or else what is
registered for the media type of JSON (`Registry.fallback_eq_iff_of_build`).

`Registry.BuiltFrom` tells all steps of building apart.
-/

namespace HttpDispatch.Registry

open Setup

variable {s : Setup} {r : Registry}

theorem get?_indexByExtension (translators : List Translator) (extension : String) :
    (indexByExtension translators).get? extension
      = translators.reverse.find? fun t => normalizeExtension t.extension == extension :=
  SortedMap.get?_ofList_index _ translators extension

theorem get?_indexByMediaType (translators : List Translator) (mediaType : String) :
    (indexByMediaType translators).get? mediaType
      = translators.reverse.find? fun t => Text.lower t.mediaType == mediaType :=
  SortedMap.get?_ofList_index _ translators mediaType

/-- What is found under a media type has it. -/
theorem lower_mediaType_of_get? {translators : List Translator} {mediaType : String}
    {t : Translator} (h : (indexByMediaType translators).get? mediaType = some t) :
    Text.lower t.mediaType = mediaType := by
  rw [get?_indexByMediaType] at h
  simpa using List.find?_some h

/-! ### JSON -/

theorem get?_withJson (byExtension byMediaType : SortedMap Translator) (mediaType : String) :
    (withJson byExtension byMediaType).byMediaType.get? mediaType
      = (byMediaType.get? mediaType).or
        (if mediaType = Translator.json.mediaType then some .json else none) := by
  unfold withJson
  split
  · rename_i t hjson
    by_cases h : mediaType = Translator.json.mediaType
    · rw [h, hjson, Option.some_or]
    · rw [if_neg h, Option.or_none]
  · rename_i hjson
    rw [SortedMap.get?_insert]
    by_cases h : mediaType = Translator.json.mediaType
    · rw [if_pos h, if_pos h, h, hjson, Option.none_or]
    · rw [if_neg h, if_neg h, Option.or_none]

theorem get?_withJson_json (byExtension byMediaType : SortedMap Translator) :
    (withJson byExtension byMediaType).byMediaType.get? Translator.json.mediaType
      = some (withJson byExtension byMediaType).json := by
  unfold withJson
  split
  · assumption
  · rw [SortedMap.get?_insert, if_pos rfl]

theorem default_withJson (byExtension byMediaType : SortedMap Translator) :
    (withJson byExtension byMediaType).default = none := by
  unfold withJson
  split <;> rfl

/-! ### Building -/

/-- **A registry that was built**: its tables with JSON in them, and a default that is in the
table of extensions. -/
structure BuiltFrom (s : Setup) (r : Registry) (byExtension : SortedMap Translator) : Prop where
  /-- Further extensions are added to those of the translators. -/
  aliases : addAliases (indexByMediaType s.translators) s.aliases (indexByExtension s.translators)
    = .ok byExtension
  /-- The tables and JSON. -/
  tables : r = { withJson byExtension (indexByMediaType s.translators) with default := r.default }
  /-- The default is that of the extension that was named. -/
  default : r.default
    = s.defaultExtension.bind fun extension => r.byExtension.get? (normalizeExtension extension)
  /-- An extension that was named has a translator. -/
  named : r.default.isSome = s.defaultExtension.isSome

theorem exists_builtFrom (h : s.build = .ok r) : ∃ byExtension, BuiltFrom s r byExtension := by
  unfold build at h
  cases haliases : addAliases (indexByMediaType s.translators) s.aliases
      (indexByExtension s.translators) with
  | error e =>
      simp only [haliases, bind, Except.bind] at h
      cases h
  | ok byExtension =>
      simp only [haliases, bind, Except.bind] at h
      refine ⟨byExtension, ?_⟩
      cases hdefault : s.defaultExtension with
      | none =>
          simp only [hdefault] at h
          cases h
          have hnone := default_withJson byExtension (indexByMediaType s.translators)
          exact ⟨haliases, rfl, by rw [hnone, hdefault]; rfl, by rw [hnone, hdefault]; rfl⟩
      | some extension =>
          simp only [hdefault] at h
          split at h
          · cases h
          · rename_i t ht
            cases h
            exact ⟨haliases, rfl, by rw [hdefault]; exact ht.symm, by rw [hdefault]; rfl⟩

/-- **The translator that a setup registers for a media type**, in whatever letter case: the last
of several, and JSON if there is none for it. -/
def Setup.forMediaType? (s : Setup) (mediaType : String) : Option Translator :=
  (s.translators.reverse.find? fun t => Text.lower t.mediaType == Text.lower mediaType).or
    (if Text.lower mediaType = Translator.json.mediaType then some .json else none)

theorem forMediaType?_of_build (h : s.build = .ok r) (mediaType : String) :
    r.forMediaType? mediaType = s.forMediaType? mediaType := by
  obtain ⟨byExtension, hbuilt⟩ := exists_builtFrom h
  rw [hbuilt.tables, Registry.forMediaType?, get?_withJson, get?_indexByMediaType,
    Setup.forMediaType?]

/-- What is kept for JSON is what is registered for it. -/
theorem forMediaType?_json_of_build (h : s.build = .ok r) :
    r.forMediaType? Translator.json.mediaType = some r.json := by
  obtain ⟨byExtension, hbuilt⟩ := exists_builtFrom h
  have hlower : Text.lower Translator.json.mediaType = Translator.json.mediaType := by decide
  rw [hbuilt.tables, Registry.forMediaType?, hlower]
  exact get?_withJson_json byExtension _

/-- **The last resort of a setup** in the registry that was built from it. -/
inductive Setup.Resort (s : Setup) (r : Registry) : Translator → Prop
  /-- The translator for the extension that was named. -/
  | named {extension : String} {t : Translator} : s.defaultExtension = some extension →
      r.byExtension.get? (normalizeExtension extension) = some t → Resort s r t
  /-- The translator for JSON, if none was named. -/
  | json {t : Translator} : s.defaultExtension = none →
      s.forMediaType? Translator.json.mediaType = some t → Resort s r t

/-- **The last resort is that of the setup.** -/
theorem fallback_eq_iff_of_build (h : s.build = .ok r) (t : Translator) :
    r.fallback = t ↔ s.Resort r t := by
  obtain ⟨byExtension, hbuilt⟩ := exists_builtFrom h
  have hjson := (forMediaType?_of_build h _).symm.trans (forMediaType?_json_of_build h)
  cases hextension : s.defaultExtension with
  | none =>
      have hdefault : r.default = none := by rw [hbuilt.default, hextension, Option.bind_none]
      rw [fallback, hdefault, Option.getD_none]
      constructor
      · rintro rfl
        exact .json hextension hjson
      · rintro (⟨hnamed, -⟩ | ⟨-, ht⟩)
        · rw [hextension] at hnamed
          cases hnamed
        · exact Option.some.inj (hjson.symm.trans ht)
  | some extension =>
      have hdefault : r.default = r.byExtension.get? (normalizeExtension extension) := by
        rw [hbuilt.default, hextension, Option.bind_some]
      obtain ⟨named, hget⟩ : ∃ named, r.default = some named := by
        rw [← Option.isSome_iff_exists, hbuilt.named, hextension, Option.isSome_some]
      rw [fallback, hget, Option.getD_some]
      constructor
      · rintro rfl
        exact .named hextension (hdefault.symm.trans hget)
      · rintro (⟨hnamed, ht⟩ | ⟨hnone, -⟩)
        · rw [hextension] at hnamed
          cases hnamed
          exact Option.some.inj (hget.symm.trans (hdefault.trans ht))
        · rw [hextension] at hnone
          cases hnone

end HttpDispatch.Registry
