import HttpDispatch.Config.Applied
import HttpDispatch.Proofs.Negotiation.Extension
import HttpDispatch.Proofs.Negotiation.Registration

/-!
# Configured extensions

A negotiation section maps extensions to media types, and its registry looks the extension of a
path up.  `NegotiationSettings.mediaType?` says without a registry what a section maps an extension
to: keys are written with or without dots in front and in whatever letter case, so several may be
the same extension, and of these the last one in order counts.

A registry is not built from this map alone.  The translators are registered first, each under an
extension of its own, and the map adds to these.  The table in force is therefore the map of the
section *over* the default one (`NegotiationSettings.inForce?`), and an extension that the section
leaves out keeps its default.  `Registry.inForce_of_ofSettings` says so for paths, and at which
extensions this differs from the map of the section.
-/

namespace HttpDispatch

/-! ### The table of a section -/

namespace NegotiationSettings

open Registry.Setup (normalizeExtension)

/-- **The media type that a section maps an extension to.** -/
def mediaType? (s : NegotiationSettings) (extension : String) : Option String :=
  (s.extensions.entries.reverse.find? fun e =>
    normalizeExtension e.1 == Text.lower extension).map Prod.snd

/-- **The media type that is in force for an extension**: what the section maps it to, else what
the default section does. -/
def inForce? (s : NegotiationSettings) (extension : String) : Option String :=
  (s.mediaType? extension).or (NegotiationSettings.default.mediaType? extension)

end NegotiationSettings

namespace Registry

open Setup

/-! ### Extensions in a registry -/

section

variable {byMediaType byExtension result : SortedMap Translator} {aliases : List (String × String)}

/-- Only known media types are asked for. -/
theorem exists_of_addAliases (h : addAliases byMediaType aliases byExtension = .ok result) :
    ∀ a ∈ aliases, ∃ t, byMediaType.get? (Text.lower a.2) = some t := by
  induction aliases generalizing byExtension with
  | nil => simp
  | cons a rest ih =>
      unfold addAliases at h
      split at h
      · cases h
      · rename_i t ht
        exact List.forall_mem_cons.2 ⟨⟨t, ht⟩, ih h⟩

/-- **Of further extensions that are the same the last one counts**, and it counts more than what
was there before. -/
theorem get?_addAliases (h : addAliases byMediaType aliases byExtension = .ok result)
    (extension : String) :
    result.get? extension
      = (aliases.reverse.find? fun a => normalizeExtension a.1 == extension).elim
        (byExtension.get? extension) fun a => byMediaType.get? (Text.lower a.2) := by
  induction aliases generalizing byExtension with
  | nil =>
      cases h
      rfl
  | cons a rest ih =>
      unfold addAliases at h
      split at h
      · cases h
      · rename_i t ht
        rw [ih h, List.reverse_cons, List.find?_append]
        cases rest.reverse.find? fun a => normalizeExtension a.1 == extension with
        | some later => rfl
        | none =>
            rw [SortedMap.get?_insert, Option.none_or, Option.elim_none]
            by_cases hkey : extension = normalizeExtension a.1
            · simp [hkey, ht]
            · simp [hkey, Ne.symm hkey]

end

/-- Where JSON is registered nothing is added for it. -/
theorem byExtension_withJson {byMediaType : SortedMap Translator} {t : Translator}
    (h : byMediaType.get? Translator.json.mediaType = some t) (byExtension : SortedMap Translator) :
    (withJson byExtension byMediaType).byExtension = byExtension := by
  rw [withJson, h]

/-- **The built-in translators are registered as the default section has it.** -/
theorem map_mediaType_indexByExtension (extension : String) :
    ((indexByExtension empty.registerBuiltIn.translators).get? (Text.lower extension)).map
      Translator.mediaType = NegotiationSettings.default.mediaType? extension := by
  have hdefault : NegotiationSettings.default.extensions.entries.reverse
      = [("xml", "application/xml"), ("txt", "text/plain"), ("json", "application/json")] := by
    decide +kernel
  have htranslators : empty.registerBuiltIn.translators.reverse = [.text, .xml, .json] := rfl
  have hjson : normalizeExtension "json" = "json" := by decide
  have hxml : normalizeExtension "xml" = "xml" := by decide
  have htxt : normalizeExtension "txt" = "txt" := by decide
  rw [get?_indexByExtension, NegotiationSettings.mediaType?, hdefault, htranslators]
  generalize Text.lower extension = key
  simp only [List.find?_cons, List.find?_nil, Translator.text, Translator.xml, Translator.json,
    Translator.ofText, hjson, hxml, htxt]
  by_cases hkey : key = "xml"
  · subst hkey
    rfl
  · -- without XML the two lists name the extensions in the same order
    have hother : ("xml" == key) = false := beq_eq_false_iff_ne.2 (Ne.symm hkey)
    rw [hother]
    cases "txt" == key <;> cases "json" == key <;> rfl

/-! ### A registry that was configured -/

variable {s : NegotiationSettings} {r : Registry}

/-- **A registry has translators for what is in force**, and for nothing else. -/
theorem map_lower_mediaType_of_ofSettings (h : ofSettings s = .ok r) (extension : String) :
    (r.byExtension.get? (Text.lower extension)).map (fun t => Text.lower t.mediaType)
      = (s.inForce? extension).map Text.lower := by
  obtain ⟨byExtension, hbuilt⟩ := exists_builtFrom h
  have hjson : (indexByMediaType (Setup.ofSettings s).translators).get? Translator.json.mediaType
      = some .json := rfl
  have htable : r.byExtension = byExtension := by
    rw [hbuilt.tables]
    exact byExtension_withJson hjson byExtension
  rw [htable, get?_addAliases hbuilt.aliases, NegotiationSettings.inForce?,
    NegotiationSettings.mediaType?]
  change Option.map _ (Option.elim (s.extensions.entries.reverse.find? _) _ _) = _
  cases hfind : s.extensions.entries.reverse.find? fun a =>
      normalizeExtension a.1 == Text.lower extension with
  | none =>
      rw [Option.elim_none, Option.map_none, Option.none_or, ← map_mediaType_indexByExtension,
        Option.map_map]
      rfl
  | some a =>
      have hmem : a ∈ (Setup.ofSettings s).aliases :=
        List.mem_reverse.1 (List.mem_of_find?_eq_some hfind)
      obtain ⟨t, ht⟩ := exists_of_addAliases hbuilt.aliases a hmem
      rw [Option.elim_some, ht, Option.map_some, Option.map_some, Option.some_or,
        Option.map_some, lower_mediaType_of_get? ht]

/-- The extension of a path that is put together. -/
theorem extension?_append {stem extension : String} (hstem : lastSegment stem.toList ≠ [])
    (hext : extension ≠ "") (hslash : '/' ∉ extension.toList) (hdot : '.' ∉ extension.toList) :
    extension? (stem ++ "." ++ extension) = some extension := by
  have hpath : (stem ++ "." ++ extension).toList = stem.toList ++ '.' :: extension.toList := by
    simp
  have hmore : '/' ∉ '.' :: extension.toList := by simpa using hslash
  have hchars : extensionChars? (stem ++ "." ++ extension).toList = some extension.toList := by
    rw [hpath, extensionChars?_eq_some_iff_lastSegment]
    exact ⟨lastSegment stem.toList, lastSegment_append stem.toList hmore, hstem,
      by simpa using hext, hdot⟩
  rw [extension?, hchars, Option.map_some, String.ofList_toList]

/-- **The table in force is the map of the section over the default one.**

An extension is known if the section maps it to a media type or the default section does, and it
then decides on the translator, whatever is accepted.  This is the map of the section itself
exactly at the extensions that are in it and at those that have no default. -/
theorem inForce_of_ofSettings (h : ofSettings s = .ok r) {stem extension : String}
    (hstem : lastSegment stem.toList ≠ []) (hext : extension ≠ "")
    (hslash : '/' ∉ extension.toList) (hdot : '.' ∉ extension.toList) :
    let path := stem ++ "." ++ extension
    r.knownExtension? path = (s.inForce? extension).map (fun _ => extension) ∧
      (∀ mediaType, s.inForce? extension = some mediaType →
        ∀ accept, Text.lower (r.choose path accept).mediaType = Text.lower mediaType) ∧
      (((r.knownExtension? path).isSome ↔ (s.mediaType? extension).isSome) ↔
        (s.mediaType? extension).isSome ∨
          NegotiationSettings.default.mediaType? extension = none) := by
  intro path
  have hextension : extension? path = some extension := extension?_append hstem hext hslash hdot
  have htable := map_lower_mediaType_of_ofSettings h extension
  have hcontains : r.byExtension.contains (Text.lower extension)
      = (s.inForce? extension).isSome := by
    rw [SortedMap.contains, ← Option.isSome_map, htable, Option.isSome_map]
  have hknown : r.knownExtension? path = (s.inForce? extension).map (fun _ => extension) := by
    rw [knownExtension?, hextension, Option.filter_some, hcontains]
    cases s.inForce? extension <;> rfl
  refine ⟨hknown, fun mediaType hforce accept => ?_, ?_⟩
  · rw [hforce, Option.map_some, Option.map_eq_some_iff] at htable
    obtain ⟨t, ht, htype⟩ := htable
    rw [choose, forPath?, hextension, Option.bind_some, ht]
    exact htype
  · rw [hknown, Option.isSome_map, NegotiationSettings.inForce?, Option.isSome_or]
    cases s.mediaType? extension <;> simp

/-- A section maps XML only, under two keys.  The second one counts, and JSON keeps its default
whatever is accepted. -/
theorem inForce_of_ofSettings_xml :
    let s : NegotiationSettings :=
      ⟨.ofList [(".XML", "text/plain"), ("xml", "Application/XML")], none⟩
    let written := "/reports/7" ++ "." ++ "Xml"
    let leftOut := "/reports/7" ++ "." ++ "json"
    ∃ r, ofSettings s = .ok r ∧
      s.mediaType? "Xml" = some "Application/XML" ∧ r.knownExtension? written = some "Xml" ∧
      (∀ accept, Text.lower (r.choose written accept).mediaType = "application/xml") ∧
      s.mediaType? "json" = none ∧ r.knownExtension? leftOut = some "json" ∧
      (∀ accept, Text.lower (r.choose leftOut accept).mediaType = "application/json") := by
  intro s written leftOut
  obtain ⟨r, hr⟩ : ∃ r, ofSettings s = .ok r := by
    have hok : (ofSettings s).isOk = true := by decide +kernel
    cases h : ofSettings s with
    | error e =>
        rw [h] at hok
        cases hok
    | ok r => exact ⟨r, rfl⟩
  have hxml : s.inForce? "Xml" = some "Application/XML" := by decide +kernel
  have hjson : s.inForce? "json" = some "application/json" := by decide +kernel
  have hstem : lastSegment "/reports/7".toList ≠ [] := by decide
  obtain ⟨hknown, hchoose, -⟩ := inForce_of_ofSettings hr hstem
    (by decide : "Xml" ≠ "") (by decide) (by decide)
  obtain ⟨hknown', hchoose', -⟩ := inForce_of_ofSettings hr hstem
    (by decide : "json" ≠ "") (by decide) (by decide)
  rw [hxml] at hknown
  rw [hjson] at hknown'
  exact ⟨r, hr, by decide +kernel, hknown, fun accept => (hchoose _ hxml accept).trans (by decide),
    by decide +kernel, hknown', fun accept => (hchoose' _ hjson accept).trans (by decide)⟩

end Registry

end HttpDispatch
