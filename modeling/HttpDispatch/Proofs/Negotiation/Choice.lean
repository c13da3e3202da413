import HttpDispatch.Negotiation.Registry
import HttpDispatch.Proofs.Negotiation.Extension
import HttpDispatch.Proofs.Negotiation.Quality
import HttpDispatch.Proofs.Negotiation.Registration
import HttpDispatch.Proofs.Preference
import Mathlib.Data.List.TakeWhile
import Mathlib.Logic.Relation

/-!
# Which translator is chosen

A registry sorts the entries of an Accept header before it looks for one that has a translator.
`Registry.Chosen` says without a sort what is chosen: by the extension of the path, else of all
entries that **offer** a translator the one of greatest weight and of those the first, else the
default, else JSON.  `Registry.choose_eq_iff` says that this is what `choose` does, whatever is
registered.  For a registry that was built it also says what is registered for a media type and what
the default and JSON are, in terms of the setup (`Registry.Setup.forMediaType?`,
`Registry.Setup.Resort`).

Only entries that offer a translator matter, and only the order of those that have the same
weight.  `Registry.Alike` is one change of a header that does not matter: an entry that offers
nothing is taken out, or two neighbours of different weight are exchanged.
-/

namespace HttpDispatch

/-- Nothing is left of a text that is blank throughout, and of no other. -/
theorem Text.trim_eq_nil_iff {cs : List Char} : trim cs = [] ↔ ∀ c ∈ cs, isBlank c = true := by
  constructor
  · intro h
    have hblank : ∀ c ∈ cs.dropWhile isBlank, isBlank c = true := by
      simpa [trim, trimEnd, List.dropWhile_eq_nil_iff] using h
    rw [← List.dropWhile_eq_nil_iff]
    by_contra hne
    -- what is left of the front starts with a character that is not blank
    have hhead := hblank _ (List.head_mem hne)
    rw [List.head_dropWhile_not isBlank hne] at hhead
    cases hhead
  · intro h
    rw [trim, List.dropWhile_eq_nil_iff.2 h]
    rfl

namespace Registry

/-- The entries of an Accept header, if there is one. -/
def ranges (accept : Option String) : List (List Char) :=
  accept.elim [] fun header => Text.split ',' header.toList

/-- **An entry offers a translator** with a weight: it has a media type with that translator, and
the weight is positive. -/
inductive Offers (r : Registry) : List Char → Translator → Rat → Prop
  | mk {part first : List Char} {parameters : List (List Char)} {t : Translator} {w : Rat}
      (hsplit : Text.split ';' part = first :: parameters)
      (hfirst : Text.trim first ≠ [])
      (ht : r.forMediaType? (String.ofList (Text.trim first)) = some t)
      (hw : Accept.Weighs parameters w) (hpos : 0 < w) : Offers r part t w

/-- **The best offer**: all others in front of it weigh less, and none behind it weighs more. -/
def BestOffer (r : Registry) (parts : List (List Char)) (t : Translator) : Prop :=
  ∃ before part behind w, parts = before ++ part :: behind ∧ r.Offers part t w ∧
    (∀ part' ∈ before, ∀ t' w', r.Offers part' t' w' → w' < w) ∧
    ∀ part' ∈ behind, ∀ t' w', r.Offers part' t' w' → w' ≤ w

/-- No translator is registered for an extension of a path. -/
def NoExtension (r : Registry) (path : String) : Prop :=
  ∀ stem extension, Path.Carries path.toList stem extension.toList →
    r.byExtension.get? (Text.lower extension) = none

/-- **What is chosen** for a path and an Accept header. -/
inductive Chosen (r : Registry) (path : String) (accept : Option String) : Translator → Prop
  /-- The extension of the path comes first. -/
  | byExtension {stem : List Char} {extension : String} {t : Translator}
      (hpath : Path.Carries path.toList stem extension.toList)
      (ht : r.byExtension.get? (Text.lower extension) = some t) : Chosen r path accept t
  /-- Next comes the best offer of the header. -/
  | byHeader {t : Translator} (hpath : r.NoExtension path)
      (hbest : r.BestOffer (ranges accept) t) : Chosen r path accept t
  /-- Without any offer there is the default. -/
  | byDefault {t : Translator} (hpath : r.NoExtension path)
      (hnone : ∀ part ∈ ranges accept, ∀ t w, ¬r.Offers part t w)
      (ht : r.default = some t) : Chosen r path accept t
  /-- JSON is the last resort. -/
  | json (hpath : r.NoExtension path)
      (hnone : ∀ part ∈ ranges accept, ∀ t w, ¬r.Offers part t w)
      (ht : r.default = none) : Chosen r path accept r.json

/-- **One change of a header that does not matter.** -/
inductive Alike (r : Registry) : List (List Char) → List (List Char) → Prop
  /-- An entry that offers nothing is taken out. -/
  | drop {before behind : List (List Char)} {part : List Char}
      (hpart : ∀ t w, ¬r.Offers part t w) :
      Alike r (before ++ part :: behind) (before ++ behind)
  /-- Two neighbours whose offers do not weigh the same are exchanged. -/
  | swap {before behind : List (List Char)} {a b : List Char}
      (hne : ∀ t w t' w', r.Offers a t w → r.Offers b t' w' → w ≠ w') :
      Alike r (before ++ a :: b :: behind) (before ++ b :: a :: behind)

variable {r : Registry} {path : String} {accept : Option String}

/-! ### Offers -/

/-- **What is read from an entry**: its media type and its quality. -/
theorem entry?_eq_some_iff {part : List Char} {range : MediaRange} :
    Accept.entry? part = some range ↔
      ∃ first parameters, Text.split ';' part = first :: parameters ∧ Text.trim first ≠ [] ∧
        Text.lower (String.ofList (Text.trim first)) = range.mediaType ∧
        Accept.quality? parameters = some range.quality := by
  obtain ⟨first, parameters, hsplit⟩ := List.exists_cons_of_ne_nil (Text.split_ne_nil ';' part)
  have hlower : Text.lowerChars (Text.trim first) = [] ↔ Text.trim first = [] := List.map_eq_nil_iff
  rw [Accept.entry?, hsplit]
  simp only [hlower]
  constructor
  · intro h
    obtain ⟨hfirst, h⟩ := Option.ite_none_left_eq_some.1 h
    obtain ⟨q, hq, rfl⟩ := Option.map_eq_some_iff.1 h
    exact ⟨first, parameters, rfl, hfirst, by simp [Text.lower], hq⟩
  · rintro ⟨first', parameters', hcons, hfirst, htype, hq⟩
    obtain ⟨rfl, rfl⟩ := List.cons.inj hcons
    rw [if_neg hfirst, hq, Option.map_some]
    rw [Text.lower, String.toList_ofList] at htype
    rw [htype]

/-- **An entry offers what is registered for the media type that is read from it.** -/
theorem offers_iff {part : List Char} {t : Translator} {w : Rat} :
    r.Offers part t w ↔ ∃ range, Accept.entry? part = some range ∧
      r.byMediaType.get? range.mediaType = some t ∧ range.quality.HasValue w := by
  constructor
  · rintro ⟨hsplit, hfirst, ht, hw, hpos⟩
    obtain ⟨q, hq, hvalue⟩ := Accept.exists_quality?_iff.2 ⟨hw, hpos⟩
    exact ⟨⟨_, q⟩, entry?_eq_some_iff.2 ⟨_, _, hsplit, hfirst, rfl, hq⟩, ht, hvalue⟩
  · rintro ⟨range, hrange, ht, hvalue⟩
    obtain ⟨first, parameters, hsplit, hfirst, htype, hq⟩ := entry?_eq_some_iff.1 hrange
    obtain ⟨hw, hpos⟩ := Accept.exists_quality?_iff.1 ⟨_, hq, hvalue⟩
    exact ⟨hsplit, hfirst, by rw [forMediaType?, htype, ht], hw, hpos⟩

theorem exists_hasValue {part : List Char} {range : MediaRange}
    (h : Accept.entry? part = some range) : ∃ w, range.quality.HasValue w := by
  obtain ⟨first, parameters, -, -, -, hq⟩ := entry?_eq_some_iff.1 h
  obtain ⟨w, hw⟩ := Accept.exists_weighs parameters
  have hreads := Accept.reads_quality? hw
  rw [hq] at hreads
  exact ⟨w, hreads⟩

/-- Whether a translator is registered for a media type. -/
def covers (r : Registry) (range : MediaRange) : Bool :=
  (r.byMediaType.get? range.mediaType).isSome

theorem covers_iff {part : List Char} {range : MediaRange}
    (h : Accept.entry? part = some range) :
    r.covers range = true ↔ ∃ t w, r.Offers part t w ∧ range.quality.HasValue w := by
  rw [covers, Option.isSome_iff_exists]
  constructor
  · rintro ⟨t, ht⟩
    obtain ⟨w, hvalue⟩ := exists_hasValue h
    exact ⟨t, w, offers_iff.2 ⟨range, h, ht, hvalue⟩, hvalue⟩
  · rintro ⟨t, w, hoffer, -⟩
    obtain ⟨range', hrange', ht, -⟩ := offers_iff.1 hoffer
    obtain rfl := Option.some.inj (h.symm.trans hrange')
    exact ⟨t, ht⟩

/-- **The best offer** is that of the preferred entry among those that are read. -/
theorem bestOffer_iff {parts : List (List Char)} {t : Translator} :
    r.BestOffer parts t ↔ ∃ range,
      Preference.Preferred (fun range => range.quality.code) r.covers
        (parts.filterMap Accept.entry?) range ∧
      r.byMediaType.get? range.mediaType = some t := by
  constructor
  · rintro ⟨before, part, behind, w, rfl, hpart, hbefore, hbehind⟩
    obtain ⟨range, hrange, ht, hvalue⟩ := offers_iff.1 hpart
    refine ⟨range, Preference.preferred_filterMap_iff.2 ⟨before, part, behind, rfl, hrange,
      Option.isSome_of_mem ht, fun part' hpart' range' hrange' hcovers => ?_,
      fun part' hpart' range' hrange' hcovers => ?_⟩, ht⟩
    · obtain ⟨t', w', hoffer, hvalue'⟩ := (covers_iff hrange').1 hcovers
      have hlt := hbefore part' hpart' t' w' hoffer
      exact not_le.1 fun hle => hlt.not_ge ((hvalue.code_le_code_iff hvalue').1 hle)
    · obtain ⟨t', w', hoffer, hvalue'⟩ := (covers_iff hrange').1 hcovers
      exact (hvalue'.code_le_code_iff hvalue).2 (hbehind part' hpart' t' w' hoffer)
  · rintro ⟨range, hpreferred, ht⟩
    obtain ⟨before, part, behind, rfl, hrange, -, hbefore, hbehind⟩ :=
      Preference.preferred_filterMap_iff.1 hpreferred
    obtain ⟨w, hvalue⟩ := exists_hasValue hrange
    refine ⟨before, part, behind, w, rfl, offers_iff.2 ⟨range, hrange, ht, hvalue⟩,
      fun part' hpart' t' w' hoffer => ?_, fun part' hpart' t' w' hoffer => ?_⟩
    · obtain ⟨range', hrange', ht', hvalue'⟩ := offers_iff.1 hoffer
      have hlt := hbefore part' hpart' range' hrange' (Option.isSome_of_mem ht')
      exact not_le.1 fun hle => hlt.not_ge ((hvalue.code_le_code_iff hvalue').2 hle)
    · obtain ⟨range', hrange', ht', hvalue'⟩ := offers_iff.1 hoffer
      exact (hvalue'.code_le_code_iff hvalue).1
        (hbehind part' hpart' range' hrange' (Option.isSome_of_mem ht'))

/-- A blank header has no entries. -/
theorem entries_of_blank {header : String} (h : Text.trim header.toList = []) :
    Accept.entries header = [] := by
  have hblank := Text.trim_eq_nil_iff.1 h
  have hsingle {sep : Char} (hsep : Text.isBlank sep = false) :
      Text.split sep header.toList = [header.toList] :=
    Text.split_of_sep_not_mem fun hmem => by simp [hblank sep hmem] at hsep
  have hnone : Accept.entry? header.toList = none := by
    rw [Accept.entry?, hsingle (by decide)]
    simp [h]
  rw [Accept.entries, hsingle (by decide), List.filterMap_cons_none hnone, List.filterMap_nil]

/-- **The header's choice**: a blank header needs no case of its own. -/
theorem forAccept?_eq : accept.bind r.forAccept?
    = (((ranges accept).filterMap Accept.entry?).mergeSort Accept.atLeastAsGood).findSome?
        fun range => r.byMediaType.get? range.mediaType := by
  cases accept with
  | none => simp [ranges]
  | some header =>
      rw [Option.bind_some, forAccept?]
      split
      · rename_i hblank
        have hnil : (ranges (some header)).filterMap Accept.entry? = [] := entries_of_blank hblank
        simp [hnil]
      · rfl

theorem forAccept?_eq_some_iff {t : Translator} :
    accept.bind r.forAccept? = some t ↔ r.BestOffer (ranges accept) t := by
  rw [forAccept?_eq, Preference.findSome?_eq_some_iff_find?, bestOffer_iff]
  exact exists_congr fun range =>
    and_congr_left' (Preference.find?_mergeSort_eq_some_iff _ _ _ range)

theorem forAccept?_eq_none_iff :
    accept.bind r.forAccept? = none ↔ ∀ part ∈ ranges accept, ∀ t w, ¬r.Offers part t w := by
  rw [forAccept?_eq, List.findSome?_eq_none_iff]
  constructor
  · intro h part hpart t w hoffer
    obtain ⟨range, hrange, ht, -⟩ := offers_iff.1 hoffer
    rw [h range (List.mem_mergeSort.2 (List.mem_filterMap.2 ⟨part, hpart, hrange⟩))] at ht
    cases ht
  · intro h range hmem
    obtain ⟨part, hpart, hrange⟩ := List.mem_filterMap.1 (List.mem_mergeSort.1 hmem)
    obtain ⟨w, hvalue⟩ := exists_hasValue hrange
    exact Option.eq_none_iff_forall_ne_some.2 fun t ht =>
      h part hpart t w (offers_iff.2 ⟨range, hrange, ht, hvalue⟩)

/-! ### Extensions -/

theorem forPath?_eq_some_iff {t : Translator} :
    r.forPath? path = some t ↔ ∃ stem extension,
      Path.Carries path.toList stem extension.toList ∧
        r.byExtension.get? (Text.lower extension) = some t := by
  rw [forPath?, Option.bind_eq_some_iff]
  constructor
  · rintro ⟨extension, hext, ht⟩
    obtain ⟨stem, hpath⟩ := extension?_eq_some_iff.1 hext
    exact ⟨stem, extension, hpath, ht⟩
  · rintro ⟨stem, extension, hpath, ht⟩
    exact ⟨extension, extension?_eq_some_iff.2 ⟨stem, hpath⟩, ht⟩

theorem noExtension_iff : r.NoExtension path ↔ r.forPath? path = none := by
  rw [Option.eq_none_iff_forall_ne_some]
  constructor
  · intro h t ht
    obtain ⟨stem, extension, hpath, hget⟩ := forPath?_eq_some_iff.1 ht
    rw [h stem extension hpath] at hget
    cases hget
  · intro h stem extension hpath
    exact Option.eq_none_iff_forall_ne_some.2 fun t ht =>
      h t (forPath?_eq_some_iff.2 ⟨stem, extension, hpath, ht⟩)

/-! ### Choosing -/

/-- Without an extension and without an offer there is the last resort. -/
theorem choose_eq_fallback (hpath : r.NoExtension path)
    (hnone : ∀ part ∈ ranges accept, ∀ t w, ¬r.Offers part t w) :
    r.choose path accept = r.fallback := by
  rw [choose, noExtension_iff.1 hpath, forAccept?_eq_none_iff.2 hnone]
  rfl

theorem Chosen.choose_eq {t : Translator} (h : r.Chosen path accept t) :
    r.choose path accept = t := by
  cases h with
  | byExtension hpath ht => rw [choose, forPath?_eq_some_iff.2 ⟨_, _, hpath, ht⟩]
  | byHeader hpath hbest =>
      rw [choose, noExtension_iff.1 hpath, forAccept?_eq_some_iff.2 hbest]
      rfl
  | byDefault hpath hnone ht =>
      rw [choose_eq_fallback hpath hnone, fallback, ht]
      rfl
  | json hpath hnone ht =>
      rw [choose_eq_fallback hpath hnone, fallback, ht]
      rfl

theorem chosen_choose (r : Registry) (path : String) (accept : Option String) :
    r.Chosen path accept (r.choose path accept) := by
  unfold choose
  cases hext : r.forPath? path with
  | some t =>
      obtain ⟨stem, extension, hpath, ht⟩ := forPath?_eq_some_iff.1 hext
      exact .byExtension hpath ht
  | none =>
      have hpath := noExtension_iff.2 hext
      cases hheader : accept.bind r.forAccept? with
      | some t => exact .byHeader hpath (forAccept?_eq_some_iff.1 hheader)
      | none =>
          have hnone := forAccept?_eq_none_iff.1 hheader
          cases hdefault : r.default with
          | some t =>
              rw [fallback, hdefault]
              exact .byDefault hpath hnone hdefault
          | none =>
              rw [fallback, hdefault]
              exact .json hpath hnone hdefault

/-- **A change that does not matter** leaves the best offer as it is. -/
theorem Alike.bestOffer_iff {parts parts' : List (List Char)} (h : r.Alike parts parts')
    (t : Translator) : r.BestOffer parts t ↔ r.BestOffer parts' t := by
  rw [Registry.bestOffer_iff, Registry.bestOffer_iff]
  refine exists_congr fun range => and_congr_left' (Preference.preferred_congr (fun n => ?_) range)
  cases h with
  | @drop before behind part hpart =>
      cases hrange : Accept.entry? part with
      | none => simp [hrange]
      | some read =>
          have hcovers : ¬r.covers read = true := by
            rw [covers_iff hrange]
            rintro ⟨t, w, hoffer, -⟩
            exact hpart t w hoffer
          simp [hrange, hcovers]
  | @swap before behind a b hne =>
      cases ha : Accept.entry? a with
      | none => cases hb : Accept.entry? b <;> simp [ha, hb]
      | some x =>
          cases hb : Accept.entry? b with
          | none => simp [ha, hb]
          | some y =>
              -- both are kept only if their offers weigh the same
              have hdiffer : ¬((r.covers x && x.quality.code == n) = true ∧
                  (r.covers y && y.quality.code == n) = true) := by
                simp only [Bool.and_eq_true, beq_iff_eq]
                rintro ⟨⟨hx, rfl⟩, hy, hcode⟩
                obtain ⟨t, w, hoffer, hw⟩ := (covers_iff ha).1 hx
                obtain ⟨t', w', hoffer', hw'⟩ := (covers_iff hb).1 hy
                exact hne t w t' w' hoffer hoffer' (le_antisymm
                  ((hw.code_le_code_iff hw').1 hcode.ge) ((hw'.code_le_code_iff hw).1 hcode.le))
              simp only [List.filterMap_append, List.filter_append, List.filterMap_cons, ha, hb]
              exact congrArg _ (Preference.filter_swap hdiffer _)

theorem bestOffer_iff_of_eqvGen {parts parts' : List (List Char)}
    (h : Relation.EqvGen r.Alike parts parts') (t : Translator) :
    r.BestOffer parts t ↔ r.BestOffer parts' t := by
  induction h with
  | rel parts parts' h => exact h.bestOffer_iff t
  | refl parts => exact Iff.rfl
  | symm parts parts' _ ih => exact ih.symm
  | trans parts parts' parts'' _ _ ih ih' => exact ih.trans ih'

/-- **What is chosen**, and that changes which do not matter may be made to the header, one
after the other.  If the registry was built, its setup says which translator there is for a media
type, and which one is chosen where neither the path nor the header asks for any. -/
theorem choose_eq_iff (r : Registry) (path : String) (accept : Option String) :
    (∀ t, r.choose path accept = t ↔ r.Chosen path accept t) ∧
      (∀ accept', Relation.EqvGen r.Alike (ranges accept) (ranges accept') →
        r.choose path accept' = r.choose path accept) ∧
      ∀ s : Setup, s.build = .ok r →
        (∀ mediaType, r.forMediaType? mediaType = s.forMediaType? mediaType) ∧
          (r.NoExtension path → (∀ part ∈ ranges accept, ∀ t w, ¬r.Offers part t w) →
            ∀ t, r.choose path accept = t ↔ s.Resort r t) := by
  refine ⟨fun t => ⟨?_, Chosen.choose_eq⟩, fun accept' h => ?_, fun s hbuild =>
    ⟨forMediaType?_of_build hbuild, fun hpath hnone t => ?_⟩⟩
  · rintro rfl
    exact chosen_choose r path accept
  · have hheader : accept'.bind r.forAccept? = accept.bind r.forAccept? := by
      refine Option.ext fun t => ?_
      rw [forAccept?_eq_some_iff, forAccept?_eq_some_iff, bestOffer_iff_of_eqvGen h]
    rw [choose, choose, hheader]
  · rw [choose_eq_fallback hpath hnone]
    exact fallback_eq_iff_of_build hbuild t

/-- Plain text is as welcome as XML here and stands first.  The image does not matter, nor that
JSON is asked for with a quality that is no number.  A header that asks for an image only is left
to the default, which may be named in whatever letter case. -/
theorem choose_eq_iff_text :
    let header := "image/png, text/plain;q=0.5, application/XML;q=1;q=0.5, application/json;q=nan"
    let shorter := " text/plain;q=0.5, application/XML;q=1;q=0.5, application/json;q=nan"
    let setup := Setup.empty.registerBuiltIn.withDefault ".XML"
    let withXml : Registry := { builtIn with default := some .xml }
    (builtIn.choose "/reports/7" (some header)).mediaType = "text/plain" ∧
      builtIn.choose "/reports/7" (some shorter) = builtIn.choose "/reports/7" (some header) ∧
      setup.build = .ok withXml ∧
      (withXml.choose "/reports/7" (some "image/png")).mediaType = "application/xml" := by
  intro header shorter setup withXml
  obtain ⟨hchosen, halike, -⟩ := choose_eq_iff builtIn "/reports/7" (some header)
  let half : Quality := ⟨0x3F000000, by decide, by decide⟩
  obtain ⟨t, ht, htype⟩ : ∃ t, builtIn.byMediaType.get? "text/plain" = some t ∧
      t.mediaType = "text/plain" :=
    Option.map_eq_some_iff.1 (by decide +kernel)
  have hpath : builtIn.NoExtension "/reports/7" :=
    noExtension_iff.2 (Option.isNone_iff_eq_none.1 (by decide +kernel))
  have hread : (ranges (some header)).filterMap Accept.entry?
      = [⟨"image/png", .unit⟩, ⟨"text/plain", half⟩, ⟨"application/xml", half⟩] := by
    decide +kernel
  have hbest : builtIn.BestOffer (ranges (some header)) t :=
    bestOffer_iff.2 ⟨⟨"text/plain", half⟩,
      ⟨[⟨"image/png", .unit⟩], [⟨"application/xml", half⟩], hread, by decide +kernel,
        by decide +kernel, by decide +kernel⟩, ht⟩
  have himage {r : Registry} (hnone : r.byMediaType.contains "image/png" = false) :
      ∀ t w, ¬r.Offers "image/png".toList t w := by
    intro t w hoffer
    obtain ⟨range, hrange, ht, -⟩ := offers_iff.1 hoffer
    obtain rfl : range = ⟨"image/png", .unit⟩ :=
      Option.some.inj (hrange.symm.trans (by decide +kernel))
    simp [SortedMap.contains, ht] at hnone
  have hranges : ranges (some header) = "image/png".toList :: ranges (some shorter) := by
    decide +kernel
  have hdropped : builtIn.choose "/reports/7" (some shorter)
      = builtIn.choose "/reports/7" (some header) := by
    refine halike (some shorter) (.rel _ _ ?_)
    rw [hranges]
    exact @Alike.drop builtIn [] _ _ (himage (by decide +kernel))
  have hbuild : setup.build = .ok withXml := rfl
  have honly : ranges (some "image/png") = ["image/png".toList] := by decide +kernel
  obtain ⟨-, -, hresort⟩ := choose_eq_iff withXml "/reports/7" (some "image/png")
  have hxml : withXml.choose "/reports/7" (some "image/png") = .xml := by
    refine ((hresort setup hbuild).2 hpath (fun part hpart => ?_) .xml).2 (.named rfl rfl)
    rw [honly, List.mem_singleton] at hpart
    exact hpart ▸ himage (by decide +kernel)
  exact ⟨by rw [(hchosen t).2 (.byHeader hpath hbest), htype], hdropped, hbuild, by rw [hxml]; rfl⟩

end Registry

end HttpDispatch
