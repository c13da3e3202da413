import HttpDispatch.Proofs.Resolution.Slots

/-!
# What a resolution reads

A resolution is a function of all values of a request, but it does not look at all of them.
It reads the values under the names of simple parameters, the pairs that structured parameters
are built from, and the keys that it reports as belonging to nobody.  `AgreeOn` says that two
maps agree in these, and `AgreeOn.resolve_eq` that they resolve alike then: to the same slots,
the same violations and the same skipped pairs.

Two ways to change a request without any effect follow.

* **Keys that nobody asks for** (`resolve_insertAll_of_unasked`).  They are inert as soon as
  the leftovers are: nobody is structured, some key is led by the name of a structured
  parameter, or there is one structured parameter and a simple one has consumed a value.
  Otherwise leftovers are either the input of a lone structured parameter or a violation.
* **The name of a lone structured parameter** (`resolve_prepend`).  Its keys may have the name
  in front or all go without it.  The first way is attribution, the second takes what is left
  over; both hand the same pairs to the binder, in the same order.

Names of parameters may repeat in both.
-/

namespace HttpDispatch

namespace Resolution

variable {parameters : List Parameter} {values values' : SortedMap String}

/-! ### Agreement -/

/-- **Two maps agree on what a resolution reads.** -/
structure AgreeOn (parameters : List Parameter) (values values' : SortedMap String) : Prop where
  /-- Simple parameters find the same values. -/
  simple : ∀ p ∈ parameters, p.isSimple = true → values.get? p.name = values'.get? p.name
  /-- Structured parameters are built from the same pairs. -/
  own : ownPairs parameters values = ownPairs parameters values'
  /-- The same keys are reported as belonging to nobody. -/
  unattributed : unattributed? parameters values = unattributed? parameters values'

/-- The first pass reads the values under the names of simple parameters only. -/
theorem slots_intake_congr (body : Option (List UInt8))
    (h : ∀ p ∈ parameters, p.isSimple = true → values.get? p.name = values'.get? p.name) :
    (intake body parameters values).slots = (intake body parameters values').slots := by
  rw [slots_intake_eq_mapIdx, slots_intake_eq_mapIdx]
  refine List.ext_getElem (by simp) fun i hi _ => ?_
  rw [List.getElem_mapIdx, List.getElem_mapIdx]
  refine plainSlot_congr body fun hsimple => ?_
  -- the parameters in front leave the value in both maps, or in neither
  rw [unclaimed, unclaimed, SortedMap.get?_filterKeys, SortedMap.get?_filterKeys,
    h _ (List.getElem_mem _) hsimple]

/-- **Maps that agree on what a resolution reads resolve alike.** -/
theorem AgreeOn.resolve_eq (h : AgreeOn parameters values values')
    (body : Option (List UInt8)) :
    resolve values parameters body = resolve values' parameters body := by
  rw [Resolution.resolve_eq body parameters values, Resolution.resolve_eq body parameters values',
    h.own, h.unattributed, slots_intake_congr _ h.simple]

/-! ### Keys that nobody asks for -/

/-- **Nobody asks for a key** that is the name of no simple parameter and that no structured
parameter leads. -/
structure Unasked (parameters : List Parameter) (key : String) : Prop where
  /-- No simple parameter has it for its name. -/
  simple : ∀ p ∈ parameters, p.isSimple = true → key ≠ p.name
  /-- No structured parameter leads it. -/
  structured : ∀ name ∈ structuredNames parameters, ¬Leads name key

/-- **Leftovers are inert**: no structured parameter could take them, and they are not reported
either. -/
inductive LeftoversInert (parameters : List Parameter) (values : SortedMap String) : Prop
  /-- There is no structured parameter. -/
  | noneStructured : structuredNames parameters = [] → LeftoversInert parameters values
  /-- Some key that is not the name of a simple parameter is led by a structured one. -/
  | led {key name : String} : key ∈ values.keys →
      (∀ p ∈ parameters, p.isSimple = true → key ≠ p.name) →
      name ∈ structuredNames parameters → Leads name key → LeftoversInert parameters values
  /-- There is one structured parameter, and a simple one has consumed a value. -/
  | consumed : (structuredNames parameters).length = 1 → Consumes parameters values →
      LeftoversInert parameters values

theorem mem_keys_unclaimed_iff {key : String} :
    key ∈ (unclaimed parameters values).keys ↔
      key ∈ values.keys ∧ ∀ p ∈ parameters, p.isSimple = true → key ≠ p.name := by
  have hkeep : (!parameters.any fun p => p.isSimple && p.name == key) = true ↔
      ∀ p ∈ parameters, p.isSimple = true → key ≠ p.name := by
    rw [Bool.not_eq_true', List.any_eq_false]
    simp only [Bool.and_eq_true, beq_iff_eq, not_and, ne_comm (a := key), ne_eq]
  rw [SortedMap.mem_keys_iff_get?, SortedMap.mem_keys_iff_get?, unclaimed,
    SortedMap.get?_filterKeys, ← hkeep]
  split
  · rename_i hother
    exact (and_iff_left hother).symm
  · rename_i hclaimed
    exact iff_of_false (by simp) fun h => hclaimed h.2

/-- What is inert is neither taken nor reported. -/
theorem LeftoversInert.not_takesAll_and_not_unattributable
    (h : LeftoversInert parameters values) :
    ¬TakesAll parameters values ∧ ¬Unattributable parameters values := by
  cases h with
  | noneStructured hnone =>
      refine ⟨fun htakes => ?_, fun hkeys => ?_⟩
      · exact absurd htakes.1 (by simp [hnone])
      · exact absurd hkeys.1 (by simp [hnone])
  | @led key name hkey hother hname hleads =>
      have hled : ¬NoneLed parameters values := fun hnone =>
        relativePath?_eq_none_iff.1
          (hnone key (mem_keys_unclaimed_iff.2 ⟨hkey, hother⟩) name hname) hleads
      exact ⟨fun htakes => hled htakes.2.2, fun hkeys => hled hkeys.2.1⟩
  | consumed hlone hconsumes =>
      refine ⟨fun htakes => htakes.2.1 hconsumes, fun hkeys => ?_⟩
      exact absurd hkeys.1 (by omega)

/-- The keys that are led decide what structured parameters take. -/
theorem shares_filterKeys (names : List String) (values : SortedMap String) :
    shares names (values.filterKeys fun key => (leader? names key).isSome)
      = shares names values := by
  unfold shares share SortedMap.filterKeys
  simp only [List.filterMap_filter]
  congr 1
  funext position name
  refine List.filterMap_congr fun e _ => ?_
  cases leader? names e.1 with
  | none => simp
  | some first => simp

section

variable {extra : List (String × String)}

/-- Simple parameters find the same values beside keys that nobody asks for. -/
theorem get?_insertAll_of_unasked (h : ∀ e ∈ extra, Unasked parameters e.1) {p : Parameter}
    (hp : p ∈ parameters) (hsimple : p.isSimple = true) :
    (values.insertAll extra).get? p.name = values.get? p.name :=
  SortedMap.get?_insertAll_of_ne (fun e he => (h e he).simple p hp hsimple) values

theorem consumes_insertAll (h : ∀ e ∈ extra, Unasked parameters e.1)
    (hconsumes : Consumes parameters values) : Consumes parameters (values.insertAll extra) := by
  obtain ⟨p, hp, hsimple, hvalue⟩ := hconsumes
  refine ⟨p, hp, hsimple, ?_⟩
  rwa [SortedMap.contains, get?_insertAll_of_unasked h hp hsimple]

/-- A key that is led is not among those that nobody asks for. -/
theorem get?_insertAll_of_leads (h : ∀ e ∈ extra, Unasked parameters e.1) {key name : String}
    (hname : name ∈ structuredNames parameters) (hleads : Leads name key) :
    (values.insertAll extra).get? key = values.get? key := by
  refine SortedMap.get?_insertAll_of_ne (fun e he hkey => ?_) values
  exact (h e he).structured name hname (hkey ▸ hleads)

theorem LeftoversInert.insertAll (hinert : LeftoversInert parameters values)
    (h : ∀ e ∈ extra, Unasked parameters e.1) :
    LeftoversInert parameters (values.insertAll extra) := by
  cases hinert with
  | noneStructured hnone => exact .noneStructured hnone
  | led hkey hother hname hleads =>
      refine .led ?_ hother hname hleads
      rw [SortedMap.mem_keys_iff_get?, get?_insertAll_of_leads h hname hleads]
      exact (values.mem_keys_iff_get? _).1 hkey
  | consumed hlone hconsumes => exact .consumed hlone (consumes_insertAll h hconsumes)

/-- **Keys that nobody asks for are nobody's share.** -/
theorem shares_insertAll (h : ∀ e ∈ extra, Unasked parameters e.1) :
    shares (structuredNames parameters) (unclaimed parameters (values.insertAll extra))
      = shares (structuredNames parameters) (unclaimed parameters values) := by
  rw [← shares_filterKeys, ← shares_filterKeys _ (unclaimed parameters values)]
  congr 1
  refine SortedMap.ext_get? fun key => ?_
  simp only [unclaimed, SortedMap.get?_filterKeys]
  split
  · rename_i hled
    obtain ⟨name, hname, hpath⟩ : ∃ name ∈ structuredNames parameters,
        (relativePath? name key).isSome = true := by
      simpa [leader?, List.findIdx?_isSome] using hled
    rw [get?_insertAll_of_leads h hname (isSome_relativePath?_iff.1 hpath)]
  · rfl

/-- **Keys that nobody asks for change nothing** where leftovers are inert. -/
theorem resolve_insertAll_of_unasked (h : ∀ e ∈ extra, Unasked parameters e.1)
    (hinert : LeftoversInert parameters values) (body : Option (List UInt8)) :
    resolve (values.insertAll extra) parameters body = resolve values parameters body := by
  obtain ⟨htakes, hkeys⟩ := hinert.not_takesAll_and_not_unattributable
  obtain ⟨htakes', hkeys'⟩ := (hinert.insertAll h).not_takesAll_and_not_unattributable
  have agree : AgreeOn parameters (values.insertAll extra) values :=
    { simple := fun p hp hsimple => get?_insertAll_of_unasked h hp hsimple
      own := by rw [ownPairs, if_neg htakes', ownPairs, if_neg htakes, shares_insertAll h]
      unattributed := by rw [unattributed?, if_neg hkeys', unattributed?, if_neg hkeys] }
  exact agree.resolve_eq body

end

/-- A search for a product: its number, and what to filter by. -/
def searchParameters : List Parameter :=
  [.simple "id" .integer, .structured "filter" (.ofFields [("tag", .scalar .string)])]

/-- Keys that look like those of the search are not asked for: a name that only starts like the
one of the filter, and a path behind the name of a simple parameter. -/
theorem resolve_insertAll_of_unasked_search :
    let extra := [("filters.tag", "blue"), ("id[0]", "8"), ("utm", "mail")]
    let values : SortedMap String := .ofList [("filter.tag", "red"), ("id", "7")]
    (∀ e ∈ extra, Unasked searchParameters e.1) ∧ LeftoversInert searchParameters values ∧
      resolve (values.insertAll extra) searchParameters none
        = resolve values searchParameters none ∧
      (resolve values searchParameters none).outcome
        = .ok ⟨[("id", some (.number (.integer 7))),
            ("filter", some (.object [("tag", .string "red")]))]⟩ := by
  intro extra values
  have unasked : ∀ e ∈ extra, Unasked searchParameters e.1 := by
    have hnames : ∀ e ∈ extra, ∀ p ∈ searchParameters, p.isSimple = true → e.1 ≠ p.name := by
      decide
    have hpaths : ∀ e ∈ extra, ∀ name ∈ structuredNames searchParameters,
        relativePath? name e.1 = none := by
      decide
    exact fun e he => ⟨hnames e he, fun name hname =>
      relativePath?_eq_none_iff.1 (hpaths e he name hname)⟩
  have consumed : LeftoversInert searchParameters values := .consumed (by decide) (by decide)
  exact ⟨unasked, consumed, resolve_insertAll_of_unasked unasked consumed none,
    by decide +kernel⟩

/-! ### The name of a lone structured parameter -/

theorem unclaimed_eq_self (h : ¬Consumes parameters values) :
    unclaimed parameters values = values := by
  refine SortedMap.filterKeys_eq_self fun key hkey => ?_
  rw [Bool.not_eq_true', List.any_eq_false]
  intro p hp hclaims
  rw [Bool.and_eq_true, beq_iff_eq] at hclaims
  obtain ⟨raw, hraw⟩ := (values.mem_keys_iff_get? key).1 hkey
  refine h ⟨p, hp, hclaims.1, ?_⟩
  rw [hclaims.2, SortedMap.contains, hraw, Option.isSome_some]

/-- Attribution takes the name off every key again. -/
theorem taken_prepend (name : String) (values : SortedMap String) :
    taken name (values.prepend (name ++ ".")) = values.entries := by
  simp [taken, SortedMap.prepend, List.filterMap_map, relativePath?_dot]

theorem taken_eq_nil {name : String} (h : ∀ key ∈ values.keys, ¬Leads name key) :
    taken name values = [] := by
  simp only [taken, List.filterMap_eq_nil_iff, Prod.forall, Option.map_eq_none_iff]
  intro key raw he
  exact relativePath?_eq_none_iff.2 (h key ((values.mem_keys_iff key).2 ⟨raw, he⟩))

/-- A lone structured parameter gets what its name leads, or everything if it leads nothing. -/
theorem ownPairs_of_lone {name : String} (hlone : structuredNames parameters = [name])
    (h : ¬Consumes parameters values) :
    ownPairs parameters values
      = [if taken name values = [] then values.entries else taken name values] := by
  have hshares : shares [name] values = [taken name values] := shares_cons name [] values
  have hnone : NoneLed parameters values ↔ taken name values = [] := by
    rw [← all_isEmpty_shares_unclaimed_iff, hlone, unclaimed_eq_self h, hshares]
    simp
  by_cases htaken : taken name values = []
  · have htakes : TakesAll parameters values := ⟨by simp [hlone], h, hnone.2 htaken⟩
    rw [ownPairs, if_pos htakes, if_pos htaken, unclaimed_eq_self h]
  · have htakes : ¬TakesAll parameters values := fun htakes => htaken (hnone.1 htakes.2.2)
    rw [ownPairs, if_neg htakes, if_neg htaken, hlone, unclaimed_eq_self h, hshares]

/-- **A lone structured parameter may be named in front of every key or of none.** -/
theorem resolve_prepend {name : String} (hlone : structuredNames parameters = [name])
    (hfree : ∀ key ∈ values.keys, ¬Leads name key) (hvalues : ¬Consumes parameters values)
    (hprepended : ¬Consumes parameters (values.prepend (name ++ ".")))
    (body : Option (List UInt8)) :
    resolve (values.prepend (name ++ ".")) parameters body = resolve values parameters body := by
  have notFound {m : SortedMap String} (hm : ¬Consumes parameters m) {p : Parameter}
      (hp : p ∈ parameters) (hsimple : p.isSimple = true) : m.get? p.name = none := by
    by_contra hvalue
    exact hm ⟨p, hp, hsimple, Option.isSome_iff_ne_none.2 hvalue⟩
  have unattributed (m : SortedMap String) : unattributed? parameters m = none :=
    if_neg fun hkeys => absurd hkeys.1 (by simp [hlone])
  have agree : AgreeOn parameters (values.prepend (name ++ ".")) values :=
    { simple := fun p hp hsimple => by
        rw [notFound hprepended hp hsimple, notFound hvalues hp hsimple]
      own := by
        rw [ownPairs_of_lone hlone hprepended, ownPairs_of_lone hlone hvalues, taken_prepend,
          if_pos (taken_eq_nil hfree)]
        -- without any values there are none under the name either
        split
        · rename_i hnil
          simp [SortedMap.prepend, hnil]
        · rfl
      unattributed := by rw [unattributed, unattributed] }
  exact agree.resolve_eq body

/-- A page that is not asked for does not keep the filter from taking odd keys, whether they
stand behind its name or alone: the empty key, one that starts with a dot, and one that stands
for an item. -/
theorem resolve_prepend_search :
    let parameters : List Parameter :=
      [(Parameter.simple "page" .integer).withRequired false, .body "note" .text,
        .structured "filter" (.ofFields [("tag", .scalar .string)])]
    let values : SortedMap String :=
      .ofList [("tag", "red"), ("", "none"), (".tag", "blue"), ("[0]", "first")]
    structuredNames parameters = ["filter"] ∧ (∀ key ∈ values.keys, ¬Leads "filter" key) ∧
      ¬Consumes parameters values ∧ ¬Consumes parameters (values.prepend ("filter" ++ ".")) ∧
      resolve (values.prepend ("filter" ++ ".")) parameters (some [104, 105])
        = resolve values parameters (some [104, 105]) ∧
      (resolve values parameters (some [104, 105])).outcome
        = .ok ⟨[("page", none), ("note", some (.string "hi")),
            ("filter", some (.object [("tag", .string "red")]))]⟩ := by
  intro parameters values
  have hpaths : ∀ key ∈ values.keys, relativePath? "filter" key = none := by decide
  have hfree : ∀ key ∈ values.keys, ¬Leads "filter" key :=
    fun key hkey => relativePath?_eq_none_iff.1 (hpaths key hkey)
  have hvalues : ¬Consumes parameters values := by decide
  have hprepended : ¬Consumes parameters (values.prepend ("filter" ++ ".")) := by decide
  exact ⟨rfl, hfree, hvalues, hprepended, resolve_prepend rfl hfree hvalues hprepended _,
    by decide +kernel⟩

end Resolution

end HttpDispatch
