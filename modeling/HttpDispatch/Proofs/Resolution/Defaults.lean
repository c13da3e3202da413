import HttpDispatch.Proofs.RequestValues
import HttpDispatch.Proofs.Resolution.Violations

/-!
# What a default changes

A default is put among the values of a request before they are resolved, and a resolution cannot
tell the two apart.  For its own slot that is what it is for.  For the others it mostly does not
matter: the default stands under the name of a simple parameter, which consumes it in the first
pass, so attribution never sees it.

One thing it does change is that a simple parameter **has** consumed something.  A lone structured
parameter takes what is left over only if none has, so a default can take all its input away
(`Deprives`), although the request is the same.  `fillsOnly_withDefault_iff` says that this is
the only way in which a default reaches beyond its own slot.

The values are those of `RequestValues.flatten`, and names are distinct, as the slot of a default
would otherwise not be its own.
-/

namespace HttpDispatch

namespace Resolution

/-- **Nothing but one slot is filled**: the same violations are listed, or the slot at the
position was empty and holds the value, and all others are as they were. -/
def FillsOnly (position : Nat) (value : Json) :
    Except (List Violation) Arguments → Except (List Violation) Arguments → Prop
  | .error found, .error found' => found = found'
  | .ok arguments, .ok arguments' => ∃ front name back, front.length = position ∧
      arguments.slots = front ++ (name, none) :: back ∧
      arguments'.slots = front ++ (name, some value) :: back
  | _, _ => False

/-- **What is consumed in the first pass deprives a lone structured parameter**: it would take
everything, some of that would be accepted, and the loss shows, as a violation or in a slot. -/
structure Deprives (parameters : List Parameter) (values : SortedMap String)
    (body : Option (List UInt8)) : Prop where
  /-- A lone structured parameter takes all that is left over. -/
  takesAll : TakesAll parameters values
  /-- It accepts some of it, and it is required or nothing else is wrong. -/
  lost : ∃ q ∈ parameters, ∃ schema, q.source = .structured schema ∧
    (∃ e ∈ (unclaimed parameters values).entries, ∃ steps leaf,
      StructuredValue.Accepts schema e.1 e.2 steps leaf) ∧
    (q.required = true ∨
      ∃ arguments, (resolve values parameters body).outcome = .ok arguments)

/-- **The others are kept**: the same is reported and, if that is nothing, they have the same
slots. -/
def OthersKept (others : List Parameter) (found found' : List Violation)
    (slot slot' : Parameter → Slot) : Prop :=
  found = found' ∧ (found = [] → ∀ q ∈ others, (slot q).value = (slot' q).value)

/-! ### One slot of many -/

section

variable {before behind : List Parameter} {p p' : Parameter} {slot slot' : Parameter → Slot}
  {value : Json}

/-- Two lists of slots that differ at one position. -/
theorem exists_slots_iff (hname : p'.name = p.name) (hp : (slot p).value = none)
    (hp' : (slot' p').value = some value) :
    (∃ front name back, front.length = before.length ∧
        (before ++ p :: behind).map (fun q => (q.name, (slot q).value))
          = front ++ (name, none) :: back ∧
        (before ++ p' :: behind).map (fun q => (q.name, (slot' q).value))
          = front ++ (name, some value) :: back) ↔
      ∀ q ∈ before ++ behind, (slot q).value = (slot' q).value := by
  simp only [List.map_append, List.map_cons, hp, hp', hname]
  constructor
  · rintro ⟨front, name, back, hlength, hold, hnew⟩ q hq
    obtain ⟨hfront, htail⟩ := List.append_inj hold (by simp [hlength])
    obtain ⟨hfront', htail'⟩ := List.append_inj hnew (by simp [hlength])
    have hback := (List.cons.inj htail).2.trans (List.cons.inj htail').2.symm
    rcases List.mem_append.1 hq with hq | hq
    · exact congrArg Prod.snd (List.map_inj_left.1 (hfront.trans hfront'.symm) q hq)
    · exact congrArg Prod.snd (List.map_inj_left.1 hback q hq)
  · intro h
    have same {ps : List Parameter} (hps : ∀ q ∈ ps, q ∈ before ++ behind) :
        ps.map (fun q => (q.name, (slot' q).value)) = ps.map fun q => (q.name, (slot q).value) :=
      List.map_congr_left fun q hq => by rw [h q (hps q hq)]
    rw [same fun q hq => List.mem_append_left _ hq, same fun q hq => List.mem_append_right _ hq]
    exact ⟨_, _, _, List.length_map _, rfl, rfl⟩

theorem fillsOnly_iff {found found' : List Violation} (hname : p'.name = p.name)
    (hp : (slot p).value = none) (hp' : (slot' p').value = some value) :
    FillsOnly before.length value
        (if found = [] then
          .ok ⟨(before ++ p :: behind).map fun q => (q.name, (slot q).value)⟩ else .error found)
        (if found' = [] then
          .ok ⟨(before ++ p' :: behind).map fun q => (q.name, (slot' q).value)⟩
          else .error found') ↔
      OthersKept (before ++ behind) found found' slot slot' := by
  by_cases hfound : found = []
  · by_cases hfound' : found' = []
    · rw [if_pos hfound, if_pos hfound']
      exact (exists_slots_iff hname hp hp').trans (by simp [OthersKept, hfound, hfound'])
    · rw [if_pos hfound, if_neg hfound']
      exact iff_of_false id fun h => hfound' (h.1 ▸ hfound)
  · by_cases hfound' : found' = []
    · rw [if_neg hfound, if_pos hfound']
      exact iff_of_false id fun h => hfound (h.1 ▸ hfound')
    · rw [if_neg hfound, if_neg hfound']
      exact (and_iff_left fun hnil => absurd hnil hfound).symm

end

/-! ### The passes with a default and without -/

section

variable {parameters : List Parameter} {values : SortedMap String} {body : Option (List UInt8)}

theorem name_ne_of_nodup {before behind : List Parameter} {p : Parameter}
    (distinct : ((before ++ p :: behind).map Parameter.name).Nodup) :
    ∀ q ∈ before ++ behind, q.name ≠ p.name := by
  have hperm : (before ++ p :: behind).Perm (p :: (before ++ behind)) := List.perm_middle
  have hnew := (List.nodup_cons.1 ((hperm.map Parameter.name).nodup_iff.1 distinct)).1
  exact fun q hq heq => hnew (heq ▸ List.mem_map_of_mem hq)

/-- A value under the name of a simple parameter is out of reach for all others. -/
theorem unclaimed_insert {p : Parameter} (hp : p ∈ parameters) (hsimple : p.isSimple = true)
    (raw : String) :
    unclaimed parameters (values.insert p.name raw) = unclaimed parameters values := by
  have hclaimed : (parameters.any fun q => q.isSimple && q.name == p.name) = true :=
    List.any_eq_true.2 ⟨p, hp, by simp [hsimple]⟩
  refine SortedMap.ext_get? fun key => ?_
  simp only [unclaimed, SortedMap.get?_filterKeys, SortedMap.get?_insert]
  by_cases hkey : key = p.name
  · simp [hkey, hclaimed]
  · rw [if_neg hkey]

theorem plainSlot_insert {name : String} {p : Parameter} (h : p.name ≠ name) (raw : String) :
    plainSlot (values.insert name raw) body p = plainSlot values body p :=
  plainSlot_congr body fun _ => by rw [SortedMap.get?_insert, if_neg h]

/-- What a lone structured parameter takes if it takes everything, and what its name leads. -/
theorem attribution_of_takesAll (h : TakesAll parameters values) :
    ∃ q, parameters.filter Parameter.isStructured = [q] ∧
      attribution parameters values = [(q, (unclaimed parameters values).entries)] ∧
      shares (structuredNames parameters) (unclaimed parameters values) = [[]] := by
  obtain ⟨q, hq⟩ : ∃ q, parameters.filter Parameter.isStructured = [q] := by
    have hlone := h.1
    rw [structuredNames, List.length_map] at hlone
    exact List.length_eq_one_iff.1 hlone
  refine ⟨q, hq, by rw [attribution, ownPairs, if_pos h, hq]; rfl, ?_⟩
  have hlength := length_shares (structuredNames parameters) (unclaimed parameters values)
  obtain ⟨own, hown⟩ := List.length_eq_one_iff.1 (hlength.trans h.1)
  have hempty := (all_isEmpty_shares_unclaimed_iff parameters values).2 h.2.2
  rw [hown] at hempty ⊢
  simpa using hempty

/-- What it takes to deprive the one that takes everything. -/
theorem deprives_iff (distinct : (parameters.map Parameter.name).Nodup)
    (h : TakesAll parameters values) {q : Parameter} {schema : Schema}
    (hlone : parameters.filter Parameter.isStructured = [q])
    (hsource : q.source = .structured schema) :
    Deprives parameters values body ↔
      (∃ v, StructuredValue.build schema (unclaimed parameters values).entries = some v) ∧
        (q.required = true ∨ reported parameters values body = []) := by
  rw [StructuredValue.exists_build_eq_some_iff, ← exists_outcome_eq_ok_iff values body distinct]
  have hmem {q' : Parameter} : q' ∈ parameters ∧ q'.isStructured = true ↔ q' = q := by
    rw [← List.mem_filter, hlone, List.mem_singleton]
  constructor
  · rintro ⟨-, q', hq', schema', hsource', hlost⟩
    obtain rfl := hmem.1 ⟨hq', Parameter.isStructured_iff.2 ⟨schema', hsource'⟩⟩
    obtain rfl : schema' = schema := by simpa [hsource'] using hsource
    exact hlost
  · intro hlost
    exact ⟨h, q, (hmem.2 rfl).1, schema, hsource, hlost⟩

theorem builtSlot_of_build_eq_none {q : Parameter} {schema : Schema}
    {own : List (String × String)} (hsource : q.source = .structured schema)
    (h : StructuredValue.build schema own = none) : builtSlot q own = .absent q := by
  simp only [builtSlot, hsource, structuredSlot, h]

theorem builtSlot_of_build_eq_some {q : Parameter} {schema : Schema}
    {own : List (String × String)} {v : Json} (hsource : q.source = .structured schema)
    (h : StructuredValue.build schema own = some v) : builtSlot q own = .filled v := by
  simp only [builtSlot, hsource, structuredSlot, h]

end

section

variable {before behind : List Parameter} {p : Parameter} {kind : ScalarKind} {raw : String}
  {values : SortedMap String} {body : Option (List UInt8)}

theorem filter_isStructured_withDefault (hsource : p.source = .simple kind) :
    (before ++ p.withDefault raw :: behind).filter Parameter.isStructured
      = (before ++ p :: behind).filter Parameter.isStructured := by
  simp [Parameter.isStructured, Parameter.withDefault, hsource]

theorem structuredNames_withDefault (hsource : p.source = .simple kind) :
    structuredNames (before ++ p.withDefault raw :: behind)
      = structuredNames (before ++ p :: behind) := by
  rw [structuredNames, filter_isStructured_withDefault hsource, structuredNames]

/-- **The default itself is consumed**, and nothing else changes for the later passes. -/
theorem unclaimed_withDefault (hsource : p.source = .simple kind) :
    unclaimed (before ++ p.withDefault raw :: behind) (values.insert p.name raw)
      = unclaimed (before ++ p :: behind) values := by
  have hsimple : p.isSimple = true := Parameter.isSimple_iff.2 ⟨kind, hsource⟩
  have hinsert : unclaimed (before ++ p :: behind) (values.insert p.name raw)
      = unclaimed (before ++ p :: behind) values := unclaimed_insert (by simp) hsimple raw
  rw [← hinsert]
  simp [unclaimed, Parameter.isSimple, Parameter.withDefault]

theorem consumes_withDefault (hsource : p.source = .simple kind) :
    Consumes (before ++ p.withDefault raw :: behind) (values.insert p.name raw) := by
  have hvalue : (values.insert p.name raw).get? (p.withDefault raw).name = some raw := by
    rw [SortedMap.get?_insert]
    exact if_pos rfl
  refine ⟨p.withDefault raw, by simp, Parameter.isSimple_iff.2 ⟨kind, hsource⟩, ?_⟩
  rw [SortedMap.contains, hvalue, Option.isSome_some]

theorem unattributed?_withDefault (hsource : p.source = .simple kind) :
    unattributed? (before ++ p.withDefault raw :: behind) (values.insert p.name raw)
      = unattributed? (before ++ p :: behind) values := by
  have hkeys : Unattributable (before ++ p.withDefault raw :: behind) (values.insert p.name raw) ↔
      Unattributable (before ++ p :: behind) values := by
    simp only [Unattributable, NoneLed, structuredNames_withDefault hsource,
      unclaimed_withDefault hsource]
  rw [unattributed?, structuredNames_withDefault hsource, unclaimed_withDefault hsource]
  exact if_congr hkeys rfl rfl

/-- With the default every structured parameter gets what its name leads, and no more. -/
theorem attribution_withDefault (hsource : p.source = .simple kind) :
    attribution (before ++ p.withDefault raw :: behind) (values.insert p.name raw)
      = ((before ++ p :: behind).filter Parameter.isStructured).zip
        (shares (structuredNames (before ++ p :: behind))
          (unclaimed (before ++ p :: behind) values)) := by
  have htakes : ¬TakesAll (before ++ p.withDefault raw :: behind) (values.insert p.name raw) :=
    fun htakes => htakes.2.1 (consumes_withDefault hsource)
  rw [attribution, ownPairs, if_neg htakes, filter_isStructured_withDefault hsource,
    structuredNames_withDefault hsource, unclaimed_withDefault hsource]

/-- **Simple and body parameters** have the same violations with the default and without. -/
theorem plain_withDefault (hsource : p.source = .simple kind) (hrequired : p.required = false)
    (hvalue : values.get? p.name = none) {v : Json} (hcoerce : kind.coerce raw = .ok v)
    (hothers : ∀ q ∈ before ++ behind, q.name ≠ p.name) :
    ((before ++ p.withDefault raw :: behind).filter fun q => !q.isStructured).filterMap
        (fun q => (plainSlot (values.insert p.name raw) body q).violation)
      = ((before ++ p :: behind).filter fun q => !q.isStructured).filterMap
        fun q => (plainSlot values body q).violation := by
  have others {ps : List Parameter} (hps : ∀ q ∈ ps, q ∈ before ++ behind) :
      (ps.filter fun q => !q.isStructured).filterMap
          (fun q => (plainSlot (values.insert p.name raw) body q).violation)
        = (ps.filter fun q => !q.isStructured).filterMap
          fun q => (plainSlot values body q).violation := by
    refine List.filterMap_congr fun q hq => ?_
    rw [plainSlot_insert (hothers q (hps q (List.mem_of_mem_filter hq)))]
  have hold : (plainSlot values body p).violation = none := by
    simp [plainSlot, hsource, hvalue, Slot.absent, hrequired, Slot.empty]
  have hnew : (plainSlot (values.insert p.name raw) body (p.withDefault raw)).violation
      = none := by
    simp [plainSlot, Parameter.withDefault, hsource, SortedMap.get?_insert, simpleSlot, hcoerce,
      Slot.filled]
  have hplain : p.isStructured = false := by simp [Parameter.isStructured, hsource]
  have hplain' : (p.withDefault raw).isStructured = false := hplain
  simp only [List.filter_append, List.filterMap_append,
    others fun q hq => List.mem_append_left behind hq]
  rw [List.filter_cons_of_pos (by simp [hplain']), List.filter_cons_of_pos (by simp [hplain])]
  simp only [List.filterMap_cons, hold, hnew, others fun q hq => List.mem_append_right before hq]

/-- What is reported differs at most in what structured parameters are built from. -/
theorem reported_withDefault (hsource : p.source = .simple kind) (hrequired : p.required = false)
    (hvalue : values.get? p.name = none) {v : Json} (hcoerce : kind.coerce raw = .ok v)
    (hothers : ∀ q ∈ before ++ behind, q.name ≠ p.name) (body : Option (List UInt8)) :
    ∃ found,
      reported (before ++ p :: behind) values body
        = found ++ (attribution (before ++ p :: behind) values).filterMap
            (fun (q, own) => (builtSlot q own).violation) ∧
      reported (before ++ p.withDefault raw :: behind) (values.insert p.name raw) body
        = found ++ (attribution (before ++ p.withDefault raw :: behind)
            (values.insert p.name raw)).filterMap
            (fun (q, own) => (builtSlot q own).violation) := by
  refine ⟨_, filterMap_verdict_checks, ?_⟩
  rw [reported, filterMap_verdict_checks, unattributed?_withDefault hsource,
    plain_withDefault hsource hrequired hvalue hcoerce hothers]

/-- The slots of the others differ at most in what structured parameters are built from. -/
theorem finalSlot_withDefault {q : Parameter} (hq : q.name ≠ p.name)
    (hsame : attribution (before ++ p.withDefault raw :: behind) (values.insert p.name raw)
      = attribution (before ++ p :: behind) values) :
    finalSlot (before ++ p.withDefault raw :: behind) (values.insert p.name raw) body q
      = finalSlot (before ++ p :: behind) values body q := by
  rw [finalSlot, finalSlot, hsame, slotOf, slotOf, plainSlot_insert hq]

/-- If one parameter takes everything, its slot decides whether the others are the same. -/
theorem forall_finalSlot_iff (hsource : p.source = .simple kind)
    (hothers : ∀ q ∈ before ++ behind, q.name ≠ p.name) {q : Parameter}
    {own : List (String × String)}
    (hlone : (before ++ p :: behind).filter Parameter.isStructured = [q])
    (hgiven : attribution (before ++ p :: behind) values = [(q, own)])
    (hgiven' : attribution (before ++ p.withDefault raw :: behind) (values.insert p.name raw)
      = [(q, [])]) :
    (∀ q' ∈ before ++ behind, (finalSlot (before ++ p :: behind) values body q').value
        = (finalSlot (before ++ p.withDefault raw :: behind) (values.insert p.name raw) body
          q').value) ↔
      (builtSlot q own).value = (builtSlot q []).value := by
  have honly : (before ++ behind).filter Parameter.isStructured = [q] := by
    rw [← hlone]
    simp [Parameter.isStructured, hsource]
  have hmem {q' : Parameter} : q' ∈ before ++ behind ∧ q'.isStructured = true ↔ q' = q := by
    rw [← List.mem_filter, honly, List.mem_singleton]
  obtain ⟨hq, hstructured⟩ := hmem.2 rfl
  constructor
  · intro h
    have hvalue := h q hq
    rw [finalSlot_of_isStructured hstructured, finalSlot_of_isStructured hstructured, hgiven,
      hgiven', ownOf_cons_self, ownOf_cons_self] at hvalue
    exact hvalue
  · intro hvalue q' hq'
    cases hstructured' : q'.isStructured with
    | true =>
        obtain rfl := hmem.1 ⟨hq', hstructured'⟩
        rw [finalSlot_of_isStructured hstructured, finalSlot_of_isStructured hstructured, hgiven,
          hgiven', ownOf_cons_self, ownOf_cons_self, hvalue]
    | false =>
        rw [finalSlot_of_not_isStructured hstructured', finalSlot_of_not_isStructured hstructured',
          plainSlot_insert (hothers q' hq')]

/-- Without a value the slot is empty. -/
theorem value_finalSlot_self (hsource : p.source = .simple kind) (hrequired : p.required = false)
    (hvalue : values.get? p.name = none) :
    (finalSlot (before ++ p :: behind) values body p).value = none := by
  simp [finalSlot, slotOf, Parameter.isStructured, hsource, plainSlot, hvalue, Slot.absent,
    hrequired, Slot.empty]

/-- With the default it holds the default. -/
theorem value_finalSlot_withDefault (hsource : p.source = .simple kind) {v : Json}
    (hcoerce : kind.coerce raw = .ok v) :
    (finalSlot (before ++ p.withDefault raw :: behind) (values.insert p.name raw) body
      (p.withDefault raw)).value = some v := by
  simp [finalSlot, slotOf, Parameter.isStructured, Parameter.withDefault, hsource, plainSlot,
    SortedMap.get?_insert, simpleSlot, hcoerce, Slot.filled]

/-- If nobody takes everything, the others are kept. -/
theorem othersKept_of_not_takesAll (hsource : p.source = .simple kind)
    (hrequired : p.required = false) (hvalue : values.get? p.name = none) {v : Json}
    (hcoerce : kind.coerce raw = .ok v) (hothers : ∀ q ∈ before ++ behind, q.name ≠ p.name)
    (htakes : ¬TakesAll (before ++ p :: behind) values) :
    OthersKept (before ++ behind) (reported (before ++ p :: behind) values body)
      (reported (before ++ p.withDefault raw :: behind) (values.insert p.name raw) body)
      (finalSlot (before ++ p :: behind) values body)
      (finalSlot (before ++ p.withDefault raw :: behind) (values.insert p.name raw) body) := by
  have hsame : attribution (before ++ p.withDefault raw :: behind) (values.insert p.name raw)
      = attribution (before ++ p :: behind) values := by
    rw [attribution_withDefault hsource, attribution, ownPairs, if_neg htakes]
  obtain ⟨found, hreported, hreported'⟩ :=
    reported_withDefault hsource hrequired hvalue hcoerce hothers body
  refine ⟨by rw [hreported, hreported', hsame], fun _ q hq => ?_⟩
  rw [finalSlot_withDefault (hothers q hq) hsame]

/-- If one takes everything, the others are kept unless it is deprived. -/
theorem othersKept_iff_of_takesAll
    (distinct : ((before ++ p :: behind).map Parameter.name).Nodup)
    (hsource : p.source = .simple kind) (hrequired : p.required = false)
    (hvalue : values.get? p.name = none) {v : Json} (hcoerce : kind.coerce raw = .ok v)
    (htakes : TakesAll (before ++ p :: behind) values) :
    OthersKept (before ++ behind) (reported (before ++ p :: behind) values body)
        (reported (before ++ p.withDefault raw :: behind) (values.insert p.name raw) body)
        (finalSlot (before ++ p :: behind) values body)
        (finalSlot (before ++ p.withDefault raw :: behind) (values.insert p.name raw) body) ↔
      ¬Deprives (before ++ p :: behind) values body := by
  have hothers := name_ne_of_nodup distinct
  obtain ⟨found, hreported, hreported'⟩ :=
    reported_withDefault hsource hrequired hvalue hcoerce hothers body
  obtain ⟨q, hlone, hgiven, hshares⟩ := attribution_of_takesAll htakes
  have hgiven' : attribution (before ++ p.withDefault raw :: behind) (values.insert p.name raw)
      = [(q, [])] := by
    rw [attribution_withDefault hsource, hlone, hshares]
    rfl
  have hstructured : q.isStructured = true :=
    List.of_mem_filter (hlone ▸ List.mem_singleton_self q)
  obtain ⟨schema, hschema⟩ := Parameter.isStructured_iff.1 hstructured
  rw [OthersKept, forall_finalSlot_iff hsource hothers hlone hgiven hgiven',
    deprives_iff distinct htakes hlone hschema, hreported, hreported', hgiven, hgiven']
  -- what is left to compare is the slot that is built from everything and that from nothing
  have hnone : builtSlot q [] = .absent q := builtSlot_of_build_eq_none hschema rfl
  cases hbuild : StructuredValue.build schema
      (unclaimed (before ++ p :: behind) values).entries with
  | none => simp [List.filterMap_cons, builtSlot_of_build_eq_none hschema hbuild, hnone]
  | some built =>
      cases hq : q.required <;>
        simp [builtSlot_of_build_eq_some hschema hbuild, hnone, Slot.absent, Slot.filled,
          Slot.empty, Slot.refused, hq]

/-- **One more value under the name of a simple parameter** fills its slot and no other, unless
it deprives a structured parameter. -/
theorem fillsOnly_insert_iff
    (distinct : ((before ++ p :: behind).map Parameter.name).Nodup)
    (hsource : p.source = .simple kind) (hrequired : p.required = false)
    (hvalue : values.get? p.name = none) {v : Json} (hcoerce : kind.coerce raw = .ok v) :
    FillsOnly before.length v (resolve values (before ++ p :: behind) body).outcome
        (resolve (values.insert p.name raw) (before ++ p.withDefault raw :: behind) body).outcome ↔
      ¬Deprives (before ++ p :: behind) values body := by
  have hname : (p.withDefault raw).name = p.name := rfl
  have distinct' : ((before ++ p.withDefault raw :: behind).map Parameter.name).Nodup := by
    simpa [hname] using distinct
  rw [outcome_resolve_eq_map values body distinct,
    outcome_resolve_eq_map (values.insert p.name raw) body distinct',
    fillsOnly_iff hname (value_finalSlot_self hsource hrequired hvalue)
      (value_finalSlot_withDefault hsource hcoerce)]
  by_cases htakes : TakesAll (before ++ p :: behind) values
  · exact othersKept_iff_of_takesAll distinct hsource hrequired hvalue hcoerce htakes
  · exact iff_of_true (othersKept_of_not_takesAll hsource hrequired hvalue hcoerce
      (name_ne_of_nodup distinct) htakes) fun h => htakes h.takesAll

/-- **A default fills the slot of its parameter and no other**, unless having consumed it
deprives a structured parameter of what the request has for it. -/
theorem fillsOnly_withDefault_iff {r : RequestValues}
    (distinct : ((before ++ p :: behind).map Parameter.name).Nodup)
    (hsource : p.source = .simple kind) (hrequired : p.required = false)
    (hdefault : p.default = none) (hvalue : r.first? p.name = none) {v : Json}
    (hcoerce : kind.coerce raw = .ok v) (body : Option (List UInt8)) :
    let parameters := before ++ p :: behind
    let parameters' := before ++ p.withDefault raw :: behind
    FillsOnly before.length v (resolve (r.flatten parameters) parameters body).outcome
        (resolve (r.flatten parameters') parameters' body).outcome ↔
      ¬Deprives parameters (r.flatten parameters) body := by
  intro parameters parameters'
  have hothers := name_ne_of_nodup distinct
  have hflatten : r.flatten parameters' = (r.flatten parameters).insert p.name raw :=
    RequestValues.flatten_withDefault hothers (Parameter.isSimple_iff.2 ⟨kind, hsource⟩) hvalue raw
  rw [hflatten]
  exact fillsOnly_insert_iff distinct hsource hrequired
    (RequestValues.get?_flatten_own hothers hdefault hvalue) hcoerce

/-- A default page takes the tag away from the filter, which a request without a page gets. -/
theorem fillsOnly_withDefault_search :
    let page := (Parameter.simple "page" .integer).withRequired false
    let filter := Parameter.structured "filter" (.ofFields [("tag", .scalar .string)])
    let r := RequestValues.ofQuery "tag=red"
    let outcome (page : Parameter) :=
      (resolve (r.flatten [page, filter]) [page, filter] none).outcome
    r.first? "page" = none ∧ ScalarKind.integer.coerce "1" = .ok (.number (.integer 1)) ∧
      outcome page
        = .ok ⟨[("page", none), ("filter", some (.object [("tag", .string "red")]))]⟩ ∧
      outcome (page.withDefault "1")
        = .ok ⟨[("page", some (.number (.integer 1))), ("filter", none)]⟩ ∧
      ¬FillsOnly 0 (.number (.integer 1)) (outcome page) (outcome (page.withDefault "1")) ∧
      Deprives [page, filter] (r.flatten [page, filter]) none := by
  intro page filter r outcome
  have hvalue : r.first? "page" = none := by decide +kernel
  have hcoerce : ScalarKind.integer.coerce "1" = .ok (.number (.integer 1)) := by decide +kernel
  have hold : outcome page
      = .ok ⟨[("page", none), ("filter", some (.object [("tag", .string "red")]))]⟩ := by
    decide +kernel
  have hnew : outcome (page.withDefault "1")
      = .ok ⟨[("page", some (.number (.integer 1))), ("filter", none)]⟩ := by
    decide +kernel
  have hmore : ¬FillsOnly 0 (.number (.integer 1)) (outcome page)
      (outcome (page.withDefault "1")) := by
    rw [hold, hnew]
    rintro ⟨front, name, back, hlength, hfront, hfront'⟩
    obtain rfl := List.length_eq_zero_iff.1 hlength
    have hback := (List.cons.inj hfront).2.trans (List.cons.inj hfront').2.symm
    cases hback
  refine ⟨hvalue, hcoerce, hold, hnew, hmore, ?_⟩
  by_contra hkept
  exact hmore ((@fillsOnly_withDefault_iff [] [filter] page .integer "1" r (by decide) rfl rfl rfl
    hvalue _ hcoerce none).2 hkept)

end

end Resolution

end HttpDispatch
