import HttpDispatch.Proofs.Resolution.Attribution

/-!
# The slot of each parameter

`resolve` fills slots in passes over a list, and the last pass walks through parameters, slots
and pairs at the same time.  With distinct names every slot is a function of its parameter:
`finalSlot` reads it off the values of the request and off the attribution, and
`fill_passes_eq_map` says that the passes fill just these slots.

`Holds` says what a slot holds, if it holds anything: the scalar that the value under the name is,
the content of the body, or what is built from the attributed pairs.  A slot that holds nothing
stands for a parameter that is not required, or for a violation (`Explained`).

### What is load-bearing

Names have to be distinct.  Of two simple parameters with one name the first consumes the
value, and the second finds none although there is a value under its name.  With distinct names
the map that shrinks from parameter to parameter still holds what the next one looks for
(`slots_intake`).
-/

namespace HttpDispatch

namespace Resolution

/-! ### Slots from the values of the request -/

/-- The slot of a simple or a body parameter. -/
def plainSlot (values : SortedMap String) (body : Option (List UInt8)) (p : Parameter) : Slot :=
  match p.source with
  | .simple kind => match values.get? p.name with
    | some raw => simpleSlot p kind raw
    | none => .absent p
  | .body format => bodySlot p format body
  | .structured _ => .empty

/-- **A slot of the first pass depends on one value**, that under the name of its parameter. -/
theorem plainSlot_congr {values values' : SortedMap String} {p : Parameter}
    (body : Option (List UInt8))
    (h : p.isSimple = true → values.get? p.name = values'.get? p.name) :
    plainSlot values body p = plainSlot values' body p := by
  cases hsource : p.source with
  | simple kind =>
      have hvalue := h (by simp [Parameter.isSimple, hsource])
      simp only [plainSlot, hsource, hvalue]
  | structured _ | body _ => simp only [plainSlot, hsource]

/-- **A parameter finds what those before it have left.** -/
theorem slots_intake_eq_mapIdx (body : Option (List UInt8)) (parameters : List Parameter)
    (values : SortedMap String) :
    (intake body parameters values).slots
      = parameters.mapIdx fun i => plainSlot (unclaimed (parameters.take i) values) body := by
  induction parameters generalizing values with
  | nil => rfl
  | cons p ps ih =>
      have hfirst : unclaimed [] values = values := SortedMap.filterKeys_eq_self (by simp)
      rw [List.mapIdx_cons, List.take_zero, hfirst]
      simp only [List.take_succ_cons]
      unfold intake
      cases hsource : p.source with
      | simple kind =>
          simp only [unclaimed_cons_of_isSimple (p := p) (by simp [Parameter.isSimple, hsource])]
          rw [← ih]
          cases hvalue : values.get? p.name with
          | some raw => simp only [plainSlot, hsource, hvalue]
          | none =>
              rw [SortedMap.erase_eq_self hvalue]
              simp only [plainSlot, hsource, hvalue]
      | structured _ | body _ =>
          simp only [unclaimed_cons_of_not_isSimple (p := p)
            (by simp [Parameter.isSimple, hsource])]
          rw [← ih]
          simp only [plainSlot, hsource]

/-- **What one simple parameter consumes is no other's.** -/
theorem slots_intake {parameters : List Parameter} (values : SortedMap String)
    (body : Option (List UInt8)) (distinct : (parameters.map Parameter.name).Nodup) :
    (intake body parameters values).slots = parameters.map (plainSlot values body) := by
  rw [slots_intake_eq_mapIdx]
  refine List.ext_getElem (by simp) fun i _ hi => ?_
  rw [List.length_map] at hi
  rw [List.getElem_mapIdx, List.getElem_map]
  -- the parameters in front have other names, and leave the value in the map
  have hother : ∀ q ∈ parameters.take i, q.name ≠ parameters[i].name := by
    intro q hq
    obtain ⟨j, hj, rfl⟩ := List.mem_take_iff_getElem.1 hq
    exact List.pairwise_iff_getElem.1 (List.pairwise_map.1 distinct) j i _ hi (by omega)
  refine plainSlot_congr body fun _ => ?_
  rw [unclaimed, SortedMap.get?_filterKeys, if_pos]
  rw [Bool.not_eq_true', List.any_eq_false]
  exact fun q hq => by simp [hother q hq]

/-! ### Slots from pairs -/

/-- The slot of a structured parameter with its pairs. -/
def builtSlot (p : Parameter) (own : List (String × String)) : Slot :=
  match p.source with
  | .structured schema => structuredSlot p schema own
  | _ => .empty

/-- The pairs that are given to the parameter of a name. -/
def ownOf (given : List (Parameter × List (String × String))) (name : String) :
    List (String × String) :=
  ((given.find? fun e => e.1.name = name).map Prod.snd).getD []

/-- The slot of a parameter that may be given pairs and has a slot already. -/
def slotOf (given : List (Parameter × List (String × String))) (slot : Parameter → Slot)
    (p : Parameter) : Slot :=
  if p.isStructured then builtSlot p (ownOf given p.name) else slot p

section

variable {p : Parameter} {ps : List Parameter} {slot : Slot} {slots : List Slot}
  {given : List (Parameter × List (String × String))}

theorem fill_structured {schema : Schema} (h : p.source = .structured schema)
    (own : List (String × String)) (pairs : List (List (String × String))) :
    fill (p :: ps) (slot :: slots) (own :: pairs)
      = structuredSlot p schema own :: fill ps slots pairs := by
  simp only [fill, h]

theorem fill_other (h : p.isStructured = false) (pairs : List (List (String × String))) :
    fill (p :: ps) (slot :: slots) pairs = slot :: fill ps slots pairs := by
  cases hsource : p.source with
  | simple _ | body _ => simp only [fill, hsource]
  | structured schema => simp [Parameter.isStructured, hsource] at h

theorem ownOf_cons_self (p : Parameter) (own : List (String × String))
    (given : List (Parameter × List (String × String))) :
    ownOf ((p, own) :: given) p.name = own := by
  simp [ownOf]

theorem ownOf_cons_of_ne {name : String} (h : p.name ≠ name)
    (own : List (String × String)) (given : List (Parameter × List (String × String))) :
    ownOf ((p, own) :: given) name = ownOf given name := by
  simp [ownOf, h]

/-- Where names are distinct, what is given to a name is given to its parameter. -/
theorem ownOf_of_mem (distinct : (given.map fun e => e.1.name).Nodup)
    {own : List (String × String)} (h : (p, own) ∈ given) : ownOf given p.name = own := by
  induction given with
  | nil => cases h
  | cons e given ih =>
      obtain ⟨q, own'⟩ := e
      obtain ⟨hnew, hrest⟩ := List.nodup_cons.1 distinct
      rcases List.mem_cons.1 h with heq | hmem
      · cases heq
        exact ownOf_cons_self p own given
      · have hne : q.name ≠ p.name := fun heq =>
          hnew (List.mem_map.2 ⟨(p, own), hmem, heq.symm⟩)
        rw [ownOf_cons_of_ne hne, ih hrest hmem]

theorem map_ownOf (distinct : (given.map fun e => e.1.name).Nodup) :
    (given.map Prod.fst).map (fun p => (p, ownOf given p.name)) = given := by
  have hself : ∀ e ∈ given, (e.1, ownOf given e.1.name) = e := fun e he => by
    rw [ownOf_of_mem distinct he]
  rw [List.map_map]
  exact (List.map_congr_left hself).trans (List.map_id given)

/-- **With distinct names the last pass fills every slot by itself.** -/
theorem Gives.fill_eq_map (h : Gives ps given) (distinct : (ps.map Parameter.name).Nodup)
    (slot : Parameter → Slot) :
    fill ps (ps.map slot) (given.map Prod.snd) = ps.map (slotOf given slot) := by
  induction h with
  | nil => rfl
  | @structured p schema ps given own hsource _ ih =>
      obtain ⟨hnew, hps⟩ := List.nodup_cons.1 distinct
      have hself : slotOf ((p, own) :: given) slot p = structuredSlot p schema own := by
        rw [slotOf, if_pos (Parameter.isStructured_iff.2 ⟨schema, hsource⟩), ownOf_cons_self]
        simp only [builtSlot, hsource]
      have hrest : ps.map (slotOf ((p, own) :: given) slot) = ps.map (slotOf given slot) := by
        refine List.map_congr_left fun q hq => ?_
        have hne : p.name ≠ q.name := fun heq => hnew (heq ▸ List.mem_map_of_mem hq)
        rw [slotOf, slotOf, ownOf_cons_of_ne hne]
      rw [List.map_cons, List.map_cons, List.map_cons, fill_structured hsource, ih hps, hself,
        hrest]
  | @other p ps given hother _ ih =>
      obtain ⟨-, hps⟩ := List.nodup_cons.1 distinct
      have hself : slotOf given slot p = slot p := if_neg (by simp [hother])
      rw [List.map_cons, List.map_cons, fill_other hother, ih hps, hself]

end

/-! ### The slot after all passes -/

/-- **The slot of a parameter**, from the values and the body of the request. -/
def finalSlot (parameters : List Parameter) (values : SortedMap String)
    (body : Option (List UInt8)) : Parameter → Slot :=
  slotOf (attribution parameters values) (plainSlot values (sent body))

variable {parameters : List Parameter} {values : SortedMap String} {body : Option (List UInt8)}
  {p : Parameter}

theorem finalSlot_of_isStructured (h : p.isStructured = true) :
    finalSlot parameters values body p
      = builtSlot p (ownOf (attribution parameters values) p.name) := if_pos h

theorem finalSlot_of_not_isStructured (h : p.isStructured = false) :
    finalSlot parameters values body p = plainSlot values (sent body) p := if_neg (by simp [h])

/-- **The passes fill every slot by itself.** -/
theorem fill_passes_eq_map (values : SortedMap String) (body : Option (List UInt8))
    (distinct : (parameters.map Parameter.name).Nodup) :
    fill parameters (passes values parameters body).first.slots (passes values parameters body).own
      = parameters.map (finalSlot parameters values body) := by
  rw [passes_eq, slots_intake values (sent body) distinct, ← map_snd_attribution]
  exact (gives_attribution parameters values).fill_eq_map distinct _

/-- **Every structured parameter has its pairs under its name**, if names are distinct. -/
theorem attribution_eq_map (values : SortedMap String)
    (distinct : (parameters.map Parameter.name).Nodup) :
    attribution parameters values
      = (parameters.filter Parameter.isStructured).map
        fun p => (p, ownOf (attribution parameters values) p.name) := by
  have hnames : ((attribution parameters values).map fun e => e.1.name).Nodup := by
    have hmap : (attribution parameters values).map (fun e => e.1.name)
        = (parameters.filter Parameter.isStructured).map Parameter.name := by
      rw [← map_fst_attribution parameters values, List.map_map]
      rfl
    rw [hmap]
    exact distinct.sublist (List.filter_sublist.map Parameter.name)
  rw [← map_fst_attribution parameters values, map_ownOf hnames]

theorem mem_attribution_iff (distinct : (parameters.map Parameter.name).Nodup)
    {own : List (String × String)} :
    (p, own) ∈ attribution parameters values ↔
      (p ∈ parameters ∧ p.isStructured = true) ∧
        ownOf (attribution parameters values) p.name = own := by
  have hmap := attribution_eq_map values distinct
  constructor
  · intro hmem
    rw [hmap] at hmem
    obtain ⟨q, hq, heq⟩ := List.mem_map.1 hmem
    obtain ⟨rfl, rfl⟩ := Prod.mk.inj heq
    exact ⟨List.mem_filter.1 hq, rfl⟩
  · rintro ⟨hp, hown⟩
    rw [hmap]
    exact List.mem_map.2 ⟨p, List.mem_filter.2 hp, by rw [hown]⟩

/-! ### What a slot holds -/

theorem sent_eq_none_iff (body : Option (List UInt8)) :
    sent body = none ↔ body = none ∨ body = some [] := by
  cases body <;> simp [sent]

theorem sent_eq_some_iff (body : Option (List UInt8)) (bytes : List UInt8) :
    sent body = some bytes ↔ body = some bytes ∧ bytes ≠ [] := by
  simp [sent, Option.filter_eq_some_iff]

/-- **What a parameter is resolved to.** -/
inductive Holds (parameters : List Parameter) (values : SortedMap String)
    (body : Option (List UInt8)) (p : Parameter) : Json → Prop
  /-- The scalar that the value under its name is. -/
  | scalar {kind : ScalarKind} {raw : String} {v : Json} : p.source = .simple kind →
      values.get? p.name = some raw → kind.coerce raw = .ok v → Holds parameters values body p v
  /-- The content of the body. -/
  | content {format : BodyFormat} {bytes : List UInt8} {v : Json} : p.source = .body format →
      body = some bytes → bytes ≠ [] → format.read bytes = .ok v → Holds parameters values body p v
  /-- What is built from the pairs that are attributed to it. -/
  | built {schema : Schema} {own : List (String × String)} {v : Json} :
      p.source = .structured schema → (p, own) ∈ attribution parameters values →
      StructuredValue.build schema own = some v → Holds parameters values body p v

theorem value_absent (p : Parameter) : (Slot.absent p).value = none := by
  unfold Slot.absent
  split <;> rfl

theorem value_simpleSlot_iff {kind : ScalarKind} {raw : String} {v : Json} :
    (simpleSlot p kind raw).value = some v ↔ kind.coerce raw = .ok v := by
  unfold simpleSlot
  cases kind.coerce raw <;> simp [Slot.filled, Slot.refused]

theorem value_bodySlot_iff {format : BodyFormat} {bytes : List UInt8} {v : Json} :
    (bodySlot p format (some bytes)).value = some v ↔ format.read bytes = .ok v := by
  unfold bodySlot
  dsimp only
  cases format.read bytes <;> simp [Slot.filled, Slot.refused]

theorem value_structuredSlot (p : Parameter) (schema : Schema) (own : List (String × String)) :
    (structuredSlot p schema own).value = StructuredValue.build schema own := by
  unfold structuredSlot
  cases StructuredValue.build schema own with
  | none => exact value_absent p
  | some v => rfl

/-- **A slot that is filled holds what its parameter is resolved to.** -/
theorem holds_of_value_finalSlot (distinct : (parameters.map Parameter.name).Nodup)
    (hp : p ∈ parameters) {v : Json} (h : (finalSlot parameters values body p).value = some v) :
    Holds parameters values body p v := by
  cases hsource : p.source with
  | simple kind =>
      rw [finalSlot_of_not_isStructured (by simp [Parameter.isStructured, hsource])] at h
      simp only [plainSlot, hsource] at h
      cases hvalue : values.get? p.name with
      | none =>
          rw [hvalue, value_absent] at h
          cases h
      | some raw =>
          rw [hvalue] at h
          exact .scalar hsource hvalue (value_simpleSlot_iff.1 h)
  | body format =>
      rw [finalSlot_of_not_isStructured (by simp [Parameter.isStructured, hsource])] at h
      simp only [plainSlot, hsource] at h
      cases hsent : sent body with
      | none =>
          rw [hsent, bodySlot, value_absent] at h
          cases h
      | some bytes =>
          rw [hsent] at h
          obtain ⟨hbody, hne⟩ := (sent_eq_some_iff body bytes).1 hsent
          exact .content hsource hbody hne (value_bodySlot_iff.1 h)
  | structured schema =>
      have hstructured : p.isStructured = true := Parameter.isStructured_iff.2 ⟨schema, hsource⟩
      rw [finalSlot_of_isStructured hstructured] at h
      simp only [builtSlot, hsource, value_structuredSlot] at h
      exact .built hsource ((mem_attribution_iff distinct).2 ⟨⟨hp, hstructured⟩, rfl⟩) h

/-- And there is nothing that a parameter is resolved to which its slot does not hold. -/
theorem value_finalSlot_of_holds (distinct : (parameters.map Parameter.name).Nodup)
    {v : Json} (h : Holds parameters values body p v) :
    (finalSlot parameters values body p).value = some v := by
  cases h with
  | scalar hsource hvalue hcoerce =>
      rw [finalSlot_of_not_isStructured (by simp [Parameter.isStructured, hsource])]
      simp only [plainSlot, hsource, hvalue]
      exact value_simpleSlot_iff.2 hcoerce
  | content hsource hbody hne hread =>
      rw [finalSlot_of_not_isStructured (by simp [Parameter.isStructured, hsource])]
      simp only [plainSlot, hsource, (sent_eq_some_iff body _).2 ⟨hbody, hne⟩]
      exact value_bodySlot_iff.2 hread
  | built hsource hgiven hbuild =>
      obtain ⟨⟨-, hstructured⟩, rfl⟩ := (mem_attribution_iff distinct).1 hgiven
      rw [finalSlot_of_isStructured hstructured]
      simp only [builtSlot, hsource, value_structuredSlot]
      exact hbuild

/-! ### Empty slots -/

/-- A slot is empty for a reason: its parameter is not required, or there is a violation. -/
def Explained (p : Parameter) (slot : Slot) : Prop :=
  slot.value = none → slot.violation = none → p.required = false

theorem explained_absent (p : Parameter) : Explained p (.absent p) := by
  intro _ hviolation
  cases hrequired : p.required with
  | false => rfl
  | true => simp [Slot.absent, hrequired, Slot.refused] at hviolation

theorem explained_filled (p : Parameter) (v : Json) : Explained p (.filled v) :=
  fun hvalue => nomatch hvalue

theorem explained_refused (p : Parameter) (v : Violation) : Explained p (.refused v) :=
  fun _ hviolation => nomatch hviolation

theorem explained_plainSlot (values : SortedMap String) (body : Option (List UInt8))
    (h : p.isStructured = false) : Explained p (plainSlot values body p) := by
  unfold plainSlot
  cases hsource : p.source with
  | simple kind =>
      dsimp only
      cases values.get? p.name with
      | none => exact explained_absent p
      | some raw =>
          dsimp only
          unfold simpleSlot
          cases kind.coerce raw with
          | ok v => exact explained_filled p v
          | error e => exact explained_refused p _
  | body format =>
      unfold bodySlot
      cases body with
      | none => exact explained_absent p
      | some bytes =>
          dsimp only
          cases format.read bytes with
          | ok v => exact explained_filled p v
          | error e => exact explained_refused p _
  | structured schema => simp [Parameter.isStructured, hsource] at h

theorem explained_structuredSlot (schema : Schema) (own : List (String × String)) :
    Explained p (structuredSlot p schema own) := by
  unfold structuredSlot
  cases StructuredValue.build schema own with
  | none => exact explained_absent p
  | some v => exact explained_filled p v

/-- **No slot is left empty without a reason.** -/
theorem explained_finalSlot (parameters : List Parameter) (values : SortedMap String)
    (body : Option (List UInt8)) (p : Parameter) :
    Explained p (finalSlot parameters values body p) := by
  cases hstructured : p.isStructured with
  | false =>
      rw [finalSlot_of_not_isStructured hstructured]
      exact explained_plainSlot values (sent body) hstructured
  | true =>
      obtain ⟨schema, hsource⟩ := Parameter.isStructured_iff.1 hstructured
      rw [finalSlot_of_isStructured hstructured]
      simp only [builtSlot, hsource]
      exact explained_structuredSlot schema _

end Resolution

end HttpDispatch
