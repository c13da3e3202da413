import HttpDispatch.Proofs.Resolution.Slots
import HttpDispatch.Proofs.StructuredValue.Acceptance
import Mathlib.Data.List.Forall2

/-!
# Every violation once

A resolution makes one `Check` of every simple and every body parameter, one of the keys that
are left over, and one of every structured parameter with its pairs, in this order.  `Fault`
says what can be wrong in each, in terms of the values and of the body that came with the
request.  `resolve_reports` ties the two to the outcome: the reported violations are those of
the checks that find a fault, one for each, and without a fault every slot holds what its
parameter is resolved to and is empty only if it may be.

Names are distinct here, so that every slot is a function of its parameter (`finalSlot`), and so
is what is reported (`reported_eq`).
-/

namespace HttpDispatch

namespace Resolution

/-! ### Checks and what can be wrong in them -/

/-- What is looked at, one after the other. -/
inductive Check where
  /-- A simple or a body parameter. -/
  | plain (p : Parameter)
  /-- The keys that are left over. -/
  | leftovers
  /-- A structured parameter with its pairs. -/
  | built (p : Parameter) (own : List (String × String))

/-- **The checks of a resolution**, in order. -/
def checks (parameters : List Parameter) (values : SortedMap String) : List Check :=
  (parameters.filter fun p => !p.isStructured).map .plain
    ++ .leftovers :: (attribution parameters values).map fun (p, own) => .built p own

/-- **What can be wrong in a check**, and how it is reported. -/
inductive Fault (parameters : List Parameter) (values : SortedMap String)
    (body : Option (List UInt8)) : Check → Violation → Prop
  /-- A required simple parameter without a value under its name. -/
  | noValue {p : Parameter} {kind : ScalarKind} : p.source = .simple kind → p.required = true →
      values.get? p.name = none → Fault parameters values body (.plain p) (.missing p.name)
  /-- A value that is no scalar of the kind asked for. -/
  | badValue {p : Parameter} {kind : ScalarKind} {raw : String} {e : CoercionError} :
      p.source = .simple kind → values.get? p.name = some raw → kind.coerce raw = .error e →
      Fault parameters values body (.plain p) (.invalidValue p.name e)
  /-- A required body parameter with no body, or with an empty one. -/
  | noBody {p : Parameter} {format : BodyFormat} : p.source = .body format → p.required = true →
      body = none ∨ body = some [] → Fault parameters values body (.plain p) (.missing p.name)
  /-- A body that cannot be read in the format asked for. -/
  | badBody {p : Parameter} {format : BodyFormat} {bytes : List UInt8} {e : BodyError} :
      p.source = .body format → body = some bytes → bytes ≠ [] → format.read bytes = .error e →
      Fault parameters values body (.plain p) (.invalidBody p.name e)
  /-- Keys that none of several structured parameters leads. -/
  | unattributed : Unattributable parameters values →
      Fault parameters values body .leftovers
        (.unattributed (unclaimed parameters values).keys (structuredNames parameters))
  /-- A required structured parameter without an accepted pair. -/
  | noLeaf {p : Parameter} {schema : Schema} {own : List (String × String)} :
      p.source = .structured schema → p.required = true →
      (∀ pair ∈ own, ∃ cause, StructuredValue.accept schema pair.1 pair.2 = .error cause) →
      Fault parameters values body (.built p own) (.missing p.name)

/-- **One entry for each**: the list of what is wrong with some things, which has one entry for
each thing that something is wrong with, and no other. -/
inductive Lists {α β : Type} (wrong : α → β → Prop) : List α → List β → Prop
  | nil : Lists wrong [] []
  | fault {x : α} {v : β} {xs : List α} {vs : List β} :
      wrong x v → (∀ w, wrong x w → w = v) → Lists wrong xs vs → Lists wrong (x :: xs) (v :: vs)
  | fine {x : α} {xs : List α} {vs : List β} :
      (∀ v, ¬wrong x v) → Lists wrong xs vs → Lists wrong (x :: xs) vs

/-- What a function finds, wherever it finds something. -/
theorem lists_filterMap {α β : Type} {wrong : α → β → Prop} {verdict : α → Option β}
    (h : ∀ x v, verdict x = some v ↔ wrong x v) (xs : List α) :
    Lists wrong xs (xs.filterMap verdict) := by
  induction xs with
  | nil => exact .nil
  | cons x xs ih =>
      cases hx : verdict x with
      | none =>
          rw [List.filterMap_cons_none hx]
          exact .fine (fun v hv => by simp [(h x v).2 hv] at hx) ih
      | some v =>
          rw [List.filterMap_cons_some hx]
          refine .fault ((h x v).1 hx) (fun w hw => ?_) ih
          exact Option.some.inj ((h x w).2 hw ▸ hx)

/-- **The slot of a parameter** when nothing is wrong. -/
structure Fills (parameters : List Parameter) (values : SortedMap String)
    (body : Option (List UInt8)) (p : Parameter) (slot : String × Option Json) : Prop where
  /-- It stands under the name of the parameter. -/
  name : slot.1 = p.name
  /-- It holds what the parameter is resolved to. -/
  holds : ∀ v, slot.2 = some v ↔ Holds parameters values body p v
  /-- It is empty only if the parameter is not required. -/
  required : slot.2 = none → p.required = false

/-! ### The verdict on a check -/

theorem violation_absent_iff (p : Parameter) (v : Violation) :
    (Slot.absent p).violation = some v ↔ p.required = true ∧ .missing p.name = v := by
  cases h : p.required <;> simp [Slot.absent, h, Slot.empty, Slot.refused]

theorem violation_simpleSlot_iff (p : Parameter) (kind : ScalarKind) (raw : String)
    (v : Violation) :
    (simpleSlot p kind raw).violation = some v ↔
      ∃ e, kind.coerce raw = .error e ∧ .invalidValue p.name e = v := by
  unfold simpleSlot
  cases kind.coerce raw <;> simp [Slot.filled, Slot.refused]

theorem violation_bodySlot_iff (p : Parameter) (format : BodyFormat) (bytes : List UInt8)
    (v : Violation) :
    (bodySlot p format (some bytes)).violation = some v ↔
      ∃ e, format.read bytes = .error e ∧ .invalidBody p.name e = v := by
  unfold bodySlot
  dsimp only
  cases format.read bytes <;> simp [Slot.filled, Slot.refused]

theorem violation_structuredSlot_iff (p : Parameter) (schema : Schema)
    (own : List (String × String)) (v : Violation) :
    (structuredSlot p schema own).violation = some v ↔
      StructuredValue.build schema own = none ∧ p.required = true ∧ .missing p.name = v := by
  unfold structuredSlot
  cases StructuredValue.build schema own with
  | none => simp [violation_absent_iff]
  | some value => simp [Slot.filled]

variable {parameters : List Parameter} {values : SortedMap String} {body : Option (List UInt8)}

/-- What a check finds. -/
def verdict (parameters : List Parameter) (values : SortedMap String)
    (body : Option (List UInt8)) : Check → Option Violation
  | .plain p => (plainSlot values (sent body) p).violation
  | .leftovers => unattributed? parameters values
  | .built p own => (builtSlot p own).violation

/-- A check that finds something has found a fault. -/
theorem fault_of_verdict {check : Check} {v : Violation}
    (h : verdict parameters values body check = some v) : Fault parameters values body check v := by
  cases check with
  | plain p =>
      simp only [verdict, plainSlot] at h
      cases hsource : p.source with
      | simple kind =>
          simp only [hsource] at h
          cases hvalue : values.get? p.name with
          | none =>
              rw [hvalue] at h
              obtain ⟨hrequired, rfl⟩ := (violation_absent_iff p v).1 h
              exact .noValue hsource hrequired hvalue
          | some raw =>
              rw [hvalue] at h
              obtain ⟨e, hcoerce, rfl⟩ := (violation_simpleSlot_iff p kind raw v).1 h
              exact .badValue hsource hvalue hcoerce
      | body format =>
          simp only [hsource] at h
          cases hsent : sent body with
          | none =>
              rw [hsent] at h
              obtain ⟨hrequired, rfl⟩ := (violation_absent_iff p v).1 h
              exact .noBody hsource hrequired ((sent_eq_none_iff body).1 hsent)
          | some bytes =>
              rw [hsent] at h
              obtain ⟨hbody, hne⟩ := (sent_eq_some_iff body bytes).1 hsent
              obtain ⟨e, hread, rfl⟩ := (violation_bodySlot_iff p format bytes v).1 h
              exact .badBody hsource hbody hne hread
      | structured schema => simp [hsource, Slot.empty] at h
  | leftovers =>
      by_cases hkeys : Unattributable parameters values
      · simp only [verdict, unattributed?, if_pos hkeys, Option.some.injEq] at h
        exact h ▸ .unattributed hkeys
      · simp [verdict, unattributed?, hkeys] at h
  | built p own =>
      simp only [verdict, builtSlot] at h
      cases hsource : p.source with
      | structured schema =>
          simp only [hsource] at h
          obtain ⟨hbuild, hrequired, rfl⟩ := (violation_structuredSlot_iff p schema own v).1 h
          exact .noLeaf hsource hrequired ((StructuredValue.build_eq_none_iff schema own).1 hbuild)
      | simple _ | body _ => simp [hsource, Slot.empty] at h

/-- And there is no fault that its check does not find. -/
theorem verdict_of_fault {check : Check} {v : Violation}
    (h : Fault parameters values body check v) : verdict parameters values body check = some v := by
  cases h with
  | noValue hsource hrequired hvalue =>
      simp only [verdict, plainSlot, hsource, hvalue]
      exact (violation_absent_iff _ _).2 ⟨hrequired, rfl⟩
  | badValue hsource hvalue hcoerce =>
      simp only [verdict, plainSlot, hsource, hvalue]
      exact (violation_simpleSlot_iff _ _ _ _).2 ⟨_, hcoerce, rfl⟩
  | noBody hsource hrequired hbody =>
      simp only [verdict, plainSlot, hsource, (sent_eq_none_iff body).2 hbody]
      exact (violation_absent_iff _ _).2 ⟨hrequired, rfl⟩
  | badBody hsource hbody hne hread =>
      simp only [verdict, plainSlot, hsource, (sent_eq_some_iff body _).2 ⟨hbody, hne⟩]
      exact (violation_bodySlot_iff _ _ _ _).2 ⟨_, hread, rfl⟩
  | unattributed hkeys => simp only [verdict, unattributed?, if_pos hkeys]
  | noLeaf hsource hrequired hrejected =>
      simp only [verdict, builtSlot, hsource]
      exact (violation_structuredSlot_iff _ _ _ _).2
        ⟨(StructuredValue.build_eq_none_iff _ _).2 hrejected, hrequired, rfl⟩

theorem verdict_eq_some_iff (check : Check) (v : Violation) :
    verdict parameters values body check = some v ↔ Fault parameters values body check v :=
  ⟨fault_of_verdict, verdict_of_fault⟩

/-! ### The outcome -/

theorem filterMap_verdict_checks :
    (checks parameters values).filterMap (verdict parameters values body)
      = ((parameters.filter fun p => !p.isStructured).filterMap
            fun p => (plainSlot values (sent body) p).violation)
        ++ (unattributed? parameters values).toList
        ++ (attribution parameters values).filterMap
            fun (p, own) => (builtSlot p own).violation := by
  rw [checks, List.filterMap_append, List.filterMap_map, List.filterMap_cons, List.filterMap_map,
    List.append_assoc]
  have hleftovers : verdict parameters values body .leftovers = unattributed? parameters values :=
    rfl
  rw [hleftovers]
  cases unattributed? parameters values <;> rfl

/-- What is reported: what the checks find, in their order. -/
def reported (parameters : List Parameter) (values : SortedMap String)
    (body : Option (List UInt8)) : List Violation :=
  (checks parameters values).filterMap (verdict parameters values body)

theorem zip_map_self {α β : Type} (f : α → β) (xs : List α) :
    xs.zip (xs.map f) = xs.map fun x => (x, f x) := by
  have h := List.zip_map' (f := id) (g := f) (l := xs)
  rwa [List.map_id] at h

/-- The violations of slots that are filled one by one. -/
theorem violations_map (keep : Parameter → Bool) (slot : Parameter → Slot) (ps : List Parameter) :
    violations keep ps (ps.map slot) = (ps.filter keep).filterMap fun p => (slot p).violation := by
  rw [violations, zip_map_self, List.filterMap_map, List.filterMap_filter]
  rfl

/-- **What is reported is wrong with the slots**, but for the keys that are left over. -/
theorem reported_eq (values : SortedMap String) (body : Option (List UInt8))
    (distinct : (parameters.map Parameter.name).Nodup) :
    reported parameters values body
      = violations (fun p => !p.isStructured) parameters
            (parameters.map (finalSlot parameters values body))
        ++ (unattributed? parameters values).toList
        ++ violations Parameter.isStructured parameters
            (parameters.map (finalSlot parameters values body)) := by
  have hplain : ∀ p ∈ parameters.filter fun p => !p.isStructured,
      (plainSlot values (sent body) p).violation
        = (finalSlot parameters values body p).violation := fun p hp => by
    rw [finalSlot_of_not_isStructured (by simpa using List.of_mem_filter hp)]
  have hbuilt : ∀ p ∈ parameters.filter Parameter.isStructured,
      (builtSlot p (ownOf (attribution parameters values) p.name)).violation
        = (finalSlot parameters values body p).violation := fun p hp => by
    rw [finalSlot_of_isStructured (List.of_mem_filter hp)]
  rw [reported, filterMap_verdict_checks, violations_map, violations_map,
    attribution_eq_map values distinct, List.filterMap_map, List.filterMap_congr hplain]
  exact congrArg _ (List.filterMap_congr hbuilt)

/-- **The outcome, slot by slot.** -/
theorem outcome_resolve_eq_map (values : SortedMap String) (body : Option (List UInt8))
    (distinct : (parameters.map Parameter.name).Nodup) :
    (resolve values parameters body).outcome
      = if reported parameters values body = [] then
          .ok ⟨parameters.map fun p => (p.name, (finalSlot parameters values body p).value)⟩
        else .error (reported parameters values body) := by
  have hunattributed : (passes values parameters body).unattributed
      = unattributed? parameters values := by rw [passes_eq]
  rw [resolve, fill_passes_eq_map values body distinct, hunattributed,
    ← reported_eq values body distinct, zip_map_self, List.map_map]
  simp only [List.isEmpty_iff]
  rfl

/-- There are arguments if nothing is reported. -/
theorem exists_outcome_eq_ok_iff (values : SortedMap String) (body : Option (List UInt8))
    (distinct : (parameters.map Parameter.name).Nodup) :
    (∃ arguments, (resolve values parameters body).outcome = .ok arguments) ↔
      reported parameters values body = [] := by
  rw [outcome_resolve_eq_map values body distinct]
  split
  · rename_i hnil
    exact iff_of_true ⟨_, rfl⟩ hnil
  · rename_i hfound
    exact iff_of_false (fun ⟨_, h⟩ => nomatch h) hfound

/-- Where nothing is reported, no slot has a violation. -/
theorem violation_finalSlot_eq_none (distinct : (parameters.map Parameter.name).Nodup)
    (h : reported parameters values body = []) {p : Parameter} (hp : p ∈ parameters) :
    (finalSlot parameters values body p).violation = none := by
  rw [reported_eq values body distinct, List.append_eq_nil_iff, List.append_eq_nil_iff,
    violations_map, violations_map, List.filterMap_eq_nil_iff, List.filterMap_eq_nil_iff] at h
  obtain ⟨⟨hplain, -⟩, hbuilt⟩ := h
  cases hstructured : p.isStructured with
  | false => exact hplain p (List.mem_filter.2 ⟨hp, by simp [hstructured]⟩)
  | true => exact hbuilt p (List.mem_filter.2 ⟨hp, hstructured⟩)

/-- **Every violation is reported once, and nothing else.**  With a fault in some check the
outcome lists the faults, one for each check that has one and in the order of the checks.
Without, there is one slot for every parameter, in order of declaration: it holds what its
parameter is resolved to, and is empty only if that is not required. -/
theorem resolve_reports (values : SortedMap String) (body : Option (List UInt8))
    (distinct : (parameters.map Parameter.name).Nodup) :
    ∃ found, Lists (Fault parameters values body) (checks parameters values) found ∧
      ((∃ check ∈ checks parameters values, ∃ v, Fault parameters values body check v) →
        (resolve values parameters body).outcome = .error found) ∧
      ((∀ check ∈ checks parameters values, ∀ v, ¬Fault parameters values body check v) →
        ∃ arguments, (resolve values parameters body).outcome = .ok arguments ∧
          List.Forall₂ (Fills parameters values body) parameters arguments.slots) := by
  have houtcome := outcome_resolve_eq_map values body distinct
  refine ⟨reported parameters values body,
    lists_filterMap verdict_eq_some_iff (checks parameters values), ?_, ?_⟩
  · rintro ⟨check, hcheck, v, hfault⟩
    rw [houtcome, if_neg]
    exact List.ne_nil_of_mem (List.mem_filterMap.2 ⟨check, hcheck, verdict_of_fault hfault⟩)
  · intro hnone
    have hnil : reported parameters values body = [] := by
      refine List.filterMap_eq_nil_iff.2 fun check hcheck => ?_
      exact Option.eq_none_iff_forall_ne_some.2 fun v hv =>
        hnone check hcheck v (fault_of_verdict hv)
    refine ⟨_, houtcome.trans (if_pos hnil), ?_⟩
    refine List.forall₂_map_right_iff.2 (List.forall₂_same.2 fun p hp => ?_)
    exact {
      name := rfl
      holds := fun v => ⟨holds_of_value_finalSlot distinct hp, value_finalSlot_of_holds distinct⟩
      required := fun hvalue => explained_finalSlot parameters values body p hvalue
        (violation_finalSlot_eq_none distinct hnil hp) }

/-- Parameters of every source, one of them structured and required. -/
def orderParameters : List Parameter :=
  [.simple "id" .integer,
    (Parameter.structured "order" (.list (.scalar .string))).withRequired true,
    .simple "page" .integer, .body "note" .json, .body "memo" .text,
    .structured "filter" (.scalar .string)]

/-- Values that fit none of them: no number under `page`, and a key that no name leads. -/
def orderValues : SortedMap String := .ofList [("page", "two"), ("orders[0]", "tea")]

/-- Values for all of them that take one, but for the last, which may go without. -/
def fittingValues : SortedMap String := .ofList [("id", "7"), ("order[0]", "tea"), ("page", "2")]

/-- An empty body is missing, and one that is neither JSON nor text cannot be read; with one that
is both, and with values that fit, all slots but one are filled. -/
theorem resolve_reports_order :
    let noText : List UInt8 := [0x74, 0xFF]
    let yes := Utf8.encode "true".toList
    (orderParameters.map Parameter.name).Nodup ∧
      (∃ found, Lists (Fault orderParameters orderValues (some []))
          (checks orderParameters orderValues) found ∧
        (resolve orderValues orderParameters (some [])).outcome = .error found ∧
        found.map Violation.message =
          ["Missing param: id", "Invalid value for param 'page': 'two' is not a valid integer",
            "Missing param: note", "Missing param: memo",
            "Cannot attribute params [orders[0]] to any of [order, filter]",
            "Missing param: order"]) ∧
      (∃ found, Lists (Fault orderParameters orderValues (some noText))
          (checks orderParameters orderValues) found ∧
        (resolve orderValues orderParameters (some noText)).outcome = .error found ∧
        found.map Violation.message =
          ["Missing param: id", "Invalid value for param 'page': 'two' is not a valid integer",
            "Invalid body for param 'note': expected ident at line 1 column 2",
            "Invalid body for param 'memo': invalid utf-8 sequence of 1 bytes from index 1",
            "Cannot attribute params [orders[0]] to any of [order, filter]",
            "Missing param: order"]) ∧
      ∃ arguments, (resolve fittingValues orderParameters (some yes)).outcome = .ok arguments ∧
        List.Forall₂ (Fills orderParameters fittingValues (some yes)) orderParameters
          arguments.slots ∧
        arguments.slots = [("id", some (.number (.integer 7))),
          ("order", some (.array [.string "tea"])), ("page", some (.number (.integer 2))),
          ("note", some (.bool true)), ("memo", some (.string "true")), ("filter", none)] := by
  intro noText yes
  have distinct : (orderParameters.map Parameter.name).Nodup := by decide +kernel
  have hreport (body : Option (List UInt8)) {messages : List String}
      (hmessages : (resolve orderValues orderParameters body).outcome.mapError
        (List.map Violation.message) = .error messages) :
      ∃ found, Lists (Fault orderParameters orderValues body)
          (checks orderParameters orderValues) found ∧
        (resolve orderValues orderParameters body).outcome = .error found ∧
        found.map Violation.message = messages := by
    obtain ⟨found, hlists, herror, -⟩ := resolve_reports orderValues body distinct
    have hid : Fault orderParameters orderValues body (.plain (.simple "id" .integer))
        (.missing "id") := .noValue rfl rfl (by decide +kernel)
    have houtcome := herror ⟨_, List.mem_cons_self, _, hid⟩
    rw [houtcome] at hmessages
    exact ⟨found, hlists, houtcome, Except.error.inj hmessages⟩
  refine ⟨distinct, hreport (some []) (by decide +kernel),
    hreport (some noText) (by decide +kernel), ?_⟩
  have hfits : (resolve fittingValues orderParameters (some yes)).outcome
      = .ok ⟨[("id", some (.number (.integer 7))), ("order", some (.array [.string "tea"])),
          ("page", some (.number (.integer 2))), ("note", some (.bool true)),
          ("memo", some (.string "true")), ("filter", none)]⟩ := by
    decide +kernel
  obtain ⟨_, -, herror, hok⟩ := resolve_reports fittingValues (some yes) distinct
  obtain ⟨arguments, houtcome, hfills⟩ := hok fun check hcheck v hfault => by
    rw [hfits] at herror
    exact nomatch herror ⟨check, hcheck, v, hfault⟩
  rw [hfits] at houtcome
  cases houtcome
  exact ⟨_, hfits, hfills, rfl⟩

end Resolution

end HttpDispatch
