import HttpDispatch.Proofs.StructuredValue.Writing
import Mathlib.Data.List.Basic

/-!
# Accepted pairs

`StructuredValue.build` checks a pair and writes it, one pair after the other.  Checking looks at
the schema only, so it can be done ahead: the value is made by writing the accepted leaves, in
their order, and the pairs that are skipped have no part in it.

* `StructuredValue.Accepts` — a pair is accepted, as a leaf at some steps
* `StructuredValue.accepted` — the leaves of some pairs
* `Schema.writeAll` — write leaves one after the other
* `StructuredValue.build_eq` — a value is built by writing the accepted leaves
-/

namespace HttpDispatch

/-- **Write leaves** one after the other. -/
def Schema.writeAll (schema : Schema) (target : Json) (leaves : List (List Step × Json)) : Json :=
  leaves.foldl (fun v l => schema.assign l.2 l.1 v) target

@[simp] theorem Schema.writeAll_nil (schema : Schema) (target : Json) :
    schema.writeAll target [] = target := rfl

theorem Schema.writeAll_cons (schema : Schema) (target : Json) (l : List Step × Json)
    (leaves : List (List Step × Json)) :
    schema.writeAll target (l :: leaves)
      = schema.writeAll (schema.assign l.2 l.1 target) leaves := rfl

/-- The last leaf is written last. -/
theorem Schema.writeAll_concat (schema : Schema) (target : Json)
    (leaves : List (List Step × Json)) (l : List Step × Json) :
    schema.writeAll target (leaves ++ [l])
      = schema.assign l.2 l.1 (schema.writeAll target leaves) := by
  rw [writeAll, List.foldl_append]
  rfl

namespace StructuredValue

/-- **A pair is accepted** as a leaf at some steps: its path parses to them, they lead to a
scalar, and its text has the leaf as its value. -/
def Accepts (schema : Schema) (path raw : String) (steps : List Step) (leaf : Json) : Prop :=
  PropertyPath.parse path = .ok steps ∧
    ∃ kind, schema.kindAt steps = .ok kind ∧ kind.coerce raw = .ok leaf

theorem accept_eq_ok_iff {schema : Schema} {path raw : String} {steps : List Step}
    {leaf : Json} :
    accept schema path raw = .ok (steps, leaf) ↔ Accepts schema path raw steps leaf := by
  constructor
  · intro h
    unfold accept at h
    split at h
    · cases h
    · rename_i found hparse
      split at h
      · cases h
      · rename_i kind hkind
        split at h
        · cases h
        · rename_i value hcoerce
          cases h
          exact ⟨hparse, kind, hkind, hcoerce⟩
  · rintro ⟨hparse, kind, hkind, hcoerce⟩
    simp only [accept, hparse, hkind, hcoerce]

/-- The leaf of a pair, if it is accepted. -/
def leaf? (schema : Schema) (e : String × String) : Option (List Step × Json) :=
  (accept schema e.1 e.2).toOption

/-- **The leaves of the accepted pairs**, in order. -/
def accepted (schema : Schema) (pairs : List (String × String)) : List (List Step × Json) :=
  pairs.filterMap (leaf? schema)

theorem leaf?_eq_some_iff {schema : Schema} {e : String × String} {l : List Step × Json} :
    leaf? schema e = some l ↔ Accepts schema e.1 e.2 l.1 l.2 := by
  rw [← accept_eq_ok_iff, leaf?]
  cases accept schema e.1 e.2 with
  | error cause => simp [Except.toOption]
  | ok found => simp [Except.toOption]

theorem mem_accepted_iff {schema : Schema} {pairs : List (String × String)}
    {l : List Step × Json} :
    l ∈ accepted schema pairs ↔ ∃ e ∈ pairs, Accepts schema e.1 e.2 l.1 l.2 := by
  simp only [accepted, List.mem_filterMap, leaf?_eq_some_iff]

/-- Accepted leaves stand where the schema has scalars. -/
theorem exists_kindAt_of_mem_accepted {schema : Schema} {pairs : List (String × String)}
    {l : List Step × Json} (h : l ∈ accepted schema pairs) :
    ∃ kind, schema.kindAt l.1 = .ok kind := by
  obtain ⟨e, -, -, kind, hkind, -⟩ := mem_accepted_iff.1 h
  exact ⟨kind, hkind⟩

/-- One pair writes its leaf, if it has one. -/
theorem put_eq (schema : Schema) (value : Option Json) (e : String × String) :
    put schema value e.1 e.2 = match leaf? schema e with
      | none => value
      | some l => some (schema.assign l.2 l.1 (value.getD schema.emptyValue)) := by
  rw [put, leaf?]
  cases accept schema e.1 e.2 with
  | error cause => rfl
  | ok l => rfl

/-- Pairs that follow a value write their leaves into it. -/
theorem foldl_put_some (schema : Schema) (target : Json) (pairs : List (String × String)) :
    pairs.foldl (fun v e => put schema v e.1 e.2) (some target)
      = some (schema.writeAll target (accepted schema pairs)) := by
  induction pairs generalizing target with
  | nil => rfl
  | cons e pairs ih =>
      rw [List.foldl_cons, put_eq, accepted]
      cases hl : leaf? schema e with
      | none =>
          rw [List.filterMap_cons_none hl]
          exact ih target
      | some l =>
          rw [List.filterMap_cons_some hl, Schema.writeAll_cons]
          exact ih _

/-- **A value is built by writing the accepted leaves**, and there is none without any. -/
theorem build_eq (schema : Schema) (pairs : List (String × String)) :
    build schema pairs =
      if accepted schema pairs = [] then none
      else some (schema.writeAll schema.emptyValue (accepted schema pairs)) := by
  change pairs.foldl (fun v e => put schema v e.1 e.2) none = _
  induction pairs with
  | nil => rfl
  | cons e pairs ih =>
      rw [List.foldl_cons, put_eq, accepted]
      cases hl : leaf? schema e with
      | none =>
          rw [List.filterMap_cons_none hl]
          exact ih
      | some l =>
          rw [List.filterMap_cons_some hl, if_neg (List.cons_ne_nil _ _), Schema.writeAll_cons]
          exact foldl_put_some schema _ pairs

/-- What is not accepted has a cause. -/
theorem exists_error_iff {schema : Schema} {path raw : String} :
    (∃ cause, accept schema path raw = .error cause) ↔
      ∀ steps leaf, ¬ Accepts schema path raw steps leaf := by
  simp only [← accept_eq_ok_iff]
  cases accept schema path raw with
  | error cause => simp
  | ok l => exact iff_of_false (by simp) fun h => h l.1 l.2 rfl

/-- **No value without an accepted pair.** -/
theorem build_eq_none_iff (schema : Schema) (pairs : List (String × String)) :
    build schema pairs = none ↔
      ∀ pair ∈ pairs, ∃ cause, accept schema pair.1 pair.2 = .error cause := by
  have hnil : accepted schema pairs = [] ↔
      ∀ pair ∈ pairs, ∃ cause, accept schema pair.1 pair.2 = .error cause := by
    rw [accepted, List.filterMap_eq_nil_iff]
    refine forall₂_congr fun e _ => ?_
    rw [leaf?]
    cases accept schema e.1 e.2 with
    | error cause => simp [Except.toOption]
    | ok l => simp [Except.toOption]
  rw [build_eq, ← hnil]
  split
  · rename_i h
    exact iff_of_true rfl h
  · rename_i h
    exact iff_of_false (Option.some_ne_none _) h

/-- There is a value as soon as one pair is accepted. -/
theorem exists_build_eq_some_iff (schema : Schema) (pairs : List (String × String)) :
    (∃ v, build schema pairs = some v) ↔
      ∃ e ∈ pairs, ∃ steps leaf, Accepts schema e.1 e.2 steps leaf := by
  rw [← Option.ne_none_iff_exists', ne_eq, build_eq_none_iff]
  simp only [exists_error_iff, not_forall, not_not, exists_prop]

end StructuredValue

end HttpDispatch
