import HttpDispatch.Proofs.StructuredValue.Acceptance

/-!
# Which order of pairs matters

The pairs of a structured value come in the order of their keys, in which `[10]` stands before
`[2]`.  That order does not show in the value: a list that grows to its tenth item first is the
same as one that grows step by step.  Only pairs that lead to the very same leaf overwrite one
another, and they may be spelled differently, as `[1]` and `[01]` are.

* `StructuredValue.Rearranged` — the same pairs in another order, those with the same steps
  still one after the other as before
* `StructuredValue.build_eq_of_rearranged` — what is built from them is the same

Writes to different leaves commute (`Schema.assign_comm`), so the claim about values is an
instance of one about runs: if steps with different keys commute, a run is determined by the
steps of each key, in their order (`foldl_eq_of_filter_eq`).
-/

namespace HttpDispatch

/-! ### Steps that commute unless they have the same key -/

section Keyed

variable {α κ β : Type} [DecidableEq κ] (key : α → κ) {step : β → α → β}

/-- A step may be taken before those that it commutes with. -/
theorem foldl_append_cons_of_comm {x : α} {front : List α}
    (hcomm : ∀ y ∈ front, ∀ b, step (step b y) x = step (step b x) y) (back : List α) (b : β) :
    (front ++ x :: back).foldl step b = (x :: (front ++ back)).foldl step b := by
  induction front generalizing b with
  | nil => rfl
  | cons y front ih =>
      rw [List.forall_mem_cons] at hcomm
      rw [List.cons_append, List.foldl_cons, ih hcomm.2, List.foldl_cons, hcomm.1, List.cons_append,
        List.foldl_cons, List.foldl_cons]

/-- **A run depends on the order of steps with the same key only**, if steps with different keys
commute. -/
theorem foldl_eq_of_filter_eq {xs ys : List α}
    (hcomm : ∀ x ∈ xs, ∀ y ∈ ys, key y ≠ key x → ∀ b, step (step b y) x = step (step b x) y)
    (horder : ∀ k, xs.filter (key · = k) = ys.filter (key · = k)) (b : β) :
    xs.foldl step b = ys.foldl step b := by
  induction xs generalizing ys b with
  | nil =>
      cases ys with
      | nil => rfl
      | cons y ys => simpa using horder (key y)
  | cons x xs ih =>
      -- the first step of the one run is somewhere in the other, behind steps with other keys
      have hx := horder (key x)
      rw [List.filter_cons_of_pos (by simp), eq_comm, List.filter_eq_cons_iff] at hx
      obtain ⟨front, back, rfl, hfront, -, hrest⟩ := hx
      have hne : ∀ y ∈ front, key y ≠ key x := fun y hy => by simpa using hfront y hy
      rw [List.forall_mem_cons] at hcomm
      rw [foldl_append_cons_of_comm fun y hy b =>
        hcomm.1 y (List.mem_append_left _ hy) (hne y hy) b, List.foldl_cons, List.foldl_cons]
      refine ih (fun x' hx' y hy => hcomm.2 x' hx' y ?_) (fun k => ?_) _
      · rcases List.mem_append.1 hy with hy | hy
        · exact List.mem_append_left _ hy
        · exact List.mem_append_right _ (List.mem_cons_of_mem _ hy)
      · rw [List.filter_append]
        by_cases hk : key x = k
        · subst hk
          have hnone : front.filter (key · = key x) = [] :=
            List.filter_eq_nil_iff.2 fun y hy => by simpa using hne y hy
          rw [hnone, List.nil_append, hrest]
        · have hk' := horder k
          rwa [List.filter_cons_of_neg (by simpa using hk), List.filter_append,
            List.filter_cons_of_neg (by simpa using hk)] at hk'

end Keyed

namespace StructuredValue

/-- **The same pairs in another order**, in which those whose paths parse to the same steps come
one after the other as before. -/
structure Rearranged (xs ys : List (String × String)) : Prop where
  /-- The pairs are the same. -/
  perm : xs.Perm ys
  /-- Those with the same steps are in the same order. -/
  order : ∀ steps, (xs.filter fun e => PropertyPath.parse e.1 = .ok steps)
    = ys.filter fun e => PropertyPath.parse e.1 = .ok steps

/-- The leaves at some steps are those of the pairs that lead there. -/
theorem filter_accepted (schema : Schema) (steps : List Step) (pairs : List (String × String)) :
    (accepted schema pairs).filter (fun l => l.1 = steps)
      = accepted schema (pairs.filter fun e => PropertyPath.parse e.1 = .ok steps) := by
  rw [accepted, accepted, List.filter_filterMap, List.filterMap_filter]
  congr 1
  funext e
  cases hl : leaf? schema e with
  | none => simp
  | some l =>
      rw [(leaf?_eq_some_iff.1 hl).1]
      by_cases hsteps : l.1 = steps
      · simp [hsteps]
      · simp [hsteps]

/-- **The order of pairs with different steps does not matter** to what is built. -/
theorem build_eq_of_rearranged {xs ys : List (String × String)} (h : Rearranged xs ys)
    (schema : Schema) : build schema xs = build schema ys := by
  have hperm : (accepted schema xs).Perm (accepted schema ys) := h.perm.filterMap _
  have hempty : accepted schema xs = [] ↔ accepted schema ys = [] := by
    constructor
    · intro hx
      rw [hx] at hperm
      exact List.nil_perm.1 hperm
    · intro hy
      rw [hy] at hperm
      exact List.perm_nil.1 hperm
  have hwrite (target : Json) : schema.writeAll target (accepted schema xs)
      = schema.writeAll target (accepted schema ys) := by
    refine foldl_eq_of_filter_eq Prod.fst (fun l hl l' hl' hne target => ?_)
      (fun steps => ?_) target
    · obtain ⟨kind, hkind⟩ := exists_kindAt_of_mem_accepted hl
      obtain ⟨kind', hkind'⟩ := exists_kindAt_of_mem_accepted hl'
      exact Schema.assign_comm hkind hkind' hne.symm _ _ target
    · rw [filter_accepted, filter_accepted, h.order]
  simp only [build_eq, hempty, hwrite]

/-- Two spellings of one index, one that is no index, a text that is no integer and a gap: the
later one of the two spellings stays behind the other, all else is turned round. -/
theorem build_eq_of_rearranged_spellings :
    let xs := [("[1]", "10"), ("[x]", "7"), ("[01]", "20"), ("[3]", "many"), ("[4]", "40")]
    let ys := [("[4]", "40"), ("[3]", "many"), ("[1]", "10"), ("[01]", "20"), ("[x]", "7")]
    let integers : Schema := .list (.scalar .integer)
    Rearranged xs ys ∧ build integers xs = build integers ys ∧
      build integers ys
        = some (.array [.null, .number (.integer 20), .null, .null, .number (.integer 40)]) := by
  intro xs ys integers
  have one : PropertyPath.parse "[1]" = .ok [.index 1] := by cbv
  have none : PropertyPath.parse "[x]" = .error (.invalidIndex "x") := by cbv
  have zeroOne : PropertyPath.parse "[01]" = .ok [.index 1] := by cbv
  have three : PropertyPath.parse "[3]" = .ok [.index 3] := by cbv
  have four : PropertyPath.parse "[4]" = .ok [.index 4] := by cbv
  have h : Rearranged xs ys := by
    refine ⟨by decide, fun steps => ?_⟩
    by_cases hone : [Step.index 1] = steps
    · subst hone
      simp [xs, ys, one, none, zeroOne, three, four]
    by_cases hthree : [Step.index 3] = steps
    · subst hthree
      simp [xs, ys, one, none, zeroOne, three, four]
    by_cases hfour : [Step.index 4] = steps
    · subst hfour
      simp [xs, ys, one, none, zeroOne, three, four]
    · simp [xs, ys, one, none, zeroOne, three, four, hone, hthree, hfour]
  exact ⟨h, build_eq_of_rearranged h integers, by decide +kernel⟩

end StructuredValue

end HttpDispatch
