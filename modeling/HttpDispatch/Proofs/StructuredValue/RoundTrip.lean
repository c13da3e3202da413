import HttpDispatch.Proofs.StructuredValue.Flattening
import HttpDispatch.Resolution

/-!
# Binding undoes flattening

A client that sends a tree as one pair for each leaf gets the tree back as the value
of its structured argument, whatever order the pairs come in.

* `RawTree.build_of_perm` — for `StructuredValue.build` on the pairs themselves;
* `RawTree.outcome_resolve` — for `resolve` on the values of a request, whose keys are
  the paths behind the name of the parameter (`ledKey`).

`RawTree.build_and_resolve` has both.  The proof of the first goes in two steps: pairs
may be exchanged since writes to different leaves commute (`Schema.assign_comm`), and in
their own order the leaves rebuild the tree (`RawTree.foldl_write_leaves`).  The second
follows, because attribution takes the name off every key again and the keys of a request
are only another order of the leaves.
-/

namespace HttpDispatch

namespace RawTree

variable {schema : Schema} {tree : RawTree}

/-! ### Pairs in any order -/

/-- **The binder accepts every leaf** of a tree that fits. -/
theorem put_pair (hs : schema.Addressable) (ht : tree.Fits schema)
    {l : List Step × String} (hl : l ∈ tree.leaves) (target : Option Json) :
    StructuredValue.put schema target (pair l).1 (pair l).2
      = some (schema.write (target.getD schema.emptyValue) l) := by
  obtain ⟨kind, value, hkind, hvalue⟩ := acceptable_of_mem_leaves ht l hl
  have hparse := PropertyPath.parse_text (writable_of_mem_leaves ht hs l hl)
  simp only [StructuredValue.put, StructuredValue.accept, pair, hparse, hkind, hvalue,
    Schema.write, leafValue]

/-- Two leaves of a tree may be written in either order. -/
theorem write_comm (ht : tree.Fits schema) {l l' : List Step × String}
    (hl : l ∈ tree.leaves) (hl' : l' ∈ tree.leaves) (target : Json) :
    schema.write (schema.write target l) l' = schema.write (schema.write target l') l := by
  by_cases heq : l = l'
  · rw [heq]
  · have hne : l'.1 ≠ l.1 := fun hsteps =>
      heq (List.inj_on_of_nodup_map (nodup_steps ht) hl hl' hsteps.symm)
    obtain ⟨kind, value, hkind, -⟩ := acceptable_of_mem_leaves ht l hl
    obtain ⟨kind', value', hkind', -⟩ := acceptable_of_mem_leaves ht l' hl'
    simp only [Schema.write, hkind, hkind']
    exact Schema.assign_comm hkind' hkind hne _ _ target

theorem build_eq_foldl (schema : Schema) (sent : List (String × String)) :
    StructuredValue.build schema sent
      = sent.foldl (fun v e => StructuredValue.put schema v e.1 e.2) none := rfl

/-- Written one after the other, pairs write their leaves. -/
theorem foldl_put_pair (hs : schema.Addressable) (ht : tree.Fits schema)
    {ls : List (List Step × String)} (hls : ∀ l ∈ ls, l ∈ tree.leaves) (target : Json) :
    (ls.map pair).foldl (fun v e => StructuredValue.put schema v e.1 e.2) (some target)
      = some (ls.foldl schema.write target) := by
  induction ls generalizing target with
  | nil => rfl
  | cons l ls ih =>
      rw [List.map_cons, List.foldl_cons, List.foldl_cons,
        put_pair hs ht (hls l List.mem_cons_self), Option.getD_some]
      exact ih (fun l' hl' => hls l' (List.mem_cons_of_mem _ hl')) _

/-- In their own order the pairs of a tree rebuild its value. -/
theorem build_pairs (hs : schema.Addressable) (ht : tree.Fits schema) :
    StructuredValue.build schema tree.pairs = some (tree.value schema) := by
  rw [← foldl_write_leaves ht, build_eq_foldl, pairs]
  obtain ⟨l, ls, hleaves⟩ := List.exists_cons_of_ne_nil (leaves_ne_nil ht)
  have hmem : ∀ l' ∈ l :: ls, l' ∈ tree.leaves := fun l' hl' => by rwa [hleaves]
  rw [hleaves, List.map_cons, List.foldl_cons, List.foldl_cons,
    put_pair hs ht (hmem l List.mem_cons_self), Option.getD_none]
  exact foldl_put_pair hs ht (fun l' hl' => hmem l' (List.mem_cons_of_mem _ hl')) _

/-- **In any order the pairs of a tree rebuild its value.** -/
theorem build_of_perm (hs : schema.Addressable) (ht : tree.Fits schema)
    {sent : List (String × String)} (hsent : sent.Perm tree.pairs) :
    StructuredValue.build schema sent = some (tree.value schema) := by
  rw [← build_pairs hs ht]
  rw [build_eq_foldl, build_eq_foldl]
  refine hsent.foldl_eq' (fun x hx y hy target => ?_) none
  obtain ⟨l, hl, rfl⟩ := List.mem_map.1 (hsent.mem_iff.1 hx)
  obtain ⟨l', hl', rfl⟩ := List.mem_map.1 (hsent.mem_iff.1 hy)
  simp only [put_pair hs ht hl, put_pair hs ht hl', Option.getD_some, write_comm ht hl hl']

end RawTree

/-! ### Keys that a name leads -/

namespace Resolution

/-- **The key of a property path** behind the name of a parameter: a `.` separates them
unless the path is empty or starts with a bracket. -/
def ledKey (name : String) (path : List Char) : String :=
  match path with
  | [] => name
  | '[' :: rest => String.ofList (name.toList ++ '[' :: rest)
  | path => String.ofList (name.toList ++ '.' :: path)

/-- **Attribution takes the name off again.** -/
theorem relativePath?_ledKey (name : String) (path : List Char) :
    relativePath? name (ledKey name path) = some (String.ofList path) := by
  have behind (rest : List Char) :
      name.toList.isPrefixOf? (name.toList ++ rest) = some rest :=
    List.isPrefixOf?_eq_some_iff_append_eq.2 rfl
  unfold ledKey
  split
  · have := behind []
    rw [List.append_nil] at this
    rw [relativePath?, this]
  · rw [relativePath?, String.toList_ofList, behind]
    rfl
  · rw [relativePath?, String.toList_ofList, behind]
    rfl

theorem ledKey_injective (name : String) : Function.Injective (ledKey name) := by
  intro path path' heq
  have h := relativePath?_ledKey name path
  rw [heq, relativePath?_ledKey, Option.some.injEq] at h
  simpa using (congrArg String.toList h).symm

/-- What a structured parameter takes from values that are all led by its name. -/
theorem taken_perm {name : String} {values : SortedMap String}
    {sent : List (List Char × String)}
    (h : values.entries.Perm (sent.map fun e => (ledKey name e.1, e.2))) :
    (taken name values).Perm (sent.map fun e => (String.ofList e.1, e.2)) := by
  have hmap := h.filterMap fun e : String × String =>
    (relativePath? name e.1).map (·, e.2)
  rw [List.filterMap_map] at hmap
  have hsent : (fun e : String × String => (relativePath? name e.1).map (·, e.2))
      ∘ (fun e : List Char × String => (ledKey name e.1, e.2))
      = some ∘ fun e => (String.ofList e.1, e.2) := by
    funext e
    simp [relativePath?_ledKey]
  rw [hsent, List.filterMap_eq_map] at hmap
  exact hmap

/-- **A single structured parameter** that was attributed something gets what is built
from it, and nothing else matters. -/
theorem outcome_resolve_single {p : Parameter} {schema : Schema}
    (hp : p.source = .structured schema) {values : SortedMap String} {value : Json}
    (hbuild : StructuredValue.build schema (taken p.name values) = some value) :
    (resolve values [p] none).outcome = .ok ⟨[(p.name, some value)]⟩ := by
  have hne : (taken p.name values).isEmpty = false := by
    cases htaken : taken p.name values with
    | nil => simp [htaken] at hbuild
    | cons _ _ => rfl
  have hstructured : p.isStructured = true := by simp [Parameter.isStructured, hp]
  simp [resolve, passes, structuredNames, intake, distribute, settle, fill, violations,
    structuredSlot, hp, hne, hstructured, hbuild, Slot.filled]

end Resolution

namespace RawTree

open Resolution

variable {schema : Schema} {tree : RawTree}

/-- **The values of a request** that sends a tree under a name. -/
def valuesUnder (name : String) (tree : RawTree) : SortedMap String :=
  .ofList (tree.leaves.map fun l => (ledKey name (PropertyPath.text l.1), l.2))

/-- No two leaves are sent under one key. -/
theorem nodup_ledKey (hs : schema.Addressable) (ht : tree.Fits schema) (name : String) :
    (tree.leaves.map fun l => ledKey name (PropertyPath.text l.1)).Nodup := by
  have hwritable := writable_of_mem_leaves ht hs
  have hkeys : (tree.leaves.map fun l => ledKey name (PropertyPath.text l.1))
      = (tree.leaves.map Prod.fst).map fun steps => ledKey name (PropertyPath.text steps) := by
    simp only [List.map_map]
    rfl
  rw [hkeys]
  refine (nodup_steps ht).map_on fun p hp q hq heq => ?_
  obtain ⟨l, hl, rfl⟩ := List.mem_map.1 hp
  obtain ⟨l', hl', rfl⟩ := List.mem_map.1 hq
  exact PropertyPath.text_injective (hwritable l hl) (hwritable l' hl')
    (ledKey_injective name heq)

/-- The values of such a request are the leaves, each under the key that leads to it. -/
theorem perm_valuesUnder (hs : schema.Addressable) (ht : tree.Fits schema)
    (name : String) :
    (tree.valuesUnder name).entries.Perm
      (tree.leaves.map fun l => (ledKey name (PropertyPath.text l.1), l.2)) := by
  rw [valuesUnder, SortedMap.entries_ofList]
  refine Entries.perm_ofList ?_
  rw [List.map_map]
  exact nodup_ledKey hs ht name

/-- **A single structured parameter gets the tree** that a request sends under its
name. -/
theorem outcome_resolve (hs : schema.Addressable) (ht : tree.Fits schema) {p : Parameter}
    (hp : p.source = .structured schema) :
    (resolve (tree.valuesUnder p.name) [p] none).outcome
      = .ok ⟨[(p.name, some (tree.value schema))]⟩ := by
  refine outcome_resolve_single hp (build_of_perm hs ht ?_)
  have h := perm_valuesUnder hs ht p.name
  have hsent : (tree.leaves.map fun l => (ledKey p.name (PropertyPath.text l.1), l.2))
      = (tree.leaves.map fun l => (PropertyPath.text l.1, l.2)).map
        fun e => (ledKey p.name e.1, e.2) := by
    simp only [List.map_map]
    rfl
  rw [hsent] at h
  have htaken := taken_perm h
  rw [List.map_map] at htaken
  exact htaken

/-- **Binding undoes flattening**, for the pairs of a tree in any order and for a request
that sends them under the name of the only parameter. -/
theorem build_and_resolve (hs : schema.Addressable) (ht : tree.Fits schema) :
    (∀ sent : List (String × String), sent.Perm tree.pairs →
      StructuredValue.build schema sent = some (tree.value schema)) ∧
    ∀ p : Parameter, p.source = .structured schema →
      (resolve (tree.valuesUnder p.name) [p] none).outcome
        = .ok ⟨[(p.name, some (tree.value schema))]⟩ :=
  ⟨fun _ hsent => build_of_perm hs ht hsent, fun _ hp => outcome_resolve hs ht hp⟩

/-! ### An order with two lines -/

/-- The shape of a line: how many, and some labels. -/
def lineShape : Schema :=
  .object [("count", .scalar .integer), ("labels", .list (.scalar .string))]

/-- The shape of an order. -/
def orderShape : Schema := .object [("lines", .list lineShape), ("note", .scalar .string)]

/-- An order whose second line has labels. -/
def order : RawTree :=
  .object [("note", .leaf "fast"), ("lines", .list [.object [("count", .leaf "2")],
    .object [("labels", .list [.leaf "red", .leaf "blue"]), ("count", .leaf "+3")]])]

example : order.value orderShape = .object [("lines", .array [
      .object [("count", .number (.integer 2))],
      .object [("count", .number (.integer 3)),
        ("labels", .array [.string "red", .string "blue"])]]),
    ("note", .string "fast")] := rfl

theorem addressable_lineShape : lineShape.Addressable := by
  refine .object (fun e he => ?_) fun e he => ?_
  all_goals
    rcases he with _ | ⟨_, _ | ⟨_, ⟨⟩⟩⟩
  · exact PropertyPath.writable_field (by decide) (by decide)
  · exact PropertyPath.writable_field (by decide) (by decide)
  · exact .scalar _
  · exact .list (.scalar _)

theorem addressable_orderShape : orderShape.Addressable := by
  refine .object (fun e he => ?_) fun e he => ?_
  all_goals
    rcases he with _ | ⟨_, _ | ⟨_, ⟨⟩⟩⟩
  · exact PropertyPath.writable_field (by decide) (by decide)
  · exact PropertyPath.writable_field (by decide) (by decide)
  · exact .list addressable_lineShape
  · exact .scalar _

theorem fits_order : order.Fits orderShape := by
  have leaf {raw : String} : (RawTree.leaf raw).Fits (.scalar .string) :=
    .leaf (ScalarKind.coerce_string raw)
  have first : (object [("count", .leaf "2")]).Fits lineShape := by
    refine .object (by decide) (by decide) (by decide) fun e he shape hshape => ?_
    rcases he with _ | ⟨_, ⟨⟩⟩
    cases hshape
    have two : ScalarKind.coerce .integer "2" = .ok (.number (.integer 2)) := rfl
    exact .leaf two
  have second : (object [("labels", .list [.leaf "red", .leaf "blue"]),
      ("count", .leaf "+3")]).Fits lineShape := by
    refine .object (by decide) (by decide) (by decide) fun e he shape hshape => ?_
    rcases he with _ | ⟨_, _ | ⟨_, ⟨⟩⟩⟩ <;> cases hshape
    · exact .list (by decide) (by decide) (by simp [leaf])
    · have three : ScalarKind.coerce .integer "+3" = .ok (.number (.integer 3)) := rfl
      exact .leaf three
  refine .object (by decide) (by decide) (by decide) fun e he shape hshape => ?_
  rcases he with _ | ⟨_, _ | ⟨_, ⟨⟩⟩⟩ <;> cases hshape
  · exact leaf
  · exact .list (by decide) (by decide) (by simp [first, second])

/-- The second line may be sent first and from its end: the order comes back. -/
theorem build_and_resolve_order :
    StructuredValue.build orderShape [("lines[1].count", "+3"), ("lines[1].labels[1]", "blue"),
        ("lines[1].labels[0]", "red"), ("note", "fast"), ("lines[0].count", "2")]
      = some (order.value orderShape) ∧
    (resolve (order.valuesUnder "order") [.structured "order" orderShape] none).outcome
      = .ok ⟨[("order", some (order.value orderShape))]⟩ := by
  have h := build_and_resolve addressable_orderShape fits_order
  have shuffled : [("lines[1].count", "+3"), ("lines[1].labels[1]", "blue"),
      ("lines[1].labels[0]", "red"), ("note", "fast"), ("lines[0].count", "2")].Perm
        order.pairs := by decide
  exact ⟨h.1 _ shuffled, h.2 (.structured "order" orderShape) rfl⟩

end RawTree

end HttpDispatch
