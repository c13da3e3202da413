import HttpDispatch.Proofs.PropertyPath.RoundTrip
import HttpDispatch.Proofs.StructuredValue.Writing
import Mathlib.Data.List.Nodup

/-!
# Structured data as pairs of a path and a text

A `RawTree` is structured data as a client has it: texts at the leaves, fields of
objects and items of lists above them.  Clients send it flat, one pair of a property
path and a text for each leaf (`RawTree.pairs`).  This module states what the pairs
of a tree look like to the binder.

## Main definitions

* `RawTree`, `RawTree.Fits` — raw data, and when it has a shape
* `RawTree.leaves`, `RawTree.pairs` — the leaves with their steps, and as sent
* `RawTree.value` — the tree with every leaf coerced
* `Schema.write` — write one leaf of a tree

## Main statements

* `RawTree.acceptable_of_mem_leaves` — every leaf of a tree that fits is acceptable
* `RawTree.nodup_steps` — no two leaves have the same steps
* `RawTree.foldl_write_leaves` — written in their own order, the leaves rebuild the
  tree

### Design decisions

**Fits is a relation, value a function.**  `Fits` carries the conditions of a shape and
is what inductions run on; `value` is total, so that statements about the rebuilt value
need no existential.

**Objects need distinct names only.**  Their fields may stand in any order, and
`Json.ofMembers` sorts the members of the value.
-/

namespace HttpDispatch

/-- **Structured data with raw texts** at the leaves. -/
inductive RawTree where
  /-- A scalar. -/
  | leaf (raw : String)
  /-- An object. -/
  | object (fields : List (String × RawTree))
  /-- A list. -/
  | list (items : List RawTree)

/-- **A schema whose fields can be addressed**: their names can be written in a property
path. -/
inductive Schema.Addressable : Schema → Prop
  | scalar (kind : ScalarKind) : Addressable (.scalar kind)
  | object {fields : List (String × Schema)}
      (names : ∀ e ∈ fields, PropertyPath.Writable (.field e.1))
      (shapes : ∀ e ∈ fields, Addressable e.2) : Addressable (.object fields)
  | list {item : Schema} (shape : Addressable item) : Addressable (.list item)

namespace RawTree

/-- **A tree fits a schema**: an object has some of the declared fields, each once, and
at least one; a list has at least one item and none beyond the largest index; the text
of a scalar is one of its kind. -/
inductive Fits : Schema → RawTree → Prop
  | leaf {kind : ScalarKind} {raw : String} {value : Json}
      (coerced : kind.coerce raw = .ok value) : Fits (.scalar kind) (.leaf raw)
  | object {declared : List (String × Schema)} {fields : List (String × RawTree)}
      (nonempty : fields ≠ []) (nodup : (fields.map Prod.fst).Nodup)
      (known : ∀ e ∈ fields, (Entries.get? e.1 declared).isSome = true)
      (shapes : ∀ e ∈ fields, ∀ shape, Entries.get? e.1 declared = some shape →
        Fits shape e.2) : Fits (.object declared) (.object fields)
  | list {item : Schema} {items : List RawTree}
      (nonempty : items ≠ []) (bound : items.length ≤ maxIndex + 1)
      (shapes : ∀ tree ∈ items, Fits item tree) : Fits (.list item) (.list items)

/-- A leaf seen from one level above. -/
def beneath (s : Step) (l : List Step × String) : List Step × String := (s :: l.1, l.2)

mutual

/-- **The leaves of a tree**, each with the steps that lead to it. -/
def leaves : RawTree → List (List Step × String)
  | leaf raw => [([], raw)]
  | object fields => fieldLeaves fields
  | list items => itemLeaves 0 items

/-- The leaves of some fields. -/
def fieldLeaves : List (String × RawTree) → List (List Step × String)
  | [] => []
  | (name, tree) :: fields => (leaves tree).map (beneath (.field name)) ++ fieldLeaves fields

/-- The leaves of some items, the first of which has the given index. -/
def itemLeaves : Nat → List RawTree → List (List Step × String)
  | _, [] => []
  | n, tree :: items => (leaves tree).map (beneath (.index n)) ++ itemLeaves (n + 1) items

end

/-- A leaf as it is sent: its path in canonical form, and its text. -/
def pair (l : List Step × String) : String × String :=
  (String.ofList (PropertyPath.text l.1), l.2)

/-- **The tree as it is sent**: one pair for each leaf. -/
def pairs (tree : RawTree) : List (String × String) := tree.leaves.map pair

/-- The value of a text as a scalar, null if it is none. -/
def leafValue (kind : ScalarKind) (raw : String) : Json :=
  match kind.coerce raw with
  | .ok value => value
  | .error _ => .null

mutual

/-- **The tree with every leaf coerced.** -/
def value : Schema → RawTree → Json
  | .scalar kind, leaf raw => leafValue kind raw
  | .object declared, object fields => .ofMembers (fieldValues declared fields)
  | .list item, list items => .array (itemValues item items)
  | _, _ => .null

/-- Some fields with every leaf coerced. -/
def fieldValues (declared : List (String × Schema)) :
    List (String × RawTree) → List (String × Json)
  | [] => []
  | (name, tree) :: fields =>
    (name, value ((Entries.get? name declared).getD default) tree)
      :: fieldValues declared fields

/-- Some items with every leaf coerced. -/
def itemValues (item : Schema) : List RawTree → List Json
  | [] => []
  | tree :: items => value item tree :: itemValues item items

end

end RawTree

/-! ### Writing one leaf -/

namespace Schema

/-- **Write one leaf** of a tree into a value of this shape. -/
def write (schema : Schema) (target : Json) (l : List Step × String) : Json :=
  match schema.kindAt l.1 with
  | .ok kind => schema.assign (RawTree.leafValue kind l.2) l.1 target
  | .error _ => target

/-- A leaf is **acceptable** if its steps lead to a scalar and its text is one. -/
def Acceptable (schema : Schema) (l : List Step × String) : Prop :=
  ∃ kind value, schema.kindAt l.1 = .ok kind ∧ kind.coerce l.2 = .ok value

theorem acceptable_beneath_field {fields : List (String × Schema)} {name : String}
    {shape : Schema} (h : Entries.get? name fields = some shape) (l : List Step × String) :
    (object fields).Acceptable (RawTree.beneath (.field name) l) ↔ shape.Acceptable l := by
  simp only [Acceptable, RawTree.beneath, kindAt_field h]

theorem acceptable_beneath_index {item : Schema} {n : Nat} (h : n ≤ maxIndex)
    (l : List Step × String) :
    (list item).Acceptable (RawTree.beneath (.index n) l) ↔ item.Acceptable l := by
  simp only [Acceptable, RawTree.beneath, kindAt_index h]

/-- Writing below a field updates one member. -/
theorem write_beneath_field {fields : List (String × Schema)} {name : String}
    {shape : Schema} (h : Entries.get? name fields = some shape) {l : List Step × String}
    (hl : shape.Acceptable l) (target : Json) :
    (object fields).write target (RawTree.beneath (.field name) l)
      = .object (shape.updateMember name (shape.write · l) target.membersOrNone) := by
  obtain ⟨kind, value, hkind, -⟩ := hl
  simp only [write, RawTree.beneath, kindAt_field h, hkind, assign_field h]

/-- Writing below an index updates one item. -/
theorem write_beneath_index {item : Schema} {n : Nat} (h : n ≤ maxIndex)
    {l : List Step × String} (hl : item.Acceptable l) (target : Json) :
    (list item).write target (RawTree.beneath (.index n) l)
      = .array (item.updateItem n (item.write · l) target.itemsOrNone) := by
  obtain ⟨kind, value, hkind, -⟩ := hl
  simp only [write, RawTree.beneath, kindAt_index h, hkind, assign_index]

/-! ### Writing the leaves below one field or item -/

/-- Writing several leaves below one field updates one member. -/
theorem foldl_write_beneath_field {fields : List (String × Schema)} {name : String}
    {shape : Schema} (h : Entries.get? name fields = some shape)
    {ls : List (List Step × String)} (hls : ∀ l ∈ ls, shape.Acceptable l) (hne : ls ≠ [])
    (members : List (String × Json)) :
    (ls.map (RawTree.beneath (.field name))).foldl (object fields).write (.object members)
      = .object (shape.updateMember name (ls.foldl shape.write ·) members) := by
  induction ls generalizing members with
  | nil => exact absurd rfl hne
  | cons l ls ih =>
      rw [List.map_cons, List.foldl_cons, write_beneath_field h (hls l List.mem_cons_self)]
      by_cases hnil : ls = []
      · subst hnil
        rfl
      · rw [ih (fun l hl => hls l (List.mem_cons_of_mem _ hl)) hnil,
          Json.membersOrNone_object, updateMember_updateMember]
        rfl

/-- Writing several leaves below one index updates one item. -/
theorem foldl_write_beneath_index {item : Schema} {n : Nat} (h : n ≤ maxIndex)
    {ls : List (List Step × String)} (hls : ∀ l ∈ ls, item.Acceptable l) (hne : ls ≠ [])
    (items : List Json) :
    (ls.map (RawTree.beneath (.index n))).foldl (list item).write (.array items)
      = .array (item.updateItem n (ls.foldl item.write ·) items) := by
  induction ls generalizing items with
  | nil => exact absurd rfl hne
  | cons l ls ih =>
      rw [List.map_cons, List.foldl_cons, write_beneath_index h (hls l List.mem_cons_self)]
      by_cases hnil : ls = []
      · subst hnil
        rfl
      · rw [ih (fun l hl => hls l (List.mem_cons_of_mem _ hl)) hnil,
          Json.itemsOrNone_array, updateItem_updateItem]
        rfl

/-- An update right behind the last item appends one. -/
theorem updateItem_length (item : Schema) (change : Json → Json) (items : List Json) :
    item.updateItem items.length change items = items ++ [change item.emptyValue] := by
  have grown : item.grow items.length items = items ++ [item.emptyValue] := by
    simp [grow]
  simp [updateItem, grown]

end Schema

/-! ### The leaves of a tree that fits -/

namespace RawTree

theorem mem_fieldLeaves {l : List Step × String} {fields : List (String × RawTree)} :
    l ∈ fieldLeaves fields ↔
      ∃ e ∈ fields, ∃ l' ∈ leaves e.2, l = beneath (.field e.1) l' := by
  induction fields with
  | nil => simp [fieldLeaves]
  | cons e fields ih =>
      obtain ⟨name, tree⟩ := e
      simp only [fieldLeaves, List.mem_append, List.mem_map, ih, List.exists_mem_cons_iff,
        eq_comm]

theorem mem_itemLeaves {l : List Step × String} {n : Nat} {items : List RawTree} :
    l ∈ itemLeaves n items ↔
      ∃ i tree, items[i]? = some tree ∧ ∃ l' ∈ leaves tree, l = beneath (.index (n + i)) l' := by
  induction items generalizing n with
  | nil => simp [itemLeaves]
  | cons tree items ih =>
      simp only [itemLeaves, List.mem_append, List.mem_map, ih]
      constructor
      · rintro (⟨l', hl', rfl⟩ | ⟨i, t, ht, l', hl', rfl⟩)
        · exact ⟨0, tree, rfl, l', hl', rfl⟩
        · exact ⟨i + 1, t, ht, l', hl', by rw [Nat.add_assoc, Nat.add_comm 1]⟩
      · rintro ⟨i, t, ht, l', hl', rfl⟩
        cases i with
        | zero =>
            cases ht
            exact .inl ⟨l', hl', rfl⟩
        | succ i =>
            exact .inr ⟨i, t, ht, l', hl', by rw [Nat.add_assoc, Nat.add_comm 1]⟩

/-- A tree that fits has a leaf. -/
theorem leaves_ne_nil {schema : Schema} {tree : RawTree} (h : tree.Fits schema) :
    tree.leaves ≠ [] := by
  induction h with
  | leaf => simp [leaves]
  | @object declared fields nonempty _ known _ ih =>
      obtain ⟨e, rest, rfl⟩ := List.exists_cons_of_ne_nil nonempty
      obtain ⟨shape, hshape⟩ := Option.isSome_iff_exists.1 (known e List.mem_cons_self)
      simp [leaves, fieldLeaves, ih e List.mem_cons_self shape hshape]
  | @list item items nonempty _ _ ih =>
      obtain ⟨tree, rest, rfl⟩ := List.exists_cons_of_ne_nil nonempty
      simp [leaves, itemLeaves, ih tree List.mem_cons_self]

/-- Every leaf of a tree that fits is acceptable. -/
theorem acceptable_of_mem_leaves {schema : Schema} {tree : RawTree} (h : tree.Fits schema) :
    ∀ l ∈ tree.leaves, schema.Acceptable l := by
  induction h with
  | @leaf kind raw value coerced =>
      intro l hl
      rw [leaves, List.mem_singleton] at hl
      subst hl
      exact ⟨kind, value, rfl, coerced⟩
  | @object declared fields _ _ known _ ih =>
      intro l hl
      obtain ⟨e, he, l', hl', rfl⟩ := mem_fieldLeaves.1 hl
      obtain ⟨shape, hshape⟩ := Option.isSome_iff_exists.1 (known e he)
      rw [Schema.acceptable_beneath_field hshape]
      exact ih e he shape hshape l' hl'
  | @list item items _ bound _ ih =>
      intro l hl
      obtain ⟨i, tree, htree, l', hl', rfl⟩ := mem_itemLeaves.1 hl
      have hi : i < items.length := (List.getElem?_eq_some_iff.1 htree).1
      rw [Schema.acceptable_beneath_index (by omega)]
      exact ih tree (List.mem_of_getElem? htree) l' hl'

/-- The steps to a leaf can be written. -/
theorem writable_of_mem_leaves {schema : Schema} {tree : RawTree} (h : tree.Fits schema)
    (hs : schema.Addressable) :
    ∀ l ∈ tree.leaves, ∀ s ∈ l.1, PropertyPath.Writable s := by
  induction h with
  | leaf =>
      intro l hl s hmem
      rw [leaves, List.mem_singleton] at hl
      subst hl
      cases hmem
  | @object declared fields _ _ known _ ih =>
      intro l hl s hmem
      cases hs with
      | object names shapes =>
          obtain ⟨e, he, l', hl', rfl⟩ := mem_fieldLeaves.1 hl
          obtain ⟨shape, hshape⟩ := Option.isSome_iff_exists.1 (known e he)
          have hdeclared := Entries.mem_of_get? hshape
          rcases List.mem_cons.1 hmem with rfl | hmem
          · exact names _ hdeclared
          · exact ih e he shape hshape (shapes _ hdeclared) l' hl' s hmem
  | @list item items _ bound _ ih =>
      intro l hl s hmem
      cases hs with
      | list shape =>
          obtain ⟨i, tree, htree, l', hl', rfl⟩ := mem_itemLeaves.1 hl
          have hi : i < items.length := (List.getElem?_eq_some_iff.1 htree).1
          rcases List.mem_cons.1 hmem with rfl | hmem
          · have hbound : maxIndex + 1 < Nat.pow 2 64 := by decide
            exact (by omega : 0 + i < Nat.pow 2 64)
          · exact ih tree (List.mem_of_getElem? htree) shape l' hl' s hmem

theorem nodup_map_beneath (s : Step) {ls : List (List Step × String)}
    (h : (ls.map Prod.fst).Nodup) : ((ls.map (beneath s)).map Prod.fst).Nodup := by
  have same : (ls.map (beneath s)).map Prod.fst = (ls.map Prod.fst).map (s :: ·) := by
    simp only [List.map_map]
    rfl
  rw [same]
  exact List.Nodup.map (fun _ _ heq => (List.cons.inj heq).2) h

theorem nodup_fieldLeaves {fields : List (String × RawTree)}
    (nodup : (fields.map Prod.fst).Nodup)
    (h : ∀ e ∈ fields, ((leaves e.2).map Prod.fst).Nodup) :
    ((fieldLeaves fields).map Prod.fst).Nodup := by
  induction fields with
  | nil => simp [fieldLeaves]
  | cons e fields ih =>
      obtain ⟨name, tree⟩ := e
      rw [List.map_cons, List.nodup_cons] at nodup
      rw [fieldLeaves, List.map_append, List.nodup_append]
      refine ⟨nodup_map_beneath _ (h _ List.mem_cons_self),
        ih nodup.2 fun e he => h e (List.mem_cons_of_mem _ he), ?_⟩
      rintro p hp q hq rfl
      obtain ⟨l, hl, rfl⟩ := List.mem_map.1 hp
      obtain ⟨l', hl', hsteps⟩ := List.mem_map.1 hq
      obtain ⟨l, -, rfl⟩ := List.mem_map.1 hl
      obtain ⟨e, he, l', -, rfl⟩ := mem_fieldLeaves.1 hl'
      have hname : e.1 = name := Step.field.inj (List.cons.inj hsteps).1
      have hmem : e.1 ∈ fields.map Prod.fst := List.mem_map_of_mem he
      rw [hname] at hmem
      exact nodup.1 hmem

theorem nodup_itemLeaves {items : List RawTree} (n : Nat)
    (h : ∀ tree ∈ items, ((leaves tree).map Prod.fst).Nodup) :
    ((itemLeaves n items).map Prod.fst).Nodup := by
  induction items generalizing n with
  | nil => simp [itemLeaves]
  | cons tree items ih =>
      rw [itemLeaves, List.map_append, List.nodup_append]
      refine ⟨nodup_map_beneath _ (h tree List.mem_cons_self),
        ih (n + 1) fun t ht => h t (List.mem_cons_of_mem _ ht), ?_⟩
      rintro p hp q hq rfl
      obtain ⟨l, hl, rfl⟩ := List.mem_map.1 hp
      obtain ⟨l', hl', hsteps⟩ := List.mem_map.1 hq
      obtain ⟨l, -, rfl⟩ := List.mem_map.1 hl
      obtain ⟨i, t, -, l', -, rfl⟩ := mem_itemLeaves.1 hl'
      have hindex : n + 1 + i = n := Step.index.inj (List.cons.inj hsteps).1
      omega

/-- **No two leaves have the same steps.** -/
theorem nodup_steps {schema : Schema} {tree : RawTree} (h : tree.Fits schema) :
    (tree.leaves.map Prod.fst).Nodup := by
  induction h with
  | leaf => simp [leaves]
  | object _ nodup known _ ih =>
      rw [leaves]
      refine nodup_fieldLeaves nodup fun e he => ?_
      obtain ⟨shape, hshape⟩ := Option.isSome_iff_exists.1 (known e he)
      exact ih e he shape hshape
  | list _ _ _ ih =>
      rw [leaves]
      exact nodup_itemLeaves 0 ih

/-! ### Rebuilding a tree -/

/-- Leaves of fields, written in their own order, insert one member each. -/
theorem foldl_write_fieldLeaves {declared : List (String × Schema)}
    {fields : List (String × RawTree)} (nodup : (fields.map Prod.fst).Nodup)
    (h : ∀ e ∈ fields, ∃ shape, Entries.get? e.1 declared = some shape ∧ e.2.Fits shape ∧
      e.2.leaves.foldl shape.write shape.emptyValue = e.2.value shape)
    {members : List (String × Json)}
    (hnew : ∀ e ∈ fields, Entries.get? e.1 members = none) :
    (fieldLeaves fields).foldl (Schema.object declared).write (.object members)
      = .object ((fieldValues declared fields).foldl
          (fun acc e => Entries.insert e.1 e.2 acc) members) := by
  induction fields generalizing members with
  | nil => rfl
  | cons e fields ih =>
      obtain ⟨name, tree⟩ := e
      rw [List.map_cons, List.nodup_cons] at nodup
      obtain ⟨shape, hshape, hfits, hvalue⟩ := h _ List.mem_cons_self
      have hnone : Entries.get? name members = none := hnew _ List.mem_cons_self
      have hchild : shape.updateMember name (tree.leaves.foldl shape.write ·) members
          = Entries.insert name (tree.value shape) members := by
        rw [Schema.updateMember, hnone, Option.getD_none, hvalue]
      rw [fieldLeaves, List.foldl_append, Schema.foldl_write_beneath_field hshape
        (acceptable_of_mem_leaves hfits) (leaves_ne_nil hfits), hchild, fieldValues,
        List.foldl_cons, hshape, Option.getD_some]
      refine ih nodup.2 (fun e he => h e (List.mem_cons_of_mem _ he)) fun e he => ?_
      have hmem : e.1 ∈ fields.map Prod.fst := List.mem_map_of_mem he
      have hne : e.1 ≠ name := fun heq => nodup.1 (by rwa [heq] at hmem)
      rw [Entries.get?_insert_of_ne hne]
      exact hnew e (List.mem_cons_of_mem _ he)

/-- Leaves of items, written in their own order, append one item each. -/
theorem foldl_write_itemLeaves {item : Schema} {trees : List RawTree}
    (h : ∀ tree ∈ trees, tree.Fits item ∧
      tree.leaves.foldl item.write item.emptyValue = tree.value item)
    (items : List Json) (hbound : items.length + trees.length ≤ maxIndex + 1) :
    (itemLeaves items.length trees).foldl (Schema.list item).write (.array items)
      = .array (items ++ itemValues item trees) := by
  induction trees generalizing items with
  | nil => simp [itemLeaves, itemValues]
  | cons tree trees ih =>
      obtain ⟨hfits, hvalue⟩ := h tree List.mem_cons_self
      rw [List.length_cons] at hbound
      rw [itemLeaves, List.foldl_append, Schema.foldl_write_beneath_index (by omega)
        (acceptable_of_mem_leaves hfits) (leaves_ne_nil hfits), Schema.updateItem_length,
        hvalue]
      have hrest := ih (fun t ht => h t (List.mem_cons_of_mem _ ht))
        (items ++ [tree.value item]) (by simp; omega)
      rw [List.length_append, List.length_singleton] at hrest
      rw [hrest, itemValues, List.append_assoc]
      rfl

/-- **The leaves of a tree, written in their own order, rebuild its value.** -/
theorem foldl_write_leaves {schema : Schema} {tree : RawTree} (h : tree.Fits schema) :
    tree.leaves.foldl schema.write schema.emptyValue = tree.value schema := by
  induction h with
  | @leaf kind raw value coerced => rfl
  | @object declared fields _ nodup known shapes ih =>
      rw [leaves, RawTree.value, Json.ofMembers, Entries.ofList]
      refine foldl_write_fieldLeaves nodup (fun e he => ?_) fun _ _ => rfl
      obtain ⟨shape, hshape⟩ := Option.isSome_iff_exists.1 (known e he)
      exact ⟨shape, hshape, shapes e he shape hshape, ih e he shape hshape⟩
  | @list item trees _ bound shapes ih =>
      rw [leaves, RawTree.value]
      refine foldl_write_itemLeaves (fun t ht => ⟨shapes t ht, ih t ht⟩) [] ?_
      simpa using bound

end RawTree

end HttpDispatch
