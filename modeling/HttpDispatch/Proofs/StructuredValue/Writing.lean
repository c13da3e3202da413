import HttpDispatch.Proofs.Entries
import HttpDispatch.StructuredValue

/-!
# Writing leaves in any order

`Schema.assign` walks down to a leaf and rebuilds everything above it.  One level of
the walk is either `updateMember`, on the members of an object, or `updateItem`, on
the items of a list that grows on demand.  Both obey the same two laws: two updates
at one place compose, and updates at different places commute.  By induction along
the steps, **writes to different leaves commute** (`Schema.assign_comm`), whatever
value they start from.

A list that grows to index 10 first and to index 2 later is the same as one that
grows the other way round, since both updates fill the gap with the same empty
items; that is the content of `updateItem_comm`.
-/

namespace HttpDispatch

/-! ### One level of a walk -/

/-- The members that a walk finds: those of an object, none of anything else. -/
def Json.membersOrNone : Json → List (String × Json)
  | .object members => members
  | _ => []

/-- The items that a walk finds: those of a list, none of anything else. -/
def Json.itemsOrNone : Json → List Json
  | .array items => items
  | _ => []

@[simp] theorem Json.membersOrNone_object (members : List (String × Json)) :
    (Json.object members).membersOrNone = members := rfl

@[simp] theorem Json.itemsOrNone_array (items : List Json) :
    (Json.array items).itemsOrNone = items := rfl

namespace Schema

/-- **Change the member under a name**, which starts as an empty value. -/
def updateMember (shape : Schema) (name : String) (change : Json → Json)
    (members : List (String × Json)) : List (String × Json) :=
  Entries.insert name (change ((Entries.get? name members).getD shape.emptyValue)) members

/-- **Change the item at a position**, growing the list as far as needed. -/
def updateItem (shape : Schema) (position : Nat) (change : Json → Json)
    (items : List Json) : List Json :=
  let items := shape.grow position items
  items.set position (change (items.getD position shape.emptyValue))

/-- Updates of one member compose. -/
theorem updateMember_updateMember (shape : Schema) (name : String) (f g : Json → Json)
    (members : List (String × Json)) :
    shape.updateMember name f (shape.updateMember name g members)
      = shape.updateMember name (f ∘ g) members := by
  simp [updateMember, Entries.insert_insert]

/-- Updates of different members commute. -/
theorem updateMember_comm {a b : String} (hne : a ≠ b) (s t : Schema)
    (f g : Json → Json) (members : List (String × Json)) :
    s.updateMember a f (t.updateMember b g members)
      = t.updateMember b g (s.updateMember a f members) := by
  rw [updateMember, updateMember, updateMember, updateMember,
    Entries.get?_insert_of_ne hne, Entries.get?_insert_of_ne hne.symm,
    Entries.insert_comm hne]

theorem length_grow (shape : Schema) (position : Nat) (items : List Json) :
    (shape.grow position items).length = max items.length (position + 1) := by
  simp only [grow, List.length_append, List.length_replicate]
  omega

/-- Growing keeps the items that are there. -/
theorem getElem?_grow {items : List Json} {i : Nat} {v : Json} (h : items[i]? = some v)
    (shape : Schema) (position : Nat) : (shape.grow position items)[i]? = some v := by
  rw [grow, List.getElem?_append_left (List.getElem?_eq_some_iff.1 h).1, h]

/-- A grown list has an item at every position that it was to reach. -/
theorem getElem?_grow_of_le (shape : Schema) {i position : Nat} (h : i ≤ position)
    (items : List Json) :
    (shape.grow position items)[i]? = some (items.getD i shape.emptyValue) := by
  rw [grow, List.getElem?_append]
  split
  · rename_i hlt
    simp [List.getD, hlt]
  · rename_i hge
    rw [List.getElem?_replicate, if_pos (by omega), List.getD, List.getElem?_eq_none (by omega)]
    rfl

/-- **What stands at a position** after an update: the changed item at its own
position, the old items elsewhere, and empty values in a gap. -/
theorem getElem?_updateItem (shape : Schema) (position : Nat) (change : Json → Json)
    (items : List Json) (i : Nat) :
    (shape.updateItem position change items)[i]? =
      if i = position then some (change (items.getD position shape.emptyValue))
      else if i < position then some (items.getD i shape.emptyValue)
      else items[i]? := by
  rw [updateItem, List.getElem?_set]
  split
  · rename_i heq
    subst heq
    rw [if_pos (by rw [length_grow]; omega), if_pos rfl, List.getD,
      shape.getElem?_grow_of_le (Nat.le_refl _)]
    rfl
  · rename_i hne
    rw [if_neg (Ne.symm hne)]
    split
    · exact shape.getElem?_grow_of_le (by omega) items
    · rw [grow, List.getElem?_append]
      split
      · rfl
      · rw [List.getElem?_replicate, if_neg (by omega), List.getElem?_eq_none (by omega)]

theorem getD_updateItem (shape : Schema) (position : Nat) (change : Json → Json)
    (items : List Json) (i : Nat) :
    (shape.updateItem position change items).getD i shape.emptyValue =
      if i = position then change (items.getD position shape.emptyValue)
      else items.getD i shape.emptyValue := by
  rw [List.getD, getElem?_updateItem]
  split
  · rfl
  · split
    · rfl
    · rfl

/-- Updates of one item compose. -/
theorem updateItem_updateItem (shape : Schema) (position : Nat) (f g : Json → Json)
    (items : List Json) :
    shape.updateItem position f (shape.updateItem position g items)
      = shape.updateItem position (f ∘ g) items := by
  apply List.ext_getElem?
  intro i
  rw [getElem?_updateItem, getElem?_updateItem, getElem?_updateItem, getD_updateItem,
    getD_updateItem, if_pos rfl]
  split
  · rfl
  · split
    · rfl
    · rfl

/-- **Updates of different items commute**, also if both make the list grow. -/
theorem updateItem_comm {m n : Nat} (hne : m ≠ n) (shape : Schema) (f g : Json → Json)
    (items : List Json) :
    shape.updateItem m f (shape.updateItem n g items)
      = shape.updateItem n g (shape.updateItem m f items) := by
  apply List.ext_getElem?
  intro i
  simp only [getElem?_updateItem, getD_updateItem, if_neg hne, if_neg hne.symm]
  by_cases him : i = m
  · simp only [him, if_neg hne, if_true]
    split
    · rfl
    · rfl
  · by_cases hin : i = n
    · simp only [hin, if_neg hne.symm, if_true]
      split
      · rfl
      · rfl
    · simp only [if_neg him, if_neg hin]
      split
      · split
        · rfl
        · rfl
      · rfl

/-! ### The walk -/

/-- A step into a declared field. -/
theorem assign_field {fields : List (String × Schema)} {name : String} {shape : Schema}
    (h : Entries.get? name fields = some shape) (leaf : Json) (steps : List Step)
    (target : Json) :
    (object fields).assign leaf (.field name :: steps) target
      = .object (shape.updateMember name (shape.assign leaf steps) target.membersOrNone) := by
  unfold assign
  simp only [h]
  cases target with
  | object members => rfl
  | null => rfl
  | bool value => rfl
  | number value => rfl
  | string value => rfl
  | array items => rfl

/-- A step to an item. -/
theorem assign_index (item : Schema) (n : Nat) (leaf : Json) (steps : List Step)
    (target : Json) :
    (list item).assign leaf (.index n :: steps) target
      = .array (item.updateItem n (item.assign leaf steps) target.itemsOrNone) := rfl

theorem kindAt_field {fields : List (String × Schema)} {name : String} {shape : Schema}
    (h : Entries.get? name fields = some shape) (steps : List Step) :
    (object fields).kindAt (.field name :: steps) = shape.kindAt steps := by
  rw [kindAt, h]

theorem kindAt_index {item : Schema} {n : Nat} (h : n ≤ maxIndex) (steps : List Step) :
    (list item).kindAt (.index n :: steps) = item.kindAt steps := by
  rw [kindAt, if_neg (by omega)]

/-- No steps lead to a scalar only if the schema is one. -/
theorem eq_scalar_of_kindAt {schema : Schema} {kind : ScalarKind}
    (h : schema.kindAt [] = .ok kind) : schema = .scalar kind := by
  cases schema with
  | scalar k => rw [Except.ok.inj h]
  | object fields => cases h
  | list item => cases h

/-- A field leads to a scalar through an object that declares it. -/
theorem exists_fields_of_kindAt {schema : Schema} {name : String} {steps : List Step}
    {kind : ScalarKind} (h : schema.kindAt (.field name :: steps) = .ok kind) :
    ∃ fields shape, schema = .object fields ∧ Entries.get? name fields = some shape ∧
      shape.kindAt steps = .ok kind := by
  cases schema with
  | scalar k => cases h
  | list item => cases h
  | object fields =>
      rw [kindAt] at h
      split at h
      · cases h
      · rename_i shape hget
        exact ⟨fields, shape, rfl, hget, h⟩

/-- An index leads to a scalar through a list, if it is allowed. -/
theorem exists_item_of_kindAt {schema : Schema} {n : Nat} {steps : List Step}
    {kind : ScalarKind} (h : schema.kindAt (.index n :: steps) = .ok kind) :
    ∃ item, schema = .list item ∧ n ≤ maxIndex ∧ item.kindAt steps = .ok kind := by
  cases schema with
  | scalar k => cases h
  | object fields => cases h
  | list item =>
      rw [kindAt] at h
      split at h
      · cases h
      · rename_i hle
        exact ⟨item, rfl, Nat.not_lt.1 hle, h⟩

/-- Steps to a scalar do not go on to another. -/
theorem eq_of_prefix_of_kindAt {schema : Schema} {p q : List Step} {kp kq : ScalarKind}
    (hp : schema.kindAt p = .ok kp) (hq : schema.kindAt q = .ok kq) (h : q <+: p) : q = p := by
  obtain ⟨rest, rfl⟩ := h
  induction q generalizing schema with
  | nil =>
      obtain rfl := eq_scalar_of_kindAt hq
      cases rest with
      | nil => rfl
      | cons s rest => cases s <;> cases hp
  | cons s q ih =>
      cases s with
      | field name =>
          obtain ⟨fields, shape, rfl, hget, hq⟩ := exists_fields_of_kindAt hq
          rw [List.cons_append, kindAt_field hget] at hp
          rw [List.cons_append, ← ih hq hp]
      | index n =>
          obtain ⟨item, rfl, hn, hq⟩ := exists_item_of_kindAt hq
          rw [List.cons_append, kindAt_index hn] at hp
          rw [List.cons_append, ← ih hq hp]

/-- **Writes to different leaves commute.** -/
theorem assign_comm {schema : Schema} {p q : List Step} {kp kq : ScalarKind}
    (hp : schema.kindAt p = .ok kp) (hq : schema.kindAt q = .ok kq) (hne : p ≠ q)
    (a b target : Json) :
    schema.assign a p (schema.assign b q target)
      = schema.assign b q (schema.assign a p target) := by
  induction p generalizing schema q target with
  | nil => exact absurd (eq_of_prefix_of_kindAt hq hp List.nil_prefix) hne
  | cons s p ih =>
      cases q with
      | nil => exact absurd (eq_of_prefix_of_kindAt hp hq List.nil_prefix) hne.symm
      | cons s' q =>
          cases s with
          | field name =>
              obtain ⟨fields, shape, rfl, hget, hp'⟩ := exists_fields_of_kindAt hp
              cases s' with
              | index m => cases hq
              | field name' =>
                  obtain ⟨_, shape', heq, hget', hq'⟩ := exists_fields_of_kindAt hq
                  cases heq
                  simp only [assign_field hget, assign_field hget', Json.membersOrNone_object]
                  by_cases hname : name = name'
                  · subst hname
                    obtain rfl : shape = shape' := Option.some.inj (hget.symm.trans hget')
                    have hcomm : shape.assign a p ∘ shape.assign b q
                        = shape.assign b q ∘ shape.assign a p :=
                      funext fun target => ih hp' hq' (fun h => hne (by rw [h])) target
                    rw [updateMember_updateMember, updateMember_updateMember, hcomm]
                  · rw [updateMember_comm hname]
          | index n =>
              obtain ⟨item, rfl, -, hp'⟩ := exists_item_of_kindAt hp
              cases s' with
              | field name' => cases hq
              | index m =>
                  obtain ⟨_, heq, -, hq'⟩ := exists_item_of_kindAt hq
                  cases heq
                  simp only [assign_index, Json.itemsOrNone_array]
                  by_cases hindex : n = m
                  · subst hindex
                    have hcomm : item.assign a p ∘ item.assign b q
                        = item.assign b q ∘ item.assign a p :=
                      funext fun target => ih hp' hq' (fun h => hne (by rw [h])) target
                    rw [updateItem_updateItem, updateItem_updateItem, hcomm]
                  · rw [updateItem_comm hindex]

end Schema

end HttpDispatch
