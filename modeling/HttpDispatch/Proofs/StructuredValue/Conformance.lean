import HttpDispatch.Proofs.StructuredValue.Acceptance
import Mathlib.Data.List.Induction

/-!
# What a built value looks like

A value is built leaf by leaf, and `Schema.assign` returns its target as it is wherever the steps
leave the schema.  This module shows that it never has to: every write of an accepted leaf finds
the container that it goes on into, and adds to it.

## Main definitions

* `ScalarKind.Admits`, `Schema.Conforms` — the values of a kind, and of a schema
* `Json.at?` — what stands at some steps of a value
* `Schema.Writes` — a leaf is written at some steps, every container on the way kept
* `StructuredValue.lastLeaf?` — the leaf of the last accepted pair with some steps

## Main statements

* `Schema.writes_assign` — `assign` writes, given steps to a scalar and a value in the making
* `Schema.Writes.conforms`, `Schema.Writes.at?_self`, `Schema.Writes.at?_of_not_prefix` — what a
  write establishes, where it puts the leaf, and what it leaves alone
* `StructuredValue.build_conforms` — what is built from any pairs

### Design decisions

**A value in the making** (`Schema.Holds`) conforms or is the empty value of its shape.  For
objects and lists that is no difference, but a scalar starts as null, which no kind admits.  The
invariant of a run is that the value is one in the making; only its first leaf makes it conform.

**Placeholders in lists.**  Items below the largest index that was asked for may never be
assigned.  They stay the empty value of their shape, so `Schema.Conforms` allows that for items,
and for nothing else.
-/

namespace HttpDispatch

/-! ### Values of a kind -/

/-- An integer of some width, two's complement. -/
def Json.IsInteger (bits : Nat) (v : Json) : Prop :=
  ∃ n : Int, -(Nat.pow 2 (bits - 1) : Int) ≤ n ∧ n < Nat.pow 2 (bits - 1) ∧ v = .ofInt n

/-- The double nearest to a decimal that is finite in a format. -/
def Json.IsReal (format : BinaryFormat) (v : Json) : Prop :=
  ∃ negative decimal magnitude, (format.ofDecimal decimal).isSome = true ∧
    binary64.ofDecimal decimal = some magnitude ∧ v = .number (.double ⟨negative, magnitude⟩)

/-- **A signed numeral is within its width.** -/
theorem Numeral.bounds_of_signed? {bits : Nat} {cs : List Char} {n : Int}
    (h : signed? bits cs = some n) :
    -(Nat.pow 2 (bits - 1) : Int) ≤ n ∧ n < Nat.pow 2 (bits - 1) := by
  -- however the digits are read, the same check follows
  have checked (read : Option Int) (h : (read.bind fun z =>
      if -(Nat.pow 2 (bits - 1) : Int) ≤ z ∧ z < Nat.pow 2 (bits - 1) then some z else none)
        = some n) : -(Nat.pow 2 (bits - 1) : Int) ≤ n ∧ n < Nat.pow 2 (bits - 1) := by
    obtain ⟨z, -, hz⟩ := Option.bind_eq_some_iff.1 h
    split at hz
    · rename_i hbounds
      cases hz
      exact hbounds
    · cases hz
  unfold signed? at h
  split at h
  · exact checked _ h
  · exact checked _ h
  · exact checked _ h

namespace ScalarKind

/-- **The values of a kind.** -/
def Admits : ScalarKind → Json → Prop
  | string, v => ∃ text, v = .string text
  | integer, v => v.IsInteger 32
  | long, v => v.IsInteger 64
  | float, v => v.IsReal binary32
  | double, v => v.IsReal binary64

/-- A value of a kind is a text or a number: in particular, it is not null and no container. -/
theorem Admits.exists_eq {kind : ScalarKind} {v : Json} (h : kind.Admits v) :
    (∃ text, v = .string text) ∨ ∃ n, v = .number n := by
  cases kind with
  | string => exact .inl h
  | integer | long =>
      obtain ⟨n, -, -, rfl⟩ := h
      exact .inr ⟨_, rfl⟩
  | float | double =>
      obtain ⟨negative, decimal, magnitude, -, -, rfl⟩ := h
      exact .inr ⟨_, rfl⟩

theorem Admits.ne_null {kind : ScalarKind} {v : Json} (h : kind.Admits v) : v ≠ .null := by
  rintro rfl
  rcases h.exists_eq with ⟨text, h⟩ | ⟨n, h⟩
  · cases h
  · cases h

theorem isInteger_of_coerceInt {kind : ScalarKind} {bits : Nat} {raw : String} {v : Json}
    (h : kind.coerceInt bits raw = .ok v) : v.IsInteger bits := by
  unfold coerceInt at h
  split at h
  · rename_i n hn
    cases h
    obtain ⟨hlow, hhigh⟩ := Numeral.bounds_of_signed? hn
    exact ⟨n, hlow, hhigh, rfl⟩
  · cases h

theorem isReal_of_coerceReal {kind : ScalarKind} {format : BinaryFormat} {raw : String} {v : Json}
    (h : kind.coerceReal format raw = .ok v) : v.IsReal format := by
  unfold coerceReal at h
  split at h
  · cases h
  · rename_i negative decimal hparse
    split at h
    · rename_i narrow magnitude hnarrow hmagnitude
      cases h
      exact ⟨negative, decimal, magnitude, by rw [hnarrow]; rfl, hmagnitude, rfl⟩
    · cases h
  · cases h

/-- **A text is coerced to a value of the kind.** -/
theorem admits_of_coerce {kind : ScalarKind} {raw : String} {v : Json}
    (h : kind.coerce raw = .ok v) : kind.Admits v := by
  cases kind with
  | string => exact ⟨raw, (Except.ok.inj h).symm⟩
  | integer => exact isInteger_of_coerceInt h
  | long => exact isInteger_of_coerceInt h
  | float => exact isReal_of_coerceReal h
  | double => exact isReal_of_coerceReal h

end ScalarKind

/-! ### Values of a schema -/

/-- **What stands at some steps** of a value: a field leads into an object that has it, an index
into a list that is long enough. -/
def Json.at? : Json → List Step → Option Json
  | v, [] => some v
  | .object members, .field name :: steps =>
    (Entries.get? name members).bind fun child => child.at? steps
  | .array items, .index n :: steps => items[n]?.bind fun child => child.at? steps
  | _, _ => none

namespace Schema

/-- **A value conforms to a schema**: a scalar is of its kind, an object has declared members
only, and a list has at most one item for each index that is allowed, in which items that were
never assigned are placeholders. -/
inductive Conforms : Schema → Json → Prop
  | scalar {kind : ScalarKind} {v : Json} (admitted : kind.Admits v) : Conforms (.scalar kind) v
  | object {declared : List (String × Schema)} {members : List (String × Json)}
      (sorted : Entries.Sorted members)
      (known : ∀ e ∈ members, (Entries.get? e.1 declared).isSome = true)
      (shapes : ∀ e ∈ members, ∀ shape, Entries.get? e.1 declared = some shape →
        Conforms shape e.2) : Conforms (.object declared) (.object members)
  | list {item : Schema} {items : List Json} (bound : items.length ≤ maxIndex + 1)
      (shapes : ∀ v ∈ items, v ≠ item.emptyValue → Conforms item v) :
      Conforms (.list item) (.array items)

/-- **A value in the making**: it conforms, or is still empty. -/
def Holds (schema : Schema) (v : Json) : Prop := v = schema.emptyValue ∨ schema.Conforms v

theorem holds_emptyValue (schema : Schema) : schema.Holds schema.emptyValue := .inl rfl

/-- An object in the making conforms. -/
theorem Holds.exists_members {declared : List (String × Schema)} {v : Json}
    (h : (object declared).Holds v) :
    ∃ members, v = .object members ∧ (object declared).Conforms (.object members) := by
  rcases h with rfl | h
  · exact ⟨[], rfl, .object Entries.sorted_nil (by simp) (by simp)⟩
  · cases h with
    | object sorted known shapes => exact ⟨_, rfl, .object sorted known shapes⟩

/-- A list in the making conforms. -/
theorem Holds.exists_items {item : Schema} {v : Json} (h : (list item).Holds v) :
    ∃ items, v = .array items ∧ (list item).Conforms (.array items) := by
  rcases h with rfl | h
  · exact ⟨[], rfl, .list (by simp) (by simp)⟩
  · cases h with
    | list bound shapes => exact ⟨_, rfl, .list bound shapes⟩

/-- A scalar in the making is null or of its kind. -/
theorem Holds.scalar_cases {kind : ScalarKind} {v : Json} (h : (scalar kind).Holds v) :
    v = .null ∨ kind.Admits v := by
  rcases h with rfl | h
  · exact .inl rfl
  · cases h with
    | scalar admitted => exact .inr admitted

/-- The member that a walk goes on with is in the making. -/
theorem Conforms.holds_member {declared : List (String × Schema)} {members : List (String × Json)}
    (h : (Schema.object declared).Conforms (.object members)) {name : String} {shape : Schema}
    (hshape : Entries.get? name declared = some shape) :
    shape.Holds ((Entries.get? name members).getD shape.emptyValue) := by
  cases hget : Entries.get? name members with
  | none => exact shape.holds_emptyValue
  | some child =>
      cases h with
      | object sorted known shapes => exact .inr (shapes _ (Entries.mem_of_get? hget) _ hshape)

/-- The items of a list that has grown are in the making. -/
theorem Conforms.holds_of_mem_grow {item : Schema} {items : List Json}
    (h : (Schema.list item).Conforms (.array items)) {n : Nat} {v : Json}
    (hv : v ∈ item.grow n items) : item.Holds v := by
  cases h with
  | list bound shapes =>
      rcases List.mem_append.1 hv with hv | hv
      · exact Classical.or_iff_not_imp_left.2 (shapes v hv)
      · rw [List.eq_of_mem_replicate hv]
        exact item.holds_emptyValue

/-- The item that a walk goes on with is in the making. -/
theorem Conforms.holds_item {item : Schema} {items : List Json}
    (h : (Schema.list item).Conforms (.array items)) (n : Nat) :
    item.Holds (items.getD n item.emptyValue) :=
  h.holds_of_mem_grow (List.mem_of_getElem? (item.getElem?_grow_of_le (Nat.le_refl n) items))

theorem lt_length_grow (item : Schema) (n : Nat) (items : List Json) :
    n < (item.grow n items).length := by
  rw [length_grow]
  omega

/-- Nothing stands below an empty value. -/
theorem at?_emptyValue_cons (schema : Schema) (s : Step) (steps : List Step) :
    schema.emptyValue.at? (s :: steps) = none := by
  cases schema with
  | scalar kind => cases s <;> rfl
  | object declared => cases s <;> rfl
  | list item => cases s <;> rfl

/-- Nothing stands below a scalar. -/
theorem Holds.at?_scalar_cons {kind : ScalarKind} {v : Json} (h : (scalar kind).Holds v)
    (s : Step) (steps : List Step) : v.at? (s :: steps) = none := by
  rcases h.scalar_cases with rfl | h
  · cases s <;> rfl
  · rcases h.exists_eq with ⟨text, rfl⟩ | ⟨n, rfl⟩
    · cases s <;> rfl
    · cases s <;> rfl

/-- **Only a list has nulls**, where items were never assigned. -/
theorem Conforms.exists_index_of_at?_null {schema : Schema} {v : Json} (h : schema.Conforms v)
    {steps : List Step} (hnull : v.at? steps = some .null) :
    ∃ front n, steps = front ++ [.index n] := by
  induction h generalizing steps with
  | @scalar kind v admitted =>
      cases steps with
      | nil => exact absurd (Option.some.inj hnull) admitted.ne_null
      | cons s steps =>
          rw [Holds.at?_scalar_cons (.inr (.scalar admitted))] at hnull
          cases hnull
  | @object declared members _ known _ ih =>
      match steps, hnull with
      | .field name :: steps, hnull =>
          obtain ⟨child, hchild, hnull⟩ := Option.bind_eq_some_iff.1 hnull
          have hmem := Entries.mem_of_get? hchild
          obtain ⟨shape, hshape⟩ := Option.isSome_iff_exists.1 (known _ hmem)
          obtain ⟨front, n, rfl⟩ := ih _ hmem shape hshape hnull
          exact ⟨.field name :: front, n, rfl⟩
  | @list item items _ _ ih =>
      match steps, hnull with
      | .index i :: steps, hnull =>
          obtain ⟨child, hchild, hnull⟩ := Option.bind_eq_some_iff.1 hnull
          by_cases hempty : child = item.emptyValue
          · -- a placeholder: the null is the item itself
            cases steps with
            | nil => exact ⟨[], i, rfl⟩
            | cons s steps =>
                rw [hempty, at?_emptyValue_cons] at hnull
                cases hnull
          · obtain ⟨front, n, rfl⟩ := ih child (List.mem_of_getElem? hchild) hempty hnull
            exact ⟨.index i :: front, n, rfl⟩

/-! ### One write -/

/-- **A leaf is written at some steps** of a value.  Every container on the way is there already,
or starts empty, and what a container has elsewhere stays; the leaf takes the place of null or
of another scalar of its kind. -/
inductive Writes (leaf : Json) : Schema → List Step → Json → Json → Prop
  | here {kind : ScalarKind} {old : Json} (place : old = .null ∨ kind.Admits old) :
      Writes leaf (.scalar kind) [] old leaf
  | field {declared : List (String × Schema)} {name : String} {shape : Schema}
      {steps : List Step} {members : List (String × Json)} {child : Json}
      (known : Entries.get? name declared = some shape)
      (below : Writes leaf shape steps ((Entries.get? name members).getD shape.emptyValue) child) :
      Writes leaf (.object declared) (.field name :: steps) (.object members)
        (.object (Entries.insert name child members))
  | index {item : Schema} {n : Nat} {steps : List Step} {items : List Json} {child : Json}
      (bound : n ≤ maxIndex)
      (below : Writes leaf item steps (items.getD n item.emptyValue) child) :
      Writes leaf (.list item) (.index n :: steps) (.array items)
        (.array ((item.grow n items).set n child))

variable {schema : Schema} {steps : List Step} {leaf target result : Json}

/-- **Assigning writes**, given steps to a scalar and a value in the making. -/
theorem writes_assign {kind : ScalarKind} (hkind : schema.kindAt steps = .ok kind)
    (htarget : schema.Holds target) (leaf : Json) :
    Writes leaf schema steps target (schema.assign leaf steps target) := by
  -- along the steps: what stands below a value in the making is in the making as well
  induction steps generalizing schema target with
  | nil =>
      obtain rfl := eq_scalar_of_kindAt hkind
      exact .here htarget.scalar_cases
  | cons s steps ih =>
      cases s with
      | field name =>
          obtain ⟨declared, shape, rfl, hshape, hkind⟩ := exists_fields_of_kindAt hkind
          obtain ⟨members, rfl, hmembers⟩ := htarget.exists_members
          rw [assign_field hshape]
          exact .field hshape (ih hkind (hmembers.holds_member hshape))
      | index n =>
          obtain ⟨item, rfl, hn, hkind⟩ := exists_item_of_kindAt hkind
          obtain ⟨items, rfl, hitems⟩ := htarget.exists_items
          rw [assign_index, updateItem, List.getD, item.getElem?_grow_of_le (Nat.le_refl n)]
          exact .index hn (ih hkind (hitems.holds_item n))

/-- A leaf of its kind is written into a value in the making, and the value conforms. -/
theorem Writes.conforms (h : Writes leaf schema steps target result) {kind : ScalarKind}
    (hkind : schema.kindAt steps = .ok kind) (hleaf : kind.Admits leaf)
    (htarget : schema.Holds target) : schema.Conforms result := by
  induction h with
  | here =>
      cases hkind
      exact .scalar hleaf
  | @field declared name shape steps members child known _ ih =>
      obtain ⟨_, heq, hmembers⟩ := htarget.exists_members
      cases heq
      rw [kindAt_field known] at hkind
      have hchild := ih hkind (hmembers.holds_member known)
      -- the child is the only member that may be new
      cases hmembers with
      | object sorted hknown shapes =>
          refine .object (Entries.sorted_insert name child sorted) (fun e he => ?_)
            fun e he shape' hshape' => ?_
          · rcases Entries.mem_insert he with rfl | he
            · rw [known]
              rfl
            · exact hknown e he
          · rcases Entries.mem_insert he with rfl | he
            · rw [known] at hshape'
              cases hshape'
              exact hchild
            · exact shapes e he shape' hshape'
  | @index item n steps items child bound _ ih =>
      obtain ⟨_, heq, hitems⟩ := htarget.exists_items
      cases heq
      rw [kindAt_index bound] at hkind
      have hchild := ih hkind (hitems.holds_item n)
      -- the child is an item, and so are the placeholders that lead up to it
      refine .list ?_ fun v hv hempty => ?_
      · rw [List.length_set, length_grow]
        cases hitems with
        | list hlength _ => omega
      · rcases List.mem_or_eq_of_mem_set hv with hv | rfl
        · exact (hitems.holds_of_mem_grow hv).resolve_left hempty
        · exact hchild

/-- The leaf stands where it was written. -/
theorem Writes.at?_self (h : Writes leaf schema steps target result) :
    result.at? steps = some leaf := by
  induction h with
  | here => rfl
  | field _ _ ih => rw [Json.at?, Entries.get?_insert_self, Option.bind_some, ih]
  | @index item n steps items child _ _ ih =>
      rw [Json.at?, List.getElem?_set_self (item.lt_length_grow n items), Option.bind_some, ih]

/-- **A write keeps all that it does not go through**: leaves and containers whose steps are not
the first ones of its own. -/
theorem Writes.at?_of_not_prefix (h : Writes leaf schema steps target result) {q : List Step}
    (hq : ¬ q <+: steps) {v : Json} (hv : target.at? q = some v) : result.at? q = some v := by
  induction h generalizing q v with
  | here place =>
      cases q with
      | nil => exact absurd List.nil_prefix hq
      | cons s q =>
          have hscalar : (scalar _).Holds _ := place.imp_right .scalar
          rw [hscalar.at?_scalar_cons] at hv
          cases hv
  | @field declared name shape steps members child _ _ ih =>
      match q, hq, hv with
      | [], hq, _ => exact absurd List.nil_prefix hq
      | .field other :: q, hq, hv =>
          rw [Json.at?] at hv ⊢
          by_cases hname : other = name
          · subst hname
            obtain ⟨old, hold, hv⟩ := Option.bind_eq_some_iff.1 hv
            rw [Entries.get?_insert_self, Option.bind_some]
            refine ih (fun hprefix => hq (List.cons_prefix_cons.2 ⟨rfl, hprefix⟩)) ?_
            rw [hold]
            exact hv
          · rw [Entries.get?_insert_of_ne hname]
            exact hv
  | @index item n steps items child _ _ ih =>
      match q, hq, hv with
      | [], hq, _ => exact absurd List.nil_prefix hq
      | .index m :: q, hq, hv =>
          obtain ⟨old, hold, hv⟩ := Option.bind_eq_some_iff.1 hv
          have hgrown := getElem?_grow hold item n
          rw [Json.at?]
          by_cases hindex : m = n
          · subst hindex
            rw [List.getElem?_set_self (item.lt_length_grow m items), Option.bind_some]
            refine ih (fun hprefix => hq (List.cons_prefix_cons.2 ⟨rfl, hprefix⟩)) ?_
            rw [List.getD, hold]
            exact hv
          · rw [List.getElem?_set_ne (Ne.symm hindex), hgrown]
            exact hv

/-! ### A run of writes -/

/-- What is found last is there. -/
theorem mem_of_lookup_reverse {leaves : List (List Step × Json)}
    (h : leaves.reverse.lookup steps = some leaf) : (steps, leaf) ∈ leaves := by
  obtain ⟨before, after, hreverse, -⟩ := List.lookup_eq_some_iff.1 h
  rw [← List.mem_reverse, hreverse]
  simp

/-- **A leaf that may be written**: its steps lead to a scalar, and it is one of that kind. -/
def Welcomes (schema : Schema) (l : List Step × Json) : Prop :=
  ∃ kind, schema.kindAt l.1 = .ok kind ∧ kind.Admits l.2

/-- A run leaves a value in the making. -/
theorem holds_writeAll {leaves : List (List Step × Json)} (h : ∀ l ∈ leaves, schema.Welcomes l)
    (htarget : schema.Holds target) : schema.Holds (schema.writeAll target leaves) := by
  induction leaves generalizing target with
  | nil => exact htarget
  | cons l leaves ih =>
      rw [List.forall_mem_cons] at h
      obtain ⟨⟨kind, hkind, hadmits⟩, h⟩ := h
      rw [writeAll_cons]
      exact ih h (.inr ((writes_assign hkind htarget l.2).conforms hkind hadmits htarget))

/-- **The value of a run conforms** as soon as there is a leaf. -/
theorem conforms_writeAll {leaves : List (List Step × Json)} (h : ∀ l ∈ leaves, schema.Welcomes l)
    (htarget : schema.Holds target) (hne : leaves ≠ []) :
    schema.Conforms (schema.writeAll target leaves) := by
  obtain ⟨front, l, rfl⟩ := (List.eq_nil_or_concat leaves).resolve_left hne
  rw [List.concat_eq_append, List.forall_mem_append, List.forall_mem_singleton] at h
  obtain ⟨hfront, kind, hkind, hadmits⟩ := h
  have hholds := holds_writeAll hfront htarget
  rw [List.concat_eq_append, writeAll_concat]
  exact (writes_assign hkind hholds l.2).conforms hkind hadmits hholds

/-- **The last leaf written at some steps is found there**: the later ones are at other steps. -/
theorem at?_writeAll {leaves : List (List Step × Json)} (h : ∀ l ∈ leaves, schema.Welcomes l)
    (htarget : schema.Holds target) (hlast : leaves.reverse.lookup steps = some leaf) :
    (schema.writeAll target leaves).at? steps = some leaf := by
  -- from the end: the last write decides, or it keeps what the ones before it have left there
  induction leaves using List.reverseRecOn with
  | nil => cases hlast
  | append_singleton leaves l ih =>
      rw [List.forall_mem_append, List.forall_mem_singleton] at h
      obtain ⟨hfront, kind, hkind, -⟩ := h
      have hwrites := writes_assign hkind (holds_writeAll hfront htarget) l.2
      rw [writeAll_concat]
      rw [List.reverse_append, List.reverse_singleton, List.singleton_append,
        List.lookup_cons] at hlast
      by_cases hsteps : steps = l.1
      · subst hsteps
        rw [beq_self_eq_true] at hlast
        cases hlast
        exact hwrites.at?_self
      · rw [beq_eq_false_iff_ne.2 hsteps] at hlast
        obtain ⟨kind', hkind', -⟩ := hfront _ (mem_of_lookup_reverse hlast)
        exact hwrites.at?_of_not_prefix
          (fun hprefix => hsteps (eq_of_prefix_of_kindAt hkind hkind' hprefix)) (ih hfront hlast)

end Schema

/-! ### What is built -/

namespace StructuredValue

/-- **The leaf of the last accepted pair** with some steps. -/
def lastLeaf? (schema : Schema) (pairs : List (String × String)) (steps : List Step) :
    Option Json :=
  (accepted schema pairs).reverse.lookup steps

/-- Where there is an accepted pair, there is a last one. -/
theorem Accepts.exists_lastLeaf? {schema : Schema} {pairs : List (String × String)}
    {e : String × String} {steps : List Step} {leaf : Json}
    (h : Accepts schema e.1 e.2 steps leaf) (he : e ∈ pairs) :
    ∃ last, lastLeaf? schema pairs steps = some last := by
  have hmem : (steps, leaf) ∈ accepted schema pairs := mem_accepted_iff.2 ⟨e, he, h⟩
  rw [← Option.isSome_iff_exists, ← Option.ne_none_iff_isSome, lastLeaf?]
  intro hnone
  simpa using List.lookup_eq_none_iff.1 hnone _ (List.mem_reverse.2 hmem)

theorem Accepts.welcomes {schema : Schema} {path raw : String} {steps : List Step} {leaf : Json}
    (h : Accepts schema path raw steps leaf) : schema.Welcomes (steps, leaf) := by
  obtain ⟨-, kind, hkind, hcoerce⟩ := h
  exact ⟨kind, hkind, ScalarKind.admits_of_coerce hcoerce⟩

theorem welcomes_of_mem_accepted {schema : Schema} {pairs : List (String × String)} :
    ∀ l ∈ accepted schema pairs, schema.Welcomes l := by
  intro l hl
  obtain ⟨e, -, h⟩ := mem_accepted_iff.1 hl
  exact h.welcomes

/-- **What some pairs have built**: a value of the schema that has the last leaf at the steps of
every accepted pair, and null at none of them. -/
structure Built (schema : Schema) (pairs : List (String × String)) (v : Json) : Prop where
  /-- The value conforms. -/
  conforms : schema.Conforms v
  /-- The steps of an accepted pair lead to the leaf of the last such pair. -/
  last : ∀ e ∈ pairs, ∀ steps leaf, Accepts schema e.1 e.2 steps leaf →
    ∃ last, lastLeaf? schema pairs steps = some last ∧ v.at? steps = some last
  /-- Null is an item of a list that no accepted pair has assigned. -/
  unassigned : ∀ steps, v.at? steps = some .null →
    (∃ front n, steps = front ++ [.index n]) ∧
      ∀ e ∈ pairs, ∀ leaf, ¬ Accepts schema e.1 e.2 steps leaf

/-- What pairs have built so far is in the making. -/
theorem holds_build (schema : Schema) (pairs : List (String × String)) :
    schema.Holds ((build schema pairs).getD schema.emptyValue) := by
  rw [build_eq]
  split
  · exact schema.holds_emptyValue
  · exact Schema.holds_writeAll welcomes_of_mem_accepted schema.holds_emptyValue

theorem built_of_build_eq_some {schema : Schema} {pairs : List (String × String)} {v : Json}
    (h : build schema pairs = some v) : Built schema pairs v := by
  rw [build_eq] at h
  split at h
  · cases h
  · rename_i hne
    cases h
    have hconforms :=
      Schema.conforms_writeAll welcomes_of_mem_accepted schema.holds_emptyValue hne
    have hlast {steps : List Step} {leaf : Json}
        (h : lastLeaf? schema pairs steps = some leaf) :
        (schema.writeAll schema.emptyValue (accepted schema pairs)).at? steps = some leaf :=
      Schema.at?_writeAll welcomes_of_mem_accepted schema.holds_emptyValue h
    refine ⟨hconforms, fun e he steps leaf haccepts => ?_,
      fun steps hnull => ⟨hconforms.exists_index_of_at?_null hnull, fun e he leaf haccepts => ?_⟩⟩
    · obtain ⟨last, h⟩ := haccepts.exists_lastLeaf? he
      exact ⟨last, h, hlast h⟩
    · -- the last leaf would be null, which no kind admits
      obtain ⟨last, h⟩ := haccepts.exists_lastLeaf? he
      obtain ⟨kind, -, hadmits⟩ := welcomes_of_mem_accepted _ (Schema.mem_of_lookup_reverse h)
      rw [hlast h] at hnull
      exact hadmits.ne_null (Option.some.inj hnull)

/-- One more accepted pair writes its leaf. -/
theorem build_concat {schema : Schema} {path raw : String} {steps : List Step} {leaf : Json}
    (h : Accepts schema path raw steps leaf) (pairs : List (String × String)) :
    build schema (pairs ++ [(path, raw)])
      = some (schema.assign leaf steps ((build schema pairs).getD schema.emptyValue)) := by
  have hleaf : leaf? schema (path, raw) = some (steps, leaf) := leaf?_eq_some_iff.2 h
  rw [build, List.foldl_append]
  exact (put_eq schema _ (path, raw)).trans (by rw [hleaf]; rfl)

/-- **Pairs build a value of the schema.**  There is none exactly if no pair is accepted; else it
conforms and has the leaf of the last pair at the steps of every accepted one.  Each accepted pair
writes its leaf into what the pairs before it have built, and keeps all that stands there apart
from the containers on its way, which it adds to. -/
theorem build_conforms (schema : Schema) (pairs : List (String × String)) :
    (build schema pairs = none ↔
      ∀ e ∈ pairs, ∀ steps leaf, ¬ Accepts schema e.1 e.2 steps leaf) ∧
    (∀ v, build schema pairs = some v → Built schema pairs v) ∧
    ∀ path raw steps leaf, Accepts schema path raw steps leaf →
      ∃ v, build schema (pairs ++ [(path, raw)]) = some v ∧
        Schema.Writes leaf schema steps ((build schema pairs).getD schema.emptyValue) v ∧
        ∀ q kept, ¬ q <+: steps →
          ((build schema pairs).getD schema.emptyValue).at? q = some kept →
          v.at? q = some kept := by
  refine ⟨?_, fun v => built_of_build_eq_some, fun path raw steps leaf h => ?_⟩
  · rw [build_eq_none_iff]
    exact forall₂_congr fun e _ => exists_error_iff
  · obtain ⟨kind, hkind, -⟩ := h.welcomes
    have hwrites := Schema.writes_assign hkind (holds_build schema pairs) leaf
    exact ⟨_, build_concat h pairs, hwrites, fun q kept hq => hwrites.at?_of_not_prefix hq⟩

/-- A table of integers with a gap, a cell that is sent twice, an index that is no number and a
text that is no integer. -/
theorem build_conforms_table :
    let table : Schema := .object [("rows", .list (.list (.scalar .integer)))]
    let pairs := [("rows[1][2]", "7"), ("rows[x][0]", "1"), ("rows[01].[2]", "8"),
      ("rows[0][0]", "many")]
    let v := Json.object [("rows", .array [.array [], .array [.null, .null,
      .number (.integer 8)]])]
    build table pairs = some v ∧ Built table pairs v ∧
      ∃ w, build table (pairs ++ [("rows[1][0]", "6")]) = some w ∧
        w.at? [.field "rows", .index 1, .index 2] = some (.number (.integer 8)) := by
  intro table pairs v
  obtain ⟨-, built, extended⟩ := build_conforms table pairs
  have hbuild : build table pairs = some v := by decide +kernel
  have haccepts : Accepts table "rows[1][0]" "6" [.field "rows", .index 1, .index 0]
      (.number (.integer 6)) := accept_eq_ok_iff.1 (by decide +kernel)
  obtain ⟨w, hw, -, hkept⟩ := extended _ _ _ _ haccepts
  exact ⟨hbuild, built v hbuild, w, hw, hkept _ _ (by decide) (by rw [hbuild]; rfl)⟩

end StructuredValue

end HttpDispatch
