import HttpDispatch.Proofs.Resolution.Slots
import Mathlib.Data.List.Nodup

/-!
# Every key once

A resolution takes values out of one map in three passes, and the names of parameters may stand in
each other's way: they may be equal, and one may begin with another.  Even so no key is used twice
and none is lost.  `fate` says of every key which parameter uses it, if one does: the first simple
parameter of this name; else, where a lone structured parameter takes everything, that one; else
the first structured parameter whose name leads the key.

`sharesOut_passes` says that the `passes` of `resolve` do just this.  The keys with the same fate
are a `block`, the blocks together are the map, and every pass works on its own blocks: what a slot
is made of, what a structured parameter is given and what is left over.

### Design notes

**Names that are taken off.**  `Becomes` is a key with the name of a parameter taken off.  A key
that the name does not lead stays whole.  It is given to a structured parameter only where this
one takes everything.

**Positions, not names.**  Of two parameters with one name the second finds nothing, so a fate
holds a position.
-/

namespace HttpDispatch

/-! ### Blocks of a list -/

section

variable {α β : Type}

/-- **A list is its blocks**: the elements with the same label, for all labels. -/
theorem perm_flatMap_filter [DecidableEq β] (label : α → β) {labels : List β} {xs : List α}
    (hlabels : labels.Nodup) (hxs : xs.Nodup) (h : ∀ x ∈ xs, label x ∈ labels) :
    (labels.flatMap fun b => xs.filter fun x => label x = b).Perm xs := by
  refine (List.perm_ext_iff_of_nodup ?_ hxs).2 fun x => ?_
  · refine List.nodup_flatMap.2 ⟨fun b _ => hxs.filter _, hlabels.imp fun hne => ?_⟩
    intro x hx hx'
    simp only [List.mem_filter, decide_eq_true_eq] at hx hx'
    exact hne (hx.2.symm.trans hx'.2)
  · simp only [List.mem_flatMap, List.mem_filter, decide_eq_true_eq]
    constructor
    · rintro ⟨-, -, hx, -⟩
      exact hx
    · exact fun hx => ⟨label x, h x hx, hx, rfl⟩

/-- What is picked and changed, beside what is picked. -/
theorem forall₂_filter_filterMap {R : α → β → Prop} {pick : α → Bool} {change : α → Option β}
    {xs : List α} (hpick : ∀ x ∈ xs, pick x = true → ∃ y, change x = some y ∧ R x y)
    (hdrop : ∀ x ∈ xs, pick x = false → change x = none) :
    List.Forall₂ R (xs.filter pick) (xs.filterMap change) := by
  induction xs with
  | nil => exact .nil
  | cons x xs ih =>
      obtain ⟨hpickx, hpicks⟩ := List.forall_mem_cons.1 hpick
      obtain ⟨hdropx, hdrops⟩ := List.forall_mem_cons.1 hdrop
      cases hx : pick x with
      | true =>
          obtain ⟨y, hy, hxy⟩ := hpickx hx
          rw [List.filter_cons_of_pos hx, List.filterMap_cons_some hy]
          exact .cons hxy (ih hpicks hdrops)
      | false =>
          rw [List.filter_cons_of_neg (by simp [hx]), List.filterMap_cons_none (hdropx hx)]
          exact ih hpicks hdrops

end

namespace Resolution

/-! ### The fate of a key -/

/-- **What becomes of a key.** -/
inductive Fate where
  /-- The simple parameter at this position consumes it. -/
  | consumed (position : Nat)
  /-- It goes to the structured parameter at this position, among the structured ones. -/
  | attributed (position : Nat)
  /-- No parameter takes it. -/
  | leftOver
  deriving DecidableEq

/-- The first simple parameter of a name, by its position. -/
def consumer? (parameters : List Parameter) (key : String) : Option Nat :=
  parameters.findIdx? fun p => p.isSimple && p.name == key

/-- **The fate of a key** among some parameters. -/
def fate (parameters : List Parameter) (values : SortedMap String) (key : String) : Fate :=
  match consumer? parameters key with
  | some position => .consumed position
  | none =>
    if TakesAll parameters values then .attributed 0
    else match leader? (structuredNames parameters) key with
      | some position => .attributed position
      | none => .leftOver

/-- **The entries with a fate**, in key order. -/
def block (parameters : List Parameter) (values : SortedMap String) (f : Fate) :
    List (String × String) :=
  values.entries.filter fun e => fate parameters values e.1 = f

section

variable {parameters : List Parameter} {values : SortedMap String} {key : String}
  {position : Nat}

/-- **The four ways** in which a key can go. -/
theorem fate_cases (parameters : List Parameter) (values : SortedMap String) (key : String) :
    (∃ first, consumer? parameters key = some first ∧
        fate parameters values key = .consumed first) ∨
      consumer? parameters key = none ∧
        (TakesAll parameters values ∧ fate parameters values key = .attributed 0 ∨
          ¬TakesAll parameters values ∧
            ((∃ first, leader? (structuredNames parameters) key = some first ∧
                fate parameters values key = .attributed first) ∨
              leader? (structuredNames parameters) key = none ∧
                fate parameters values key = .leftOver)) := by
  cases hconsumer : consumer? parameters key with
  | some first => simp [fate, hconsumer]
  | none =>
      by_cases htakes : TakesAll parameters values
      · simp [fate, hconsumer, htakes]
      · cases hleader : leader? (structuredNames parameters) key <;>
          simp [fate, hconsumer, htakes, hleader]

theorem fate_eq_consumed_iff :
    fate parameters values key = .consumed position ↔
      consumer? parameters key = some position := by
  rcases fate_cases parameters values key with
    ⟨first, hfirst, hfate⟩ | ⟨hnone, ⟨-, hfate⟩ | ⟨-, ⟨first, -, hfate⟩ | ⟨-, hfate⟩⟩⟩
  · simp [hfirst, hfate]
  all_goals simp [hnone, hfate]

theorem fate_eq_attributed_iff :
    fate parameters values key = .attributed position ↔
      consumer? parameters key = none ∧
        (TakesAll parameters values ∧ position = 0 ∨
          ¬TakesAll parameters values ∧
            leader? (structuredNames parameters) key = some position) := by
  rcases fate_cases parameters values key with ⟨first, hfirst, hfate⟩ |
    ⟨hnone, ⟨htakes, hfate⟩ | ⟨htakes, ⟨first, hleader, hfate⟩ | ⟨hleader, hfate⟩⟩⟩
  · simp [hfirst, hfate]
  · simp [hnone, htakes, hfate, eq_comm]
  all_goals simp [hnone, htakes, hleader, hfate]

theorem fate_eq_leftOver_iff :
    fate parameters values key = .leftOver ↔
      consumer? parameters key = none ∧ ¬TakesAll parameters values ∧
        leader? (structuredNames parameters) key = none := by
  rcases fate_cases parameters values key with ⟨first, hfirst, hfate⟩ |
    ⟨hnone, ⟨htakes, hfate⟩ | ⟨htakes, ⟨first, hleader, hfate⟩ | ⟨hleader, hfate⟩⟩⟩
  · simp [hfirst, hfate]
  · simp [htakes, hfate]
  all_goals simp [hnone, htakes, hleader, hfate]

/-! ### Blocks -/

/-- **The fates there can be** among some parameters. -/
def fates (parameters : List Parameter) : List Fate :=
  (List.range parameters.length).map .consumed ++
    ((List.range (structuredNames parameters).length).map .attributed ++ [.leftOver])

theorem nodup_fates (parameters : List Parameter) : (fates parameters).Nodup := by
  have hconsumed : ((List.range parameters.length).map Fate.consumed).Nodup :=
    List.nodup_range.map fun _ _ heq => Fate.consumed.inj heq
  have hattributed : ((List.range (structuredNames parameters).length).map Fate.attributed).Nodup :=
    List.nodup_range.map fun _ _ heq => Fate.attributed.inj heq
  refine List.nodup_append.2 ⟨hconsumed, List.nodup_append.2 ⟨hattributed, by simp, ?_⟩, ?_⟩
  · simp
  · simp only [List.mem_map, List.mem_append, List.mem_singleton]
    rintro f ⟨position, -, rfl⟩ g (⟨position', -, rfl⟩ | rfl)
    · exact Fate.noConfusion
    · exact Fate.noConfusion

theorem fate_mem_fates (parameters : List Parameter) (values : SortedMap String) (key : String) :
    fate parameters values key ∈ fates parameters := by
  rcases fate_cases parameters values key with ⟨first, hfirst, hfate⟩ |
    ⟨-, ⟨htakes, hfate⟩ | ⟨-, ⟨first, hleader, hfate⟩ | ⟨-, hfate⟩⟩⟩
  · obtain ⟨hlt, -⟩ := List.findIdx?_eq_some_iff_getElem.1 hfirst
    simp [hfate, fates, hlt]
  · simp [hfate, fates, htakes.1]
  · obtain ⟨hlt, -⟩ := List.findIdx?_eq_some_iff_getElem.1 hleader
    simp [hfate, fates, hlt]
  · simp [hfate, fates]

/-- Keys without a consumer are unclaimed. -/
theorem unclaimed_eq_filterKeys (parameters : List Parameter) (values : SortedMap String) :
    unclaimed parameters values
      = values.filterKeys fun key => consumer? parameters key = none := by
  unfold unclaimed consumer?
  congr 1
  funext key
  rw [Bool.eq_iff_iff]
  simp [List.findIdx?_eq_none_iff]

/-- A block of unclaimed keys. -/
theorem block_eq_filter {f : Fate} (keep : String → Bool)
    (h : ∀ key, fate parameters values key = f ↔
      consumer? parameters key = none ∧ keep key = true) :
    block parameters values f = (unclaimed parameters values).entries.filter fun e => keep e.1 := by
  rw [unclaimed_eq_filterKeys, SortedMap.filterKeys, List.filter_filter, block]
  refine List.filter_congr fun e _ => ?_
  simp [h, Bool.and_comm]

/-- A parameter that takes everything has one block, which is all that is unclaimed. -/
theorem block_of_takesAll (h : TakesAll parameters values) :
    block parameters values (.attributed 0) = (unclaimed parameters values).entries ∧
      block parameters values .leftOver = [] := by
  constructor
  · rw [block_eq_filter (fun _ => true) fun key => by simp [fate_eq_attributed_iff, h],
      List.filter_true]
  · rw [block_eq_filter (fun _ => false) fun key => by simp [fate_eq_leftOver_iff, h],
      List.filter_false]

/-- Otherwise it depends on the leaders. -/
theorem block_of_not_takesAll (h : ¬TakesAll parameters values) (position : Nat) :
    block parameters values (.attributed position)
        = (unclaimed parameters values).entries.filter (fun e =>
            leader? (structuredNames parameters) e.1 = some position) ∧
      block parameters values .leftOver
        = (unclaimed parameters values).entries.filter fun e =>
            (leader? (structuredNames parameters) e.1).isNone := by
  constructor
  · exact block_eq_filter (fun key => leader? (structuredNames parameters) key = some position)
      fun key => by simp [fate_eq_attributed_iff, h]
  · exact block_eq_filter (fun key => (leader? (structuredNames parameters) key).isNone)
      fun key => by simp [fate_eq_leftOver_iff, h]

/-- A parameter consumes the key that is its name, unless one before it does. -/
theorem consumer?_eq_some_iff {p : Parameter} (hp : parameters[position]? = some p)
    (hsimple : p.isSimple = true) :
    consumer? parameters key = some position ↔
      key = p.name ∧ consumer? (parameters.take position) key = none := by
  obtain ⟨hlt, rfl⟩ := List.getElem?_eq_some_iff.1 hp
  simp only [consumer?, List.findIdx?_eq_some_iff_getElem, List.findIdx?_eq_none_iff, hsimple,
    Bool.true_and, beq_iff_eq, List.mem_take_iff_getElem]
  constructor
  · rintro ⟨_, hname, hbefore⟩
    refine ⟨hname.symm, ?_⟩
    rintro q ⟨i, hi, rfl⟩
    exact eq_false_of_ne_true (hbefore i (by omega))
  · rintro ⟨hname, hbefore⟩
    refine ⟨hlt, hname.symm, fun i hi => ?_⟩
    exact ne_true_of_eq_false (hbefore _ ⟨i, by omega, rfl⟩)

theorem block_consumed {p : Parameter} (hp : parameters[position]? = some p)
    (hsimple : p.isSimple = true) :
    block parameters values (.consumed position)
      = ((unclaimed (parameters.take position) values).get? p.name).toList.map (p.name, ·) := by
  rw [← SortedMap.filter_entries_eq, unclaimed_eq_filterKeys, SortedMap.filterKeys,
    List.filter_filter, block]
  refine List.filter_congr fun e _ => ?_
  simp [fate_eq_consumed_iff, consumer?_eq_some_iff hp hsimple]

/-- A key without a consumer is consumed at no position. -/
theorem consumer?_eq_none_iff_fate :
    consumer? parameters key = none ↔
      ∀ i < parameters.length, fate parameters values key ≠ .consumed i := by
  simp only [ne_eq, fate_eq_consumed_iff]
  constructor
  · intro hnone i _ hsome
    rw [hnone] at hsome
    cases hsome
  · intro h
    refine Option.eq_none_iff_forall_ne_some.2 fun i hsome => ?_
    obtain ⟨hlt, -⟩ := List.findIdx?_eq_some_iff_getElem.1 hsome
    exact h i hlt hsome

/-! ### What is given to a structured parameter -/

/-- **A key with a name taken off**, and at most one dot behind it.  A key that the name does not
lead stays whole. -/
inductive Becomes (name : String) : String → String → Prop
  /-- Nothing is left of the name itself. -/
  | whole : Becomes name name ""
  /-- A dot goes with the name. -/
  | dotted (path : String) : Becomes name (name ++ "." ++ path) path
  /-- A bracket stays. -/
  | bracketed (rest : String) : Becomes name (name ++ "[" ++ rest) ("[" ++ rest)
  /-- There is no name to take off. -/
  | unled {key : String} : ¬Leads name key → Becomes name key key

theorem becomes_of_relativePath? {name path : String} (h : relativePath? name key = some path) :
    Becomes name key path := by
  have hleads : Leads name key := isSome_relativePath?_iff.1 (Option.isSome_iff_exists.2 ⟨path, h⟩)
  rcases hleads with rfl | ⟨rest, rfl | rfl⟩
  · rw [relativePath?_self] at h
    cases h
    exact .whole
  · rw [relativePath?_dot] at h
    cases h
    exact .dotted _
  · rw [relativePath?_bracket] at h
    cases h
    exact .bracketed _

/-- **The leader of a key is the first name that leads it.** -/
theorem leader?_eq_some_iff {names : List String} {name : String}
    (hname : names[position]? = some name) :
    leader? names key = some position ↔
      Leads name key ∧
        ∀ i < position, ∀ earlier, names[i]? = some earlier → ¬Leads earlier key := by
  obtain ⟨hlt, rfl⟩ := List.getElem?_eq_some_iff.1 hname
  simp only [leader?, List.findIdx?_eq_some_iff_getElem, isSome_relativePath?_iff]
  constructor
  · rintro ⟨_, hleads, hbefore⟩
    refine ⟨hleads, fun i hi earlier hearlier => ?_⟩
    obtain ⟨_, rfl⟩ := List.getElem?_eq_some_iff.1 hearlier
    exact hbefore i hi
  · rintro ⟨hleads, hbefore⟩
    exact ⟨hlt, hleads, fun i hi => hbefore i hi _ (List.getElem?_eq_getElem (by omega))⟩

/-- **A structured parameter is given its block**, key by key. -/
theorem forall₂_ownPairs {name : String}
    (hname : (structuredNames parameters)[position]? = some name) :
    ∃ pairs, (ownPairs parameters values)[position]? = some pairs ∧
      List.Forall₂ (fun e pair => Becomes name e.1 pair.1 ∧ pair.2 = e.2)
        (block parameters values (.attributed position)) pairs := by
  obtain ⟨hlt, -⟩ := List.getElem?_eq_some_iff.1 hname
  by_cases htakes : TakesAll parameters values
  · have hzero : position = 0 := by
      have := htakes.1
      omega
    subst hzero
    refine ⟨(unclaimed parameters values).entries, by rw [ownPairs, if_pos htakes]; rfl, ?_⟩
    rw [(block_of_takesAll htakes).1]
    refine List.forall₂_same.2 fun e he => ⟨.unled ?_, rfl⟩
    exact relativePath?_eq_none_iff.1 (htakes.2.2 e.1
      (((unclaimed parameters values).mem_keys_iff e.1).2 ⟨e.2, he⟩) name
      (List.mem_of_getElem? hname))
  · refine ⟨share (structuredNames parameters) position name (unclaimed parameters values), ?_, ?_⟩
    · rw [ownPairs, if_neg htakes, shares, List.getElem?_mapIdx, hname]
      rfl
    · rw [(block_of_not_takesAll htakes position).1]
      refine forall₂_filter_filterMap (fun e _ hled => ?_) fun e _ hled => ?_
      · have hleader := of_decide_eq_true hled
        obtain ⟨path, hpath⟩ := Option.isSome_iff_exists.1
          (isSome_relativePath?_iff.2 ((leader?_eq_some_iff hname).1 hleader).1)
        exact ⟨(path, e.2), by simp [hleader, hpath], becomes_of_relativePath? hpath, rfl⟩
      · simp [of_decide_eq_false hled]

/-! ### All passes -/

/-- **Values are shared out** among parameters: by a first pass over the simple ones, by what the
structured ones are given, and by what is left over if none of these takes everything. -/
structure SharesOut (parameters : List Parameter) (values : SortedMap String) (passed : Passes) :
    Prop where
  /-- The blocks are the map: no key is lost, and none is in two of them. -/
  partition : (fates parameters).Nodup ∧
    ((fates parameters).flatMap (block parameters values)).Perm values.entries
  /-- In every block the keys ascend. -/
  ascending : ∀ f, (block parameters values f).Pairwise fun a b => a.1 < b.1
  /-- What simple parameters do not consume stays in the map. -/
  kept : passed.first.values.entries
    = values.entries.filter fun e => ∀ i < parameters.length,
        fate parameters values e.1 ≠ .consumed i
  /-- A simple parameter consumes its name or nothing, and its slot is made of just that. -/
  consumed : ∀ i p kind, parameters[i]? = some p → p.source = .simple kind →
    ∃ found : Option String,
      block parameters values (.consumed i) = found.toList.map (p.name, ·) ∧
        passed.first.slots[i]? = some (found.elim (.absent p) (simpleSlot p kind))
  /-- Every structured parameter is given its block, with the name taken off the keys. -/
  received : passed.own.length = (structuredNames parameters).length ∧
    ∀ i name, (structuredNames parameters)[i]? = some name →
      ∃ pairs, passed.own[i]? = some pairs ∧
        List.Forall₂ (fun e pair => Becomes name e.1 pair.1 ∧ pair.2 = e.2)
          (block parameters values (.attributed i)) pairs
  /-- A key that is no simple parameter's goes to the first structured one whose name leads it. -/
  leader : ∀ key, (∀ p ∈ parameters, p.isSimple = true → p.name ≠ key) →
    ∀ i name, (structuredNames parameters)[i]? = some name → Leads name key →
      (∀ j < i, ∀ earlier, (structuredNames parameters)[j]? = some earlier →
        ¬Leads earlier key) →
      fate parameters values key = .attributed i
  /-- A key goes to a name that does not lead it only if that one takes everything. -/
  unled : ∀ key i name, fate parameters values key = .attributed i →
    (structuredNames parameters)[i]? = some name → ¬Leads name key → TakesAll parameters values
  /-- Nothing is left over where one parameter takes everything, and elsewhere the rest is. -/
  leftOver : block parameters values .leftOver
    = if TakesAll parameters values then [] else passed.rest.entries

/-- **The passes of a resolution share out the values of a request**, whatever the names of its
parameters are. -/
theorem sharesOut_passes (values : SortedMap String) (parameters : List Parameter)
    (body : Option (List UInt8)) :
    SharesOut parameters values (passes values parameters body) := by
  rw [passes_eq]
  constructor
  case partition =>
    refine ⟨nodup_fates parameters, ?_⟩
    exact perm_flatMap_filter (fun e => fate parameters values e.1) (nodup_fates parameters)
      values.nodup_entries fun e _ => fate_mem_fates parameters values e.1
  case ascending => exact fun f => Entries.sorted_filter _ values.sorted
  case kept =>
    rw [values_intake, unclaimed_eq_filterKeys]
    exact List.filter_congr fun e _ => decide_eq_decide.2 consumer?_eq_none_iff_fate
  case consumed =>
    intro i p kind hp hsource
    have hsimple : p.isSimple = true := by simp [Parameter.isSimple, hsource]
    refine ⟨_, block_consumed hp hsimple, ?_⟩
    rw [slots_intake_eq_mapIdx, List.getElem?_mapIdx, hp, Option.map_some, plainSlot, hsource]
    cases (unclaimed (parameters.take i) values).get? p.name <;> rfl
  case received =>
    exact ⟨by simp [length_ownPairs, structuredNames], fun i name => forall₂_ownPairs⟩
  case leader =>
    intro key hunclaimed i name hname hleads hbefore
    obtain ⟨hlt, -⟩ := List.getElem?_eq_some_iff.1 hname
    have hnone : consumer? parameters key = none := by
      simpa [consumer?, List.findIdx?_eq_none_iff] using hunclaimed
    refine fate_eq_attributed_iff.2 ⟨hnone, ?_⟩
    by_cases htakes : TakesAll parameters values
    · have hone := htakes.1
      exact .inl ⟨htakes, by omega⟩
    · exact .inr ⟨htakes, (leader?_eq_some_iff hname).2 ⟨hleads, hbefore⟩⟩
  case unled =>
    intro key i name hfate hname hleads
    by_contra htakes
    have hleader := ((fate_eq_attributed_iff.1 hfate).2.resolve_left fun h => htakes h.1).2
    exact hleads ((leader?_eq_some_iff hname).1 hleader).1
  case leftOver =>
    by_cases htakes : TakesAll parameters values
    · rw [if_pos htakes, (block_of_takesAll htakes).2]
    · rw [if_neg htakes, (block_of_not_takesAll htakes 0).2]
      rfl

/-- One name begins with another one, two are equal, and a simple parameter comes in between: every
key goes one way. -/
theorem sharesOut_passes_overlapping :
    let parameters := [Parameter.structured "a.b" (.scalar .string), .simple "a.c" .string,
      .structured "a" (.scalar .string), .structured "a" (.scalar .string)]
    let values := SortedMap.ofList [("a", "1"), ("a.b", "2"), ("a.b.c", "3"), ("a.c", "4"),
      ("a..d", "5"), ("a[0]", "6"), ("ab", "7")]
    let passed := passes values parameters none
    SharesOut parameters values passed ∧
      values.keys.map (fun key => (key, fate parameters values key))
        = [("a", .attributed 1), ("a..d", .attributed 1), ("a.b", .attributed 0),
          ("a.b.c", .attributed 0), ("a.c", .consumed 1), ("a[0]", .attributed 1),
          ("ab", .leftOver)] ∧
      passed.own = [[("", "2"), ("c", "3")], [("", "1"), (".d", "5"), ("[0]", "6")], []] := by
  intro parameters values passed
  exact ⟨sharesOut_passes values parameters none, by decide +kernel, by decide +kernel⟩

end

end Resolution

end HttpDispatch
