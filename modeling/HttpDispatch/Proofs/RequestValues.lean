import HttpDispatch.Proofs.Entries
import HttpDispatch.RequestValues

/-!
# What binding sees of the values of a request

Binding works on the flattened values, one per name.  `RequestValues.get?_flatten` looks one up
without flattening the others: it is the first value that arrived under the name and, if none
has, the default of the first simple parameter of that name that has one.

A default is therefore an entry like any other once the values are flattened, and it is nothing
but an entry: `RequestValues.flatten_withDefault` says that giving a default to a parameter
without a value puts one entry in, under the name of the parameter.
-/

namespace HttpDispatch

theorem Parameter.isSimple_iff {p : Parameter} :
    p.isSimple = true ↔ ∃ kind, p.source = .simple kind := by
  cases h : p.source <;> simp [isSimple, h]

namespace RequestValues

/-! ### First values -/

theorem nodup_keys_firsts (r : RequestValues) :
    ((r.lists.entries.filterMap fun (name, values) => values.head?.map (name, ·)).map
      Prod.fst).Nodup := by
  refine List.pairwise_map.2 ?_
  refine List.pairwise_filterMap.2 (r.lists.sorted.imp fun {a b} hlt x hx y hy heq => ?_)
  obtain ⟨v, -, rfl⟩ := Option.map_eq_some_iff.1 hx
  obtain ⟨w, -, rfl⟩ := Option.map_eq_some_iff.1 hy
  exact hlt.ne heq

/-- Under each name there is the first value that arrived. -/
theorem get?_firsts (r : RequestValues) (name : String) : r.firsts.get? name = r.first? name := by
  refine Option.ext fun value => ?_
  rw [firsts, SortedMap.get?_ofList_eq_some_iff r.nodup_keys_firsts, List.mem_filterMap, first?,
    Option.bind_eq_some_iff]
  constructor
  · rintro ⟨⟨key, values⟩, hmem, hhead⟩
    obtain ⟨v, hv, heq⟩ := Option.map_eq_some_iff.1 hhead
    cases heq
    exact ⟨values, (r.lists.mem_entries_iff _ _).1 hmem, hv⟩
  · rintro ⟨values, hvalues, hhead⟩
    exact ⟨(name, values), (r.lists.mem_entries_iff _ _).2 hvalues, by simp [hhead]⟩

/-! ### Values one after the other -/

theorem first?_eq_head?_all (r : RequestValues) (name : String) :
    r.first? name = (r.all name).head? := by
  rw [first?, all]
  cases r.lists.get? name <;> rfl

/-- **Values that are added** stand behind the others of their name, in their order. -/
theorem all_addAll (r : RequestValues) (sent : List (String × String)) (name : String) :
    (r.addAll sent).all name
      = r.all name ++ (sent.filter fun e => e.1 == name).map Prod.snd := by
  induction sent generalizing r with
  | nil => exact (List.append_nil _).symm
  | cons e sent ih =>
      refine (ih (r.add e.1 e.2)).trans ?_
      rw [all_add]
      by_cases hname : name = e.1
      · simp [hname]
      · simp [hname, Ne.symm hname]

/-- **The first value of each name counts**, so the values may be put into a map from the last to
the first. -/
theorem firsts_ofList (sent : List (String × String)) :
    (ofList sent).firsts = .ofList sent.reverse := by
  refine SortedMap.ext_get? fun name => ?_
  rw [get?_firsts, first?_eq_head?_all, ofList, all_addAll, all_empty, List.nil_append,
    List.head?_map, List.head?_filter, SortedMap.ofList, SortedMap.get?_insertAll,
    List.reverse_reverse, SortedMap.get?_empty, Option.or_none]

/-! ### Defaults -/

/-- The default that a parameter has for a name. -/
def ownDefault? (name : String) (p : Parameter) : Option String :=
  if p.isSimple ∧ p.name = name then p.default else none

/-- **The default for a name**: that of the first simple parameter of this name that has
one. -/
def default? (parameters : List Parameter) (name : String) : Option String :=
  parameters.findSome? (ownDefault? name)

theorem get?_fillDefault (values : SortedMap String) (p : Parameter) (name : String) :
    (fillDefault values p).get? name = (values.get? name).or (ownDefault? name p) := by
  unfold fillDefault
  split
  · rename_i kind raw hsource hdefault
    have hsimple : p.isSimple = true := Parameter.isSimple_iff.2 ⟨kind, hsource⟩
    rw [SortedMap.get?_insertIfNew]
    by_cases hname : p.name = name
    · subst hname
      rw [if_pos rfl, ownDefault?, if_pos ⟨hsimple, rfl⟩, hdefault]
      cases values.get? p.name <;> rfl
    · rw [if_neg (Ne.symm hname), ownDefault?, if_neg fun h => hname h.2, Option.or_none]
  · rename_i hno
    have hnone : ownDefault? name p = none := by
      rw [ownDefault?]
      split
      · rename_i h
        obtain ⟨kind, hsource⟩ := Parameter.isSimple_iff.1 h.1
        exact Option.eq_none_iff_forall_ne_some.2 fun raw => hno kind raw hsource
      · rfl
    rw [hnone, Option.or_none]

theorem get?_foldl_fillDefault (parameters : List Parameter) (values : SortedMap String)
    (name : String) :
    (parameters.foldl fillDefault values).get? name
      = (values.get? name).or (default? parameters name) := by
  induction parameters generalizing values with
  | nil => simp [default?]
  | cons p ps ih =>
      rw [List.foldl_cons, ih, get?_fillDefault, Option.or_assoc, default?, default?,
        List.findSome?_cons]
      cases ownDefault? name p <;> rfl

/-- **One value per name**: the first that arrived, else the default for the name. -/
theorem get?_flatten (r : RequestValues) (parameters : List Parameter) (name : String) :
    (r.flatten parameters).get? name = (r.first? name).or (default? parameters name) := by
  rw [flatten, get?_foldl_fillDefault, get?_firsts]

/-- Without simple parameters there are no defaults. -/
theorem flatten_of_not_isSimple {parameters : List Parameter}
    (h : ∀ p ∈ parameters, p.isSimple = false) (r : RequestValues) :
    r.flatten parameters = r.firsts := by
  refine SortedMap.ext_get? fun name => ?_
  have hnone : default? parameters name = none :=
    List.findSome?_eq_none_iff.2 fun p hp => if_neg fun hown => by simp [h p hp] at hown
  rw [get?_flatten, hnone, Option.or_none, get?_firsts]

theorem default?_eq_none_of_ne {parameters : List Parameter} {name : String}
    (h : ∀ p ∈ parameters, p.name ≠ name) : default? parameters name = none :=
  List.findSome?_eq_none_iff.2 fun p hp => if_neg fun hown => h p hp hown.2

section

variable {r : RequestValues} {before behind : List Parameter} {p : Parameter}

/-- With a name of its own a parameter has its own default. -/
theorem default?_own (hothers : ∀ q ∈ before ++ behind, q.name ≠ p.name) :
    default? (before ++ p :: behind) p.name = ownDefault? p.name p := by
  have hfront : before.findSome? (ownDefault? p.name) = none :=
    default?_eq_none_of_ne fun q hq => hothers q (List.mem_append_left _ hq)
  have hback : behind.findSome? (ownDefault? p.name) = none :=
    default?_eq_none_of_ne fun q hq => hothers q (List.mem_append_right _ hq)
  rw [default?, List.findSome?_append, hfront, List.findSome?_cons, hback, Option.none_or]
  cases ownDefault? p.name p <;> rfl

/-- A parameter without a value and without a default has no value in the end. -/
theorem get?_flatten_own (hothers : ∀ q ∈ before ++ behind, q.name ≠ p.name)
    (hdefault : p.default = none) (hvalue : r.first? p.name = none) :
    (r.flatten (before ++ p :: behind)).get? p.name = none := by
  rw [get?_flatten, hvalue, default?_own hothers, ownDefault?, hdefault, ite_self,
    Option.none_or]

/-- **A default for a parameter without a value** is one more entry. -/
theorem flatten_withDefault (hothers : ∀ q ∈ before ++ behind, q.name ≠ p.name)
    (hsimple : p.isSimple = true) (hvalue : r.first? p.name = none) (raw : String) :
    r.flatten (before ++ p.withDefault raw :: behind)
      = (r.flatten (before ++ p :: behind)).insert p.name raw := by
  refine SortedMap.ext_get? fun name => ?_
  rw [SortedMap.get?_insert, get?_flatten, get?_flatten]
  by_cases hname : name = p.name
  · subst hname
    have hown : default? (before ++ p.withDefault raw :: behind) p.name = some raw :=
      (default?_own (p := p.withDefault raw) hothers).trans (if_pos ⟨hsimple, rfl⟩)
    rw [if_pos rfl, hvalue, hown, Option.none_or]
  · have hother (q : Parameter) (hq : q.name = p.name) : ownDefault? name q = none :=
      if_neg fun h => hname (h.2.symm.trans hq)
    rw [if_neg hname, default?, default?, List.findSome?_append, List.findSome?_append,
      List.findSome?_cons, List.findSome?_cons, hother p rfl, hother (p.withDefault raw) rfl]

end

end RequestValues

end HttpDispatch
