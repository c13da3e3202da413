import HttpDispatch.Proofs.Resolution.Locality
import HttpDispatch.Proofs.StructuredValue.RoundTrip

/-!
# Several trees in one request

A client may send any number of trees at once, each under the name of a structured parameter of
its own: a `Parcel` is a tree with its shape and its name.  All their leaves end up in one map, and
attribution has to find out which key belongs to whom.

It does as long as the names **stand apart** (`NamesApart`), which is to say that no name leads
another one.  Two names that lead the same key also lead one another
(`leads_or_leads`), so under such names no key has two leaders, and every parameter is given its
own leaves and no others (`forall₂_shares`).  `outcome_resolve_parcels` says what comes of it: each
slot holds the tree that was sent under its name, be the values in whatever order.
-/

namespace HttpDispatch

namespace Resolution

/-! ### Names that stand apart -/

/-- A name leads the keys that go on behind it with nothing, a dot or an opening bracket. -/
theorem leads_iff {name key : String} :
    Leads name key ↔ ∃ rest, key.toList = name.toList ++ rest ∧
      ∀ c ∈ rest.head?, c = '.' ∨ c = '[' := by
  constructor
  · rintro (rfl | ⟨rest, rfl | rfl⟩)
    · exact ⟨[], by simp, by simp⟩
    · exact ⟨'.' :: rest.toList, by simp, by simp⟩
    · exact ⟨'[' :: rest.toList, by simp, by simp⟩
  · rintro ⟨rest, hkey, hhead⟩
    cases rest with
    | nil =>
        rw [List.append_nil, String.toList_inj] at hkey
        exact .inl hkey
    | cons c rest =>
        refine .inr ⟨String.ofList rest, (hhead c rfl).imp ?_ ?_⟩
        all_goals
          rintro rfl
          rw [← String.toList_inj, hkey]
          simp

/-- **Two names that lead the same key** lead one another. -/
theorem leads_or_leads {a b key : String} (ha : Leads a key) (hb : Leads b key) :
    Leads a b ∨ Leads b a := by
  obtain ⟨rest, hkey, hhead⟩ := leads_iff.1 ha
  obtain ⟨rest', hkey', hhead'⟩ := leads_iff.1 hb
  rcases List.append_eq_append_iff.1 (hkey.symm.trans hkey') with
    ⟨more, hmore, rfl⟩ | ⟨more, hmore, rfl⟩
  · exact .inl (leads_iff.2 ⟨more, hmore, fun c hc =>
      hhead c (List.mem_head?_append_of_mem_head? hc)⟩)
  · exact .inr (leads_iff.2 ⟨more, hmore, fun c hc =>
      hhead' c (List.mem_head?_append_of_mem_head? hc)⟩)

/-- **Names stand apart** if none of them leads another one. -/
def NamesApart (names : List String) : Prop :=
  names.Pairwise fun a b => ¬Leads a b ∧ ¬Leads b a

theorem NamesApart.nodup {names : List String} (h : NamesApart names) : names.Nodup :=
  h.imp fun hab heq => hab.1 (.inl heq.symm)

/-! ### Parcels -/

/-- **A tree that is sent under a name.** -/
structure Parcel where
  /-- The name. -/
  name : String
  /-- The shape of the tree. -/
  schema : Schema
  /-- The tree. -/
  tree : RawTree
  /-- Its fields can be written in a property path. -/
  addressable : schema.Addressable
  /-- It has this shape. -/
  fits : tree.Fits schema

namespace Parcel

/-- The parameter that takes a parcel. -/
def parameter (c : Parcel) : Parameter := .structured c.name c.schema

/-- The value that is in a parcel. -/
def value (c : Parcel) : Json := c.tree.value c.schema

/-- **The leaves of a parcel**, each under the key that leads to it. -/
def entries (c : Parcel) : List (String × String) :=
  c.tree.leaves.map fun l => (ledKey c.name (PropertyPath.text l.1), l.2)

variable {c : Parcel}

theorem leads_of_mem_entries {e : String × String} (h : e ∈ c.entries) : Leads c.name e.1 := by
  obtain ⟨l, -, rfl⟩ := List.mem_map.1 h
  rw [← isSome_relativePath?_iff, relativePath?_ledKey, Option.isSome_some]

theorem entries_ne_nil (c : Parcel) : c.entries ≠ [] :=
  fun h => RawTree.leaves_ne_nil c.fits (List.map_eq_nil_iff.1 h)

theorem nodup_keys (c : Parcel) : (c.entries.map Prod.fst).Nodup := by
  rw [entries, List.map_map]
  exact RawTree.nodup_ledKey c.addressable c.fits c.name

/-- Attribution takes the name off every key of a parcel again. -/
theorem filterMap_relativePath?_entries (c : Parcel) :
    (c.entries.filterMap fun (key, raw) => (relativePath? c.name key).map (·, raw))
      = c.tree.pairs := by
  rw [entries, List.filterMap_map, RawTree.pairs, ← List.filterMap_eq_map]
  refine List.filterMap_congr fun l _ => ?_
  simp [relativePath?_ledKey, RawTree.pair]

end Parcel

/-! ### Each parameter is given its own -/

section

variable {c : Parcel} {parcels : List Parcel} {values : SortedMap String}

theorem relativePath?_eq_none_of_apart (h : NamesApart (c.name :: parcels.map Parcel.name))
    {e : String × String} (he : e ∈ parcels.flatMap Parcel.entries) :
    relativePath? c.name e.1 = none := by
  obtain ⟨c', hc', he'⟩ := List.mem_flatMap.1 he
  have hapart := List.rel_of_pairwise_cons h (List.mem_map_of_mem hc')
  refine relativePath?_eq_none_iff.2 fun hleads => ?_
  exact (leads_or_leads hleads (Parcel.leads_of_mem_entries he')).elim hapart.1 hapart.2

/-- A name takes the leaves of its own parcel. -/
theorem taken_perm_pairs (h : NamesApart (c.name :: parcels.map Parcel.name))
    (hvalues : values.entries.Perm (c.entries ++ parcels.flatMap Parcel.entries)) :
    (taken c.name values).Perm c.tree.pairs := by
  have htaken := hvalues.filterMap fun (key, raw) => (relativePath? c.name key).map (·, raw)
  have hothers : ((parcels.flatMap Parcel.entries).filterMap
      fun (key, raw) => (relativePath? c.name key).map (·, raw)) = [] :=
    List.filterMap_eq_nil_iff.2 fun e he => by simp [relativePath?_eq_none_of_apart h he]
  rwa [List.filterMap_append, c.filterMap_relativePath?_entries, hothers, List.append_nil]
    at htaken

/-- And it leaves those of the others. -/
theorem left_perm_flatMap (h : NamesApart (c.name :: parcels.map Parcel.name))
    (hvalues : values.entries.Perm (c.entries ++ parcels.flatMap Parcel.entries)) :
    (left c.name values).entries.Perm (parcels.flatMap Parcel.entries) := by
  have hleft := hvalues.filter fun e => (relativePath? c.name e.1).isNone
  have hown : (c.entries.filter fun e => (relativePath? c.name e.1).isNone) = [] := by
    refine List.filter_eq_nil_iff.2 fun e he => ?_
    rw [Option.isNone_iff_eq_none, relativePath?_eq_none_iff, not_not]
    exact Parcel.leads_of_mem_entries he
  have hothers : ((parcels.flatMap Parcel.entries).filter
      fun e => (relativePath? c.name e.1).isNone) = parcels.flatMap Parcel.entries := by
    refine List.filter_eq_self.2 fun e he => ?_
    rw [relativePath?_eq_none_of_apart h he, Option.isNone_none]
  rwa [List.filter_append, hown, hothers, List.nil_append] at hleft

end

variable {parcels : List Parcel} {values : SortedMap String}

/-- Under names that stand apart no two leaves are sent under one key. -/
theorem nodup_keys_flatMap (h : NamesApart (parcels.map Parcel.name)) :
    ((parcels.flatMap Parcel.entries).map Prod.fst).Nodup := by
  rw [List.map_flatMap, List.nodup_flatMap]
  refine ⟨fun c _ => c.nodup_keys, ?_⟩
  refine (List.pairwise_map.1 h).imp fun {c c'} hapart key hkey hkey' => ?_
  obtain ⟨e, he, rfl⟩ := List.mem_map.1 hkey
  obtain ⟨e', he', heq⟩ := List.mem_map.1 hkey'
  have hleads := Parcel.leads_of_mem_entries he'
  rw [heq] at hleads
  exact (leads_or_leads (Parcel.leads_of_mem_entries he) hleads).elim hapart.1 hapart.2

/-- **Under names that stand apart every parameter is given its own leaves.** -/
theorem forall₂_shares (h : NamesApart (parcels.map Parcel.name))
    (hvalues : values.entries.Perm (parcels.flatMap Parcel.entries)) :
    List.Forall₂ (fun (c : Parcel) own => own.Perm c.tree.pairs) parcels
      (shares (parcels.map Parcel.name) values) := by
  induction parcels generalizing values with
  | nil => exact .nil
  | cons c parcels ih =>
      rw [List.flatMap_cons] at hvalues
      rw [List.map_cons, shares_cons]
      exact .cons (taken_perm_pairs h hvalues) (ih h.of_cons (left_perm_flatMap h hvalues))

/-- The last pass finds every tree in its pairs. -/
theorem fill_parcels {given : List (List (String × String))}
    (h : List.Forall₂ (fun (c : Parcel) own => own.Perm c.tree.pairs) parcels given)
    (slot : Parameter → Slot) :
    fill (parcels.map Parcel.parameter) ((parcels.map Parcel.parameter).map slot) given
      = parcels.map fun c => .filled c.value := by
  induction h with
  | nil => rfl
  | @cons c own parcels given hown _ ih =>
      have hsource : c.parameter.source = .structured c.schema := rfl
      have hbuild := RawTree.build_of_perm c.addressable c.fits hown
      rw [List.map_cons, List.map_cons, fill_structured hsource, ih, structuredSlot, hbuild]
      rfl

/-! ### The outcome -/

theorem map_name_parameter (parcels : List Parcel) :
    (parcels.map Parcel.parameter).map Parameter.name = parcels.map Parcel.name := by
  rw [List.map_map]
  rfl

theorem structuredNames_parameter (parcels : List Parcel) :
    structuredNames (parcels.map Parcel.parameter) = parcels.map Parcel.name := by
  have hall : ∀ p ∈ parcels.map Parcel.parameter, p.isStructured = true := by
    intro p hp
    obtain ⟨c, -, rfl⟩ := List.mem_map.1 hp
    rfl
  rw [structuredNames, List.filter_eq_self.2 hall, map_name_parameter]

theorem isSimple_eq_false_of_mem_parameter {p : Parameter}
    (h : p ∈ parcels.map Parcel.parameter) : p.isSimple = false := by
  obtain ⟨c, -, rfl⟩ := List.mem_map.1 h
  rfl

/-- No simple parameter is there to consume a value. -/
theorem unclaimed_parameter (parcels : List Parcel) (values : SortedMap String) :
    unclaimed (parcels.map Parcel.parameter) values = values := by
  refine unclaimed_eq_self fun ⟨p, hp, hsimple, _⟩ => ?_
  rw [isSimple_eq_false_of_mem_parameter hp] at hsimple
  cases hsimple

/-- What is left over, if anything, does not matter. -/
theorem leftoversInert_parcels (hvalues : values.entries.Perm (parcels.flatMap Parcel.entries)) :
    LeftoversInert (parcels.map Parcel.parameter) values := by
  cases parcels with
  | nil => exact .noneStructured rfl
  | cons c parcels =>
      obtain ⟨e, he⟩ := List.exists_mem_of_ne_nil _ c.entries_ne_nil
      have hmem : e ∈ values.entries :=
        hvalues.mem_iff.2 (List.mem_flatMap.2 ⟨c, List.mem_cons_self, he⟩)
      refine .led ((values.mem_keys_iff e.1).2 ⟨e.2, hmem⟩) (fun p hp hsimple => ?_) ?_
        (Parcel.leads_of_mem_entries he)
      · rw [isSimple_eq_false_of_mem_parameter hp] at hsimple
        cases hsimple
      · rw [structuredNames_parameter]
        exact List.mem_cons_self

theorem violations_filled (keep : Parameter → Bool) (parcels : List Parcel) :
    violations keep (parcels.map Parcel.parameter) (parcels.map fun c => .filled c.value) = [] := by
  rw [violations, List.zip_map', List.filterMap_map, List.filterMap_eq_nil_iff]
  exact fun c _ => ite_self _

/-- **Every tree arrives under its name.** -/
theorem outcome_resolve_parcels (h : NamesApart (parcels.map Parcel.name))
    (hvalues : values.entries.Perm (parcels.flatMap Parcel.entries))
    (body : Option (List UInt8)) :
    (resolve values (parcels.map Parcel.parameter) body).outcome
      = .ok ⟨parcels.map fun c => (c.name, some c.value)⟩ := by
  have distinct : ((parcels.map Parcel.parameter).map Parameter.name).Nodup := by
    rw [map_name_parameter]
    exact h.nodup
  obtain ⟨htakes, hkeys⟩ := (leftoversInert_parcels hvalues).not_takesAll_and_not_unattributable
  have hown : ownPairs (parcels.map Parcel.parameter) values
      = shares (parcels.map Parcel.name) values := by
    rw [ownPairs, if_neg htakes, structuredNames_parameter, unclaimed_parameter]
  have hnone : unattributed? (parcels.map Parcel.parameter) values = none := if_neg hkeys
  have hslots := fill_parcels (forall₂_shares h hvalues) (plainSlot values (sent body))
  rw [resolve_eq, slots_intake values _ distinct, hown, hnone]
  simp only [hslots, violations_filled, Option.toList_none, List.append_nil]
  rw [List.zip_map', List.map_map]
  rfl

end Resolution

end HttpDispatch
