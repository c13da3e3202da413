import HttpDispatch.Proofs.Entries
import HttpDispatch.Resolution

/-!
# Which key goes where

`resolve` takes values out of a map that it hands from pass to pass.  What comes of it can
be read off the map it starts from, key by key:

* a key that is the name of a simple parameter is **claimed**, the others are `unclaimed`;
* an unclaimed key goes to the first of the structured parameters whose name leads it
  (`leader?`), or to none;
* the **attribution** gives every structured parameter its pairs.

The names of parameters may be equal here.  Of two equal names the second finds nothing left
to take, which is why a leader is a position and not a name.
-/

namespace HttpDispatch

theorem Parameter.isStructured_iff {p : Parameter} :
    p.isStructured = true ↔ ∃ schema, p.source = .structured schema := by
  cases h : p.source <;> simp [isStructured, h]

namespace Resolution

/-! ### Names that lead a key -/

/-- **A name leads a key** that is the name, or the name with a dot or an opening bracket
behind it. -/
def Leads (name key : String) : Prop :=
  key = name ∨ ∃ rest, key = name ++ "." ++ rest ∨ key = name ++ "[" ++ rest

theorem isPrefixOf?_append (name rest : String) :
    name.toList.isPrefixOf? (name ++ rest).toList = some rest.toList := by
  rw [List.isPrefixOf?_eq_some_iff_append_eq, String.toList_append]

theorem relativePath?_self (name : String) : relativePath? name name = some "" := by
  have hcut := isPrefixOf?_append name ""
  rw [String.append_empty] at hcut
  rw [relativePath?, hcut]
  rfl

theorem relativePath?_dot (name path : String) :
    relativePath? name (name ++ "." ++ path) = some path := by
  rw [String.append_assoc, relativePath?, isPrefixOf?_append, String.toList_append]
  exact congrArg some String.ofList_toList

theorem relativePath?_bracket (name rest : String) :
    relativePath? name (name ++ "[" ++ rest) = some ("[" ++ rest) := by
  rw [String.append_assoc, relativePath?, isPrefixOf?_append, String.toList_append]
  refine congrArg some ?_
  rw [← String.toList_inj, String.toList_ofList, String.toList_append]
  rfl

/-- **The keys with a property path are those that the name leads.** -/
theorem isSome_relativePath?_iff {name key : String} :
    (relativePath? name key).isSome = true ↔ Leads name key := by
  constructor
  · intro h
    unfold relativePath? at h
    split at h
    · cases h
    · rename_i hcut
      have hkey := List.isPrefixOf?_eq_some_iff_append_eq.1 hcut
      rw [List.append_nil, String.toList_inj] at hkey
      exact .inl hkey.symm
    · rename_i path hcut
      have hkey := List.isPrefixOf?_eq_some_iff_append_eq.1 hcut
      refine .inr ⟨String.ofList path, .inl ?_⟩
      rw [← String.toList_inj, ← hkey]
      simp
    · rename_i rest hcut
      have hkey := List.isPrefixOf?_eq_some_iff_append_eq.1 hcut
      refine .inr ⟨String.ofList rest, .inr ?_⟩
      rw [← String.toList_inj, ← hkey]
      simp
    · cases h
  · rintro (rfl | ⟨rest, rfl | rfl⟩)
    · rw [relativePath?_self, Option.isSome_some]
    · rw [relativePath?_dot, Option.isSome_some]
    · rw [relativePath?_bracket, Option.isSome_some]

theorem relativePath?_eq_none_iff {name key : String} :
    relativePath? name key = none ↔ ¬Leads name key := by
  rw [← isSome_relativePath?_iff, Option.not_isSome_iff_eq_none]

/-- **The first name that leads a key**, by its position. -/
def leader? (names : List String) (key : String) : Option Nat :=
  names.findIdx? fun name => (relativePath? name key).isSome

theorem leader?_cons_of_eq_some {name key path : String} (h : relativePath? name key = some path)
    (names : List String) : leader? (name :: names) key = some 0 := by
  simp [leader?, List.findIdx?_cons, h]

theorem leader?_cons_of_eq_none {name key : String} (h : relativePath? name key = none)
    (names : List String) :
    leader? (name :: names) key = (leader? names key).map fun position => position + 1 := by
  simp [leader?, List.findIdx?_cons, h]

theorem leader?_eq_none_iff (names : List String) (key : String) :
    leader? names key = none ↔ ∀ name ∈ names, relativePath? name key = none := by
  simp [leader?, List.findIdx?_eq_none_iff]

/-- What the name at a position takes: the pairs of the keys that it is the first to lead. -/
def share (names : List String) (position : Nat) (name : String) (values : SortedMap String) :
    List (String × String) :=
  values.entries.filterMap fun (key, raw) =>
    if leader? names key = some position then (relativePath? name key).map (·, raw) else none

/-- What each name takes. -/
def shares (names : List String) (values : SortedMap String) : List (List (String × String)) :=
  names.mapIdx fun position name => share names position name values

@[simp] theorem length_shares (names : List String) (values : SortedMap String) :
    (shares names values).length = names.length := List.length_mapIdx

/-- The first name takes what it leads. -/
theorem share_zero (name : String) (names : List String) (values : SortedMap String) :
    share (name :: names) 0 name values = taken name values := by
  refine List.filterMap_congr fun e _ => ?_
  dsimp only
  cases h : relativePath? name e.1 with
  | none => simp only [Option.map_none, ite_self]
  | some path => rw [leader?_cons_of_eq_some h, if_pos rfl]

/-- The others take of what it leaves. -/
theorem share_succ (first : String) (names : List String) (position : Nat) (name : String)
    (values : SortedMap String) :
    share (first :: names) (position + 1) name values
      = share names position name (left first values) := by
  unfold share left SortedMap.filterKeys
  rw [List.filterMap_filter]
  refine List.filterMap_congr fun e _ => ?_
  by_cases h : relativePath? first e.1 = none
  · simp [leader?_cons_of_eq_none h, h]
  · obtain ⟨path, hpath⟩ := Option.ne_none_iff_exists'.1 h
    simp [leader?_cons_of_eq_some hpath, hpath]

theorem shares_cons (name : String) (names : List String) (values : SortedMap String) :
    shares (name :: names) values = taken name values :: shares names (left name values) := by
  rw [shares, List.mapIdx_cons, share_zero]
  simp only [share_succ]
  rfl

/-- **The passes of `distribute` in one**: every key goes to its first leader, and those
without one are left over. -/
theorem distribute_eq (names : List String) (values : SortedMap String) :
    distribute names values
      = (shares names values, values.filterKeys fun key => (leader? names key).isNone) := by
  induction names generalizing values with
  | nil =>
      rw [SortedMap.filterKeys_eq_self (by simp [leader?])]
      rfl
  | cons name names ih =>
      have hrest : (left name values).filterKeys (fun key => (leader? names key).isNone)
          = values.filterKeys fun key => (leader? (name :: names) key).isNone := by
        rw [left, SortedMap.filterKeys_filterKeys]
        congr 1
        funext key
        cases h : relativePath? name key with
        | none => simp [leader?_cons_of_eq_none h]
        | some path => simp [leader?_cons_of_eq_some h]
      rw [distribute, ih (left name values), hrest, shares_cons]

/-- Nothing is taken if no name leads a key. -/
theorem all_isEmpty_shares_iff (names : List String) (values : SortedMap String) :
    (shares names values).all List.isEmpty = true ↔
      ∀ key ∈ values.keys, leader? names key = none := by
  rw [List.all_eq_true]
  constructor
  · intro h key hkey
    obtain ⟨raw, hmem⟩ := (values.mem_keys_iff key).1 hkey
    by_contra hled
    obtain ⟨position, hposition⟩ := Option.ne_none_iff_exists'.1 hled
    obtain ⟨hlt, hleads, -⟩ := List.findIdx?_eq_some_iff_getElem.1 hposition
    obtain ⟨path, hpath⟩ := Option.isSome_iff_exists.1 hleads
    have hempty := h _ (List.mem_mapIdx.2 ⟨position, hlt, rfl⟩)
    have hpair : (path, raw) ∈ share names position names[position] values :=
      List.mem_filterMap.2 ⟨(key, raw), hmem, by simp [hposition, hpath]⟩
    rw [List.isEmpty_iff.1 hempty] at hpair
    exact absurd hpair List.not_mem_nil
  · intro h pairs hpairs
    obtain ⟨position, hlt, rfl⟩ := List.mem_mapIdx.1 hpairs
    rw [List.isEmpty_iff, share, List.filterMap_eq_nil_iff]
    rintro ⟨key, raw⟩ hmem
    simp [h key ((values.mem_keys_iff key).2 ⟨raw, hmem⟩)]

/-- **The third pass without its cases.**  With nothing taken by a single name, what it gets
is what is left, be that something or nothing. -/
theorem settle_eq {consumed : Bool} {names : List String} {pairs : List (List (String × String))}
    {rest : SortedMap String} (h : pairs.length = names.length) :
    settle consumed names pairs rest
      = (if names.length = 1 ∧ consumed = false ∧ pairs.all List.isEmpty = true then [rest.entries]
          else pairs,
        if 2 ≤ names.length ∧ pairs.all List.isEmpty = true ∧ rest.keys ≠ [] then
          some (.unattributed rest.keys names) else none) := by
  unfold settle
  by_cases hall : pairs.all List.isEmpty = true
  · by_cases hrest : rest.entries = []
    · have hkeys : rest.keys = [] := by rw [SortedMap.keys, hrest, List.map_nil]
      have hsame : names.length = 1 → [rest.entries] = pairs := by
        intro hlen
        obtain ⟨own, rfl⟩ := List.length_eq_one_iff.1 (h.trans hlen)
        rw [hrest, List.isEmpty_iff.1 (List.all_eq_true.1 hall own (List.mem_singleton.2 rfl))]
      rw [if_neg (by simp [SortedMap.isEmpty, hrest]),
        if_neg fun hall : 2 ≤ names.length ∧ _ ∧ rest.keys ≠ [] => hall.2.2 hkeys]
      split
      · rename_i htakes
        rw [hsame htakes.1]
      · rfl
    · rcases names with _ | ⟨name, _ | ⟨second, names⟩⟩
      · simp [hall, SortedMap.isEmpty, hrest]
      · cases consumed <;> simp [hall, SortedMap.isEmpty, hrest]
      · simp [hall, SortedMap.isEmpty, SortedMap.keys, hrest]
  · simp [hall]

/-! ### Simple parameters first -/

/-- **The values that are left to structured parameters**: no simple parameter has their key
for its name. -/
def unclaimed (parameters : List Parameter) (values : SortedMap String) : SortedMap String :=
  values.filterKeys fun key => !parameters.any fun p => p.isSimple && p.name == key

/-- A simple parameter consumes a value. -/
def Consumes (parameters : List Parameter) (values : SortedMap String) : Prop :=
  ∃ p ∈ parameters, p.isSimple = true ∧ values.contains p.name = true

instance (parameters : List Parameter) (values : SortedMap String) :
    Decidable (Consumes parameters values) :=
  inferInstanceAs (Decidable (∃ p ∈ parameters, _))

section

variable {p : Parameter} {parameters : List Parameter} {values : SortedMap String}

theorem unclaimed_cons_of_isSimple (h : p.isSimple = true) :
    unclaimed (p :: parameters) values = unclaimed parameters (values.erase p.name) := by
  refine SortedMap.ext_get? fun key => ?_
  simp only [unclaimed, SortedMap.get?_filterKeys, SortedMap.get?_erase, List.any_cons, h,
    Bool.true_and, Bool.not_or]
  by_cases hkey : key = p.name
  · simp [hkey]
  · simp [hkey, beq_eq_false_iff_ne.2 (Ne.symm hkey)]

theorem unclaimed_cons_of_not_isSimple (h : p.isSimple = false) :
    unclaimed (p :: parameters) values = unclaimed parameters values := by
  simp [unclaimed, h]

theorem consumes_cons_iff :
    Consumes (p :: parameters) values ↔
      p.isSimple = true ∧ values.contains p.name = true ∨ Consumes parameters values :=
  List.exists_mem_cons_iff _ _ _

end

variable (body : Option (List UInt8)) (parameters : List Parameter) (values : SortedMap String)

theorem values_intake : (intake body parameters values).values = unclaimed parameters values := by
  induction parameters generalizing values with
  | nil => exact (SortedMap.filterKeys_eq_self (by simp)).symm
  | cons p ps ih =>
      unfold intake
      cases hsource : p.source with
      | simple kind =>
          rw [unclaimed_cons_of_isSimple (by simp [Parameter.isSimple, hsource])]
          dsimp only
          cases hvalue : values.get? p.name with
          | some raw => exact ih _
          | none => rw [SortedMap.erase_eq_self hvalue]; exact ih _
      | structured _ | body _ =>
          rw [unclaimed_cons_of_not_isSimple (by simp [Parameter.isSimple, hsource])]
          exact ih _

theorem consumed_intake :
    (intake body parameters values).consumed = decide (Consumes parameters values) := by
  induction parameters generalizing values with
  | nil => simp [intake, Consumes]
  | cons p ps ih =>
      simp only [consumes_cons_iff]
      unfold intake
      cases hsource : p.source with
      | simple kind =>
          dsimp only
          cases hvalue : values.get? p.name with
          | some raw => simp [Parameter.isSimple, hsource, SortedMap.contains, hvalue]
          | none => simpa [Parameter.isSimple, hsource, SortedMap.contains, hvalue] using ih _
      | structured _ | body _ => simpa [Parameter.isSimple, hsource] using ih _

/-! ### What structured parameters are built from -/

/-- No structured parameter leads any of the unclaimed keys. -/
def NoneLed (parameters : List Parameter) (values : SortedMap String) : Prop :=
  ∀ key ∈ (unclaimed parameters values).keys, ∀ name ∈ structuredNames parameters,
    relativePath? name key = none

instance : Decidable (NoneLed parameters values) :=
  inferInstanceAs (Decidable (∀ key ∈ _, _))

/-- **A lone structured parameter takes everything** if its name leads no key and no simple
parameter consumes a value. -/
def TakesAll (parameters : List Parameter) (values : SortedMap String) : Prop :=
  (structuredNames parameters).length = 1 ∧ ¬Consumes parameters values ∧
    NoneLed parameters values

instance : Decidable (TakesAll parameters values) := inferInstanceAs (Decidable (_ ∧ _))

/-- **Keys that cannot be attributed**: there are some, and several structured parameters, but
none of their names leads any. -/
def Unattributable (parameters : List Parameter) (values : SortedMap String) : Prop :=
  2 ≤ (structuredNames parameters).length ∧ NoneLed parameters values ∧
    (unclaimed parameters values).keys ≠ []

instance : Decidable (Unattributable parameters values) := inferInstanceAs (Decidable (_ ∧ _))

/-- The pairs of each structured parameter. -/
def ownPairs (parameters : List Parameter) (values : SortedMap String) :
    List (List (String × String)) :=
  if TakesAll parameters values then [(unclaimed parameters values).entries]
  else shares (structuredNames parameters) (unclaimed parameters values)

theorem length_ownPairs :
    (ownPairs parameters values).length = (parameters.filter Parameter.isStructured).length := by
  unfold ownPairs
  split
  · rename_i h
    simpa [structuredNames] using h.1.symm
  · simp [structuredNames]

/-- **The attribution**: the structured parameters in order, each with the pairs that its value
is built from. -/
def attribution (parameters : List Parameter) (values : SortedMap String) :
    List (Parameter × List (String × String)) :=
  (parameters.filter Parameter.isStructured).zip (ownPairs parameters values)

theorem map_fst_attribution :
    (attribution parameters values).map Prod.fst = parameters.filter Parameter.isStructured :=
  List.map_fst_zip (Nat.le_of_eq (length_ownPairs parameters values).symm)

theorem map_snd_attribution :
    (attribution parameters values).map Prod.snd = ownPairs parameters values :=
  List.map_snd_zip (Nat.le_of_eq (length_ownPairs parameters values))

/-- Pairs for the structured ones of some parameters, in order. -/
inductive Gives : List Parameter → List (Parameter × List (String × String)) → Prop
  | nil : Gives [] []
  | structured {p : Parameter} {schema : Schema} {ps : List Parameter}
      {given : List (Parameter × List (String × String))} (own : List (String × String)) :
      p.source = .structured schema → Gives ps given → Gives (p :: ps) ((p, own) :: given)
  | other {p : Parameter} {ps : List Parameter}
      {given : List (Parameter × List (String × String))} :
      p.isStructured = false → Gives ps given → Gives (p :: ps) given

theorem gives_of_map_fst_eq {ps : List Parameter}
    {given : List (Parameter × List (String × String))}
    (h : given.map Prod.fst = ps.filter Parameter.isStructured) : Gives ps given := by
  induction ps generalizing given with
  | nil => rw [List.map_eq_nil_iff.1 h]; exact .nil
  | cons p ps ih =>
      cases hstructured : p.isStructured with
      | false =>
          rw [List.filter_cons_of_neg (by simp [hstructured])] at h
          exact .other hstructured (ih h)
      | true =>
          rw [List.filter_cons_of_pos hstructured] at h
          obtain ⟨⟨q, own⟩, given, rfl, rfl, hrest⟩ := List.map_eq_cons_iff.1 h
          obtain ⟨schema, hsource⟩ := Parameter.isStructured_iff.1 hstructured
          exact .structured own hsource (ih hrest)

theorem gives_attribution : Gives parameters (attribution parameters values) :=
  gives_of_map_fst_eq (map_fst_attribution parameters values)

/-- The shares are empty if no unclaimed key is led. -/
theorem all_isEmpty_shares_unclaimed_iff :
    (shares (structuredNames parameters) (unclaimed parameters values)).all List.isEmpty = true ↔
      NoneLed parameters values := by
  simp only [all_isEmpty_shares_iff, leader?_eq_none_iff, NoneLed]

/-- The violation that keys which cannot be attributed are. -/
def unattributed? (parameters : List Parameter) (values : SortedMap String) : Option Violation :=
  if Unattributable parameters values then
    some (.unattributed (unclaimed parameters values).keys (structuredNames parameters))
  else none

/-- **What the second and the third pass come to.** -/
theorem settle_distribute :
    settle (decide (Consumes parameters values)) (structuredNames parameters)
        (shares (structuredNames parameters) (unclaimed parameters values))
        ((unclaimed parameters values).filterKeys fun key =>
          (leader? (structuredNames parameters) key).isNone)
      = (ownPairs parameters values, unattributed? parameters values) := by
  have hall := all_isEmpty_shares_unclaimed_iff parameters values
  rw [settle_eq (length_shares _ _)]
  unfold ownPairs unattributed? TakesAll Unattributable
  simp only [hall, decide_eq_false_iff_not]
  by_cases hnone : NoneLed parameters values
  · rw [SortedMap.filterKeys_eq_self fun key hkey => Option.isNone_iff_eq_none.2
      ((leader?_eq_none_iff _ key).2 (hnone key hkey))]
    congr
  · simp only [hnone, and_false, false_and, if_false]

/-- **The passes over the values**, each said of the values that the request came with. -/
theorem passes_eq :
    passes values parameters body
      = { first := intake (sent body) parameters values
          own := ownPairs parameters values
          rest := (unclaimed parameters values).filterKeys fun key =>
            (leader? (structuredNames parameters) key).isNone
          unattributed := unattributed? parameters values } := by
  simp only [passes, values_intake, consumed_intake, distribute_eq, settle_distribute]

/-- **What `resolve` makes of the passes**: it fills the slots of structured parameters. -/
theorem resolve_eq :
    resolve values parameters body
      = let own := ownPairs parameters values
        let slots := fill parameters (intake (sent body) parameters values).slots own
        let found := violations (fun p => !p.isStructured) parameters slots
          ++ (unattributed? parameters values).toList
          ++ violations Parameter.isStructured parameters slots
        { outcome :=
            if found.isEmpty then
              .ok ⟨(parameters.zip slots).map fun (p, slot) => (p.name, slot.value)⟩
            else .error found
          skipped := skippedPairs parameters own } := by
  simp only [resolve, passes_eq]

/-- The pairs that a parameter skips. -/
def skippedOf : Parameter × List (String × String) → List Skipped
  | (p, own) => match p.source with
    | .structured schema => StructuredValue.skipped p.name schema own
    | _ => []

theorem Gives.skippedPairs_eq {ps : List Parameter}
    {given : List (Parameter × List (String × String))} (h : Gives ps given) :
    skippedPairs ps (given.map Prod.snd) = given.flatMap skippedOf := by
  induction h with
  | nil => rfl
  | structured own hsource _ ih =>
      simp only [skippedPairs, hsource, List.map_cons, List.flatMap_cons, skippedOf, ih]
  | @other p _ _ hother _ ih =>
      unfold skippedPairs
      split
      · rename_i hsource _
        simp [Parameter.isStructured, hsource] at hother
      · exact ih

/-- **Skipped pairs are listed in the order of the attribution.** -/
theorem skipped_resolve :
    (resolve values parameters body).skipped
      = (attribution parameters values).flatMap skippedOf := by
  rw [resolve_eq, ← map_snd_attribution]
  exact (gives_attribution parameters values).skippedPairs_eq

end Resolution

end HttpDispatch
