import HttpDispatch.SortedMap
import Mathlib.Data.List.Nodup
import Mathlib.Data.List.Perm.Basic
import Mathlib.Data.String.Basic

/-!
# Entry lists under several insertions

`Entries.insert` keeps keys in order, so the order of insertions does not show in
the result.  Two insertions at different keys commute, the later of two at one key
wins, and a list of entries with distinct keys is only rearranged by
`Entries.ofList`.  Changing the values of a map changes what look-ups find, and nothing
else (`SortedMap.get?_map`); a text in front of every key leaves the entries in their order
(`SortedMap.prepend`); a filter that lets every key pass changes nothing at all
(`SortedMap.filterKeys_eq_self`).

None of these laws asks for a sorted list.  They are used below members of objects,
whose lists carry no proof of being sorted.
-/

namespace HttpDispatch.Entries

variable {α : Type}

/-- A key goes past a smaller one. -/
theorem insert_cons_of_lt {k key : String} (h : k < key) (v value : α)
    (rest : List (String × α)) :
    insert key value ((k, v) :: rest) = (k, v) :: insert key value rest := by
  rw [insert, if_neg h.ne', if_neg (not_lt_of_gt h)]

theorem insert_comm_of_lt {a b : String} (hab : a < b) (x y : α)
    (entries : List (String × α)) :
    insert a x (insert b y entries) = insert b y (insert a x entries) := by
  induction entries with
  | nil =>
      have one (key : String) (value : α) : insert key value [] = [(key, value)] := rfl
      rw [one, one, insert_cons_of_lt hab, one, insert, if_neg hab.ne, if_pos hab]
  | cons entry rest ih =>
      obtain ⟨k, v⟩ := entry
      rcases lt_trichotomy k a with hka | rfl | hak
      · rw [insert_cons_of_lt (hka.trans hab), insert_cons_of_lt hka, insert_cons_of_lt hka,
          insert_cons_of_lt (hka.trans hab), ih]
      · rw [insert_cons_of_lt hab, insert, if_pos rfl, insert, if_pos rfl,
          insert_cons_of_lt hab]
      · -- both `b` and `k` are behind `a`, which therefore comes first either way
        have front : insert a x ((k, v) :: rest) = (a, x) :: (k, v) :: rest := by
          rw [insert, if_neg hak.ne, if_pos hak]
        rw [front, insert_cons_of_lt hab, insert.eq_def b y ((k, v) :: rest)]
        dsimp only
        split
        · rw [insert, if_neg hab.ne, if_pos hab]
        · split
          · rw [insert, if_neg hab.ne, if_pos hab]
          · rw [insert, if_neg hak.ne, if_pos hak]

/-- **Insertions at different keys commute.** -/
theorem insert_comm {a b : String} (hne : a ≠ b) (x y : α) (entries : List (String × α)) :
    insert a x (insert b y entries) = insert b y (insert a x entries) := by
  rcases lt_or_gt_of_ne hne with hab | hba
  · exact insert_comm_of_lt hab x y entries
  · exact (insert_comm_of_lt hba y x entries).symm

/-- The later of two insertions at one key wins. -/
theorem insert_insert (key : String) (x y : α) (entries : List (String × α)) :
    insert key x (insert key y entries) = insert key x entries := by
  induction entries with
  | nil => simp [insert]
  | cons entry rest ih =>
      obtain ⟨k, v⟩ := entry
      by_cases hk : key = k
      · simp [insert, hk]
      · by_cases hlt : key < k
        · simp [insert, hk, hlt]
        · simp [insert, hk, hlt, ih]

/-- A new key adds one entry and leaves the others. -/
theorem perm_insert {key : String} {entries : List (String × α)} (value : α)
    (hnew : key ∉ entries.map Prod.fst) :
    (insert key value entries).Perm ((key, value) :: entries) := by
  induction entries with
  | nil => exact .refl _
  | cons entry rest ih =>
      obtain ⟨k, v⟩ := entry
      simp only [List.map_cons, List.mem_cons, not_or] at hnew
      rw [insert, if_neg hnew.1]
      split
      · exact .refl _
      · exact ((ih hnew.2).cons (k, v)).trans (.swap _ _ _)

theorem perm_foldl_insert {entries : List (String × α)} (acc : List (String × α))
    (hnodup : ((acc ++ entries).map Prod.fst).Nodup) :
    (entries.foldl (fun acc e => insert e.1 e.2 acc) acc).Perm (acc ++ entries) := by
  induction entries generalizing acc with
  | nil => simp
  | cons entry rest ih =>
      have hmid : (acc ++ entry :: rest).Perm (entry :: (acc ++ rest)) := List.perm_middle
      have hnodup' := (hmid.map Prod.fst).nodup_iff.1 hnodup
      have hnew : entry.1 ∉ acc.map Prod.fst := by
        have hout := (List.nodup_cons.1 hnodup').1
        rw [List.map_append, List.mem_append, not_or] at hout
        exact hout.1
      have hinsert : (insert entry.1 entry.2 acc).Perm (entry :: acc) :=
        perm_insert entry.2 hnew
      have hrest := ih (insert entry.1 entry.2 acc)
        (((hinsert.append_right rest).map Prod.fst).nodup_iff.2 hnodup')
      exact hrest.trans ((hinsert.append_right rest).trans hmid.symm)

/-- **Entries with distinct keys** are only put in order. -/
theorem perm_ofList {entries : List (String × α)} (h : (entries.map Prod.fst).Nodup) :
    (ofList entries).Perm entries :=
  perm_foldl_insert [] h

/-! ### Changing the values -/

variable {β : Type}

theorem get?_map (change : α → β) (key : String) (entries : List (String × α)) :
    get? key (entries.map fun e => (e.1, change e.2)) = (get? key entries).map change := by
  induction entries with
  | nil => rfl
  | cons e rest ih =>
      by_cases hk : key = e.1
      · simp [get?, hk]
      · simpa [get?, hk] using ih

theorem sorted_map (change : α → β) {entries : List (String × α)} (h : Sorted entries) :
    Sorted (entries.map fun e => (e.1, change e.2)) :=
  List.pairwise_map.2 h

/-! ### Prolonging the keys -/

/-- A common text in front does not change the order of keys. -/
theorem sorted_prepend (front : String) {entries : List (String × α)} (h : Sorted entries) :
    Sorted (entries.map fun e => (front ++ e.1, e.2)) := by
  refine List.pairwise_map.2 (h.imp fun {a b} hlt => ?_)
  rw [String.lt_iff_toList_lt, String.toList_append, String.toList_append]
  exact List.Lex.append_left _ (String.lt_iff_toList_lt.1 hlt) _

end HttpDispatch.Entries

namespace HttpDispatch.SortedMap

variable {α β : Type}

/-- The map with its values changed. -/
def map (change : α → β) (m : SortedMap α) : SortedMap β :=
  ⟨m.entries.map fun e => (e.1, change e.2), Entries.sorted_map change m.sorted⟩

@[simp] theorem get?_map (change : α → β) (m : SortedMap α) (key : String) :
    (m.map change).get? key = (m.get? key).map change :=
  Entries.get?_map change key m.entries

@[simp] theorem contains_map (change : α → β) (m : SortedMap α) (key : String) :
    (m.map change).contains key = m.contains key := by
  rw [contains, get?_map, Option.isSome_map, contains]

/-- **The map with a text in front of every key.** -/
def prepend (front : String) (m : SortedMap α) : SortedMap α :=
  ⟨m.entries.map fun e => (front ++ e.1, e.2), Entries.sorted_prepend front m.sorted⟩

theorem entries_insertAll (m : SortedMap α) (sent : List (String × α)) :
    (m.insertAll sent).entries
      = sent.foldl (fun acc e => Entries.insert e.1 e.2 acc) m.entries := by
  induction sent generalizing m with
  | nil => rfl
  | cons e sent ih => exact ih (m.insert e.1 e.2)

/-- A map made from entries has the entries that the plain list operation gives. -/
theorem entries_ofList (sent : List (String × α)) :
    (ofList sent).entries = Entries.ofList sent :=
  entries_insertAll empty sent

/-- **Of several insertions under one key the last one counts.** -/
theorem get?_insertAll (m : SortedMap α) (sent : List (String × α)) (key : String) :
    (m.insertAll sent).get? key
      = ((sent.reverse.find? fun e => e.1 == key).map Prod.snd).or (m.get? key) := by
  induction sent generalizing m with
  | nil => rfl
  | cons e sent ih =>
      refine (ih (m.insert e.1 e.2)).trans ?_
      rw [get?_insert, List.reverse_cons, List.find?_append]
      cases sent.reverse.find? fun e => e.1 == key with
      | some found => rfl
      | none =>
          by_cases hkey : key = e.1
          · simp [hkey]
          · simp [hkey, Ne.symm hkey]

/-- **Values under keys of their own**: of those with the same key the last one counts. -/
theorem get?_ofList_index (index : α → String) (values : List α) (key : String) :
    (ofList (values.map fun v => (index v, v))).get? key
      = values.reverse.find? fun v => index v == key := by
  rw [ofList, get?_insertAll, get?_empty, Option.or_none, ← List.map_reverse, List.find?_map,
    Option.map_map]
  exact Option.map_id'

/-- Insertions under other keys do not matter to a look-up. -/
theorem get?_insertAll_of_ne {key : String} {sent : List (String × α)}
    (h : ∀ e ∈ sent, e.1 ≠ key) (m : SortedMap α) : (m.insertAll sent).get? key = m.get? key := by
  have hnone : (sent.reverse.find? fun e => e.1 == key) = none :=
    List.find?_eq_none.2 fun e he => by simpa using h e (List.mem_reverse.1 he)
  rw [get?_insertAll, hnone, Option.map_none, Option.none_or]

/-- Of entries with distinct keys every one is found after their insertion. -/
theorem get?_insertAll_of_mem {key : String} {value : α} {sent : List (String × α)}
    (hnodup : (sent.map Prod.fst).Nodup) (h : (key, value) ∈ sent) (m : SortedMap α) :
    (m.insertAll sent).get? key = some value := by
  induction sent generalizing m with
  | nil => cases h
  | cons e rest ih =>
      obtain ⟨hnew, hrest⟩ := List.nodup_cons.1 hnodup
      rcases List.mem_cons.1 h with rfl | h
      · have hbehind : ∀ e ∈ rest, e.1 ≠ key := fun e he heq =>
          hnew (List.mem_map.2 ⟨e, he, heq⟩)
        exact (get?_insertAll_of_ne hbehind (m.insert key value)).trans
          ((m.get?_insert key key value).trans (if_pos rfl))
      · exact ih hrest h (m.insert e.1 e.2)

/-- A map made from entries with distinct keys has these entries and no others. -/
theorem get?_ofList_eq_some_iff {sent : List (String × α)} (h : (sent.map Prod.fst).Nodup)
    (key : String) (value : α) :
    (ofList sent).get? key = some value ↔ (key, value) ∈ sent := by
  rw [← mem_entries_iff, entries_ofList]
  exact (Entries.perm_ofList h).mem_iff

/-! ### Keys -/

theorem mem_keys_iff (m : SortedMap α) (key : String) :
    key ∈ m.keys ↔ ∃ value, (key, value) ∈ m.entries := by
  simp [keys]

theorem mem_keys_iff_get? (m : SortedMap α) (key : String) :
    key ∈ m.keys ↔ ∃ value, m.get? key = some value := by
  simp only [mem_keys_iff, mem_entries_iff]

/-- **No key has two entries.** -/
theorem nodup_keys (m : SortedMap α) : m.keys.Nodup :=
  List.pairwise_map.2 (m.sorted.imp fun hlt => hlt.ne)

theorem nodup_entries (m : SortedMap α) : m.entries.Nodup :=
  List.Nodup.of_map Prod.fst m.nodup_keys

/-- The entries under one key: one or none. -/
theorem filter_entries_eq (m : SortedMap α) (key : String) :
    (m.entries.filter fun e => e.1 = key) = (m.get? key).toList.map (key, ·) := by
  have hsingle : Entries.Sorted ((m.get? key).toList.map (key, ·)) := by
    cases m.get? key with
    | none => exact .nil
    | some value => exact List.pairwise_singleton _ _
  refine Entries.eq_of_get?_eq (Entries.sorted_filter _ m.sorted) hsingle fun key' => ?_
  rw [Entries.get?_filter fun k => decide (k = key)]
  by_cases hkey : key' = key
  · subst hkey
    change _ = Entries.get? key' ((Entries.get? key' m.entries).toList.map (key', ·))
    cases hvalue : Entries.get? key' m.entries <;> simp [Entries.get?]
  · cases m.get? key <;> simp [Entries.get?, hkey]

theorem erase_eq_self {key : String} {m : SortedMap α} (h : m.get? key = none) :
    m.erase key = m := by
  refine ext_get? fun key' => ?_
  rw [get?_erase]
  split
  · rename_i heq
    rw [heq, h]
  · rfl

/-- A condition that holds of every key keeps everything. -/
theorem filterKeys_eq_self {keep : String → Bool} {m : SortedMap α}
    (h : ∀ key ∈ m.keys, keep key = true) : m.filterKeys keep = m := by
  refine ext_get? fun key => ?_
  rw [get?_filterKeys]
  cases hv : m.get? key with
  | none => simp
  | some value => rw [if_pos (h key ((m.mem_keys_iff_get? key).2 ⟨value, hv⟩))]

theorem filterKeys_filterKeys (keep keep' : String → Bool) (m : SortedMap α) :
    (m.filterKeys keep).filterKeys keep' = m.filterKeys fun key => keep key && keep' key := by
  refine ext_get? fun key => ?_
  simp only [get?_filterKeys]
  cases keep key <;> simp

end HttpDispatch.SortedMap
