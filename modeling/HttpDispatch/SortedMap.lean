/-!
# Maps with text keys, in key order

Request values, registered translators and the members of JSON objects are all
looked up by a text key and listed in ascending key order (by code point).  Two
layers serve them:

* `Entries` — operations on a plain list of entries.  They keep the list sorted
  (`sorted_insert`, `sorted_erase`) and their look-up laws need no hypothesis, so
  an inductive type can hold such a list directly.
* `SortedMap` — an entry list together with the proof that it is sorted.  Two
  maps with equal look-ups are equal (`SortedMap.ext_get?`).
-/

namespace HttpDispatch

namespace Entries

variable {α : Type}

/-- **Put an entry in its place**, replacing one with the same key. -/
def insert (key : String) (value : α) : List (String × α) → List (String × α)
  | [] => [(key, value)]
  | (k, v) :: rest =>
    if key = k then (key, value) :: rest
    else if key < k then (key, value) :: (k, v) :: rest
    else (k, v) :: insert key value rest

/-- The value under a key. -/
def get? (key : String) : List (String × α) → Option α
  | [] => none
  | (k, v) :: rest => if key = k then some v else get? key rest

/-- Remove the entry under a key. -/
def erase (key : String) (entries : List (String × α)) : List (String × α) :=
  entries.filter fun e => e.1 ≠ key

/-- **Insert one after the other**, so that of entries with the same key the last
one stays. -/
def ofList (entries : List (String × α)) : List (String × α) :=
  entries.foldl (fun acc e => insert e.1 e.2 acc) []

/-- Strictly ascending keys. -/
def Sorted (entries : List (String × α)) : Prop := entries.Pairwise fun a b => a.1 < b.1

/-! ### Look-up -/

@[simp] theorem get?_nil (key : String) : get? key ([] : List (String × α)) = none := rfl

theorem get?_insert (key key' : String) (value : α) (entries : List (String × α)) :
    get? key' (insert key value entries) =
      if key' = key then some value else get? key' entries := by
  induction entries with
  | nil => simp [insert, get?]
  | cons e rest ih =>
    obtain ⟨k, v⟩ := e
    rw [insert]
    split
    · rename_i h
      subst h
      by_cases h' : key' = key <;> simp [get?, h']
    · split
      · simp [get?]
      · rename_i hne _
        simp only [get?, ih]
        by_cases h' : key' = k
        · simp [h', Ne.symm hne]
        · simp [h']

@[simp] theorem get?_insert_self (key : String) (value : α) (entries : List (String × α)) :
    get? key (insert key value entries) = some value := by simp [get?_insert]

theorem get?_insert_of_ne {key key' : String} (h : key' ≠ key) (value : α)
    (entries : List (String × α)) :
    get? key' (insert key value entries) = get? key' entries := by simp [get?_insert, h]

theorem get?_filter (keep : String → Bool) (key : String) (entries : List (String × α)) :
    get? key (entries.filter fun e => keep e.1) = if keep key then get? key entries else none := by
  induction entries with
  | nil => simp
  | cons e rest ih =>
    obtain ⟨k, v⟩ := e
    by_cases hk : keep k = true
    · rw [List.filter_cons_of_pos (by simpa using hk)]
      simp only [get?, ih]
      by_cases h' : key = k
      · simp [h', hk]
      · simp [h']
    · rw [List.filter_cons_of_neg (by simpa using hk), ih]
      by_cases h' : key = k
      · simp [h', hk]
      · simp [get?, h']

theorem get?_erase (key key' : String) (entries : List (String × α)) :
    get? key' (erase key entries) = if key' = key then none else get? key' entries := by
  have h := get?_filter (fun k => decide (k ≠ key)) key' entries
  rw [erase, h]
  by_cases hk : key' = key <;> simp [hk]

theorem mem_of_get? {key : String} {value : α} {entries : List (String × α)}
    (h : get? key entries = some value) : (key, value) ∈ entries := by
  induction entries with
  | nil => simp at h
  | cons e rest ih =>
    obtain ⟨k, v⟩ := e
    rw [get?] at h
    split at h
    · rename_i hk
      simp_all
    · exact List.mem_cons_of_mem _ (ih h)

/-! ### Order -/

theorem lt_of_not_lt_of_ne {a b : String} (h : ¬ a < b) (hne : a ≠ b) : b < a := by
  by_cases hb : b < a
  · exact hb
  · exact absurd (String.le_antisymm (String.not_lt.1 hb) (String.not_lt.1 h)) hne

theorem mem_insert {key : String} {value : α} {e : String × α} {entries : List (String × α)}
    (h : e ∈ insert key value entries) : e = (key, value) ∨ e ∈ entries := by
  induction entries with
  | nil => simpa [insert] using h
  | cons hd rest ih =>
    obtain ⟨k, v⟩ := hd
    rw [insert] at h
    split at h
    · rcases List.mem_cons.1 h with h | h
      · exact .inl h
      · exact .inr (List.mem_cons_of_mem _ h)
    · split at h
      · exact List.mem_cons.1 h
      · rcases List.mem_cons.1 h with h | h
        · exact .inr (by simp [h])
        · exact (ih h).imp_right (List.mem_cons_of_mem _)

theorem sorted_nil : Sorted ([] : List (String × α)) := List.Pairwise.nil

theorem sorted_insert (key : String) (value : α) {entries : List (String × α)}
    (h : Sorted entries) : Sorted (insert key value entries) := by
  induction entries with
  | nil => simp [insert, Sorted]
  | cons e rest ih =>
    obtain ⟨k, v⟩ := e
    have hrest : Sorted rest := List.Pairwise.of_cons h
    have hk : ∀ e ∈ rest, k < e.1 := fun e he => List.rel_of_pairwise_cons h he
    rw [insert]
    split
    · rename_i heq
      subst heq
      exact List.Pairwise.cons hk hrest
    · rename_i hne
      split
      · rename_i hlt
        refine List.Pairwise.cons ?_ h
        intro e he
        rcases List.mem_cons.1 he with rfl | he
        · exact hlt
        · exact String.lt_trans hlt (hk e he)
      · rename_i hnlt
        refine List.Pairwise.cons ?_ (ih hrest)
        intro e he
        rcases mem_insert he with rfl | he
        · exact lt_of_not_lt_of_ne hnlt hne
        · exact hk e he

theorem sorted_filter (keep : String × α → Bool) {entries : List (String × α)}
    (h : Sorted entries) : Sorted (entries.filter keep) :=
  List.Pairwise.sublist List.filter_sublist h

theorem sorted_erase (key : String) {entries : List (String × α)} (h : Sorted entries) :
    Sorted (erase key entries) := sorted_filter _ h

theorem sorted_foldl_insert (entries : List (String × α)) {acc : List (String × α)}
    (h : Sorted acc) : Sorted (entries.foldl (fun acc e => insert e.1 e.2 acc) acc) := by
  induction entries generalizing acc with
  | nil => exact h
  | cons e rest ih => exact ih (sorted_insert _ _ h)

theorem sorted_ofList (entries : List (String × α)) : Sorted (ofList entries) :=
  sorted_foldl_insert entries sorted_nil

/-- In a sorted list an entry is found under its key. -/
theorem get?_of_mem {key : String} {value : α} {entries : List (String × α)}
    (hs : Sorted entries) (h : (key, value) ∈ entries) : get? key entries = some value := by
  induction entries with
  | nil => simp at h
  | cons e rest ih =>
    obtain ⟨k, v⟩ := e
    rcases List.mem_cons.1 h with h | h
    · cases h
      simp [get?]
    · have hlt : k < key := List.rel_of_pairwise_cons hs h
      have hne : key ≠ k := fun heq => String.lt_irrefl k (heq ▸ hlt)
      rw [get?, if_neg hne]
      exact ih (List.Pairwise.of_cons hs) h

/-- **Extensionality**: sorted lists with equal look-ups are equal. -/
theorem eq_of_get?_eq {xs ys : List (String × α)} (hx : Sorted xs) (hy : Sorted ys)
    (h : ∀ key, get? key xs = get? key ys) : xs = ys := by
  induction xs generalizing ys with
  | nil =>
    cases ys with
    | nil => rfl
    | cons e ys => have := h e.1; simp [get?] at this
  | cons a xs ih =>
    cases ys with
    | nil => have := h a.1; simp [get?] at this
    | cons b ys =>
      obtain ⟨k, v⟩ := a
      obtain ⟨k', v'⟩ := b
      have key_eq : k = k' := by
        by_cases hk : k = k'
        · exact hk
        · have h1 := mem_of_get? (((h k).symm.trans (by simp [get?])) :
            get? k ((k', v') :: ys) = some v)
          have h2 := mem_of_get? ((h k').trans (by simp [get?]) :
            get? k' ((k, v) :: xs) = some v')
          have h1' : (k, v) ∈ ys := by
            rcases List.mem_cons.1 h1 with h1 | h1
            · cases h1; exact absurd rfl hk
            · exact h1
          have h2' : (k', v') ∈ xs := by
            rcases List.mem_cons.1 h2 with h2 | h2
            · cases h2; exact absurd rfl hk
            · exact h2
          have lt1 : k' < k := List.rel_of_pairwise_cons hy h1'
          have lt2 : k < k' := List.rel_of_pairwise_cons hx h2'
          exact absurd lt1 (String.lt_asymm lt2)
      subst key_eq
      have value_eq : v = v' := by
        have := h k
        simpa [get?] using this
      subst value_eq
      congr 1
      refine ih (List.Pairwise.of_cons hx) (List.Pairwise.of_cons hy) fun key => ?_
      by_cases hk : key = k
      · subst hk
        have none_of {zs : List (String × α)} (hz : Sorted ((key, v) :: zs)) :
            get? key zs = none := by
          cases hg : get? key zs with
          | none => rfl
          | some w =>
            exact absurd (List.rel_of_pairwise_cons hz (mem_of_get? hg)) (String.lt_irrefl key)
        rw [none_of hx, none_of hy]
      · simpa [get?, hk] using h key

end Entries

/-- **A map with text keys**, listed in ascending key order. -/
structure SortedMap (α : Type) where
  /-- The entries, in order. -/
  entries : List (String × α)
  /-- The keys ascend strictly. -/
  sorted : Entries.Sorted entries

namespace SortedMap

variable {α : Type}

instance [DecidableEq α] : DecidableEq (SortedMap α) := fun m n =>
  if h : m.entries = n.entries then
    isTrue (by cases m; cases n; cases h; rfl)
  else isFalse fun he => h (he ▸ rfl)

/-- The map without entries. -/
def empty : SortedMap α := ⟨[], Entries.sorted_nil⟩

instance : Inhabited (SortedMap α) := ⟨empty⟩

instance : EmptyCollection (SortedMap α) := ⟨empty⟩

/-- The value under a key. -/
def get? (m : SortedMap α) (key : String) : Option α := Entries.get? key m.entries

/-- Whether a key has a value. -/
def contains (m : SortedMap α) (key : String) : Bool := (m.get? key).isSome

/-- Set the value under a key. -/
def insert (m : SortedMap α) (key : String) (value : α) : SortedMap α :=
  ⟨Entries.insert key value m.entries, Entries.sorted_insert key value m.sorted⟩

/-- Set the value under a key unless it has one. -/
def insertIfNew (m : SortedMap α) (key : String) (value : α) : SortedMap α :=
  if m.contains key then m else m.insert key value

/-- Remove the value under a key. -/
def erase (m : SortedMap α) (key : String) : SortedMap α :=
  ⟨Entries.erase key m.entries, Entries.sorted_erase key m.sorted⟩

/-- The entries whose key satisfies `keep`. -/
def filterKeys (m : SortedMap α) (keep : String → Bool) : SortedMap α :=
  ⟨m.entries.filter fun e => keep e.1, Entries.sorted_filter _ m.sorted⟩

/-- Insert entries one after the other. -/
def insertAll (m : SortedMap α) (entries : List (String × α)) : SortedMap α :=
  entries.foldl (fun m e => m.insert e.1 e.2) m

/-- The map of some entries; of equal keys the last one counts. -/
def ofList (entries : List (String × α)) : SortedMap α := empty.insertAll entries

/-- The keys, ascending. -/
def keys (m : SortedMap α) : List String := m.entries.map Prod.fst

/-- The number of entries. -/
def size (m : SortedMap α) : Nat := m.entries.length

/-- Whether there is no entry. -/
def isEmpty (m : SortedMap α) : Bool := m.entries.isEmpty

/-! ### Laws -/

@[simp] theorem get?_empty (key : String) : (empty : SortedMap α).get? key = none := rfl

theorem get?_insert (m : SortedMap α) (key key' : String) (value : α) :
    (m.insert key value).get? key' = if key' = key then some value else m.get? key' :=
  Entries.get?_insert key key' value m.entries

theorem get?_erase (m : SortedMap α) (key key' : String) :
    (m.erase key).get? key' = if key' = key then none else m.get? key' :=
  Entries.get?_erase key key' m.entries

theorem get?_filterKeys (m : SortedMap α) (keep : String → Bool) (key : String) :
    (m.filterKeys keep).get? key = if keep key then m.get? key else none :=
  Entries.get?_filter keep key m.entries

theorem get?_insertIfNew (m : SortedMap α) (key key' : String) (value : α) :
    (m.insertIfNew key value).get? key' =
      if key' = key then some ((m.get? key).getD value) else m.get? key' := by
  unfold insertIfNew contains
  cases h : m.get? key with
  | none => simp [get?_insert]
  | some v =>
    by_cases hk : key' = key
    · simp [hk, h]
    · simp [hk]

theorem mem_entries_iff (m : SortedMap α) (key : String) (value : α) :
    (key, value) ∈ m.entries ↔ m.get? key = some value :=
  ⟨Entries.get?_of_mem m.sorted, Entries.mem_of_get?⟩

/-- **Extensionality**: maps with equal look-ups are equal. -/
theorem ext_get? {m n : SortedMap α} (h : ∀ key, m.get? key = n.get? key) : m = n := by
  have : m.entries = n.entries := Entries.eq_of_get?_eq m.sorted n.sorted h
  cases m
  cases n
  cases this
  rfl

end SortedMap

end HttpDispatch
