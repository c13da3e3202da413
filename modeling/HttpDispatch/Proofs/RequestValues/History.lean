import HttpDispatch.Proofs.RequestValues
import Mathlib.Data.Set.Card

/-!
# The history of the values of a request

The values of a request come about step by step, and each step tells a log of what it appends and
what it replaces: a form its fields with a value, an upload its three texts, a match its
variables.  `RequestValues.Recorded` reads the values of a name off such a log.  They are what was
appended under the name since it was last replaced, behind the value that replaced the others.

* `RequestValues.all_eq_iff_recorded` — the values of a name are those that its log has.
* `RequestValues.NoneEmpty` — no name is recorded without a value.  Every event keeps it so
  (`noneEmpty_record`), and the ways to ask for a name agree because of it.
* `RequestValues.get?_apply_of_not_mem` — a step leaves alone what it does not name.

### Design notes

The log knows two kinds of events only.  All steps are sequences of these
(`apply_eq_foldl_record`), so what holds of an event is shown once and not for every step.
-/

namespace HttpDispatch

namespace RequestValues

/-! ### Steps and events -/

/-- **A step** in which values are recorded. -/
inductive Operation where
  /-- A value is appended. -/
  | add (name value : String)
  /-- A value replaces all others of its name. -/
  | set (name value : String)
  /-- The fields of a form are appended. -/
  | addForm (bytes : List UInt8)
  /-- What is known of an upload is appended. -/
  | addUpload (name : String) (upload : Upload)
  /-- The variables of a path replace all others of their names. -/
  | merge (bindings : Bindings)
  deriving DecidableEq

/-- Take one step. -/
def apply (r : RequestValues) : Operation → RequestValues
  | .add name value => r.add name value
  | .set name value => r.set name value
  | .addForm bytes => r.addForm bytes
  | .addUpload name upload => r.addUpload name upload
  | .merge bindings => r.merge bindings

/-- **The values after some steps.** -/
def run (operations : List Operation) : RequestValues := operations.foldl apply empty

/-- What happens to one name. -/
inductive Event where
  /-- A value is put behind the others. -/
  | append (name value : String)
  /-- A value is put in place of the others. -/
  | replace (name value : String)
  deriving DecidableEq

/-- The name that an event is about. -/
def Event.name : Event → String
  | append name _ | replace name _ => name

/-- **What a step does**, event by event.  A field of a form without a value does nothing. -/
def Operation.events : Operation → List Event
  | add name value => [.append name value]
  | set name value => [.replace name value]
  | addForm bytes =>
    ((Form.fields bytes).filter fun (_, value) => value ≠ "").map fun e => .append e.1 e.2
  | addUpload name upload => (upload.fields name).map fun e => .append e.1 e.2
  | merge bindings => bindings.map fun e => .replace e.1 e.2

/-- The names that a step is about. -/
def Operation.names (operation : Operation) : List String := operation.events.map Event.name

/-- **The log** of some steps. -/
def log (operations : List Operation) : List Event := operations.flatMap Operation.events

/-- Let an event happen. -/
def record (r : RequestValues) : Event → RequestValues
  | .append name value => r.add name value
  | .replace name value => r.set name value

/-- **A step is its events**, one after the other. -/
theorem apply_eq_foldl_record (r : RequestValues) (operation : Operation) :
    r.apply operation = operation.events.foldl record r := by
  cases operation with
  | add | set => rfl
  | addForm bytes =>
      rw [Operation.events, List.foldl_map]
      rfl
  | addUpload name upload =>
      rw [Operation.events, List.foldl_map]
      rfl
  | merge bindings =>
      rw [Operation.events, List.foldl_map]
      rfl

theorem run_eq_foldl_record (operations : List Operation) :
    run operations = (log operations).foldl record empty := by
  rw [log, List.foldl_flatMap, run]
  congr 1
  funext r operation
  exact r.apply_eq_foldl_record operation

/-! ### What an event does -/

theorem lists_record (r : RequestValues) (e : Event) :
    ∃ values, values ≠ [] ∧ (r.record e).lists = r.lists.insert e.name values := by
  cases e with
  | append name value => exact ⟨r.all name ++ [value], by simp, rfl⟩
  | replace name value => exact ⟨[value], by simp, rfl⟩

/-- An event leaves other names alone. -/
theorem get?_record_of_ne {name : String} {e : Event} (h : e.name ≠ name) (r : RequestValues) :
    (r.record e).lists.get? name = r.lists.get? name := by
  obtain ⟨values, -, hlists⟩ := r.lists_record e
  rw [hlists, SortedMap.get?_insert, if_neg (Ne.symm h)]

/-- **A step leaves alone what it does not name.** -/
theorem get?_apply_of_not_mem {name : String} {operation : Operation}
    (h : name ∉ operation.names) (r : RequestValues) :
    (r.apply operation).lists.get? name = r.lists.get? name := by
  rw [apply_eq_foldl_record]
  have hnames : ∀ e ∈ operation.events, e.name ≠ name := fun e he heq =>
    h (List.mem_map.2 ⟨e, he, heq⟩)
  generalize operation.events = events at hnames
  induction events generalizing r with
  | nil => rfl
  | cons e events ih =>
      obtain ⟨hne, hrest⟩ := List.forall_mem_cons.1 hnames
      exact (ih (r.record e) hrest).trans (get?_record_of_ne hne r)

/-- **No name is recorded without a value.** -/
def NoneEmpty (r : RequestValues) : Prop :=
  ∀ name values, r.lists.get? name = some values → values ≠ []

theorem noneEmpty_record {r : RequestValues} (h : r.NoneEmpty) (e : Event) :
    (r.record e).NoneEmpty := by
  intro name values hvalues
  obtain ⟨own, hown, hlists⟩ := r.lists_record e
  rw [hlists, SortedMap.get?_insert] at hvalues
  split at hvalues
  · cases hvalues
    exact hown
  · exact h name values hvalues

theorem noneEmpty_foldl_record {r : RequestValues} (h : r.NoneEmpty) (events : List Event) :
    (events.foldl record r).NoneEmpty := by
  induction events generalizing r with
  | nil => exact h
  | cons e events ih => exact ih (noneEmpty_record h e)

/-- **No step leaves a name without a value.** -/
theorem noneEmpty_run (operations : List Operation) : (run operations).NoneEmpty := by
  rw [run_eq_foldl_record]
  exact noneEmpty_foldl_record (fun _ _ h => by cases h) _

/-! ### The log of a name -/

/-- The value that an event appends under a name. -/
def Event.appended? (name : String) : Event → Option String
  | append name' value => if name' = name then some value else none
  | replace _ _ => none

/-- **What is appended** under a name, in order. -/
def appendedTo (name : String) (events : List Event) : List String :=
  events.filterMap (Event.appended? name)

/-- **The values that a log has for a name.** -/
inductive Recorded (name : String) : List Event → List String → Prop
  /-- Its values were never replaced: all that was appended. -/
  | appended {events : List Event} : (∀ value, .replace name value ∉ events) →
      Recorded name events (appendedTo name events)
  /-- The value that replaced the others last, and what was appended behind it. -/
  | replaced {before behind : List Event} {value : String} :
      (∀ value, .replace name value ∉ behind) →
        Recorded name (before ++ .replace name value :: behind) (value :: appendedTo name behind)

/-- As long as the values of a name are not replaced, they grow. -/
theorem all_foldl_record {name : String} {events : List Event}
    (h : ∀ value, .replace name value ∉ events) (r : RequestValues) :
    (events.foldl record r).all name = r.all name ++ appendedTo name events := by
  induction events generalizing r with
  | nil => exact (List.append_nil _).symm
  | cons e events ih =>
      have hrest : ∀ value, .replace name value ∉ events := fun value hmem =>
        h value (List.mem_cons_of_mem _ hmem)
      rw [List.foldl_cons, ih hrest]
      cases e with
      | append name' value =>
          rw [record, all_add]
          by_cases hname : name = name'
          · simp [hname, appendedTo, Event.appended?]
          · simp [hname, Ne.symm hname, appendedTo, Event.appended?]
      | replace name' value =>
          have hname : name ≠ name' := fun heq => h value (heq ▸ List.mem_cons_self)
          rw [record, all_set, if_neg hname]
          rfl

/-- The log tells the values. -/
theorem Recorded.all_eq {name : String} {events : List Event} {values : List String}
    (h : Recorded name events values) : (events.foldl record empty).all name = values := by
  cases h with
  | appended hnone => rw [all_foldl_record hnone, all_empty, List.nil_append]
  | replaced hnone =>
      rw [List.foldl_append, List.foldl_cons, all_foldl_record hnone, record, all_set, if_pos rfl,
        List.singleton_append]

/-- **Every log has values for every name**, if only none. -/
theorem exists_recorded (name : String) (events : List Event) :
    ∃ values, Recorded name events values := by
  induction events with
  | nil => exact ⟨_, .appended fun _ => List.not_mem_nil⟩
  | cons e events ih =>
      obtain ⟨values, hrecorded⟩ := ih
      cases hrecorded with
      | appended hnone =>
          by_cases hreplaced : ∃ value, e = .replace name value
          · obtain ⟨value, rfl⟩ := hreplaced
            exact ⟨_, @Recorded.replaced name [] events value hnone⟩
          · refine ⟨_, .appended fun value hmem => ?_⟩
            rcases List.mem_cons.1 hmem with heq | hmem
            · exact hreplaced ⟨value, heq.symm⟩
            · exact hnone value hmem
      | @replaced before behind value hnone =>
          exact ⟨_, @Recorded.replaced name (e :: before) behind value hnone⟩

/-- **The values of a name are those that its log has.** -/
theorem all_eq_iff_recorded {operations : List Operation} {name : String}
    {values : List String} :
    (run operations).all name = values ↔ Recorded name (log operations) values := by
  rw [run_eq_foldl_record]
  constructor
  · rintro rfl
    obtain ⟨values, hrecorded⟩ := exists_recorded name (log operations)
    rwa [hrecorded.all_eq]
  · exact Recorded.all_eq

/-! ### Asking for a name -/

/-- A name is recorded if it has values. -/
theorem NoneEmpty.contains_iff {r : RequestValues} (h : r.NoneEmpty) (name : String) :
    r.contains name = true ↔ r.all name ≠ [] := by
  rw [contains, SortedMap.contains, all]
  cases hvalues : r.lists.get? name with
  | none => simp
  | some values => simpa using h name values hvalues

theorem isSome_first?_iff (r : RequestValues) (name : String) :
    (r.first? name).isSome = true ↔ r.all name ≠ [] := by
  rw [first?_eq_head?_all, List.isSome_head?]

/-- **The size counts the names that are recorded.** -/
theorem size_eq_ncard (r : RequestValues) : r.size = {name | r.contains name = true}.ncard := by
  have hset : {name | r.contains name = true} = ↑r.lists.keys.toFinset := by
    ext name
    rw [Set.mem_ofPred_eq, List.coe_toFinset, Set.mem_ofPred_eq, SortedMap.mem_keys_iff_get?,
      contains, SortedMap.contains, Option.isSome_iff_exists]
  rw [hset, Set.ncard_coe_finset, List.toFinset_card_of_nodup r.lists.nodup_keys,
    SortedMap.keys, List.length_map]
  rfl

/-- **After any steps**, a name has the values that the log has for it, and no name is recorded
without one.  It is recorded, and has a first value, if it has values at all; the size counts such
names; and binding without parameters sees these names, each with its first value.  One more step
leaves alone all names that it is not about. -/
theorem run_agrees_with_log (operations : List Operation) :
    let r := run operations
    (∀ name values, r.all name = values ↔ Recorded name (log operations) values) ∧
      (∀ name values, r.lists.get? name = some values → values ≠ []) ∧
      (∀ name, (r.contains name = true ↔ r.all name ≠ []) ∧
        ((r.first? name).isSome = true ↔ r.all name ≠ [])) ∧
      r.size = {name | r.all name ≠ []}.ncard ∧
      (∀ name, (r.flatten []).get? name = (r.all name).head? ∧
        (r.flatten []).contains name = r.contains name) ∧
      (∀ operation name, name ∉ operation.names →
        (r.apply operation).lists.get? name = r.lists.get? name) := by
  intro r
  have hnone : r.NoneEmpty := noneEmpty_run operations
  have hflatten (name : String) : (r.flatten []).get? name = (r.all name).head? := by
    rw [flatten, List.foldl_nil, get?_firsts, first?_eq_head?_all]
  refine ⟨fun _ _ => all_eq_iff_recorded, hnone,
    fun name => ⟨hnone.contains_iff name, r.isSome_first?_iff name⟩, ?_,
    fun name => ⟨hflatten name, ?_⟩, fun _ _ h => get?_apply_of_not_mem h r⟩
  · rw [size_eq_ncard]
    simp only [hnone.contains_iff]
  · rw [Bool.eq_iff_iff, hnone.contains_iff, ← r.isSome_first?_iff, SortedMap.contains, hflatten,
      first?_eq_head?_all]

/-- What stood under `tag` before it was set is gone, an empty field does not count, and a variable
of the path replaces a field of the query. -/
theorem run_agrees_with_log_tags :
    let operations : List Operation :=
      [.add "tag" "a", .addForm (Utf8.encode "tag=b&tag=&page=1&page=2".toList), .set "tag" "c",
        .addUpload "photo" ⟨"/tmp/1", "a.png", ""⟩, .merge [("page", "7")],
        .addForm (Utf8.encode "tag=d&tag=".toList)]
    let r := run operations
    Recorded "tag" (log operations) ["c", "d"] ∧ Recorded "page" (log operations) ["7"] ∧
      r.all "photo.contentType" = [""] ∧ r.contains "photo" = false ∧
      {name | r.all name ≠ []}.ncard = 5 ∧
      (r.flatten []).get? "tag" = some "c" ∧
      "page" ∉ (Operation.set "tag" "e").names ∧
      (r.apply (.set "tag" "e")).lists.get? "page" = some ["7"] := by
  intro operations r
  obtain ⟨hlog, -, -, hsize, hflatten, hothers⟩ := run_agrees_with_log operations
  have htag : r.all "tag" = ["c", "d"] := by decide +kernel
  have hpage : r.all "page" = ["7"] := by decide +kernel
  have hfive : r.size = 5 := by decide +kernel
  have hapart : "page" ∉ (Operation.set "tag" "e").names := by decide
  have hsame := hothers (.set "tag" "e") "page" hapart
  refine ⟨(hlog "tag" _).1 htag, (hlog "page" _).1 hpage, by decide +kernel, by decide +kernel,
    hsize.symm.trans hfive, ?_, hapart, hsame.trans (by decide +kernel)⟩
  rw [(hflatten "tag").1, htag]
  rfl

end RequestValues

end HttpDispatch
