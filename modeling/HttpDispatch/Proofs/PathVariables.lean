import HttpDispatch.Dispatch.Dispatcher
import HttpDispatch.Proofs.Pattern.Binding
import HttpDispatch.Proofs.RequestValues

/-!
# Path variables win

The variables of a path may be put in at two places.  They may be merged into the values of the
request, where each replaces all values of its name, before these are flattened and defaults
are filled in; or they may be inserted into the flattened values, where each replaces one value or
one default.  `RequestValues.merge` is the first way and dispatching takes the second.

Binding cannot tell the difference (`RequestValues.flatten_merge`), so a dispatch has the arguments
that it would have the other way (`Dispatcher.arguments_eq_resolve_merge`).  Under a name there is,
either way, the last variable of that name, else the first value that arrived, else the default.
A compiled pattern names no variable twice, so in a match *every* variable wins
(`RequestValues.flatten_merge_of_bind?`).
-/

namespace HttpDispatch

namespace RequestValues

variable (r : RequestValues)

/-- A value that replaces all others of its name is the first one. -/
theorem firsts_set (name value : String) :
    (r.set name value).firsts = r.firsts.insert name value := by
  refine SortedMap.ext_get? fun name' => ?_
  rw [SortedMap.get?_insert, get?_firsts, get?_firsts, first?_eq_head?_all, first?_eq_head?_all,
    all_set]
  by_cases hname : name' = name
  · rw [if_pos hname, if_pos hname, List.head?_cons]
  · rw [if_neg hname, if_neg hname]

theorem firsts_merge (bindings : Bindings) :
    (r.merge bindings).firsts = r.firsts.insertAll bindings := by
  induction bindings generalizing r with
  | nil => rfl
  | cons b bindings ih =>
      obtain ⟨name, value⟩ := b
      calc (r.merge ((name, value) :: bindings)).firsts
          = (r.set name value).firsts.insertAll bindings := ih (r.set name value)
        _ = (r.firsts.insert name value).insertAll bindings := by rw [firsts_set]

/-- **It does not matter when path variables are put in**: before the values of the request are
flattened and defaults are filled in, or after. -/
theorem flatten_merge (bindings : Bindings) (parameters : List Parameter) :
    (r.merge bindings).flatten parameters = (r.flatten parameters).insertAll bindings := by
  refine SortedMap.ext_get? fun name => ?_
  rw [SortedMap.get?_insertAll, get?_flatten, get?_flatten, ← get?_firsts, firsts_merge,
    SortedMap.get?_insertAll, get?_firsts, Option.or_assoc]

end RequestValues

/-- **The arguments of a dispatch** are those of the request with the variables of its path merged
into its values. -/
theorem Dispatcher.arguments_eq_resolve_merge (request : Request) (s : Selection) :
    arguments request s = resolve ((request.values.merge s.bindings).flatten s.route.parameters)
      s.route.parameters request.body := by
  rw [arguments, RequestValues.flatten_merge]

namespace RequestValues

/-- **Every variable of a match wins**, whichever way it is put in: over all values of its name
and over the default for it.  Other names keep their first value or their default, and a dispatch
with these values and variables resolves its arguments from what merging leads to. -/
theorem flatten_merge_of_bind? (r : RequestValues) {template path : String} {p : Pattern}
    {bound : Bindings} (hcompile : Pattern.compile template = .ok p)
    (hbind : p.bind? path = some bound) (parameters : List Parameter) :
    let values := (r.flatten parameters).insertAll bound
    values = (r.merge bound).flatten parameters ∧
      bound.map Prod.fst = p.variableNames ∧
      (∀ name value, (name, value) ∈ bound → values.get? name = some value) ∧
      (∀ name, name ∉ p.variableNames →
        values.get? name = (r.first? name).or (default? parameters name)) ∧
      ∀ (request : Request) (s : Selection), request.values = r → s.bindings = bound →
        s.route.parameters = parameters →
        Dispatcher.arguments request s
          = resolve ((r.merge bound).flatten parameters) parameters request.body := by
  intro values
  have hnames : bound.map Prod.fst = p.variableNames :=
    ((Pattern.bind?_eq_some_iff p path bound).1 hbind).names
  have hnodup : (bound.map Prod.fst).Nodup := hnames ▸ Pattern.nodup_variableNames hcompile
  refine ⟨(r.flatten_merge bound parameters).symm, hnames, fun name value hmem => ?_,
    fun name hname => ?_, ?_⟩
  · exact SortedMap.get?_insertAll_of_mem hnodup hmem (r.flatten parameters)
  · have hother : ∀ b ∈ bound, b.1 ≠ name := fun b hb heq =>
      hname (hnames ▸ List.mem_map.2 ⟨b, hb, heq⟩)
    exact (SortedMap.get?_insertAll_of_ne hother (r.flatten parameters)).trans
      (r.get?_flatten parameters name)
  · rintro request s rfl rfl rfl
    exact Dispatcher.arguments_eq_resolve_merge request s

/-- One variable has values and a default to win over, the other a default only.  The handler is
given both. -/
theorem flatten_merge_of_bind?_user :
    let template := "/users/\x7buser\x7d/\x7bpage\x7d"
    let p : Pattern := ⟨template, [.literal "users", .capture "user", .capture "page"]⟩
    let bound : Bindings := [("user", "7"), ("page", "two")]
    let r := ofList [("user", "1"), ("sort", "name"), ("user", "2"), ("sort", "age")]
    let parameters : List Parameter :=
      [(Parameter.simple "user" .string).withDefault "0",
        (Parameter.simple "page" .string).withDefault "one",
        (Parameter.simple "size" .string).withDefault "10"]
    let values := (r.flatten parameters).insertAll bound
    let request : Request := { Request.ofPath .get "/users/7/two/" with values := r }
    let s : Selection := ⟨⟨.get, p, "user", parameters, none, false⟩, bound, false⟩
    Pattern.compile template = .ok p ∧ p.bind? "/users/7/two/" = some bound ∧
      values = (r.merge bound).flatten parameters ∧
      values.entries = [("page", "two"), ("size", "10"), ("sort", "name"), ("user", "7")] ∧
      (Dispatcher.arguments request s).outcome
        = .ok ⟨[("user", some (.string "7")), ("page", some (.string "two")),
            ("size", some (.string "10"))]⟩ := by
  intro template p bound r parameters values request s
  have hcompile : Pattern.compile template = .ok p := by decide
  have hbind : p.bind? "/users/7/two/" = some bound := by decide
  obtain ⟨hmerge, -, -, -, harguments⟩ := flatten_merge_of_bind? r hcompile hbind parameters
  refine ⟨hcompile, hbind, hmerge, by decide +kernel, ?_⟩
  rw [harguments request s rfl rfl rfl]
  decide +kernel

end RequestValues

end HttpDispatch
