import HttpDispatch.Proofs.Entries
import HttpDispatch.Proofs.Pattern.Compilation
import HttpDispatch.Proofs.Pattern.Matching
import HttpDispatch.RouteTable.Basic
import Mathlib.Data.List.Nodup

/-!
# Matching as solving

A match answers an equation: which values, put in place of the variables, turn a pattern into
the path?  `Pattern.Solves` is that equation, and a match is its only solution
(`Pattern.bind?_eq_some_iff`).  One half is the module on what a match says about the path; the
other, that no solution is missed, is proved here by filling values in and matching what comes
out.

A compiled pattern names no variable twice, so its solution can be read by name.  There are
three ways to do that, in a map of the match, by a look-up in a route's match and in that match's
map, and they agree (`Pattern.Unambiguous`).  `Pattern.bind?_of_compile` has all of it.
-/

namespace HttpDispatch

namespace Pattern

/-- **Bindings solve a pattern for a path.** -/
structure Solves (p : Pattern) (path : String) (bound : Bindings) : Prop where
  /-- They have the variables of the pattern, in template order. -/
  names : bound.map Prod.fst = p.variableNames
  /-- No value is empty. -/
  values : ∀ b ∈ bound, b.2 ≠ ""
  /-- The values in place of the variables give the segments of the path. -/
  fill_eq : fill p.segments (bound.map Prod.snd) = Path.segments (Path.normalize path)

/-! ### One segment -/

/-- A whole segment is bound unless it is empty. -/
theorem bind?_capture_of_ne {value : String} (h : value ≠ "") (name : String) :
    (Segment.capture name).bind? value = some [(name, value)] := by
  rw [Segment.bind?, if_neg h]

/-- What stands between two texts is bound unless it is empty. -/
theorem bind?_affixed_of_ne {middle : String} (h : middle ≠ "") (lead name tail : String) :
    (Segment.affixed lead name tail).bind? (lead ++ middle ++ tail) = some [(name, middle)] := by
  have hlead : lead.toList.isPrefixOf? (lead ++ middle ++ tail).toList
      = some (middle.toList ++ tail.toList) := by
    rw [List.isPrefixOf?_eq_some_iff_append_eq, String.toList_append, String.toList_append,
      List.append_assoc]
  have htail : tail.toList.isSuffixOf? (middle.toList ++ tail.toList) = some middle.toList :=
    List.isSuffixOf?_eq_some_iff_append_eq.2 rfl
  have hne : middle.toList ≠ [] := by simpa using h
  simp only [Segment.bind?, hlead, htail, Option.bind_eq_bind, Option.bind_some, if_neg hne,
    String.ofList_toList]

/-- **A segment binds a value that is filled in for its variable.** -/
theorem bind?_fill {s : Segment} {name value : String} (hname : s.name? = some name)
    (hvalue : value ≠ "") : s.bind? (s.fill value) = some [(name, value)] := by
  cases s with
  | literal text => cases hname
  | capture n =>
      cases hname
      exact bind?_capture_of_ne hvalue name
  | affixed lead n tail =>
      cases hname
      exact bind?_affixed_of_ne hvalue lead name tail

/-! ### All segments -/

theorem fill_cons_of_name {s : Segment} {name : String} (hname : s.name? = some name)
    (segments : List Segment) (value : String) (values : List String) :
    fill (s :: segments) (value :: values) = s.fill value :: fill segments values := by
  cases s with
  | literal text => cases hname
  | capture n => rfl
  | affixed lead n tail => rfl

/-- **Values that are filled in are bound again.** -/
theorem bindSegments?_fill {segments : List Segment} {bound : Bindings}
    (hnames : bound.map Prod.fst = names segments) (hvalues : ∀ b ∈ bound, b.2 ≠ "") :
    bindSegments? segments (fill segments (bound.map Prod.snd)) = some bound := by
  induction segments generalizing bound with
  | nil =>
      obtain rfl : bound = [] := by simpa [names] using hnames
      rfl
  | cons s segments ih =>
      rw [names_cons] at hnames
      cases hname : s.name? with
      | none =>
          cases s with
          | literal text =>
              have hrest := ih (by simpa [hname] using hnames) hvalues
              simp [fill, bindSegments?, Segment.bind?, hrest]
          | capture n => cases hname
          | affixed lead n tail => cases hname
      | some name =>
          rw [hname] at hnames
          obtain ⟨⟨n, value⟩, rest, rfl, hn, hrest⟩ := List.map_eq_cons_iff.1 hnames
          cases hn
          rw [List.forall_mem_cons] at hvalues
          rw [List.map_cons, fill_cons_of_name hname, bindSegments?, bind?_fill hname hvalues.1,
            ih hrest hvalues.2]
          rfl

theorem values_ne_of_bind? {s : Segment} {value : String} {bound : Bindings}
    (h : s.bind? value = some bound) : ∀ b ∈ bound, b.2 ≠ "" := by
  cases s with
  | literal text =>
      obtain ⟨-, rfl⟩ := bind?_literal h
      simp
  | capture name =>
      obtain ⟨hne, rfl⟩ := bind?_capture h
      simpa using hne
  | affixed lead name tail =>
      obtain ⟨middle, hne, -, rfl⟩ := bind?_affixed h
      simpa using hne

/-- No value that a match binds is empty. -/
theorem values_ne_of_bindSegments? {segments : List Segment} {values : List String}
    {bound : Bindings} (h : bindSegments? segments values = some bound) :
    ∀ b ∈ bound, b.2 ≠ "" := by
  fun_induction bindSegments? segments values generalizing bound with
  | case1 =>
      cases h
      simp
  | case2 segment segments value values ih =>
      simp only [Option.bind_eq_bind, Option.bind_eq_some_iff] at h
      obtain ⟨first, hfirst, rest, hrest, h⟩ := h
      cases h
      exact List.forall_mem_append.2 ⟨values_ne_of_bind? hfirst, ih hrest⟩
  | case3 => cases h

/-- **A match is a solution, and every solution is the match.** -/
theorem bind?_eq_some_iff (p : Pattern) (path : String) (bound : Bindings) :
    p.bind? path = some bound ↔ p.Solves path bound := by
  constructor
  · intro h
    exact ⟨names_of_bindSegments? h, values_ne_of_bindSegments? h, fill_of_bindSegments? h⟩
  · rintro ⟨hnames, hvalues, hfill⟩
    rw [bind?, ← hfill]
    exact bindSegments?_fill hnames hvalues

/-- A path has at most one solution. -/
theorem Solves.unique {p : Pattern} {path : String} {bound bound' : Bindings}
    (h : p.Solves path bound) (h' : p.Solves path bound') : bound = bound' := by
  have hbind := (bind?_eq_some_iff p path bound).2 h
  rw [(bind?_eq_some_iff p path bound').2 h'] at hbind
  exact (Option.some.inj hbind).symm

/-! ### Texts around a value -/

/-- In a match every segment binds its own path segment. -/
theorem exists_bind?_of_getElem? {segments : List Segment} {values : List String}
    {bound : Bindings} (h : bindSegments? segments values = some bound) {i : Nat} {s : Segment}
    (hs : segments[i]? = some s) :
    ∃ value own, values[i]? = some value ∧ s.bind? value = some own ∧ own ⊆ bound := by
  fun_induction bindSegments? segments values generalizing bound i with
  | case1 => cases hs
  | case2 segment segments value values ih =>
      simp only [Option.bind_eq_bind, Option.bind_eq_some_iff] at h
      obtain ⟨first, hfirst, rest, hrest, h⟩ := h
      cases h
      cases i with
      | zero =>
          cases hs
          exact ⟨value, first, rfl, hfirst, List.subset_append_left _ _⟩
      | succ i =>
          obtain ⟨own, bound, hvalue, hown, hsub⟩ := ih hrest hs
          exact ⟨own, bound, hvalue, hown, List.Subset.trans hsub (List.subset_append_right _ _)⟩
  | case3 => cases h

/-- **The two texts around a variable do not overlap**: a value that is not empty stands
between them. -/
theorem getElem?_of_affixed {p : Pattern} {path : String} {bound : Bindings}
    (h : p.bind? path = some bound) {i : Nat} {lead name tail : String}
    (hs : p.segments[i]? = some (.affixed lead name tail)) :
    ∃ value, value ≠ "" ∧ (name, value) ∈ bound ∧
      (Path.segments (Path.normalize path))[i]? = some (lead ++ value ++ tail) := by
  obtain ⟨value, own, hvalue, hown, hsub⟩ := exists_bind?_of_getElem? h hs
  obtain ⟨middle, hne, rfl, rfl⟩ := bind?_affixed hown
  exact ⟨middle, hne, hsub List.mem_cons_self, hvalue⟩

/-! ### Values by name -/

theorem nodup_variableNames {template : String} {p : Pattern} (h : compile template = .ok p) :
    p.variableNames.Nodup :=
  (parseSegments_eq_ok_iff.1 (compile_eq_ok_iff.1 h).2.2).2.1

end Pattern

/-- The last value under a name is the only one if names are distinct. -/
theorem RouteMatch.value?_eq_some_iff {m : RouteMatch} (h : (m.bindings.map Prod.fst).Nodup)
    (name value : String) : m.value? name = some value ↔ (name, value) ∈ m.bindings := by
  rw [value?, Option.map_eq_some_iff]
  constructor
  · rintro ⟨⟨n, v⟩, hfind, rfl⟩
    have hn : n = name := by simpa using List.find?_some hfind
    subst hn
    exact List.mem_reverse.1 (List.mem_of_find?_eq_some hfind)
  · intro hmem
    cases hfind : m.bindings.reverse.find? (fun b => b.1 = name) with
    | none =>
        have habsent := List.find?_eq_none.1 hfind (name, value) (List.mem_reverse.2 hmem)
        simp at habsent
    | some b =>
        have hb := List.mem_reverse.1 (List.mem_of_find?_eq_some hfind)
        have hn : b.1 = name := by simpa using List.find?_some hfind
        exact ⟨b, rfl, congrArg Prod.snd (List.inj_on_of_nodup_map h hb hmem hn)⟩

namespace Pattern

/-! ### Patterns without variables -/

/-- Segments that bind nothing are literals. -/
theorem exists_literals_of_names_eq_nil {segments : List Segment} (h : names segments = []) :
    ∃ texts : List String, segments = texts.map .literal := by
  induction segments with
  | nil => exact ⟨[], rfl⟩
  | cons s segments ih =>
      rw [names_cons, List.append_eq_nil_iff] at h
      obtain ⟨texts, rfl⟩ := ih h.2
      cases s with
      | literal text => exact ⟨text :: texts, rfl⟩
      | capture name => cases h.1
      | affixed lead name tail => cases h.1

theorem fill_literals (texts values : List String) :
    fill (texts.map .literal) values = texts := by
  induction texts with
  | nil => rfl
  | cons text texts ih => rw [List.map_cons, fill, ih]

/-- **A pattern without variables matches the paths with its own segments**, and binds
nothing. -/
theorem exists_texts_of_variableNames_eq_nil {p : Pattern} (h : p.variableNames = []) :
    ∃ texts : List String, p.segments = texts.map .literal ∧ ∀ path, p.bind? path =
      if Path.segments (Path.normalize path) = texts then some [] else none := by
  obtain ⟨texts, htexts⟩ := exists_literals_of_names_eq_nil h
  refine ⟨texts, htexts, fun path => ?_⟩
  split
  · rename_i heq
    rw [bind?_eq_some_iff]
    exact ⟨h.symm, by simp, by rw [htexts, fill_literals, heq]⟩
  · rename_i hne
    rw [Option.eq_none_iff_forall_ne_some]
    intro bound hbound
    have hfill := ((bind?_eq_some_iff p path bound).1 hbound).fill_eq
    rw [htexts, fill_literals] at hfill
    exact hne hfill.symm

/-! ### Compiled patterns -/

/-- **The bindings of a match are read without ambiguity.** -/
structure Unambiguous (p : Pattern) (path : String) (bound : Bindings) : Prop where
  /-- No two of them have the same name. -/
  nodup : (bound.map Prod.fst).Nodup
  /-- The texts around a variable do not overlap. -/
  apart : ∀ (i : Nat) lead name tail, p.segments[i]? = some (Segment.affixed lead name tail) →
    ∃ value, value ≠ "" ∧ (name, value) ∈ bound ∧
      (Path.segments (Path.normalize path))[i]? = some (lead ++ value ++ tail)
  /-- A map of them has each value under its name, and nothing else. -/
  bindMap : ∃ m, p.bindMap? path = some m ∧
    ∀ name value, m.get? name = some value ↔ (name, value) ∈ bound
  /-- So has a match that holds them, whatever route it is for. -/
  value : ∀ route name value,
    (RouteMatch.mk route bound).value? name = some value ↔ (name, value) ∈ bound
  /-- So has the map of that match. -/
  variableMap : ∀ route name value,
    (RouteMatch.mk route bound).variableMap.get? name = some value ↔ (name, value) ∈ bound

theorem unambiguous_of_bind? {template path : String} {p : Pattern} {bound : Bindings}
    (h : compile template = .ok p) (hbind : p.bind? path = some bound) :
    p.Unambiguous path bound := by
  have hnodup : (bound.map Prod.fst).Nodup := by
    rw [((bind?_eq_some_iff p path bound).1 hbind).names]
    exact nodup_variableNames h
  exact {
    nodup := hnodup
    apart := fun _ _ _ _ => getElem?_of_affixed hbind
    bindMap := ⟨.ofList bound, by rw [bindMap?, hbind]; rfl,
      SortedMap.get?_ofList_eq_some_iff hnodup⟩
    value := fun _ => RouteMatch.value?_eq_some_iff hnodup
    variableMap := fun _ => SortedMap.get?_ofList_eq_some_iff hnodup }

/-- **What a compiled pattern matches**: its matches are its solutions, of which a path has at
most one; their bindings are read without ambiguity; and without variables it matches the paths
with its own segments. -/
theorem bind?_of_compile {template : String} {p : Pattern} (h : compile template = .ok p) :
    (∀ path bound, p.bind? path = some bound ↔ p.Solves path bound) ∧
      (∀ path bound bound', p.Solves path bound → p.Solves path bound' → bound = bound') ∧
      (∀ path bound, p.bind? path = some bound → p.Unambiguous path bound) ∧
      (p.variableNames = [] → ∃ texts : List String, p.segments = texts.map .literal ∧
        ∀ path, p.bind? path =
          if Path.segments (Path.normalize path) = texts then some [] else none) :=
  ⟨bind?_eq_some_iff p, fun _ _ _ => Solves.unique, fun _ _ => unambiguous_of_bind? h,
    exists_texts_of_variableNames_eq_nil⟩

/-- Two texts around a variable, a whole segment, and a slash at the end of the path. -/
theorem bind?_of_compile_greeting :
    let template := "/say\x7bsth\x7dto/\x7bid\x7d"
    let p : Pattern := ⟨template, [.affixed "say" "sth" "to", .capture "id"]⟩
    let bound : Bindings := [("sth", "hello"), ("id", "7")]
    compile template = .ok p ∧ p.Solves "/sayhelloto/7/" bound ∧
      p.bind? "/sayhelloto/7/" = some bound ∧ p.Unambiguous "/sayhelloto/7/" bound := by
  intro template p bound
  have h : compile template = .ok p := by decide
  obtain ⟨hsolves, -, hunambiguous, -⟩ := bind?_of_compile h
  have hbound : p.Solves "/sayhelloto/7/" bound := ⟨rfl, by decide, by decide⟩
  have hbind := (hsolves _ _).2 hbound
  exact ⟨h, hbound, hbind, hunambiguous _ _ hbind⟩

end Pattern

end HttpDispatch
