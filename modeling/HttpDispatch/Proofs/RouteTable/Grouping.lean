import HttpDispatch.Proofs.Pattern.Compilation
import HttpDispatch.Route
import Mathlib.Data.List.DropRight

/-!
# Routes below a base path

A base path is put in front of a template as text, and what comes of it is compiled.  One
expects of this that the base and the template are compiled each by itself and their segments
put one after the other.  `RouteDefinition.OnlyPrefixed` says so, and
`RouteDefinition.onlyPrefixed_iff` when it holds.

It holds for every template that starts with a slash, but for one: the slash that parts base and
template is the one that the template starts with, so the segments of the whole are those of both
(`Path.segments_under`).  The two exceptions:

* **A template without a slash in front** is no pattern by itself.  Below a base nothing is
  found wrong with it, since only the whole is asked for its first character; its first segment
  then runs on from the last one of the base.
* **The template `//`** has no segments by itself, since its normal form is the root.  Below a
  base the slash that is left of it ends a segment, and an empty one follows.
-/

namespace HttpDispatch

namespace Path

/-! ### The text of a template below a base -/

/-- **A base path without the slashes at its end.** -/
def bare (base : String) : String := String.ofList (base.toList.rdropWhile (· = '/'))

/-- A template below a base path, by what is left of the base. -/
theorem under_eq (base template : String) :
    under base template =
      if bare base = "" then template
      else if template = "/" then bare base else bare base ++ template := by
  have hempty : bare base = "" ↔ (base.toList.reverse.dropWhile (· = '/')).reverse = [] :=
    String.ofList_eq_empty_iff
  simp only [under, hempty]
  rfl

theorem getLast?_bare (base : String) : (bare base).toList.getLast? ≠ some '/' := by
  intro hslash
  rw [bare, String.toList_ofList] at hslash
  obtain ⟨hne, hlast⟩ := List.mem_getLast?_eq_getLast hslash
  exact List.rdropWhile_last_not _ _ hne (by simpa using hlast.symm)

/-- What is left of a base is its own normal form. -/
theorem normalize_bare (base : String) : normalize (bare base) = bare base :=
  normalize_of_getLast?_ne (getLast?_bare base)

/-- A base that starts with a slash has more to it, or nothing would be left. -/
theorem exists_bare_eq {base : String} (h : (bare base).toList.head? = some '/') :
    ∃ c cs, (bare base).toList = '/' :: c :: cs := by
  obtain ⟨rest, hrest⟩ := List.head?_eq_some_iff.1 h
  cases rest with
  | nil => exact absurd (by rw [hrest]; rfl) (getLast?_bare base)
  | cons c cs => exact ⟨c, cs, hrest⟩

theorem bare_ne_empty {base : String} (h : (bare base).toList.head? = some '/') :
    bare base ≠ "" := by
  intro hempty
  rw [hempty] at h
  cases h

/-- A template below a base starts as the base does. -/
theorem head?_under {base template : String} (h : bare base ≠ "") :
    (under base template).toList.head? = (bare base).toList.head? := by
  have hne : (bare base).toList ≠ [] := by simpa using h
  rw [under_eq, if_neg h]
  split
  · rfl
  · rw [String.toList_append, List.head?_append_of_ne_nil _ hne]

/-! ### Its segments -/

variable {base template : String}

/-- **The slash between base and template parts their segments.** -/
theorem segments_append {c : Char} {cs : List Char}
    (habsolute : (bare base).toList.head? = some '/')
    (htemplate : template.toList = '/' :: c :: cs) :
    ∃ rest, (normalize template).toList = '/' :: rest ∧
      segments (normalize (bare base ++ template))
        = segments (bare base) ++ (Text.split '/' rest).map String.ofList := by
  have hhead : template.toList.head? = some '/' := by rw [htemplate]; rfl
  obtain ⟨rest, hrest⟩ := List.head?_eq_some_iff.1 (head?_normalize hhead)
  obtain ⟨b, bs, hbase⟩ := exists_bare_eq habsolute
  refine ⟨rest, hrest, ?_⟩
  have hwhole : (normalize (bare base ++ template)).toList = '/' :: b :: (bs ++ '/' :: rest) := by
    rw [toList_normalize, htemplate] at hrest
    rw [toList_normalize, String.toList_append, htemplate,
      normalizeChars_append (List.cons_ne_nil c cs), hrest, hbase]
    rfl
  have hsplit : Text.split '/' (b :: (bs ++ '/' :: rest))
      = Text.split '/' (b :: bs) ++ Text.split '/' rest :=
    Text.split_append_sep_cons '/' (b :: bs) rest
  rw [segments, segments, hwhole, hbase, segmentsChars_slash_cons, segmentsChars_slash_cons,
    hsplit, List.map_append]

/-- **The segments of a template below a base** are those of the base and then its own. -/
theorem segments_under (habsolute : (bare base).toList.head? = some '/')
    (hslash : template.toList.head? = some '/') (hne : template ≠ "//") :
    segments (normalize (under base template))
      = segments (bare base) ++ segments (normalize template) := by
  have hbase := bare_ne_empty habsolute
  obtain ⟨tail, htemplate⟩ := List.head?_eq_some_iff.1 hslash
  rw [under_eq, if_neg hbase]
  cases tail with
  | nil =>
      have hroot : template = "/" := String.toList_injective htemplate
      rw [if_pos hroot, hroot, normalize_bare, normalize_root]
      exact (List.append_nil _).symm
  | cons c cs =>
      have hnotRoot : template ≠ "/" := by
        rintro rfl
        simp at htemplate
      obtain ⟨rest, hrest, hsegments⟩ := segments_append habsolute htemplate
      rw [if_neg hnotRoot, hsegments]
      cases rest with
      | cons d ds => rw [segments, segments, hrest, segmentsChars_slash_cons]
      | nil =>
          -- only of two slashes is one left
          have hchanged : normalizeChars template.toList ≠ template.toList := by
            rw [← toList_normalize, hrest, htemplate]
            simp
          obtain ⟨front, hfront, hslashes⟩ := exists_append_slash_of_normalizeChars_ne hchanged
          rw [toList_normalize, hslashes, normalizeChars_append_slash hfront] at hrest
          rw [hrest] at hslashes
          exact absurd (String.toList_injective hslashes) hne

/-- Of two slashes below a base one is left, and an empty segment behind it. -/
theorem segments_under_slashes (habsolute : (bare base).toList.head? = some '/') :
    segments (normalize (under base "//")) = segments (bare base) ++ [""] := by
  have hbase := bare_ne_empty habsolute
  have hslashes : "//".toList = '/' :: ['/'] := by decide
  obtain ⟨rest, hrest, hsegments⟩ := segments_append habsolute hslashes
  have hone : (normalize "//").toList = ['/'] := by decide
  rw [hone] at hrest
  cases hrest
  rw [under_eq, if_neg hbase, if_neg (by decide), hsegments]
  rfl

end Path

namespace Pattern

/-! ### Compiling a whole -/

/-- **Segments are read part by part**, and no name may stand in both parts. -/
theorem parseSegments_append_eq_ok_iff {raws raws' : List String} {segments : List Segment} :
    parseSegments [] (raws ++ raws') = .ok segments ↔
      ∃ front rest, parseSegments [] raws = .ok front ∧ parseSegments [] raws' = .ok rest ∧
        (names front).Disjoint (names rest) ∧ segments = front ++ rest := by
  have hunused (segments : List Segment) : ∀ name ∈ names segments, name ∉ ([] : List String) :=
    fun _ _ => List.not_mem_nil
  simp only [parseSegments_eq_ok_iff]
  constructor
  · rintro ⟨hread, hnodup, -⟩
    have hfront := (List.forall₂_take_append _ _ _ hread.flip).flip
    have hrest := (List.forall₂_drop_append _ _ _ hread.flip).flip
    have hsplit := List.take_append_drop raws.length segments
    rw [← hsplit, names, List.filterMap_append, List.nodup_append,
      ← List.disjoint_iff_ne] at hnodup
    exact ⟨_, _, ⟨hfront, hnodup.1, hunused _⟩, ⟨hrest, hnodup.2.1, hunused _⟩, hnodup.2.2,
      hsplit.symm⟩
  · rintro ⟨front, rest, ⟨hfront, hnodup, -⟩, ⟨hrest, hnodup', -⟩, hdisjoint, rfl⟩
    refine ⟨List.rel_append hfront hrest, ?_, hunused _⟩
    rw [names, List.filterMap_append, List.nodup_append, ← List.disjoint_iff_ne]
    exact ⟨hnodup, hnodup', hdisjoint⟩

/-- **A whole whose segments are those of a base and more**: the base is compiled by itself, and
the rest is read by itself. -/
theorem compile_eq_ok_iff_of_segments {whole base : String} {tail : List String} {p : Pattern}
    (hwhole : whole.toList.head? = some '/') (hbase : base.toList.head? = some '/')
    (hnormal : Path.normalize base = base)
    (hsegments : Path.segments (Path.normalize whole) = Path.segments base ++ tail) :
    compile whole = .ok p ↔
      p.text = Path.normalize whole ∧ ∃ front rest, compile base = .ok front ∧
        parseSegments [] tail = .ok rest ∧ front.variableNames.Disjoint (names rest) ∧
        p.segments = front.segments ++ rest := by
  rw [compile_eq_ok_iff, and_iff_right hwhole]
  refine and_congr_right fun htext => ?_
  rw [htext, hsegments, parseSegments_append_eq_ok_iff]
  constructor
  · rintro ⟨front, rest, hfront, hrest, hdisjoint, happend⟩
    exact ⟨⟨base, front⟩, rest, compile_eq_ok_iff.2 ⟨hbase, hnormal.symm, hfront⟩, hrest,
      hdisjoint, happend⟩
  · rintro ⟨⟨text, front⟩, rest, hfront, hrest, hdisjoint, happend⟩
    obtain ⟨-, rfl, hfront⟩ := compile_eq_ok_iff.1 hfront
    rw [hnormal] at hfront
    exact ⟨front, rest, hfront, hrest, hdisjoint, happend⟩

end Pattern

namespace RouteDefinition

/-! ### Definitions below a base -/

variable {base : String} {d : RouteDefinition}

/-- The pattern of a compiled definition is its template below the base, compiled. -/
theorem map_pattern_compile (base : String) (d : RouteDefinition) :
    (d.compile base).map Route.pattern = Pattern.compile (Path.under base d.template) := by
  unfold compile
  cases Pattern.compile (Path.under base d.template) <;> rfl

theorem compile_pattern {r : Route} (h : d.compile base = .ok r) :
    Pattern.compile (Path.under base d.template) = .ok r.pattern := by
  rw [← map_pattern_compile, h]
  rfl

theorem exists_compile_iff :
    (∃ r, d.compile base = .ok r) ↔
      ∃ p, Pattern.compile (Path.under base d.template) = .ok p := by
  constructor
  · rintro ⟨r, hr⟩
    exact ⟨_, compile_pattern hr⟩
  · rintro ⟨p, hp⟩
    rw [compile, hp]
    exact ⟨_, rfl⟩

/-- **A base path only prefixes the template of a definition.** -/
structure OnlyPrefixed (base : String) (d : RouteDefinition) : Prop where
  /-- Without a base the template is compiled as it is. -/
  alone : Path.bare base = "" →
    (d.compile base).map Route.pattern = Pattern.compile d.template
  /-- Below a base a definition compiles exactly if the base does, the template does by itself,
  and no variable name is in both. -/
  compiles : Path.bare base ≠ "" → ((∃ r, d.compile base = .ok r) ↔
    ∃ p q, Pattern.compile (Path.bare base) = .ok p ∧ Pattern.compile d.template = .ok q ∧
      p.variableNames.Disjoint q.variableNames)
  /-- Its segments are then those of the base, followed by those of the template. -/
  segments : Path.bare base ≠ "" → ∀ r p q, d.compile base = .ok r →
    Pattern.compile (Path.bare base) = .ok p → Pattern.compile d.template = .ok q →
      r.pattern.segments = p.segments ++ q.segments

/-- Below a base without a slash in front nothing compiles, and the base itself does not. -/
theorem onlyPrefixed_of_relative_base (hbase : Path.bare base ≠ "")
    (hrelative : (Path.bare base).toList.head? ≠ some '/') : d.OnlyPrefixed base := by
  have hrefused (p : Pattern) : Pattern.compile (Path.bare base) ≠ .ok p :=
    fun hp => hrelative (Pattern.compile_eq_ok_iff.1 hp).1
  have hwhole (p : Pattern) : Pattern.compile (Path.under base d.template) ≠ .ok p := by
    intro hp
    have hhead := (Pattern.compile_eq_ok_iff.1 hp).1
    rw [Path.head?_under hbase] at hhead
    exact hrelative hhead
  refine ⟨fun hempty => absurd hempty hbase, fun _ => ?_,
    fun _ _ p _ _ hp => absurd hp (hrefused p)⟩
  rw [exists_compile_iff]
  exact iff_of_false (fun ⟨p, hp⟩ => hwhole p hp) fun ⟨p, _, hp, _⟩ => hrefused p hp

/-- **A template that starts with a slash is only prefixed.** -/
theorem onlyPrefixed_of_slash (habsolute : (Path.bare base).toList.head? = some '/')
    (hslash : d.template.toList.head? = some '/') (hne : d.template ≠ "//") :
    d.OnlyPrefixed base := by
  have hbase := Path.bare_ne_empty habsolute
  have hwhole (p : Pattern) := Pattern.compile_eq_ok_iff_of_segments (p := p)
    ((Path.head?_under hbase).trans habsolute) habsolute (Path.normalize_bare base)
    (Path.segments_under habsolute hslash hne)
  have htemplate {rest : List Segment}
      (hrest : Pattern.parseSegments [] (Path.segments (Path.normalize d.template)) = .ok rest) :
      Pattern.compile d.template = .ok ⟨Path.normalize d.template, rest⟩ :=
    Pattern.compile_eq_ok_iff.2 ⟨hslash, rfl, hrest⟩
  refine ⟨fun hempty => absurd hempty hbase, fun _ => ?_, fun _ r p q hr hp hq => ?_⟩
  · rw [exists_compile_iff]
    constructor
    · rintro ⟨p, hp⟩
      obtain ⟨-, front, rest, hfront, hrest, hdisjoint, -⟩ := (hwhole p).1 hp
      exact ⟨front, _, hfront, htemplate hrest, hdisjoint⟩
    · rintro ⟨p, q, hp, hq, hdisjoint⟩
      obtain ⟨-, htext, hrest⟩ := Pattern.compile_eq_ok_iff.1 hq
      rw [htext] at hrest
      exact ⟨⟨_, p.segments ++ q.segments⟩, (hwhole _).2
        ⟨rfl, p, q.segments, hp, hrest, hdisjoint, rfl⟩⟩
  · obtain ⟨-, front, rest, hfront, hrest, -, happend⟩ := (hwhole _).1 (compile_pattern hr)
    rw [hfront] at hp
    rw [htemplate hrest] at hq
    cases hp
    cases hq
    exact happend

/-- **Two slashes are more than a prefix** below any base that is a pattern. -/
theorem onlyPrefixed_iff_of_slashes (habsolute : (Path.bare base).toList.head? = some '/')
    (hslashes : d.template = "//") :
    d.OnlyPrefixed base ↔ ¬ Pattern.WellFormed (Path.bare base) := by
  have hbase := Path.bare_ne_empty habsolute
  have hroot : Pattern.compile d.template = .ok ⟨"/", []⟩ := by
    rw [hslashes]
    decide
  have hempty : Pattern.parseSegments [] [""] = .ok [.literal ""] := by decide
  have hwhole (p : Pattern) := Pattern.compile_eq_ok_iff_of_segments (p := p)
    ((Path.head?_under hbase).trans habsolute) habsolute (Path.normalize_bare base)
    (hslashes ▸ Path.segments_under_slashes habsolute)
  rw [← Pattern.exists_compile_iff]
  constructor
  · rintro hprefixed ⟨p, hp⟩
    have hcompiles : Pattern.compile (Path.under base d.template)
        = .ok ⟨_, p.segments ++ [.literal ""]⟩ :=
      (hwhole _).2 ⟨rfl, p, _, hp, hempty, List.disjoint_nil_right _, rfl⟩
    obtain ⟨r, hr⟩ := exists_compile_iff.2 ⟨_, hcompiles⟩
    have hsegments := hprefixed.segments hbase r p _ hr hp hroot
    have hpattern := (compile_pattern hr).symm.trans hcompiles
    rw [Except.ok.inj hpattern] at hsegments
    simp at hsegments
  · intro hrefused
    refine ⟨fun hnone => absurd hnone hbase, fun _ => ?_,
      fun _ _ p _ _ hp => absurd ⟨p, hp⟩ hrefused⟩
    rw [exists_compile_iff]
    refine iff_of_false ?_ fun ⟨p, _, hp, _⟩ => hrefused ⟨p, hp⟩
    rintro ⟨p, hp⟩
    obtain ⟨-, front, -, hfront, -⟩ := (hwhole p).1 hp
    exact hrefused ⟨front, hfront⟩

/-- **A template without a slash in front is refused only by chance**: if the whole is no
pattern. -/
theorem onlyPrefixed_iff_of_relative (hbase : Path.bare base ≠ "")
    (hrelative : d.template.toList.head? ≠ some '/') :
    d.OnlyPrefixed base ↔ ¬ Pattern.WellFormed (Path.bare base ++ d.template) := by
  have hrefused (q : Pattern) : Pattern.compile d.template ≠ .ok q :=
    fun hq => hrelative (Pattern.compile_eq_ok_iff.1 hq).1
  have hnone : ¬ ∃ p q, Pattern.compile (Path.bare base) = .ok p ∧
      Pattern.compile d.template = .ok q ∧ p.variableNames.Disjoint q.variableNames :=
    fun ⟨_, q, _, hq, _⟩ => hrefused q hq
  have hnotRoot : d.template ≠ "/" := by
    intro hroot
    rw [hroot] at hrelative
    exact hrelative rfl
  have hunder : Path.under base d.template = Path.bare base ++ d.template := by
    rw [Path.under_eq, if_neg hbase, if_neg hnotRoot]
  rw [← Pattern.exists_compile_iff, ← hunder, ← exists_compile_iff]
  constructor
  · intro hprefixed hcompiles
    exact hnone ((hprefixed.compiles hbase).1 hcompiles)
  · intro hfails
    exact ⟨fun hempty => absurd hempty hbase, fun _ => iff_of_false hfails hnone,
      fun _ _ _ q _ _ hq => absurd hq (hrefused q)⟩

/-- **When a base path only prefixes**: always if there is none, and else except for a template
without a slash in front that makes a pattern with the base, and for two slashes below a base
that is a pattern. -/
theorem onlyPrefixed_iff (base : String) (d : RouteDefinition) :
    d.OnlyPrefixed base ↔
      Path.bare base = "" ∨
        ¬ (d.template.toList.head? ≠ some '/' ∧
            Pattern.WellFormed (Path.bare base ++ d.template)) ∧
          ¬ (d.template = "//" ∧ Pattern.WellFormed (Path.bare base)) := by
  by_cases hbase : Path.bare base = ""
  · refine iff_of_true ⟨fun _ => ?_, fun hne => absurd hbase hne, fun hne => absurd hbase hne⟩
      (.inl hbase)
    rw [map_pattern_compile, Path.under_eq, if_pos hbase]
  rw [or_iff_right hbase]
  by_cases hslash : d.template.toList.head? = some '/'
  · rw [and_iff_right fun hrelative => hrelative.1 hslash]
    by_cases habsolute : (Path.bare base).toList.head? = some '/'
    · by_cases hslashes : d.template = "//"
      · rw [onlyPrefixed_iff_of_slashes habsolute hslashes, and_iff_right hslashes]
      · exact iff_of_true (onlyPrefixed_of_slash habsolute hslash hslashes)
          fun hdoubled => hslashes hdoubled.1
    · exact iff_of_true (onlyPrefixed_of_relative_base hbase habsolute)
        fun hdoubled => habsolute hdoubled.2.absolute
  · have hsingle : ¬ (d.template = "//" ∧ Pattern.WellFormed (Path.bare base)) := by
      rintro ⟨hslashes, -⟩
      rw [hslashes] at hslash
      exact hslash rfl
    rw [onlyPrefixed_iff_of_relative hbase hslash, and_iff_left hsingle, and_iff_right hslash]

/-- Below `/api` the template `users`, which is none, makes the pattern `/apiusers`; and two
slashes, which stand for the root, make a pattern that `/api` does not match. -/
theorem onlyPrefixed_iff_users :
    let users : RouteDefinition := .redirect .get "users" "/people"
    let doubled : RouteDefinition := .redirect .get "//" "/people"
    Path.bare "/api/" = "/api" ∧
      Pattern.compile users.template = .error ⟨"users", .notAbsolute⟩ ∧
      (users.compile "/api/").map Route.pattern = .ok ⟨"/apiusers", [.literal "apiusers"]⟩ ∧
      ¬ users.OnlyPrefixed "/api/" ∧
      Pattern.compile doubled.template = .ok ⟨"/", []⟩ ∧
      (doubled.compile "/api/").map Route.pattern
        = .ok ⟨"/api/", [.literal "api", .literal ""]⟩ ∧
      ¬ doubled.OnlyPrefixed "/api/" := by
  intro users doubled
  have hbare : Path.bare "/api/" = "/api" := by decide
  have hne : Path.bare "/api/" ≠ "" := by rw [hbare]; decide
  have hglued : Pattern.WellFormed (Path.bare "/api/" ++ users.template) :=
    (Pattern.exists_compile_iff _).1
      ⟨⟨"/apiusers", [.literal "apiusers"]⟩, by rw [hbare]; decide⟩
  have hbase : Pattern.WellFormed (Path.bare "/api/") :=
    (Pattern.exists_compile_iff _).1 ⟨⟨"/api", [.literal "api"]⟩, by rw [hbare]; decide⟩
  refine ⟨hbare, by decide, ?_, fun hprefixed => ?_, by decide, ?_, fun hprefixed => ?_⟩
  · rw [map_pattern_compile]
    decide
  · exact (((onlyPrefixed_iff _ _).1 hprefixed).resolve_left hne).1 ⟨by decide, hglued⟩
  · rw [map_pattern_compile]
    decide
  · exact (((onlyPrefixed_iff _ _).1 hprefixed).resolve_left hne).2 ⟨rfl, hbase⟩

end RouteDefinition

end HttpDispatch
