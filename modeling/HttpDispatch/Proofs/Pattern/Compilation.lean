import HttpDispatch.Pattern
import HttpDispatch.Proofs.Path.Normalization
import Mathlib.Data.List.Basic
import Mathlib.Data.List.Forall2
import Mathlib.Data.String.Basic

/-!
# Which templates compile, and that compiling loses nothing

A template is read from the left, a cut at the first brace at a time.  This module says what
comes of it by looking at a whole segment instead: it is read exactly if no brace stands in it,
or one opening and one closing brace in this order with something between them.

## Main definitions

* `Segment.Encloses` — a segment and the name between its braces
* `Pattern.WellFormed` — a template that starts with a slash, of readable segments, no two of
  which enclose the same name
* `Pattern.render` — segments written back

## Main statements

* `Pattern.exists_compile_iff` — the well-formed templates are those that compile
* `Pattern.render_of_compile` — a compiled pattern, written back, is its text
* `Pattern.compiles_and_renders` — both, and that the text of a pattern stands for its segments

### Design decisions

**Two sides of a segment.**  `Segment.parse_eq_ok_iff` is about the parts that the reader cuts
off, and every later proof goes through it.  `Segment.Encloses` counts braces and knows of no
cut; `Segment.encloses_iff` leads from one to the other.

**Names are compared as texts.**  The reader hands the names used so far along;
`Pattern.parseSegments_eq_ok_iff` gives that up for the names of the result being distinct, and
`Pattern.nodup_names_iff` for what the template itself encloses.
-/

namespace HttpDispatch

namespace Segment

/-! ### One segment -/

/-- No brace stands in a text. -/
def BraceFree (cs : List Char) : Prop := '{' ∉ cs ∧ '}' ∉ cs

/-- **A segment encloses a name**: one opening brace and one closing brace stand in it, in
this order, and the name, which is not empty, is what stands between them. -/
structure Encloses (raw name : String) : Prop where
  /-- There is one opening brace. -/
  count_open : raw.toList.count '{' = 1
  /-- There is one closing brace. -/
  count_close : raw.toList.count '}' = 1
  /-- The name stands behind the one and before the other. -/
  between : ∃ lead tail, raw.toList = lead ++ '{' :: (name.toList ++ '}' :: tail)
  /-- It has at least one character. -/
  ne_empty : name ≠ ""

/-- The segment that binds a name between two texts. -/
def around (lead name tail : List Char) : Segment :=
  if lead = [] ∧ tail = [] then capture (String.ofList name)
  else affixed (String.ofList lead) (String.ofList name) (String.ofList tail)

/-- **What a segment is read as.** -/
theorem parse_eq_ok_iff {raw : String} {s : Segment} :
    parse raw = .ok s ↔
      (BraceFree raw.toList ∧ s = literal raw) ∨
      ∃ lead name tail, raw.toList = lead ++ '{' :: (name ++ '}' :: tail) ∧
        BraceFree lead ∧ BraceFree name ∧ BraceFree tail ∧ name ≠ [] ∧
        s = around lead name tail := by
  constructor
  · intro h
    unfold parse at h
    split at h
    · rename_i hopen
      rw [Text.cut?_eq_none_iff] at hopen
      split at h
      · cases h
      · rename_i hclose
        exact .inl ⟨⟨hopen, hclose⟩, (Except.ok.inj h).symm⟩
    · rename_i lead rest hopen
      obtain ⟨hraw, hlead⟩ := Text.cut?_eq_some_iff.1 hopen
      split at h
      · cases h
      · rename_i name tail hclose
        obtain ⟨rfl, hname⟩ := Text.cut?_eq_some_iff.1 hclose
        split at h
        · cases h
        · rename_i hstray
          simp only [not_or] at hstray
          split at h
          · cases h
          · rename_i hne
            refine .inr ⟨lead, name, tail, hraw, ⟨hlead, hstray.1⟩, ⟨hstray.2.1, hname⟩,
              hstray.2.2, hne, ?_⟩
            unfold around
            split at h
            · rename_i hcapture
              rw [if_pos hcapture]
              exact (Except.ok.inj h).symm
            · rename_i haffixed
              rw [if_neg haffixed]
              exact (Except.ok.inj h).symm
  · rintro (⟨⟨hopen, hclose⟩, rfl⟩ | ⟨lead, name, tail, hraw, hlead, hname, htail, hne, rfl⟩)
    · rw [parse, Text.cut?_eq_none_iff.2 hopen]
      exact if_neg hclose
    · have hopen : Text.cut? '{' raw.toList = some (lead, name ++ '}' :: tail) :=
        Text.cut?_eq_some_iff.2 ⟨hraw, hlead.1⟩
      have hclose : Text.cut? '}' (name ++ '}' :: tail) = some (name, tail) :=
        Text.cut?_eq_some_iff.2 ⟨rfl, hname.2⟩
      have hstray : ¬ ('}' ∈ lead ∨ '{' ∈ name ∨ '{' ∈ tail ∨ '}' ∈ tail) := by
        simp [hlead.2, hname.1, htail.1, htail.2]
      simp only [parse, hopen, hclose, if_neg hstray, if_neg hne, around]
      split
      · rfl
      · rfl

/-- **A name is enclosed exactly if the segment binds it**: the parts around it, and the name
itself, are free of braces. -/
theorem encloses_iff {raw name : String} :
    Encloses raw name ↔ ∃ lead tail, raw.toList = lead ++ '{' :: (name.toList ++ '}' :: tail) ∧
      BraceFree lead ∧ BraceFree name.toList ∧ BraceFree tail ∧ name.toList ≠ [] := by
  constructor
  · rintro ⟨hopen, hclose, ⟨lead, tail, hraw⟩, hne⟩
    rw [hraw] at hopen hclose
    simp only [List.count_append, List.count_cons, beq_self_eq_true, if_true,
      show ('}' == '{') = false from rfl, show ('{' == '}') = false from rfl] at hopen hclose
    have none_of {c : Char} {cs : List Char} (h : cs.count c = 0) : c ∉ cs :=
      List.count_eq_zero.1 h
    exact ⟨lead, tail, hraw, ⟨none_of (by omega), none_of (by omega)⟩,
      ⟨none_of (by omega), none_of (by omega)⟩, ⟨none_of (by omega), none_of (by omega)⟩,
      by simpa using hne⟩
  · rintro ⟨lead, tail, hraw, hlead, hname, htail, hne⟩
    refine ⟨?_, ?_, ⟨lead, tail, hraw⟩, by simpa using hne⟩
    · rw [hraw]
      simp [List.count_append, List.count_eq_zero.2 hlead.1, List.count_eq_zero.2 hname.1,
        List.count_eq_zero.2 htail.1]
    · rw [hraw]
      simp [List.count_append, List.count_eq_zero.2 hlead.2, List.count_eq_zero.2 hname.2,
        List.count_eq_zero.2 htail.2]

@[simp] theorem name?_around (lead name tail : List Char) :
    (around lead name tail).name? = some (String.ofList name) := by
  unfold around
  split
  · rfl
  · rfl

/-- **A segment can be read exactly if** no brace stands in it or it encloses a name. -/
theorem exists_parse_iff (raw : String) :
    (∃ s, parse raw = .ok s) ↔ BraceFree raw.toList ∨ ∃ name, Encloses raw name := by
  constructor
  · rintro ⟨s, hs⟩
    rcases parse_eq_ok_iff.1 hs with ⟨hfree, -⟩ | ⟨lead, name, tail, hraw, hl, hn, ht, hne, -⟩
    · exact .inl hfree
    · refine .inr ⟨String.ofList name, encloses_iff.2 ⟨lead, tail, ?_⟩⟩
      rw [String.toList_ofList]
      exact ⟨hraw, hl, hn, ht, hne⟩
  · rintro (hfree | ⟨name, hname⟩)
    · exact ⟨_, parse_eq_ok_iff.2 (.inl ⟨hfree, rfl⟩)⟩
    · obtain ⟨lead, tail, hraw, hl, hn, ht, hne⟩ := encloses_iff.1 hname
      exact ⟨_, parse_eq_ok_iff.2 (.inr ⟨lead, _, tail, hraw, hl, hn, ht, hne, rfl⟩)⟩

/-- A segment binds the name that its text encloses, and no other. -/
theorem name?_eq_some_iff_of_parse {raw name : String} {s : Segment} (h : parse raw = .ok s) :
    s.name? = some name ↔ Encloses raw name := by
  rcases parse_eq_ok_iff.1 h with ⟨hfree, rfl⟩ | ⟨lead, inner, tail, hraw, hl, hn, ht, hne, rfl⟩
  · constructor
    · intro hname
      cases hname
    · intro henc
      have hzero := List.count_eq_zero.2 hfree.1
      have hone := henc.count_open
      omega
  · have hinner : Encloses raw (String.ofList inner) := by
      refine encloses_iff.2 ⟨lead, tail, ?_⟩
      rw [String.toList_ofList]
      exact ⟨hraw, hl, hn, ht, hne⟩
    rw [name?_around, Option.some.injEq]
    constructor
    · rintro rfl
      exact hinner
    · -- both names stand between the same two braces
      intro henc
      obtain ⟨lead', tail', hraw', hl', hn', -, -⟩ := encloses_iff.1 henc
      have hopen : Text.cut? '{' raw.toList = some (lead, inner ++ '}' :: tail) :=
        Text.cut?_eq_some_iff.2 ⟨hraw, hl.1⟩
      rw [Text.cut?_eq_some_iff.2 ⟨hraw', hl'.1⟩, Option.some.injEq, Prod.mk.injEq] at hopen
      have hclose : Text.cut? '}' (inner ++ '}' :: tail) = some (inner, tail) :=
        Text.cut?_eq_some_iff.2 ⟨rfl, hn.2⟩
      rw [← hopen.2, Text.cut?_eq_some_iff.2 ⟨rfl, hn'.2⟩, Option.some.injEq,
        Prod.mk.injEq] at hclose
      rw [← hclose.1, String.ofList_toList]

/-- **A segment written back**: a literal as it is, a name in its braces. -/
def text : Segment → String
  | literal text => text
  | capture name => "\x7b" ++ name ++ "\x7d"
  | affixed lead name tail => lead ++ "\x7b" ++ name ++ "\x7d" ++ tail

/-- **Reading a segment loses nothing of it.** -/
theorem text_of_parse {raw : String} {s : Segment} (h : parse raw = .ok s) : s.text = raw := by
  rcases parse_eq_ok_iff.1 h with ⟨-, rfl⟩ | ⟨lead, name, tail, hraw, -, -, -, -, rfl⟩
  · rfl
  · apply String.toList_injective
    rw [hraw]
    unfold around
    split
    · rename_i hempty
      simp [text, hempty.1, hempty.2]
    · simp [text]

end Segment

namespace Pattern

/-! ### All segments -/

/-- The variable names that some segments bind, in order. -/
def names (segments : List Segment) : List String := segments.filterMap Segment.name?

theorem names_cons (s : Segment) (segments : List Segment) :
    names (s :: segments) = s.name?.toList ++ names segments := by
  cases hs : s.name? <;> simp [names, hs]

/-- **One step of reading**: the first segment is read, its name has not been used, and it is
used from here on. -/
theorem parseSegments_cons_eq_ok_iff {used raws : List String} {raw : String}
    {segments : List Segment} :
    parseSegments used (raw :: raws) = .ok segments ↔
      ∃ s rest, segments = s :: rest ∧ Segment.parse raw = .ok s ∧
        (∀ name ∈ s.name?, name ∉ used) ∧
        parseSegments (s.name?.toList ++ used) raws = .ok rest := by
  have bind_ok {α β : Type} {x : Except Fault α} {f : α → Except Fault β} {b : β} :
      (x >>= f) = .ok b ↔ ∃ a, x = .ok a ∧ f a = .ok b := by
    cases x with
    | error e => simp [bind, Except.bind]
    | ok a => simp [bind, Except.bind]
  simp only [parseSegments, bind_ok]
  constructor
  · rintro ⟨s, hs, h⟩
    cases hname : s.name? with
    | none =>
        simp only [hname, bind_ok] at h
        obtain ⟨rest, hrest, h⟩ := h
        exact ⟨s, rest, (Except.ok.inj h).symm, hs, by simp [hname], by simpa [hname] using hrest⟩
    | some name =>
        simp only [hname] at h
        split at h
        · cases h
        · rename_i hnew
          obtain ⟨rest, hrest, h⟩ := bind_ok.1 h
          exact ⟨s, rest, (Except.ok.inj h).symm, hs, by simpa [hname] using hnew,
            by simpa [hname] using hrest⟩
  · rintro ⟨s, rest, rfl, hs, hnew, hrest⟩
    refine ⟨s, hs, ?_⟩
    cases hname : s.name? with
    | none =>
        simp only [hname, Option.toList_none, List.nil_append] at hrest
        simp only [bind_ok]
        exact ⟨rest, hrest, rfl⟩
    | some name =>
        simp only [hname, Option.toList_some, List.singleton_append] at hrest
        simp only [if_neg (hnew name hname), bind_ok]
        exact ⟨rest, hrest, rfl⟩

/-- **What reading all segments comes to**: each is read by itself, and the names are distinct
and new. -/
theorem parseSegments_eq_ok_iff {used raws : List String} {segments : List Segment} :
    parseSegments used raws = .ok segments ↔
      List.Forall₂ (fun raw s => Segment.parse raw = .ok s) raws segments ∧
        (names segments).Nodup ∧ ∀ name ∈ names segments, name ∉ used := by
  induction raws generalizing used segments with
  | nil =>
      rw [List.forall₂_nil_left_iff]
      constructor
      · intro h
        cases h
        simp [names]
      · rintro ⟨rfl, -⟩
        rfl
  | cons raw raws ih =>
      rw [parseSegments_cons_eq_ok_iff, List.forall₂_cons_left_iff]
      constructor
      · rintro ⟨s, rest, rfl, hs, hnew, hrest⟩
        obtain ⟨hread, hnodup, hunused⟩ := ih.1 hrest
        refine ⟨⟨s, rest, hs, hread, rfl⟩, ?_, ?_⟩
        · rw [names_cons, List.nodup_append]
          refine ⟨by cases s.name? <;> simp, hnodup, ?_⟩
          rintro a ha b hb rfl
          exact hunused a hb (List.mem_append_left _ ha)
        · intro name hmem
          rw [names_cons, List.mem_append] at hmem
          rcases hmem with hmem | hmem
          · exact hnew name (by simpa using hmem)
          · exact fun hused => hunused name hmem (List.mem_append_right _ hused)
      · rintro ⟨⟨s, rest, hs, hread, rfl⟩, hnodup, hunused⟩
        rw [names_cons, List.nodup_append] at hnodup
        rw [names_cons] at hunused
        refine ⟨s, rest, rfl, hs, fun name hname => ?_, ih.2 ⟨hread, hnodup.2.1, ?_⟩⟩
        · exact hunused name (List.mem_append_left _ (by simpa using hname))
        · intro name hmem
          rw [List.mem_append, not_or]
          exact ⟨fun hs => hnodup.2.2 name hs name hmem rfl,
            hunused name (List.mem_append_right _ hmem)⟩

/-- The names of segments that were read are those that their texts enclose. -/
theorem mem_names_iff {raws : List String} {segments : List Segment}
    (h : List.Forall₂ (fun raw s => Segment.parse raw = .ok s) raws segments) (name : String) :
    name ∈ names segments ↔ ∃ raw ∈ raws, Segment.Encloses raw name := by
  induction h with
  | nil => simp [names]
  | cons hs _ ih =>
      rw [names_cons, List.mem_append, ih, List.exists_mem_cons_iff, Option.mem_toList,
        Segment.name?_eq_some_iff_of_parse hs]

/-- **Names are distinct exactly if no two texts enclose the same one.** -/
theorem nodup_names_iff {raws : List String} {segments : List Segment}
    (h : List.Forall₂ (fun raw s => Segment.parse raw = .ok s) raws segments) :
    (names segments).Nodup ↔
      raws.Pairwise fun a b => ∀ name, Segment.Encloses a name → ¬ Segment.Encloses b name := by
  induction h with
  | nil => simp [names]
  | @cons raw s raws segments hs hrest ih =>
      have hnodup : s.name?.toList.Nodup := by cases s.name? <;> simp
      have hdisjoint : (∀ a ∈ s.name?.toList, ∀ b ∈ names segments, a ≠ b) ↔
          ∀ b ∈ raws, ∀ name, Segment.Encloses raw name → ¬ Segment.Encloses b name := by
        simp only [Option.mem_toList, Segment.name?_eq_some_iff_of_parse hs]
        constructor
        · intro hne b hb name hraw hbname
          exact hne name hraw name ((mem_names_iff hrest name).2 ⟨b, hb, hbname⟩) rfl
        · rintro hne name hraw _ hmem rfl
          obtain ⟨b, hb, hbname⟩ := (mem_names_iff hrest name).1 hmem
          exact hne b hb name hraw hbname
      rw [names_cons, List.nodup_append, List.pairwise_cons, ih, hdisjoint]
      exact ⟨fun h => ⟨h.2.2, h.2.1⟩, fun h => ⟨hnodup, h.2, h.1⟩⟩

/-- All texts can be read exactly if each of them can. -/
theorem exists_forall₂_parse_iff (raws : List String) :
    (∃ segments, List.Forall₂ (fun raw s => Segment.parse raw = .ok s) raws segments) ↔
      ∀ raw ∈ raws, Segment.BraceFree raw.toList ∨ ∃ name, Segment.Encloses raw name := by
  induction raws with
  | nil => simp
  | cons raw raws ih =>
      rw [List.forall_mem_cons, ← ih, ← Segment.exists_parse_iff]
      constructor
      · rintro ⟨_, _ | ⟨hs, hrest⟩⟩
        exact ⟨⟨_, hs⟩, _, hrest⟩
      · rintro ⟨⟨s, hs⟩, segments, hrest⟩
        exact ⟨s :: segments, .cons hs hrest⟩

/-! ### Templates -/

/-- **A well-formed template.** -/
structure WellFormed (template : String) : Prop where
  /-- It starts with a slash. -/
  absolute : template.toList.head? = some '/'
  /-- Each of its segments is free of braces or encloses a name. -/
  readable : ∀ raw ∈ Path.segments (Path.normalize template),
    Segment.BraceFree raw.toList ∨ ∃ name, Segment.Encloses raw name
  /-- No two of its segments enclose the same name. -/
  distinct : (Path.segments (Path.normalize template)).Pairwise fun a b =>
    ∀ name, Segment.Encloses a name → ¬ Segment.Encloses b name

/-- **What a template compiles to.** -/
theorem compile_eq_ok_iff {template : String} {p : Pattern} :
    compile template = .ok p ↔
      template.toList.head? = some '/' ∧ p.text = Path.normalize template ∧
        parseSegments [] (Path.segments p.text) = .ok p.segments := by
  unfold compile
  split
  · rename_i hrelative
    constructor
    · intro h
      cases h
    · intro h
      exact absurd h.1 hrelative
  · rename_i habsolute
    rw [not_not] at habsolute
    dsimp only
    split
    · rename_i fault hfault
      constructor
      · intro h
        cases h
      · rintro ⟨-, htext, hsegments⟩
        rw [htext, hfault] at hsegments
        cases hsegments
    · rename_i segments hsegments
      constructor
      · intro h
        cases h
        exact ⟨habsolute, rfl, hsegments⟩
      · rintro ⟨-, htext, hparsed⟩
        rw [htext, hsegments] at hparsed
        obtain ⟨text, _⟩ := p
        cases hparsed
        cases htext
        rfl

/-- **A template compiles exactly if it is well-formed.** -/
theorem exists_compile_iff (template : String) :
    (∃ p, compile template = .ok p) ↔ WellFormed template := by
  have hunused (segments : List Segment) : ∀ name ∈ names segments, name ∉ ([] : List String) :=
    fun _ _ => List.not_mem_nil
  constructor
  · rintro ⟨p, hp⟩
    obtain ⟨habsolute, htext, hparsed⟩ := compile_eq_ok_iff.1 hp
    rw [htext] at hparsed
    obtain ⟨hread, hnodup, -⟩ := parseSegments_eq_ok_iff.1 hparsed
    exact ⟨habsolute, (exists_forall₂_parse_iff _).1 ⟨_, hread⟩, (nodup_names_iff hread).1 hnodup⟩
  · rintro ⟨habsolute, hreadable, hdistinct⟩
    obtain ⟨segments, hread⟩ := (exists_forall₂_parse_iff _).2 hreadable
    exact ⟨⟨_, segments⟩, compile_eq_ok_iff.2 ⟨habsolute, rfl, parseSegments_eq_ok_iff.2
      ⟨hread, (nodup_names_iff hread).2 hdistinct, hunused _⟩⟩⟩

/-! ### Writing a pattern back -/

/-- **Segments written back**, a slash before each of them, and a slash alone if there are
none. -/
def render : List Segment → String
  | [] => "/"
  | segments => String.ofList (segments.flatMap fun s => '/' :: s.text.toList)

theorem toList_render (segments : List Segment) :
    (render segments).toList
      = '/' :: Text.join '/' (segments.map fun s => s.text.toList) := by
  have joined (s : Segment) (rest : List Segment) :
      (s :: rest).flatMap (fun s => '/' :: s.text.toList)
        = '/' :: Text.join '/' ((s :: rest).map fun s => s.text.toList) := by
    induction rest generalizing s with
    | nil => simp [Text.join]
    | cons next rest ih =>
        rw [List.flatMap_cons, ih next]
        rfl
  cases segments with
  | nil => rfl
  | cons s rest => exact String.toList_ofList.trans (joined s rest)

/-- Texts that were read come back one by one. -/
theorem map_text_of_forall₂ {raws : List String} {segments : List Segment}
    (h : List.Forall₂ (fun raw s => Segment.parse raw = .ok s) raws segments) :
    segments.map Segment.text = raws := by
  induction h with
  | nil => rfl
  | cons hs _ ih => rw [List.map_cons, ih, Segment.text_of_parse hs]

/-- **A compiled pattern, written back, is its text.** -/
theorem render_of_compile {template : String} {p : Pattern} (h : compile template = .ok p) :
    render p.segments = p.text := by
  obtain ⟨habsolute, htext, hparsed⟩ := compile_eq_ok_iff.1 h
  have hread := (parseSegments_eq_ok_iff.1 hparsed).1
  obtain ⟨rest, hslash⟩ : ∃ rest, p.text.toList = '/' :: rest := by
    rw [htext]
    exact List.head?_eq_some_iff.1 (Path.head?_normalize habsolute)
  have hchars : (p.segments.map fun s => s.text.toList) = Path.segmentsChars p.text.toList := by
    have hmap := congrArg (List.map String.toList) (map_text_of_forall₂ hread)
    rw [List.map_map, Path.segments, List.map_map] at hmap
    simpa [Function.comp_def] using hmap
  apply String.toList_injective
  rw [toList_render, hchars, hslash, Path.join_segmentsChars_slash]

/-- The text of a compiled pattern determines its segments, and they determine its text. -/
theorem text_eq_iff_of_compile {template template' : String} {p p' : Pattern}
    (h : compile template = .ok p) (h' : compile template' = .ok p') :
    p.text = p'.text ↔ p.segments = p'.segments := by
  constructor
  · intro htext
    have hparsed := (compile_eq_ok_iff.1 h).2.2
    rw [htext, (compile_eq_ok_iff.1 h').2.2] at hparsed
    exact (Except.ok.inj hparsed).symm
  · intro hsegments
    rw [← render_of_compile h, ← render_of_compile h', hsegments]

/-- Every segment is a literal or binds one variable. -/
theorem segmentCount_eq (p : Pattern) :
    p.segmentCount = p.literalCount + p.variableNames.length := by
  rw [segmentCount, literalCount, variableNames]
  induction p.segments with
  | nil => rfl
  | cons s segments ih =>
      have binds (name : String) (hliteral : s.isLiteral = false) (hname : s.name? = some name) :
          (s :: segments).length = (s :: segments).countP Segment.isLiteral
            + ((s :: segments).filterMap Segment.name?).length := by
        rw [List.length_cons, List.countP_cons_of_neg (by simp [hliteral]),
          List.filterMap_cons_some hname, List.length_cons, ih]
        omega
      cases s with
      | literal text =>
          rw [List.length_cons, List.countP_cons_of_pos rfl, List.filterMap_cons_none rfl, ih]
          omega
      | capture name => exact binds name rfl rfl
      | affixed lead name tail => exact binds name rfl rfl

/-- **A pattern records a template**: nothing of the template but a slash at its end is lost. -/
structure Records (template : String) (p : Pattern) : Prop where
  /-- The text of the pattern is the normal form of the template. -/
  text_eq : p.text = Path.normalize template
  /-- Each segment has the text it was read from, and binds the name enclosed in it. -/
  segments : List.Forall₂ (fun raw s => s.text = raw ∧
    ∀ name, s.name? = some name ↔ Segment.Encloses raw name) (Path.segments p.text) p.segments
  /-- The segments, written back, are the text. -/
  render_eq : render p.segments = p.text
  /-- Every segment is a literal or binds a variable. -/
  segmentCount_eq : p.segmentCount = p.literalCount + p.variableNames.length

/-- A compiled pattern records its template. -/
theorem records_of_compile {template : String} {p : Pattern} (h : compile template = .ok p) :
    Records template p := by
  obtain ⟨-, htext, hparsed⟩ := compile_eq_ok_iff.1 h
  have hread := (parseSegments_eq_ok_iff.1 hparsed).1
  exact ⟨htext, hread.imp fun _ _ hs => ⟨Segment.text_of_parse hs,
    fun _ => Segment.name?_eq_some_iff_of_parse hs⟩, render_of_compile h, p.segmentCount_eq⟩

/-- **The well-formed templates compile, and no others; what they compile to records them, and
patterns with the same text have the same segments.** -/
theorem compiles_and_renders :
    (∀ template, (∃ p, compile template = .ok p) ↔ WellFormed template) ∧
      (∀ template p, compile template = .ok p → Records template p) ∧
      ∀ template template' p p', compile template = .ok p → compile template' = .ok p' →
        (p.text = p'.text ↔ p.segments = p'.segments) :=
  ⟨exists_compile_iff, fun _ _ => records_of_compile, fun _ _ _ _ => text_eq_iff_of_compile⟩

/-- A name between two texts, one that is a whole segment, and a slash at the end; two variables
in one segment; and a pattern that only names its variables in another way. -/
theorem compiles_and_renders_greeting :
    let template := "/say\x7bsth\x7dto/\x7bid\x7d/"
    let p : Pattern :=
      ⟨"/say\x7bsth\x7dto/\x7bid\x7d", [.affixed "say" "sth" "to", .capture "id"]⟩
    let q : Pattern :=
      ⟨"/say\x7bid\x7dto/\x7bsth\x7d", [.affixed "say" "id" "to", .capture "sth"]⟩
    compile template = .ok p ∧ WellFormed template ∧ Records template p ∧
      ¬ WellFormed "/x/\x7ba\x7d\x7bb\x7d" ∧
      compile q.text = .ok q ∧ (p.text = q.text ↔ p.segments = q.segments) := by
  intro template p q
  obtain ⟨hcompiles, hrecords, hsame⟩ := compiles_and_renders
  have hp : compile template = .ok p := by decide
  have hq : compile q.text = .ok q := by decide
  have hrefused : ¬ ∃ p, compile "/x/\x7ba\x7d\x7bb\x7d" = .ok p := by
    have hfault : compile "/x/\x7ba\x7d\x7bb\x7d"
        = .error ⟨"/x/\x7ba\x7d\x7bb\x7d", .unexpectedBrace "\x7ba\x7d\x7bb\x7d"⟩ := by decide
    rintro ⟨p, hp⟩
    rw [hfault] at hp
    cases hp
  exact ⟨hp, (hcompiles _).1 ⟨p, hp⟩, hrecords _ _ hp,
    fun hformed => hrefused ((hcompiles _).2 hformed), hq, hsame _ _ _ _ hp hq⟩

end Pattern

end HttpDispatch
