import HttpDispatch.Dispatch.Selection
import HttpDispatch.Proofs.Negotiation.Extension
import HttpDispatch.Proofs.RouteTable.Lookup

/-!
# Routes whose own text carries the extension

A route may spell out a known extension itself, as `/sitemap.xml` does, or may fix the
end of its last segment so that the extension is not the variable's.  A match of such
a route **owns** the extension (`RouteMatch.OwnsExtension`).

A match at the path as received is kept if no variable was bound to a text that ends
with the extension.  Whoever owns the extension does not bind it in the last segment,
so what decides is the variables of the earlier segments, which have nothing to do with
the extension of the path.  `RouteTable.negotiatedRoute?_eq_received_iff` says when such a
match is kept: exactly if no earlier variable happens to end with the extension, or
nothing matches once the extension is stripped.

The other half needs that the two look-ups never agree by accident.  They cannot:
a pattern and its bindings determine the segments of the path, and those of the
stripped path are different (`RouteTable.stripped_ne_received`).
-/

namespace HttpDispatch

/-- A text **ends with an extension**: with a dot and this very text. -/
def EndsWithExtension (extension value : String) : Prop :=
  '.' :: extension.toList <:+ value.toList

instance (extension value : String) : Decidable (EndsWithExtension extension value) :=
  inferInstanceAs (Decidable (_ <:+ _))

namespace RouteMatch

/-- **A match owns an extension** that stands in the last segment of its route: that is
a literal, or its variable was bound to a text that does not end with the extension. -/
inductive OwnsExtension (m : RouteMatch) (extension : String) : Prop
  | literal {earlier : List Segment} {text : String}
      (segments : m.route.pattern.segments = earlier ++ [.literal text]) :
      OwnsExtension m extension
  | affixed {earlier : List Segment} {lead name tail value : String}
      (segments : m.route.pattern.segments = earlier ++ [.affixed lead name tail])
      (bound : m.bindings.getLast? = some (name, value))
      (ends : ¬ EndsWithExtension extension value) : OwnsExtension m extension

/-- What the variables of all segments but the last were bound to. -/
def earlierBindings (m : RouteMatch) : Bindings :=
  m.bindings.take (m.route.pattern.segments.dropLast.filterMap Segment.name?).length

theorem bindsExtension_eq_true_iff {m : RouteMatch} {extension : String} :
    m.bindsExtension extension = true ↔
      ∃ b ∈ m.bindings, EndsWithExtension extension b.2 := by
  simp only [bindsExtension, List.any_eq_true, List.isSuffixOf_iff_suffix, EndsWithExtension]

/-- **Whoever owns the extension binds it in earlier segments only.** -/
theorem OwnsExtension.bindsExtension_iff {m : RouteMatch} {extension path : String}
    (hown : m.OwnsExtension extension)
    (hbind : m.route.pattern.bind? path = some m.bindings) :
    m.bindsExtension extension = true ↔
      ∃ b ∈ m.earlierBindings, EndsWithExtension extension b.2 := by
  have hnames := Pattern.names_of_bindSegments? hbind
  rw [bindsExtension_eq_true_iff, earlierBindings]
  cases hown with
  | literal segments =>
      have hlength := congrArg List.length hnames
      rw [segments] at hlength ⊢
      rw [List.dropLast_concat, List.take_of_length_le]
      rw [List.filterMap_append, List.length_append, List.length_map] at hlength
      exact hlength.le
  | @affixed earlier lead name tail value segments bound ends =>
      -- the last binding is the one of the last segment, so that `take` drops just it
      obtain ⟨front, hfront⟩ := List.getLast?_eq_some_iff.1 bound
      have hlength := congrArg List.length hnames
      rw [segments, hfront] at hlength
      rw [segments, List.dropLast_concat, hfront, List.take_append_of_le_length,
        List.take_of_length_le]
      · constructor
        · rintro ⟨b, hb, hends⟩
          rcases List.mem_append.1 hb with hb | hb
          · exact ⟨b, hb, hends⟩
          · rw [List.mem_singleton.1 hb] at hends
            exact absurd hends ends
        · rintro ⟨b, hb, hends⟩
          exact ⟨b, List.mem_append_left _ hb, hends⟩
      all_goals simp [Segment.name?] at hlength; omega

end RouteMatch

namespace RouteTable

variable {t : RouteTable} {translators : Registry} {method : Method} {path : String}
  {m : RouteMatch} {extension : String}

/-- What is selected for a path whose extension is known. -/
theorem negotiatedRoute?_of_knownExtension?
    (hext : translators.knownExtension? (Path.normalize path) = some extension) :
    t.negotiatedRoute? translators method path =
      if (t.route? method (Path.normalize path)).any fun m => !m.bindsExtension extension then
        t.route? method (Path.normalize path)
      else
        (t.route? method (translators.stripKnownExtension (Path.normalize path))).or
          (t.route? method (Path.normalize path)) := by
  unfold negotiatedRoute?
  simp only [hext]

/-- A path without a known extension is matched as received. -/
theorem negotiatedRoute?_of_knownExtension?_eq_none
    (hplain : translators.knownExtension? (Path.normalize path) = none) :
    t.negotiatedRoute? translators method path = t.route? method (Path.normalize path) := by
  unfold negotiatedRoute?
  simp only [hplain]

/-- What is selected matches the path as received or without its extension. -/
theorem exists_route?_of_negotiatedRoute?
    (h : t.negotiatedRoute? translators method path = some m) :
    ∃ matched, t.route? method matched = some m := by
  cases hext : translators.knownExtension? (Path.normalize path) with
  | none =>
      rw [negotiatedRoute?_of_knownExtension?_eq_none hext] at h
      exact ⟨_, h⟩
  | some extension =>
      rw [negotiatedRoute?_of_knownExtension? hext] at h
      split at h
      · exact ⟨_, h⟩
      · rcases Option.or_eq_some_iff.1 h with hstripped | ⟨-, hreceived⟩
        · exact ⟨_, hstripped⟩
        · exact ⟨_, hreceived⟩

/-- **The selected route belongs to the table.** -/
theorem route_select_mem (t : RouteTable) (translators : Registry) (method : Method)
    (path : String) : (t.select translators method path).route ∈ t.notFound :: t.routes := by
  unfold select
  cases h : t.negotiatedRoute? translators method path with
  | none => exact List.mem_cons_self ..
  | some m =>
      obtain ⟨matched, hm⟩ := exists_route?_of_negotiatedRoute? h
      exact List.mem_cons_of_mem _ (mem_of_route?_eq_some hm).1

/-- **The stripped path never gives the same match** as the path with its extension. -/
theorem stripped_ne_received (hext : translators.knownExtension? path = some extension)
    (hm : t.route? method path = some m) :
    t.route? method (translators.stripKnownExtension path) ≠ some m := by
  intro hstripped
  have hbind := ((t.route?_eq_some_iff method path m).1 hm).bindings
  have hbind' := ((t.route?_eq_some_iff method _ m).1 hstripped).bindings
  have hcarries := Registry.carries_stripKnownExtension hext
  have hsegments := Pattern.segments_eq_of_bind?_eq hbind' hbind
  rw [Registry.normalize_of_knownExtension? hext,
    Path.normalize_of_getLast?_ne hcarries.getLast?_stem] at hsegments
  exact hcarries.segmentsChars_stem_ne
    (List.map_injective_iff.2 (fun _ _ h => by simpa using congrArg String.toList h) hsegments)

/-- What is selected for a path whose known extension is owned by the match as
received. -/
theorem negotiatedRoute?_of_owns (hm : t.route? method (Path.normalize path) = some m)
    (hext : translators.knownExtension? (Path.normalize path) = some extension)
    (hown : m.OwnsExtension extension) :
    t.negotiatedRoute? translators method path =
      if ∃ b ∈ m.earlierBindings, EndsWithExtension extension b.2 then
        (t.route? method (translators.stripKnownExtension (Path.normalize path))).or (some m)
      else some m := by
  have hbind := ((t.route?_eq_some_iff method _ m).1 hm).bindings
  have hbinds := hown.bindsExtension_iff hbind
  rw [negotiatedRoute?_of_knownExtension? hext, hm, Option.any_some]
  by_cases h : m.bindsExtension extension = true
  · rw [if_pos (hbinds.1 h), if_neg (by simp [h])]
  · rw [if_neg (fun hearlier => h (hbinds.2 hearlier)), if_pos (by simpa using h)]

/-- **When a match that owns the extension is kept**: exactly if no variable of an
earlier segment was bound to a text that ends with the extension, or no route matches
the stripped path.  Otherwise the match of the stripped path is selected instead. -/
theorem negotiatedRoute?_eq_received_iff
    (hm : t.route? method (Path.normalize path) = some m)
    (hext : translators.knownExtension? (Path.normalize path) = some extension)
    (hown : m.OwnsExtension extension) :
    let stripped := t.route? method
      (translators.stripKnownExtension (Path.normalize path))
    (t.negotiatedRoute? translators method path = some m ↔
      (∀ b ∈ m.earlierBindings, ¬ EndsWithExtension extension b.2) ∨ stripped = none) ∧
    (t.negotiatedRoute? translators method path ≠ some m →
      t.negotiatedRoute? translators method path = stripped) := by
  intro stripped
  have hne : stripped ≠ some m := stripped_ne_received hext hm
  have hselected : t.negotiatedRoute? translators method path =
      if ∃ b ∈ m.earlierBindings, EndsWithExtension extension b.2 then stripped.or (some m)
      else some m := negotiatedRoute?_of_owns hm hext hown
  clear_value stripped
  rw [hselected]
  by_cases hearlier : ∃ b ∈ m.earlierBindings, EndsWithExtension extension b.2
  · have hnot : ¬ ∀ b ∈ m.earlierBindings, ¬ EndsWithExtension extension b.2 := by
      rintro hall
      obtain ⟨b, hb, hends⟩ := hearlier
      exact hall b hb hends
    rw [if_pos hearlier]
    cases stripped with
    | none => exact ⟨iff_of_true rfl (.inr rfl), fun h => absurd rfl h⟩
    | some m' =>
        refine ⟨iff_of_false hne ?_, fun _ => rfl⟩
        rintro (hall | hnone)
        · exact hnot hall
        · cases hnone
  · rw [if_neg hearlier]
    refine ⟨iff_of_true rfl (.inl fun b hb hends => hearlier ⟨b, hb, hends⟩), ?_⟩
    exact fun h => absurd rfl h

/-- A site that is itself called `old.xml` loses its `/sitemap.xml` to a page: the
first variable ends with the extension, and the stripped path is a page. -/
theorem negotiatedRoute?_sitemap_of_old :
    let route (name text : String) (last : Segment) : Route :=
      ⟨.get, ⟨text, [.literal "sites", .capture "site", last]⟩, name, [],
        some (.handler RoutePlan.defaultNotFound), false⟩
    let page := route "page" "/sites/\x7bsite\x7d/\x7bpage\x7d" (.capture "page")
    let sitemap := route "sitemap" "/sites/\x7bsite\x7d/sitemap.xml" (.literal "sitemap.xml")
    let table : RouteTable := .ofRoutes [page, sitemap]
      ⟨.get, ⟨"/404", [.literal "404"]⟩, "not_found", [],
        some (.handler RoutePlan.defaultNotFound), false⟩
    let path := "/sites/old.xml/sitemap.xml"
    let received : RouteMatch := ⟨sitemap, [("site", "old.xml")]⟩
    table.route? .get path = some received ∧
      table.negotiatedRoute? .builtIn .get path ≠ some received ∧
      table.negotiatedRoute? .builtIn .get path
        = some ⟨page, [("site", "old.xml"), ("page", "sitemap")]⟩ := by
  intro route page sitemap table path received
  have hreceived : table.route? .get path = some received := by
    refine (table.route?_eq_some_iff _ _ _).2 ⟨⟨[page], [], rfl, by decide, ?_, ?_⟩, by decide⟩
    · intro r hr _
      rw [List.mem_singleton.1 hr]
      decide
    · intro r hr
      cases hr
  have hstripped : table.route? .get "/sites/old.xml/sitemap"
      = some ⟨page, [("site", "old.xml"), ("page", "sitemap")]⟩ := by
    refine (table.route?_eq_some_iff _ _ _).2 ⟨⟨[], [sitemap], rfl, by decide, ?_, ?_⟩, by decide⟩
    · intro r hr
      cases hr
    · intro r hr hserves
      rw [List.mem_singleton.1 hr] at hserves
      exact absurd hserves (by decide)
  have hnormal : Path.normalize path = path := by decide
  have hknown : Registry.builtIn.knownExtension? (Path.normalize path) = some "xml" := by
    decide
  have segments : sitemap.pattern.segments
      = [.literal "sites", .capture "site"] ++ [.literal "sitemap.xml"] := rfl
  have hstrip : Registry.builtIn.stripKnownExtension (Path.normalize path)
      = "/sites/old.xml/sitemap" := by decide
  have h := negotiatedRoute?_eq_received_iff (hnormal.symm ▸ hreceived) hknown
    (.literal segments)
  rw [hstrip, hstripped] at h
  have hlost : table.negotiatedRoute? .builtIn .get path ≠ some received := by
    rw [Ne, h.1]
    rintro (hall | hnone)
    · exact hall ("site", "old.xml") (by decide) (by decide)
    · cases hnone
  exact ⟨hreceived, hlost, h.2 hlost⟩

end RouteTable

end HttpDispatch
