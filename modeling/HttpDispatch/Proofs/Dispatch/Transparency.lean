import HttpDispatch.Proofs.Dispatch.Selection

/-!
# An extension behind a path

A client may put a registered extension behind a path to ask for a translator, as in
`/products/1.json`.  The route is then the one of the path without it, with the same
bindings, as long as every route that matches the longer path **leaves the extension to
a variable** (`RouteMatch.LeavesExtension`).

The longer path may well be matched by other routes than the shorter one, and by a more
specific one first.  That does not matter: whichever match comes first, it has bound the
extension, so it is dropped in favour of the match of the stripped path, and stripping
gives the shorter path back (`Registry.stripKnownExtension_append`).  The shorter path
itself is matched once, as received, because its own last segment has no registered
extension.

This is the counterpart of `HttpDispatch.Proofs.Dispatch.Selection`, which deals with
routes that spell the extension out.
-/

namespace HttpDispatch

namespace RouteMatch

/-- **A match leaves an extension to a variable**: that of its last segment, which it has
bound to a text that ends with the extension. -/
def LeavesExtension (m : RouteMatch) (extension : String) : Prop :=
  ∃ earlier segment name value, m.route.pattern.segments = earlier ++ [segment] ∧
    segment.name? = some name ∧ m.bindings.getLast? = some (name, value) ∧
    EndsWithExtension extension value

/-- What is left to a variable is bound. -/
theorem LeavesExtension.bindsExtension {m : RouteMatch} {extension : String}
    (h : m.LeavesExtension extension) : m.bindsExtension extension = true := by
  obtain ⟨-, -, name, value, -, -, hlast, hends⟩ := h
  exact bindsExtension_eq_true_iff.2 ⟨(name, value), List.mem_of_getLast? hlast, hends⟩

end RouteMatch

namespace RouteTable

variable {t : RouteTable} {translators : Registry} {method : Method}
  {path extension : String} {m : RouteMatch}

/-- **An extension behind a path does not change the route.**

If every route that matches the path with the extension leaves the extension to the
variable of its last segment, and the path itself is matched at all, then both paths
select the same route with the same bindings. -/
theorem negotiatedRoute?_append_extension (habsolute : path.toList.head? = some '/')
    (hslash : path.toList.getLast? ≠ some '/')
    (hplain : translators.knownExtension? path = none)
    (hextension : extension ≠ "") (hchars : ∀ c ∈ extension.toList, c ≠ '/' ∧ c ≠ '.')
    (hregistered : translators.byExtension.contains (Text.lower extension) = true)
    (hleaves : ∀ r ∈ t.routes, r.method = method →
      ∀ bindings, r.pattern.bind? (path ++ "." ++ extension) = some bindings →
        RouteMatch.LeavesExtension ⟨r, bindings⟩ extension)
    (hmatched : (t.route? method path).isSome) :
    ∃ m, t.route? method path = some m ∧
      t.negotiatedRoute? translators method path = some m ∧
      t.negotiatedRoute? translators method (path ++ "." ++ extension) = some m := by
  obtain ⟨m, hm⟩ := Option.isSome_iff_exists.1 hmatched
  have hne : path.toList ≠ [] := by
    intro hnil
    rw [hnil] at habsolute
    cases habsolute
  have hknown : translators.knownExtension? (path ++ "." ++ extension) = some extension := by
    refine Registry.knownExtension?_eq_some_iff.2
      ⟨⟨_, Registry.carries_append hne hslash hextension hchars⟩, ?_⟩
    exact Option.isSome_iff_exists.1 hregistered
  have hnormal := Registry.normalize_of_knownExtension? hknown
  -- whatever matches the longer path binds the extension and so gives way
  have hdropped : ((t.route? method (path ++ "." ++ extension)).any
      fun m => !m.bindsExtension extension) = false := by
    cases hreceived : t.route? method (path ++ "." ++ extension) with
    | none => rfl
    | some received =>
        obtain ⟨hmem, hmethod, hbind⟩ := mem_of_route?_eq_some hreceived
        rw [Option.any_some,
          (hleaves received.route hmem hmethod received.bindings hbind).bindsExtension]
        rfl
  have hshort : t.negotiatedRoute? translators method path = some m := by
    rw [negotiatedRoute?_of_knownExtension?_eq_none, Path.normalize_of_getLast?_ne hslash, hm]
    rw [Path.normalize_of_getLast?_ne hslash, hplain]
  refine ⟨m, hm, hshort, ?_⟩
  rw [← hnormal] at hknown
  rw [negotiatedRoute?_of_knownExtension? hknown, hnormal, hdropped]
  rw [hnormal] at hknown
  rw [Registry.stripKnownExtension_append hknown, hm]
  rfl

/-- The item 7 is found under its own path and with `.JSON` behind it, although the longer
path is matched by the variants of item 7 first, which do not match the shorter one. -/
theorem negotiatedRoute?_append_extension_item :
    let route (name text : String) (segments : List Segment) : Route :=
      ⟨.get, ⟨text, segments⟩, name, [], some (.handler RoutePlan.defaultNotFound), false⟩
    let variant := route "variant" "/products/item-7\x7bvariant\x7d"
      [.literal "products", .affixed "item-7" "variant" ""]
    let item := route "item" "/products/item-\x7bid\x7d"
      [.literal "products", .affixed "item-" "id" ""]
    let page := route "page" "/\x7bsection\x7d/\x7bpage\x7d" [.capture "section", .capture "page"]
    let table : RouteTable := .ofRoutes [variant, item, page]
      (route "not_found" "/404" [.literal "404"])
    let path := "/products/item-7"
    let extension := "JSON"
    let m : RouteMatch := ⟨item, [("id", "7")]⟩
    (path.toList.head? = some '/' ∧ path.toList.getLast? ≠ some '/' ∧
      Registry.builtIn.knownExtension? path = none ∧
      Registry.builtIn.byExtension.contains (Text.lower extension) = true ∧
      table.route? .get path = some m ∧ variant.pattern.bind? path = none ∧
      variant.pattern.bind? (path ++ "." ++ extension) = some [("variant", ".JSON")]) ∧
      table.negotiatedRoute? .builtIn .get path = some m ∧
      table.negotiatedRoute? .builtIn .get (path ++ "." ++ extension) = some m := by
  intro route variant item page table path extension m
  have hvariant : variant.pattern.bind? (path ++ "." ++ extension)
      = some [("variant", ".JSON")] := by decide
  have hitem : item.pattern.bind? (path ++ "." ++ extension) = some [("id", "7.JSON")] := by
    decide
  have hpage : page.pattern.bind? (path ++ "." ++ extension)
      = some [("section", "products"), ("page", "item-7.JSON")] := by decide
  have hm : table.route? .get path = some m := by
    refine (table.route?_eq_some_iff _ _ _).2
      ⟨⟨[variant], [page], rfl, by decide, ?_, ?_⟩, by decide⟩
    · intro r hr hserves
      rw [List.mem_singleton.1 hr] at hserves
      exact absurd hserves (by decide)
    · intro r hr _
      rw [List.mem_singleton.1 hr]
      decide
  have hleaves : ∀ r ∈ table.routes, r.method = .get →
      ∀ bindings, r.pattern.bind? (path ++ "." ++ extension) = some bindings →
        RouteMatch.LeavesExtension ⟨r, bindings⟩ extension := by
    intro r hr _ bindings hbind
    rcases List.mem_cons.1 hr with rfl | hr
    · cases hvariant.symm.trans hbind
      exact ⟨[.literal "products"], _, "variant", ".JSON", rfl, rfl, rfl, by decide⟩
    rcases List.mem_cons.1 hr with rfl | hr
    · cases hitem.symm.trans hbind
      exact ⟨[.literal "products"], _, "id", "7.JSON", rfl, rfl, rfl, by decide⟩
    · rw [List.mem_singleton.1 hr] at hbind ⊢
      cases hpage.symm.trans hbind
      exact ⟨[.capture "section"], _, "page", "item-7.JSON", rfl, rfl, rfl, by decide⟩
  have hregistered : Registry.builtIn.byExtension.contains (Text.lower extension) = true := by
    decide
  have habsolute : path.toList.head? = some '/' := by decide
  have hslash : path.toList.getLast? ≠ some '/' := by decide
  have hplain : Registry.builtIn.knownExtension? path = none := by decide
  have hchars : ∀ c ∈ extension.toList, c ≠ '/' ∧ c ≠ '.' := by simp [extension]
  obtain ⟨m', hm', hshort, hlong⟩ := negotiatedRoute?_append_extension habsolute hslash hplain
    (by decide) hchars hregistered hleaves (Option.isSome_iff_exists.2 ⟨m, hm⟩)
  cases hm.symm.trans hm'
  exact ⟨⟨habsolute, hslash, hplain, hregistered, hm, by decide, hvariant⟩, hshort, hlong⟩

end RouteTable

end HttpDispatch
