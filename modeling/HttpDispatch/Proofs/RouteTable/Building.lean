import HttpDispatch.Proofs.Pattern.Compilation
import HttpDispatch.Proofs.RouteTable.Registration

/-!
# When a table can be built

A plan is compiled one definition after the other, and three checks are made of each: its
template has to be a pattern, it has to lead somewhere, and its method and pattern may not have
been seen before.  This module says what comes of it for the plan as a whole.

* `RoutePlan.exists_build_iff` — a table is built exactly from a sound plan, and `RoutePlan.Sound`
  speaks of no order.
* `RoutePlan.build_eq_error_iff` — the fault that is reported is that of the first definition
  that has one; the path of the not-found route is looked at last.

### Design decisions

**Faults are told by what was declared.**  `RoutePlan.Offends` knows the definitions before the
one in question, and not what the builder has noted down of them.  That the two agree is the
invariant of the run (`Notes`), and one step keeps it (`Notes.cons`).

**One fault at a time.**  The three checks of a definition exclude each other as they are stated
here, so a definition has at most one fault, and none needs to be preferred.
-/

namespace HttpDispatch.RoutePlan

/-! ### What can be wrong with a definition -/

/-- A definition with the base path that it stands below. -/
abbrev Declaration := String × RouteDefinition

/-- The template of a definition below its base path. -/
def wholeTemplate (x : Declaration) : String := Path.under x.1 x.2.template

/-- **What definitions are told apart by**: the method and the normal form of the template. -/
def key (x : Declaration) : Method × String := (x.2.method, Path.normalize (wholeTemplate x))

/-- **What is wrong with a definition**, given those that were declared before. -/
inductive Offends (earlier : List Declaration) (x : Declaration) : RouteTableError → Prop
  /-- Its template is no pattern. -/
  | malformed {e : Pattern.Error} (fault : Pattern.compile (wholeTemplate x) = .error e) :
      Offends earlier x (.malformedPattern e)
  /-- It leads nowhere. -/
  | missing (compiles : ∃ p, Pattern.compile (wholeTemplate x) = .ok p)
      (nowhere : x.2.target = none) :
      Offends earlier x (.missingHandler (key x).1 (key x).2)
  /-- Its method and pattern were declared before. -/
  | duplicate (compiles : ∃ p, Pattern.compile (wholeTemplate x) = .ok p)
      (leads : x.2.target.isSome = true) (again : key x ∈ earlier.map key) :
      Offends earlier x (.duplicateRoute (key x).1 (key x).2)

/-- Nothing is wrong with some definitions, given those that were declared before. -/
def FineAfter (earlier definitions : List Declaration) : Prop :=
  ∀ before x behind, definitions = before ++ x :: behind → ∀ e, ¬ Offends (earlier ++ before) x e

/-- **The first fault** of some definitions, given those that were declared before. -/
def FirstAfter (earlier definitions : List Declaration) (e : RouteTableError) : Prop :=
  ∃ before x behind, definitions = before ++ x :: behind ∧ FineAfter earlier before ∧
    Offends (earlier ++ before) x e

variable {earlier definitions : List Declaration} {x : Declaration} {e : RouteTableError}

theorem fineAfter_nil (earlier : List Declaration) : FineAfter earlier [] := by
  rintro (_ | _) x behind h
  · cases h
  · cases h

/-- Definitions are fine one after the other. -/
theorem fineAfter_cons_iff :
    FineAfter earlier (x :: definitions) ↔
      (∀ e, ¬ Offends earlier x e) ∧ FineAfter (earlier ++ [x]) definitions := by
  constructor
  · intro h
    refine ⟨by simpa using h [] x definitions rfl, fun before y behind hsplit => ?_⟩
    simpa using h (x :: before) y behind (by rw [hsplit, List.cons_append])
  · rintro ⟨hx, hrest⟩ (_ | ⟨y, before⟩) z behind hsplit
    · rw [List.nil_append, List.cons.injEq] at hsplit
      simpa [← hsplit.1] using hx
    · rw [List.cons_append, List.cons.injEq] at hsplit
      simpa [hsplit.1] using hrest before z behind hsplit.2

/-- The first fault is that of the first definition, or the first one behind it. -/
theorem firstAfter_cons_iff :
    FirstAfter earlier (x :: definitions) e ↔
      Offends earlier x e ∨
        (∀ e, ¬ Offends earlier x e) ∧ FirstAfter (earlier ++ [x]) definitions e := by
  constructor
  · rintro ⟨_ | ⟨y, before⟩, z, behind, hsplit, hfine, hoffends⟩
    · rw [List.nil_append, List.cons.injEq] at hsplit
      exact .inl (by simpa [← hsplit.1] using hoffends)
    · rw [List.cons_append, List.cons.injEq] at hsplit
      obtain ⟨rfl, hsplit⟩ := hsplit
      rw [fineAfter_cons_iff] at hfine
      exact .inr ⟨hfine.1, before, z, behind, hsplit, hfine.2, by simpa using hoffends⟩
  · rintro (hoffends | ⟨hx, before, z, behind, rfl, hfine, hoffends⟩)
    · exact ⟨[], x, definitions, rfl, fineAfter_nil _, by simpa using hoffends⟩
    · exact ⟨x :: before, z, behind, rfl, fineAfter_cons_iff.2 ⟨hx, hfine⟩,
        by simpa using hoffends⟩

/-- If there is no first fault, there is none. -/
theorem fineAfter_iff_forall_not_firstAfter :
    FineAfter earlier definitions ↔ ∀ e, ¬ FirstAfter earlier definitions e := by
  constructor
  · rintro hfine e ⟨before, x, behind, hsplit, -, hoffends⟩
    exact hfine before x behind hsplit e hoffends
  · intro hnone
    induction definitions generalizing earlier with
    | nil => exact fineAfter_nil earlier
    | cons x definitions ih =>
        simp only [firstAfter_cons_iff, not_or, not_and] at hnone
        have hx : ∀ e, ¬ Offends earlier x e := fun e => (hnone e).1
        exact fineAfter_cons_iff.2 ⟨hx, ih fun e => (hnone e).2 hx⟩

/-- **Nothing is wrong with a definition** exactly if it compiles, leads somewhere and is new. -/
theorem forall_not_offends_iff :
    (∀ e, ¬ Offends earlier x e) ↔
      (∃ p, Pattern.compile (wholeTemplate x) = .ok p) ∧ x.2.target.isSome = true ∧
        key x ∉ earlier.map key := by
  constructor
  · intro h
    have hcompiles : ∃ p, Pattern.compile (wholeTemplate x) = .ok p := by
      cases hcompile : Pattern.compile (wholeTemplate x) with
      | error e => exact absurd (.malformed hcompile) (h _)
      | ok p => exact ⟨p, rfl⟩
    have hleads : x.2.target.isSome = true := by
      rw [Option.isSome_iff_ne_none]
      exact fun hnowhere => h _ (.missing hcompiles hnowhere)
    exact ⟨hcompiles, hleads, fun hagain => h _ (.duplicate hcompiles hleads hagain)⟩
  · rintro ⟨⟨p, hp⟩, hleads, hnew⟩ e (⟨fault⟩ | ⟨-, nowhere⟩ | ⟨-, -, again⟩)
    · rw [hp] at fault
      cases fault
    · rw [nowhere] at hleads
      cases hleads
    · exact hnew again

/-- **Definitions are fine** exactly if each compiles and leads somewhere, and their methods and
patterns are distinct and new. -/
theorem fineAfter_iff :
    FineAfter earlier definitions ↔
      (∀ x ∈ definitions, ∃ p, Pattern.compile (wholeTemplate x) = .ok p) ∧
        (∀ x ∈ definitions, x.2.target.isSome = true) ∧
        (definitions.map key).Nodup ∧
        ∀ x ∈ definitions, key x ∉ earlier.map key := by
  induction definitions generalizing earlier with
  | nil => simp [fineAfter_nil]
  | cons x definitions ih =>
      have hrest : FineAfter (earlier ++ [x]) definitions ↔ _ := ih
      have hkeys : (∀ y ∈ definitions, key y ∉ (earlier ++ [x]).map key) ↔
          (∀ y ∈ definitions, key y ∉ earlier.map key) ∧ key x ∉ definitions.map key := by
        simp only [List.map_append, List.mem_append, not_or, List.map_singleton,
          List.mem_singleton, List.mem_map, forall_and, not_exists, not_and]
      rw [hkeys] at hrest
      rw [fineAfter_cons_iff, forall_not_offends_iff, hrest, List.map_cons, List.nodup_cons]
      simp only [List.forall_mem_cons]
      constructor
      · rintro ⟨⟨hx, hleads, hnew⟩, hxs, hleads', hnodup, hnew', hapart⟩
        exact ⟨⟨hx, hxs⟩, ⟨hleads, hleads'⟩, ⟨hapart, hnodup⟩, hnew, hnew'⟩
      · rintro ⟨⟨hx, hxs⟩, ⟨hleads, hleads'⟩, ⟨hapart, hnodup⟩, hnew, hnew'⟩
        exact ⟨⟨hx, hleads, hnew⟩, hxs, hleads', hnodup, hnew', hapart⟩

/-! ### Compiling one definition -/

variable {seen : List (Method × String)}

/-- The builder has **noted down** what the definitions so far are told apart by. -/
def Notes (seen : List (Method × String)) (earlier : List Declaration) : Prop :=
  ∀ k, k ∈ seen ↔ k ∈ earlier.map key

/-- **A route declares what a definition says**, with its template below the base path compiled. -/
structure Declares (x : Declaration) (r : Route) : Prop where
  /-- The pattern is the template, compiled. -/
  pattern : Pattern.compile (wholeTemplate x) = .ok r.pattern
  /-- The method is that of the definition. -/
  method : r.method = x.2.method
  /-- So is the name of the handler. -/
  name : r.name = x.2.name
  /-- So are the parameters. -/
  parameters : r.parameters = x.2.parameters
  /-- It leads to the same. -/
  target : r.target = x.2.target
  /-- It is static if the definition is. -/
  isStatic : r.isStatic = x.2.isStatic

theorem declares_of_compile {x : Declaration} {r : Route} (h : x.2.compile x.1 = .ok r) :
    Declares x r := by
  unfold RouteDefinition.compile at h
  split at h
  · cases h
  · rename_i pattern hpattern
    cases h
    exact ⟨hpattern, rfl, rfl, rfl, rfl, rfl⟩

/-- The method and the pattern of a compiled definition are what it is told apart by. -/
theorem key_eq_of_compile {r : Route} (h : x.2.compile x.1 = .ok r) :
    (r.method, r.pattern.text) = key x := by
  have declares := declares_of_compile h
  rw [key, declares.method, (Pattern.compile_eq_ok_iff.1 declares.pattern).2.1]

/-- The next definition is noted down in front. -/
theorem Notes.cons {r : Route} (h : Notes seen earlier) (hr : x.2.compile x.1 = .ok r) :
    Notes ((r.method, r.pattern.text) :: seen) (earlier ++ [x]) := by
  intro k
  rw [key_eq_of_compile hr, List.mem_cons, h k, List.map_append, List.mem_append,
    List.map_singleton, List.mem_singleton, or_comm]

/-- **A definition is refused for what is wrong with it.** -/
theorem compileOne_eq_error_iff (notes : Notes seen earlier) :
    compileOne seen x.1 x.2 = .error e ↔ Offends earlier x e := by
  unfold compileOne RouteDefinition.compile
  cases hcompile : Pattern.compile (wholeTemplate x) with
  | error fault =>
      rw [wholeTemplate] at hcompile
      simp only [hcompile, Except.error.injEq]
      constructor
      · rintro rfl
        exact .malformed hcompile
      · rintro (⟨fault'⟩ | ⟨⟨p, hp⟩, -⟩ | ⟨⟨p, hp⟩, -⟩)
        · rw [wholeTemplate, hcompile] at fault'
          rw [Except.error.inj fault']
        · rw [wholeTemplate, hcompile] at hp
          cases hp
        · rw [wholeTemplate, hcompile] at hp
          cases hp
  | ok p =>
      have htext : p.text = (key x).2 := (Pattern.compile_eq_ok_iff.1 hcompile).2.1
      have hkey : (x.2.method, (key x).2) ∈ seen ↔ key x ∈ earlier.map key := notes (key x)
      rw [wholeTemplate] at hcompile
      simp only [hcompile, htext, hkey, Option.isNone_iff_eq_none]
      constructor
      · intro h
        split at h
        · rename_i nowhere
          cases h
          exact .missing ⟨p, hcompile⟩ nowhere
        · rename_i leads
          split at h
          · rename_i again
            cases h
            exact .duplicate ⟨p, hcompile⟩ (Option.isSome_iff_ne_none.2 leads) again
          · cases h
      · rintro (⟨fault⟩ | ⟨-, nowhere⟩ | ⟨-, leads, again⟩)
        · rw [wholeTemplate, hcompile] at fault
          cases fault
        · rw [if_pos nowhere]
          rfl
        · rw [if_neg (Option.isSome_iff_ne_none.1 leads), if_pos again]
          rfl

/-! ### Compiling all definitions -/

/-- **Definitions are refused for the first fault.** -/
theorem compileAll_eq_error_iff (notes : Notes seen earlier) :
    compileAll seen definitions = .error e ↔ FirstAfter earlier definitions e := by
  induction definitions generalizing seen earlier with
  | nil =>
      refine iff_of_false nofun ?_
      rintro ⟨_ | _, _, _, hsplit, -⟩ <;> cases hsplit
  | cons x definitions ih =>
      obtain ⟨base, d⟩ := x
      rw [compileAll_cons, firstAfter_cons_iff]
      cases hone : compileOne seen base d with
      | error fault =>
          have hoffends : Offends earlier (base, d) fault := (compileOne_eq_error_iff notes).1 hone
          have hiff := compileOne_eq_error_iff notes (x := (base, d)) (e := e)
          rw [hone, Except.error.injEq] at hiff
          rw [← hiff, Except.error.injEq]
          exact ⟨.inl, fun h => h.resolve_right fun hfine => hfine.1 _ hoffends⟩
      | ok r =>
          have hfine : ∀ e, ¬ Offends earlier (base, d) e := by
            intro e hoffends
            rw [(compileOne_eq_error_iff notes).2 hoffends] at hone
            cases hone
          have hrest : compileAll ((r.method, r.pattern.text) :: seen) definitions = .error e ↔ _ :=
            ih (notes.cons (x := (base, d)) (compile_of_compileOne hone).1)
          rw [or_iff_right (hfine e), and_iff_right hfine, ← hrest]
          dsimp only
          cases compileAll ((r.method, r.pattern.text) :: seen) definitions <;> simp

/-! ### Building the table -/

/-- **A sound plan.** -/
structure Sound (p : RoutePlan) : Prop where
  /-- The template of every definition is a pattern, below its base path. -/
  compiles : ∀ x ∈ p.definitions, ∃ pattern, Pattern.compile (wholeTemplate x) = .ok pattern
  /-- Every definition leads to a handler or elsewhere. -/
  leads : ∀ x ∈ p.definitions, x.2.target.isSome = true
  /-- No two definitions have the same method and pattern. -/
  distinct : (p.definitions.map key).Nodup
  /-- The path of the not-found route is a pattern. -/
  notFound : ∃ pattern, Pattern.compile p.notFoundPath = .ok pattern

/-- **The fault that is reported**: the first of a definition, or for want of one that of the
not-found route. -/
inductive Reports (p : RoutePlan) : RouteTableError → Prop
  /-- Of all definitions with a fault this is the first. -/
  | definition {before behind : List Declaration} {x : Declaration} {e : RouteTableError}
      (split : p.definitions = before ++ x :: behind) (fine : FineAfter [] before)
      (offends : Offends before x e) : Reports p e
  /-- No definition has a fault, and the path of the not-found route is no pattern. -/
  | notFound {e : Pattern.Error} (fine : FineAfter [] p.definitions)
      (fault : Pattern.compile p.notFoundPath = .error e) : Reports p (.malformedPattern e)

variable {p : RoutePlan}

theorem compileNotFound_eq_error_iff :
    p.compileNotFound = .error e ↔
      ∃ fault, Pattern.compile p.notFoundPath = .error fault ∧ e = .malformedPattern fault := by
  unfold compileNotFound
  cases Pattern.compile p.notFoundPath with
  | error fault => simp [eq_comm]
  | ok pattern => simp

/-- A run from the start has nothing noted down. -/
theorem notes_nil : Notes [] [] := fun _ => Iff.rfl

/-- **All definitions are compiled** exactly if they are fine. -/
theorem exists_compileAll_iff :
    (∃ routes, compileAll [] definitions = .ok routes) ↔ FineAfter [] definitions := by
  rw [fineAfter_iff_forall_not_firstAfter]
  simp only [← compileAll_eq_error_iff notes_nil]
  cases compileAll [] definitions <;> simp

/-- **The fault that is reported** is the first of a definition, or that of the not-found
route. -/
theorem build_eq_error_iff : p.build = .error e ↔ Reports p e := by
  have hbuild : p.build = .error e ↔ compileAll [] p.definitions = .error e ∨
      (∃ routes, compileAll [] p.definitions = .ok routes) ∧ p.compileNotFound = .error e := by
    unfold build
    cases compileAll [] p.definitions with
    | error fault => simp
    | ok routes => cases p.compileNotFound <;> simp
  rw [hbuild, compileAll_eq_error_iff notes_nil, exists_compileAll_iff,
    compileNotFound_eq_error_iff]
  constructor
  · rintro (⟨before, x, behind, hsplit, hfine, hoffends⟩ | ⟨hfine, fault, hfault, rfl⟩)
    · exact .definition hsplit hfine hoffends
    · exact .notFound hfine hfault
  · rintro (⟨hsplit, hfine, hoffends⟩ | ⟨hfine, hfault⟩)
    · exact .inl ⟨_, _, _, hsplit, hfine, hoffends⟩
    · exact .inr ⟨hfine, _, hfault, rfl⟩

/-- **A table is built exactly from a sound plan.** -/
theorem exists_build_iff : (∃ t, p.build = .ok t) ↔ Sound p := by
  have hbuild : (∃ t, p.build = .ok t) ↔
      (∃ routes, compileAll [] p.definitions = .ok routes) ∧
        ∃ r, p.compileNotFound = .ok r := by
    unfold build
    cases compileAll [] p.definitions with
    | error fault => simp
    | ok routes => cases p.compileNotFound <;> simp
  have hnotFound : (∃ r, p.compileNotFound = .ok r) ↔
      ∃ pattern, Pattern.compile p.notFoundPath = .ok pattern := by
    unfold compileNotFound
    cases Pattern.compile p.notFoundPath <;> simp
  rw [hbuild, exists_compileAll_iff, fineAfter_iff, hnotFound]
  constructor
  · rintro ⟨⟨hcompiles, hleads, hdistinct, -⟩, hpath⟩
    exact ⟨hcompiles, hleads, hdistinct, hpath⟩
  · rintro ⟨hcompiles, hleads, hdistinct, hpath⟩
    exact ⟨⟨hcompiles, hleads, hdistinct, fun _ _ => List.not_mem_nil⟩, hpath⟩

end HttpDispatch.RoutePlan
