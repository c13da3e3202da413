import HttpDispatch.Text.Split

/-!
# Request paths

A request path is plain text; this module says how it is read.

* `Path.normalize` drops **one** trailing slash, except from the path `/`
  itself.  A second trailing slash stays, so `/a//` and `/a/` are different
  paths.
* `Path.segments` drops one leading slash and cuts the rest at every slash.
  Nothing at all is left of `/` and of the empty text, and they have **no**
  segments; everywhere else an empty piece between two slashes is a segment.
* `Path.splitTarget` cuts a request target into its path and its query.  The
  fragment goes first, so a `?` inside it never starts a query.
-/

namespace HttpDispatch.Path

/-- `normalize` on characters: **drop one trailing slash** of a text longer than
one character. -/
def normalizeChars (cs : List Char) : List Char :=
  if 1 < cs.length ∧ cs.getLast? = some '/' then cs.dropLast else cs

/-- **Normal form of a path**: one trailing slash is dropped, unless the path is
nothing but that slash. -/
def normalize (path : String) : String :=
  String.ofList (normalizeChars path.toList)

/-- `segments` on characters: the pieces after one leading slash, and none if
nothing follows it. -/
def segmentsChars (cs : List Char) : List (List Char) :=
  match (match cs with
    | '/' :: rest => rest
    | _ => cs) with
  | [] => []
  | body => Text.split '/' body

/-- **The segments of a path**, after dropping one leading slash. -/
def segments (path : String) : List String :=
  (segmentsChars path.toList).map String.ofList

/-- The number of segments of the normal form of a path. -/
def segmentCount (path : String) : Nat :=
  (segments (normalize path)).length

/-- **Cut a request target** into path and query.  Everything from the first `#`
is dropped, then the first `?` starts the query. -/
def splitTarget (target : String) : String × Option String :=
  let body := match Text.cut? '#' target.toList with
    | some (before, _) => before
    | none => target.toList
  match Text.cut? '?' body with
  | some (path, query) => (String.ofList path, some (String.ofList query))
  | none => (String.ofList body, none)

@[simp] theorem segmentsChars_nil : segmentsChars [] = [] := rfl

@[simp] theorem segmentsChars_slash : segmentsChars ['/'] = [] := rfl

/-- After a leading slash a non-empty rest is cut at every slash. -/
theorem segmentsChars_slash_cons (c : Char) (cs : List Char) :
    segmentsChars ('/' :: c :: cs) = Text.split '/' (c :: cs) := rfl

/-- A path that does not start with a slash is cut at every slash. -/
theorem segmentsChars_cons_of_ne {c : Char} (h : c ≠ '/') (cs : List Char) :
    segmentsChars (c :: cs) = Text.split '/' (c :: cs) := by
  unfold segmentsChars
  split
  · rename_i heq
    split at heq
    · rename_i hslash
      exact absurd (List.cons.inj hslash).1 h
    · cases heq
  · rename_i heq
    split
    · rename_i hslash
      exact absurd (List.cons.inj hslash).1 h
    · rfl

theorem toList_normalize (path : String) : (normalize path).toList = normalizeChars path.toList :=
  String.toList_ofList

@[simp] theorem normalize_root : normalize "/" = "/" := by decide

end HttpDispatch.Path
