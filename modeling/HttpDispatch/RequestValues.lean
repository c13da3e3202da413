import HttpDispatch.Parameter
import HttpDispatch.Pattern
import HttpDispatch.SortedMap
import HttpDispatch.Text.Form

/-!
# Values of a request

Everything that a request carries under a name: fields of the query string and of
a form body, data about uploaded files, variables of the path.  A name may have
several values, kept in the order they arrived.

* `add` appends a value, `set` replaces all values of a name by one.
* Fields of a form with an empty value are not recorded.
* `flatten` is the view that binding works on: one value per name, the first that
  arrived, and the defaults of simple parameters for names without one.
-/

namespace HttpDispatch

/-- A file that was stored before the request is dispatched. -/
structure Upload where
  /-- Where it was stored. -/
  path : String
  /-- The name it had. -/
  filename : String
  /-- Its type. -/
  contentType : String
  deriving DecidableEq, Repr

/-- The names and values that tell of an upload. -/
def Upload.fields (name : String) (upload : Upload) : List (String × String) :=
  [(name ++ ".file", upload.path), (name ++ ".originalFilename", upload.filename),
    (name ++ ".contentType", upload.contentType)]

/-- Values under names; a name may have several. -/
structure RequestValues where
  /-- The values of each name, in the order they arrived. -/
  lists : SortedMap (List String)
  deriving DecidableEq

namespace RequestValues

/-- No values. -/
def empty : RequestValues := ⟨.empty⟩

instance : Inhabited RequestValues := ⟨empty⟩

/-! ### Reading -/

/-- **All values of a name**, in the order they arrived. -/
def all (r : RequestValues) (name : String) : List String := (r.lists.get? name).getD []

/-- The first value of a name. -/
def first? (r : RequestValues) (name : String) : Option String :=
  (r.lists.get? name).bind List.head?

/-- Whether a name is recorded. -/
def contains (r : RequestValues) (name : String) : Bool := r.lists.contains name

/-- The number of names. -/
def size (r : RequestValues) : Nat := r.lists.size

/-- Whether there is no name. -/
def isEmpty (r : RequestValues) : Bool := r.lists.isEmpty

/-! ### Recording -/

/-- **Append a value** to those of a name. -/
def add (r : RequestValues) (name value : String) : RequestValues :=
  ⟨r.lists.insert name (r.all name ++ [value])⟩

/-- **Replace the values** of a name by one. -/
def set (r : RequestValues) (name value : String) : RequestValues :=
  ⟨r.lists.insert name [value]⟩

/-- Append several values. -/
def addAll (r : RequestValues) (entries : List (String × String)) : RequestValues :=
  entries.foldl (fun r (name, value) => r.add name value) r

/-- Append the fields of a form that have a value. -/
def addForm (r : RequestValues) (bytes : List UInt8) : RequestValues :=
  r.addAll ((Form.fields bytes).filter fun (_, value) => value ≠ "")

/-- Append the data about an upload. -/
def addUpload (r : RequestValues) (name : String) (upload : Upload) : RequestValues :=
  r.addAll (upload.fields name)

/-- **Merge the variables of a path**, which win over all other values. -/
def merge (r : RequestValues) (bindings : Bindings) : RequestValues :=
  bindings.foldl (fun r (name, value) => r.set name value) r

/-- The values of some entries. -/
def ofList (entries : List (String × String)) : RequestValues := empty.addAll entries

/-- **The fields of a query string**; question marks in front of it are ignored. -/
def ofQuery (query : String) : RequestValues :=
  empty.addForm (Utf8.encode (query.toList.dropWhile (· = '?')))

/-! ### The view that binding works on -/

/-- Use the default of a simple parameter if its name has no value. -/
def fillDefault (values : SortedMap String) (p : Parameter) : SortedMap String :=
  match p.source, p.default with
  | .simple _, some raw => values.insertIfNew p.name raw
  | _, _ => values

/-- The first value of every name. -/
def firsts (r : RequestValues) : SortedMap String :=
  .ofList (r.lists.entries.filterMap fun (name, values) => values.head?.map (name, ·))

/-- **One value per name**, then the defaults of simple parameters. -/
def flatten (r : RequestValues) (parameters : List Parameter) : SortedMap String :=
  parameters.foldl fillDefault r.firsts

/-! ### Laws -/

theorem all_add (r : RequestValues) (name name' value : String) :
    (r.add name value).all name' = if name' = name then r.all name ++ [value] else r.all name' := by
  simp only [add, all, SortedMap.get?_insert]
  by_cases h : name' = name <;> simp [h]

theorem all_set (r : RequestValues) (name name' value : String) :
    (r.set name value).all name' = if name' = name then [value] else r.all name' := by
  simp only [set, all, SortedMap.get?_insert]
  by_cases h : name' = name <;> simp [h]

@[simp] theorem all_empty (name : String) : empty.all name = [] := rfl

end RequestValues

end HttpDispatch
