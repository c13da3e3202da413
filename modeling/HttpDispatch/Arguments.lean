import HttpDispatch.Json.Basic

/-!
# Arguments of a handler

The outcome of binding: one slot per declared parameter, in order, which holds a
value or is empty.  A handler reads a slot by position or by name, as a value, as
text, or through a reader of its own.
-/

namespace HttpDispatch

/-- Named slots in the order of declaration. -/
structure Arguments where
  /-- The name and the value of each slot. -/
  slots : List (String × Option Json)
  deriving DecidableEq, Repr, Inhabited

/-- A slot holds a value that its reader does not accept. -/
structure ShapeError where
  /-- The name of the slot. -/
  argument : String
  deriving DecidableEq, Repr

/-- The wording of a shape error. -/
def ShapeError.message (e : ShapeError) : String :=
  "argument '" ++ e.argument ++ "' has an unexpected shape"

namespace Arguments

/-- The number of slots. -/
def size (a : Arguments) : Nat := a.slots.length

/-- Whether there are no slots. -/
def isEmpty (a : Arguments) : Bool := a.slots.isEmpty

/-- The names of the slots. -/
def names (a : Arguments) : List String := a.slots.map Prod.fst

/-- **The value at a position**, if there is a slot and it is filled. -/
def value? (a : Arguments) (position : Nat) : Option Json :=
  a.slots[position]?.bind Prod.snd

/-- The value of the first slot with a name. -/
def named? (a : Arguments) (name : String) : Option Json :=
  (a.slots.find? fun slot => slot.1 = name).bind Prod.snd

/-- The value at a position, if it is a text. -/
def text? (a : Arguments) (position : Nat) : Option String :=
  (a.value? position).bind Json.asText?

/-- **Read the value at a position**; an empty slot reads as nothing. -/
def read {α : Type} (reader : Json → Option α) (a : Arguments) (position : Nat) :
    Except ShapeError (Option α) :=
  match a.slots[position]? with
  | some (name, some value) =>
    match reader value with
    | some x => .ok (some x)
    | none => .error ⟨name⟩
  | _ => .ok none

end Arguments

end HttpDispatch
