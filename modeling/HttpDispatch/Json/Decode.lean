import HttpDispatch.Json.Basic

/-!
# Reading JSON values as data

Readers that handlers use for typed arguments.  Integers and doubles are kept
apart: an integer reader never accepts a double, while a double reader rounds an
integer.  Null fits no reader.
-/

namespace HttpDispatch.Json

/-- An integer between two bounds. -/
def asIntWithin? (low high : Int) : Json → Option Int
  | number (.integer n) => if low ≤ n ∧ n ≤ high then some n else none
  | _ => none

/-- A signed integer of 64 bits. -/
def asInt64? : Json → Option Int := asIntWithin? (-Nat.pow 2 63) (Nat.pow 2 63 - 1)

/-- An unsigned integer of 8 bits. -/
def asByte? : Json → Option Int := asIntWithin? 0 255

/-- A double; integers are rounded to one. -/
def asDouble? : Json → Option Binary64
  | number (.integer n) => some (.ofInt n)
  | number (.double x) => some x
  | _ => none

/-- A truth value. -/
def asBool? : Json → Option Bool
  | bool b => some b
  | _ => none

/-- A list whose items are all accepted. -/
def asListOf? {α : Type} (item : Json → Option α) : Json → Option (List α)
  | array items => items.mapM item
  | _ => none

/-- The members of an object whose values are all accepted. -/
def asMembersOf? {α : Type} (value : Json → Option α) : Json → Option (List (String × α))
  | object members => members.mapM fun (key, v) => (value v).map (key, ·)
  | _ => none

/-- A record of two fields: an object that has both, other members being ignored,
or a list of exactly the two values. -/
def asRecordOfTwo? {α β : Type} (first : String × (Json → Option α))
    (second : String × (Json → Option β)) : Json → Option (α × β)
  | array [x, y] => do return (← first.2 x, ← second.2 y)
  | object members => do
    let x ← Entries.get? first.1 members
    let y ← Entries.get? second.1 members
    return (← first.2 x, ← second.2 y)
  | _ => none

end HttpDispatch.Json
