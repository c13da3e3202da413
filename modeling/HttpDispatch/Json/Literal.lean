import HttpDispatch.Json.Basic
import HttpDispatch.Json.Error
import HttpDispatch.Number.Decimal

/-!
# Reading number literals

A literal without point and exponent that fits in 64 bits (signed, or unsigned
without a sign) is an integer; every other literal is a double, and so is `-0`.

Doubles are **not** read to the last bit.  The digits are collected in an
unsigned 64-bit significand; once another digit would overflow it, further
digits before the point only raise the exponent, and further digits after it
are dropped.  The significand is then rounded to a double and scaled by a
rounded power of ten, so that up to three roundings add up.
`Literal.scale` is that last part.

### Positions

A reader takes the bytes that are left and returns what it read with the bytes
left after it.  A fault carries the bytes left **after the place it is reported
at**; the caller knows the whole input and turns that into a line and column.
-/

namespace HttpDispatch.Json

/-- A cause, and the bytes after the place it is reported at. -/
structure Fault where
  /-- The cause. -/
  kind : ParseError.Kind
  /-- The bytes after that place. -/
  rest : List UInt8
  deriving Repr

/-- A function that reads a value off the front of the input. -/
abbrev Reader (α : Type) := List UInt8 → Except Fault (α × List UInt8)

/-- Report a fault at the next byte, which counts as read. -/
def failAt (kind : ParseError.Kind) (rest : List UInt8) : Except Fault α :=
  .error ⟨kind, rest.drop 1⟩

/-- Report a fault after the bytes read so far. -/
def failAfter (kind : ParseError.Kind) (rest : List UInt8) : Except Fault α :=
  .error ⟨kind, rest⟩

namespace Literal

/-- Whether a byte is an ASCII digit. -/
def isDigit (b : UInt8) : Bool := 0x30 ≤ b && b ≤ 0x39

/-- The value of an ASCII digit. -/
def digitValue (b : UInt8) : Nat := b.toNat - 0x30

/-- The largest significand that is collected. -/
def maxSignificand : Nat := Nat.pow 2 64 - 1

/-- The largest exponent that is collected. -/
def maxExponent : Nat := Nat.pow 2 31 - 1

/-- The largest power of ten that is a double. -/
def maxPower : Nat := 308

/-- The double nearest to a power of ten, up to `maxPower`. -/
def power (k : Nat) : Dyadic := (binary64.round (Nat.pow 10 k) 1).getD binary64.zero

/-- Divide by `10 ^ k`, in steps of at most `maxPower`, each rounded. -/
def shrink (x : Dyadic) (k : Nat) : Option Dyadic :=
  if k ≤ maxPower then binary64.dividedBy x (power k)
  else if x.significand = 0 then some x
  else (binary64.dividedBy x (power maxPower)).bind fun y => shrink y (k - maxPower)
  termination_by k
  decreasing_by exact Nat.sub_lt (by omega) (by decide)

/-- **The double for a significand and a power of ten**; `none` if it is too
large. -/
def scale (significand : Nat) (exponent : Int) : Option Dyadic :=
  let x := (binary64.round significand 1).getD binary64.zero
  if 0 ≤ exponent then
    if exponent.toNat ≤ maxPower then binary64.times x (power exponent.toNat)
    else if significand = 0 then some x
    else none
  else shrink x exponent.natAbs

/-- A double literal, with the bytes left after it. -/
def finish (negative : Bool) (significand : Nat) (exponent : Int) : Reader Number := fun rest =>
  match scale significand exponent with
  | some x => .ok (.double ⟨negative, x⟩, rest)
  | none => failAfter .numberOutOfRange rest

/-- The digits of an exponent after the first.  An exponent that grows too large
decides the literal at once. -/
def exponentDigits (negative : Bool) (significand : Nat) (start : Int) (down : Bool)
    (exponent : Nat) : Reader Number
  | [] => finish negative significand (if down then start - exponent else start + exponent) []
  | b :: rest =>
    if isDigit b then
      let exponent' := 10 * exponent + digitValue b
      if maxExponent < exponent' then
        if significand ≠ 0 ∧ !down then failAfter .numberOutOfRange rest
        else .ok (.double ⟨negative, binary64.zero⟩, rest.dropWhile isDigit)
      else exponentDigits negative significand start down exponent' rest
    else
      finish negative significand (if down then start - exponent else start + exponent) (b :: rest)

/-- An exponent after its mark and sign. -/
def unsignedExponent (negative : Bool) (significand : Nat) (start : Int) (down : Bool) :
    Reader Number
  | [] => failAfter .unfinishedValue []
  | b :: rest =>
    if isDigit b then exponentDigits negative significand start down (digitValue b) rest
    else failAfter .invalidNumber rest

/-- An exponent after its mark. -/
def exponent (negative : Bool) (significand : Nat) (start : Int) : Reader Number
  | 0x2B :: rest => unsignedExponent negative significand start false rest
  | 0x2D :: rest => unsignedExponent negative significand start true rest
  | rest => unsignedExponent negative significand start false rest

/-- What may follow the digits of a double literal. -/
def afterDigits (negative : Bool) (significand : Nat) (start : Int) : Reader Number
  | b :: rest =>
    if b = 0x65 ∨ b = 0x45 then exponent negative significand start rest
    else finish negative significand start (b :: rest)
  | [] => finish negative significand start []

/-- The digits after the point, `read` of which have been collected; there has to
be at least one. -/
def fraction (negative : Bool) (significand : Nat) (start : Int) (read : Nat) : Reader Number
  | [] =>
    if read = 0 then failAt .unfinishedValue []
    else afterDigits negative significand (start - read) []
  | b :: rest =>
    if isDigit b then
      let significand' := 10 * significand + digitValue b
      if maxSignificand < significand' then
        afterDigits negative significand (start - read) ((b :: rest).dropWhile isDigit)
      else fraction negative significand' start (read + 1) rest
    else if read = 0 then failAt .invalidNumber (b :: rest)
    else afterDigits negative significand (start - read) (b :: rest)

/-- The digits before the point that no longer fit, `dropped` of which have been
passed over. -/
def excess (negative : Bool) (significand : Nat) (dropped : Nat) : Reader Number
  | [] => finish negative significand dropped []
  | b :: rest =>
    if isDigit b then excess negative significand (dropped + 1) rest
    else if b = 0x2E then fraction negative significand dropped 0 rest
    else afterDigits negative significand dropped (b :: rest)

/-- What may follow the digits before the point; nothing more makes an integer,
if it fits. -/
def afterWhole (negative : Bool) (significand : Nat) : Reader Number := fun rest =>
  let plain : Number :=
    if !negative then .integer significand
    else if significand ≠ 0 ∧ significand ≤ Nat.pow 2 63 then .integer (-significand)
    else .double ⟨true, (binary64.round significand 1).getD binary64.zero⟩
  match rest with
  | [] => .ok (plain, [])
  | b :: after =>
    if b = 0x2E then fraction negative significand 0 0 after
    else if b = 0x65 ∨ b = 0x45 then exponent negative significand 0 after
    else .ok (plain, b :: after)

/-- The digits before the point. -/
def whole (negative : Bool) (significand : Nat) : Reader Number
  | [] => afterWhole negative significand []
  | b :: rest =>
    if isDigit b then
      let significand' := 10 * significand + digitValue b
      if maxSignificand < significand' then excess negative significand 0 (b :: rest)
      else whole negative significand' rest
    else afterWhole negative significand (b :: rest)

/-- **A number literal** after its sign.  Only a lone zero may start with zero. -/
def read (negative : Bool) : Reader Number
  | [] => failAfter .unfinishedValue []
  | b :: rest =>
    if b = 0x30 then
      match rest with
      | c :: _ =>
        if isDigit c then failAt .invalidNumber rest else afterWhole negative 0 rest
      | [] => afterWhole negative 0 []
    else if isDigit b then whole negative (digitValue b) rest
    else failAfter .invalidNumber rest

end Literal

end HttpDispatch.Json
