import HttpDispatch.Number.Decimal
import HttpDispatch.Text.Blank
import HttpDispatch.Text.Case
import HttpDispatch.Text.Split

/-!
# The Accept header

An `Accept` header is a list of media types with qualities, cut at commas.  An
entry is cut at semicolons: first the media type, then parameters, of which the
last that starts with `q=` is the quality.

## Main definitions

* `Quality` — a positive quality of at most one
* `Quality.parse?` — the quality that a text means
* `Accept.parse` — the entries of a header, best first

## Design notes

**Qualities are single-precision numbers.**  Two texts that round to the same
number are equally good.  A quality is stored as the position of its number among
the non-negative ones, so comparing qualities is comparing naturals.

**What counts as a quality.**  A text that is no number counts as one, as does a
missing quality.  Numbers above one count as one.  What is not positive then (zero,
negative, not a number) drops the entry.

**Order.**  Entries are sorted by falling quality, and equally good ones keep the
order of the header.
-/

namespace HttpDispatch

/-- The position of the number one among the non-negative single-precision
numbers. -/
def unitCode : Nat := 0x3F800000

/-- A quality: a positive number of at most one. -/
structure Quality where
  /-- Its position among the non-negative single-precision numbers. -/
  code : Nat
  /-- It is positive. -/
  pos : 0 < code
  /-- It is at most one. -/
  le_unit : code ≤ unitCode
  deriving Repr

namespace Quality

/-- A quality is determined by its position. -/
@[ext] theorem ext : ∀ {a b : Quality}, a.code = b.code → a = b
  | ⟨_, _, _⟩, ⟨_, _, _⟩, rfl => rfl

instance : DecidableEq Quality := fun a b =>
  if h : a.code = b.code then isTrue (ext h) else isFalse fun e => h (e ▸ rfl)

/-- The highest quality. -/
def unit : Quality := ⟨unitCode, by decide, by decide⟩

/-- The quality at a position, cut off at one; zero is none. -/
def ofCode? (code : Nat) : Option Quality :=
  if h : 0 < code then
    some ⟨min code unitCode, by simp only [unitCode]; omega, Nat.min_le_right _ _⟩
  else none

/-- **The quality that a text means**, or `none` if it is not positive. -/
def parse? (cs : List Char) : Option Quality :=
  match FloatText.parse? cs with
  | none => some unit
  | some .nan => none
  | some (.infinite negative) => if negative then none else some unit
  | some (.finite negative value) =>
    if negative then none
    else match binary32.ofDecimal value with
      | none => some unit
      | some x => ofCode? (binary32.code x)

end Quality

/-- A media type with its quality. -/
structure MediaRange where
  /-- The media type, in lower case, without parameters. -/
  mediaType : String
  /-- How welcome it is. -/
  quality : Quality
  deriving DecidableEq, Repr

namespace Accept

/-- The quality among the parameters of an entry: the last one counts. -/
def quality? (parameters : List (List Char)) : Option Quality :=
  let given := parameters.filterMap fun p => ['q', '='].isPrefixOf? (Text.trim p)
  match given.getLast? with
  | none => some .unit
  | some text => Quality.parse? (Text.trim text)

/-- **One entry of a header**; it is dropped if it has no media type or no positive
quality. -/
def entry? (part : List Char) : Option MediaRange :=
  match Text.split ';' part with
  | [] => none
  | first :: parameters =>
    let mediaType := Text.lowerChars (Text.trim first)
    if mediaType = [] then none
    else (quality? parameters).map (⟨String.ofList mediaType, ·⟩)

/-- The entries of a header, in the order of the header. -/
def entries (header : String) : List MediaRange :=
  (Text.split ',' header.toList).filterMap entry?

/-- Whether `a` may stand before `b`. -/
def atLeastAsGood (a b : MediaRange) : Bool := b.quality.code ≤ a.quality.code

/-- **The entries of a header, best first**; equally good ones keep their order. -/
def parse (header : String) : List MediaRange := (entries header).mergeSort atLeastAsGood

end Accept

end HttpDispatch
