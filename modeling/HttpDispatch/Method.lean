import HttpDispatch.Text.Numeral

/-!
# Request methods

A method is a non-empty token.  Letter case matters: `get` is a method of its
own.  The type holds tokens only, so nothing after `Method.parse?` meets another
text.
-/

namespace HttpDispatch

/-- Whether a character may stand in a token: an ASCII letter, a digit, or one of
fifteen signs. -/
def isTokenChar (c : Char) : Bool :=
  c.isAlpha || Numeral.isDigit c
    || c ∈ ['!', '#', '$', '%', '&', '\x27', '*', '+', '-', '.', '^', '_', '\x60', '|', '~']

/-- Whether a text is a non-empty token. -/
def isToken (s : String) : Bool := s ≠ "" && s.toList.all isTokenChar

/-- **A request method.** -/
structure Method where
  /-- The token. -/
  text : String
  /-- It is one. -/
  valid : isToken text = true
  deriving DecidableEq, Repr

namespace Method

instance : ToString Method := ⟨text⟩

/-- The method of a text, if it is a token. -/
def parse? (s : String) : Option Method :=
  if h : isToken s = true then some ⟨s, h⟩ else none

/-- The method `GET`. -/
def get : Method := ⟨"GET", by decide⟩

instance : Inhabited Method := ⟨get⟩

/-- The wording of the error for a text that is no method. -/
def errorMessage : String := "invalid HTTP method"

theorem parse?_text (m : Method) : parse? m.text = some m := by
  simp [parse?, m.valid]

end Method

end HttpDispatch
