import HttpDispatch.Json.Literal
import HttpDispatch.Text.Utf8

/-!
# Reading JSON text

`Json.parse` reads one value, with blanks around it, from bytes.  Lists and
objects may be nested `maxDepth` deep.  Of equal keys in one object the last
counts.

The recursion follows the depth that is left (`value`); the loops over the items
of one list and the members of one object are bounded by the bytes that are
left, since every round reads at least one.
-/

namespace HttpDispatch.Json

/-- How deeply lists and objects may be nested. -/
def maxDepth : Nat := 127

/-- Whether a byte is blank between tokens. -/
def isBlankByte (b : UInt8) : Bool := b = 0x20 || b = 0x0A || b = 0x09 || b = 0x0D

/-- Drop blanks. -/
def skipBlanks (bytes : List UInt8) : List UInt8 := bytes.dropWhile isBlankByte

/-- **The rest of a word**; the first byte that differs is the fault. -/
def word : List UInt8 → List UInt8 → Except Fault (List UInt8)
  | [], rest => .ok rest
  | _ :: _, [] => failAfter .unfinishedValue []
  | b :: bs, c :: rest => if b = c then word bs rest else failAfter .expectedWord rest

/-! ### Texts -/

/-- The value of a hexadecimal digit. -/
def hexDigit? (b : UInt8) : Option Nat :=
  if 0x30 ≤ b ∧ b ≤ 0x39 then some (b.toNat - 0x30)
  else if 0x41 ≤ b ∧ b ≤ 0x46 then some (b.toNat - 0x41 + 10)
  else if 0x61 ≤ b ∧ b ≤ 0x66 then some (b.toNat - 0x61 + 10)
  else none

/-- Four hexadecimal digits. -/
def hexFour : Reader Nat
  | a :: b :: c :: d :: rest =>
    match hexDigit? a, hexDigit? b, hexDigit? c, hexDigit? d with
    | some a, some b, some c, some d => .ok (((a * 16 + b) * 16 + c) * 16 + d, rest)
    | _, _, _, _ => failAfter .invalidEscape rest
  | _ => failAfter .unfinishedString []

/-- Whether a code unit is the first half of a surrogate pair. -/
def isLeading (n : Nat) : Bool := 0xD800 ≤ n && n ≤ 0xDBFF

/-- Whether a code unit is the second half of a surrogate pair. -/
def isTrailing (n : Nat) : Bool := 0xDC00 ≤ n && n ≤ 0xDFFF

/-- The second half of the surrogate pair that starts with `high`. -/
def secondHalf (high : Nat) : Reader Char
  | [] => failAfter .unfinishedString []
  | b :: rest =>
    if b ≠ 0x5C then failAfter .unfinishedEscape rest
    else match rest with
      | [] => failAfter .unfinishedString []
      | c :: rest =>
        if c ≠ 0x75 then failAfter .unfinishedEscape rest
        else do
          let (low, rest) ← hexFour rest
          if isTrailing low then
            return (Char.ofNat ((high - 0xD800) * 0x400 + (low - 0xDC00) + 0x10000), rest)
          else failAfter .loneSurrogate rest

/-- A code point after `\u`. -/
def unicodeEscape : Reader Char := fun rest => do
  let (n, rest) ← hexFour rest
  if isTrailing n then failAfter .loneSurrogate rest
  else if isLeading n then secondHalf n rest
  else return (Char.ofNat n, rest)

/-- **An escape** after its backslash. -/
def escape : Reader Char
  | [] => failAfter .unfinishedString []
  | b :: rest =>
    if b = 0x22 then .ok ('"', rest)
    else if b = 0x5C then .ok ('\\', rest)
    else if b = 0x2F then .ok ('/', rest)
    else if b = 0x62 then .ok ('\x08', rest)
    else if b = 0x66 then .ok ('\x0c', rest)
    else if b = 0x6E then .ok ('\n', rest)
    else if b = 0x72 then .ok ('\r', rest)
    else if b = 0x74 then .ok ('\t', rest)
    else if b = 0x75 then unicodeEscape rest
    else failAfter .invalidEscape rest

theorem length_hexFour {bytes rest : List UInt8} {n : Nat}
    (h : hexFour bytes = .ok (n, rest)) : rest.length < bytes.length := by
  unfold hexFour at h
  split at h
  · split at h
    · cases h
      simp
      omega
    · cases h
  · cases h

theorem length_secondHalf {high : Nat} {bytes rest : List UInt8} {c : Char}
    (h : secondHalf high bytes = .ok (c, rest)) : rest.length < bytes.length := by
  unfold secondHalf at h
  split at h
  · cases h
  · split at h
    · cases h
    · split at h
      · cases h
      · split at h
        · cases h
        · rename_i b _ _ _ c tail _
          cases hx : hexFour tail with
          | error e => simp [hx, bind, Except.bind] at h
          | ok p =>
            obtain ⟨low, after⟩ := p
            have := length_hexFour hx
            simp only [hx, bind, Except.bind] at h
            split at h
            · simp only [pure, Except.pure, Except.ok.injEq, Prod.mk.injEq] at h
              rw [← h.2]
              simp only [List.length_cons]
              omega
            · cases h

theorem length_unicodeEscape {bytes rest : List UInt8} {c : Char}
    (h : unicodeEscape bytes = .ok (c, rest)) : rest.length < bytes.length := by
  unfold unicodeEscape at h
  cases hx : hexFour bytes with
  | error e => simp [hx, bind, Except.bind] at h
  | ok p =>
    obtain ⟨n, after⟩ := p
    have hlt := length_hexFour hx
    simp only [hx, bind, Except.bind] at h
    split at h
    · cases h
    · split at h
      · exact Nat.lt_trans (length_secondHalf h) hlt
      · cases h
        exact hlt

/-- An escape is read from at least one byte. -/
theorem length_escape {bytes rest : List UInt8} {c : Char}
    (h : escape bytes = .ok (c, rest)) : rest.length < bytes.length := by
  cases bytes with
  | nil => cases h
  | cons b tail =>
    rw [escape] at h
    by_cases hu : b = 0x75
    · subst hu
      exact Nat.lt_succ_of_lt (length_unicodeEscape h)
    · rw [if_neg hu] at h
      have : rest = tail := by
        repeat' split at h
        all_goals cases h
        all_goals rfl
      simp [this]

/-- The bytes of a text up to its closing quote, with escapes undone; `read` holds
the bytes so far, last first. -/
def stringBytes (read : List UInt8) : Reader (List UInt8)
  | [] => failAfter .unfinishedString []
  | b :: rest =>
    if b = 0x22 then .ok (read.reverse, rest)
    else if b = 0x5C then
      match h : escape rest with
      | .error fault => .error fault
      | .ok (c, after) =>
        have := length_escape h
        stringBytes ((String.utf8EncodeChar c).reverse ++ read) after
    else if b < 0x20 then failAfter .controlCharacter rest
    else stringBytes (b :: read) rest
  termination_by bytes => bytes.length
  decreasing_by
    · simp
      omega
    · simp

/-- **A text** after its opening quote.  If its content is not UTF-8, the fault lies as
many bytes before the end of the text as the content has from its first byte that does
not belong.  Without escapes behind that byte this is its own place. -/
def string? : Reader String := fun bytes => do
  let (content, rest) ← stringBytes [] bytes
  match Utf8.decode content with
  | .ok cs => return (String.ofList cs, rest)
  | .error e =>
    let invalid := content.length - e.offset
    failAfter .invalidUnicode (bytes.drop (bytes.length - rest.length - invalid))

/-! ### Lists and objects -/

/-- The place where the next item of a list starts, or `none` after the last.
A comma has to stand before every item but the first. -/
def nextItem (first : Bool) : Reader Bool := fun bytes =>
  match skipBlanks bytes with
  | [] => failAt .unfinishedList []
  | b :: rest =>
    if b = 0x5D then .ok (false, rest)
    else if first then .ok (true, b :: rest)
    else if b = 0x2C then
      match skipBlanks rest with
      | [] => failAt .unfinishedValue []
      | c :: after =>
        if c = 0x5D then failAt .trailingComma (c :: after) else .ok (true, c :: after)
    else failAt .expectedListEnd (b :: rest)

/-- **The items of a list** after its opening bracket. -/
def items (item : Reader Json) : Nat → Bool → List Json → Reader Json
  | 0, _, _, rest => failAt .unfinishedList rest
  | fuel + 1, first, read, rest => do
    let (more, rest) ← nextItem first rest
    if more then
      let (value, rest) ← item rest
      items item fuel false (value :: read) rest
    else return (array read.reverse, rest)

/-- The place after the opening quote of the next key, or `none` after the last
member.  A comma has to stand before every member but the first. -/
def nextKey (first : Bool) : Reader Bool := fun bytes =>
  match skipBlanks bytes with
  | [] => failAt .unfinishedObject []
  | b :: rest =>
    if b = 0x7D then .ok (false, rest)
    else if first then
      if b = 0x22 then .ok (true, rest) else failAt .keyNotString (b :: rest)
    else if b = 0x2C then
      match skipBlanks rest with
      | [] => failAt .unfinishedValue []
      | c :: after =>
        if c = 0x22 then .ok (true, after)
        else if c = 0x7D then failAt .trailingComma (c :: after)
        else failAt .keyNotString (c :: after)
    else failAt .expectedObjectEnd (b :: rest)

/-- The colon after a key. -/
def colon (bytes : List UInt8) : Except Fault (List UInt8) :=
  match skipBlanks bytes with
  | [] => failAt .unfinishedObject []
  | b :: rest => if b = 0x3A then .ok rest else failAt .expectedColon (b :: rest)

/-- **The members of an object** after its opening brace. -/
def members (item : Reader Json) : Nat → Bool → List (String × Json) → Reader Json
  | 0, _, _, rest => failAt .unfinishedObject rest
  | fuel + 1, first, read, rest => do
    let (more, rest) ← nextKey first rest
    if more then
      let (key, rest) ← string? rest
      let rest ← colon rest
      let (value, rest) ← item rest
      members item fuel false (Entries.insert key value read) rest
    else return (object read, rest)

/-! ### Values -/

/-- A value that opens neither list nor object, given its first byte. -/
def scalar (b : UInt8) : Reader Json := fun rest =>
  if b = 0x6E then do return (null, ← word [0x75, 0x6C, 0x6C] rest)
  else if b = 0x74 then do return (bool true, ← word [0x72, 0x75, 0x65] rest)
  else if b = 0x66 then do return (bool false, ← word [0x61, 0x6C, 0x73, 0x65] rest)
  else if b = 0x2D then do
    let (n, rest) ← Literal.read true rest
    return (number n, rest)
  else if Literal.isDigit b then do
    let (n, rest) ← Literal.read false (b :: rest)
    return (number n, rest)
  else if b = 0x22 then do
    let (s, rest) ← string? rest
    return (string s, rest)
  else failAt .expectedValue (b :: rest)

/-- A value whose items and members, if it may have any, are read by `nested`. -/
def valueWith (nested : Option (Reader Json)) : Reader Json := fun bytes =>
  match skipBlanks bytes with
  | [] => failAt .unfinishedValue []
  | b :: rest =>
    if b = 0x5B then
      match nested with
      | none => failAt .nestedTooDeeply (b :: rest)
      | some item => items item (rest.length + 1) true [] rest
    else if b = 0x7B then
      match nested with
      | none => failAt .nestedTooDeeply (b :: rest)
      | some item => members item (rest.length + 1) true [] rest
    else scalar b rest

/-- **A value**, in which lists and objects may still be nested `depth` deep. -/
def value : Nat → Reader Json
  | 0 => valueWith none
  | depth + 1 => valueWith (some (value depth))

/-- A value and the end of input. -/
def document : Reader Json := fun bytes => do
  let (v, rest) ← value maxDepth bytes
  match skipBlanks rest with
  | [] => return (v, [])
  | rest => failAt .trailingCharacters rest

/-- The line and column of a fault in an input. -/
def Fault.place (bytes : List UInt8) (fault : Fault) : ParseError :=
  let read := bytes.take (bytes.length - fault.rest.length)
  { kind := fault.kind
    line := 1 + read.count 0x0A
    column := (read.reverse.takeWhile (· ≠ 0x0A)).length }

/-- **Read JSON text.** -/
def parse (bytes : List UInt8) : Except ParseError Json :=
  match document bytes with
  | .ok (v, _) => .ok v
  | .error fault => .error (fault.place bytes)

end HttpDispatch.Json
