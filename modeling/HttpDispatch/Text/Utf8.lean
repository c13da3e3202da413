/-!
# UTF-8

Bodies, form fields and encoded values are byte sequences.  `Utf8.encode` writes
characters; two readers read them back:

* `decode` — strict: refuses the first sequence that is not UTF-8, and says
  where it starts and how long it is;
* `decodeLossy` — puts the replacement character U+FFFD in the place of every
  such sequence and reads on after it.

Both agree on what a bad sequence is, since both ask `front` what stands at the
front of the remaining bytes.  A bad sequence is as long as the part of it that
some character could still start with, and at least one byte; a sequence cut off
by the end of input is *incomplete*.
-/

namespace HttpDispatch.Utf8

/-- What stands at the front of a non-empty byte sequence.  The counts are the
bytes used after the first. -/
inductive Front where
  /-- A character. -/
  | char (c : Char) (more : Nat)
  /-- A sequence that no character starts with. -/
  | invalid (more : Nat)
  /-- A character that the end of input cuts off. -/
  | incomplete
  deriving DecidableEq, Repr

/-- A byte that may only continue a character. -/
def isTail (b : UInt8) : Bool := 0x80 ≤ b && b ≤ 0xBF

/-- The six bits that a continuing byte adds. -/
def tailBits (b : UInt8) : Nat := b.toNat % 64

/-- The second bytes that may follow `b` in a character of three bytes. -/
def secondOfThree (b : UInt8) : UInt8 × UInt8 :=
  if b = 0xE0 then (0xA0, 0xBF) else if b = 0xED then (0x80, 0x9F) else (0x80, 0xBF)

/-- The second bytes that may follow `b` in a character of four bytes. -/
def secondOfFour (b : UInt8) : UInt8 × UInt8 :=
  if b = 0xF0 then (0x90, 0xBF) else if b = 0xF4 then (0x80, 0x8F) else (0x80, 0xBF)

/-- **What `b` followed by `rest` starts with.** -/
def front (b : UInt8) (rest : List UInt8) : Front :=
  if b < 0x80 then .char (Char.ofNat b.toNat) 0
  else if 0xC2 ≤ b ∧ b ≤ 0xDF then
    match rest with
    | [] => .incomplete
    | b₁ :: _ =>
      if isTail b₁ then .char (Char.ofNat (b.toNat % 32 * 64 + tailBits b₁)) 1 else .invalid 0
  else if 0xE0 ≤ b ∧ b ≤ 0xEF then
    match rest with
    | [] => .incomplete
    | b₁ :: rest₁ =>
      if (secondOfThree b).1 ≤ b₁ ∧ b₁ ≤ (secondOfThree b).2 then
        match rest₁ with
        | [] => .incomplete
        | b₂ :: _ =>
          if isTail b₂ then
            .char (Char.ofNat ((b.toNat % 16 * 64 + tailBits b₁) * 64 + tailBits b₂)) 2
          else .invalid 1
      else .invalid 0
  else if 0xF0 ≤ b ∧ b ≤ 0xF4 then
    match rest with
    | [] => .incomplete
    | b₁ :: rest₁ =>
      if (secondOfFour b).1 ≤ b₁ ∧ b₁ ≤ (secondOfFour b).2 then
        match rest₁ with
        | [] => .incomplete
        | b₂ :: rest₂ =>
          if isTail b₂ then
            match rest₂ with
            | [] => .incomplete
            | b₃ :: _ =>
              if isTail b₃ then
                .char (Char.ofNat
                  (((b.toNat % 8 * 64 + tailBits b₁) * 64 + tailBits b₂) * 64 + tailBits b₃)) 3
              else .invalid 2
          else .invalid 1
      else .invalid 0
  else .invalid 0

/-- **The bytes of a text.** -/
def encode (cs : List Char) : List UInt8 := cs.flatMap String.utf8EncodeChar

/-- The bytes of a stored text. -/
def bytes (s : String) : List UInt8 := encode s.toList

/-- Why a byte sequence is not text. -/
structure Error where
  /-- How many bytes before the bad sequence are text. -/
  offset : Nat
  /-- The length of the bad sequence, unless the end of input cuts it off. -/
  length : Option Nat
  deriving DecidableEq, Repr

/-- The wording of an error. -/
def Error.message (e : Error) : String :=
  match e.length with
  | some n =>
    "invalid utf-8 sequence of " ++ toString n ++ " bytes from index " ++ toString e.offset
  | none => "incomplete utf-8 byte sequence from index " ++ toString e.offset

/-- `decode` for bytes that start at `offset`. -/
def decodeFrom (offset : Nat) : List UInt8 → Except Error (List Char)
  | [] => .ok []
  | b :: rest =>
    match front b rest with
    | .char c more => (decodeFrom (offset + 1 + more) (rest.drop more)).map (c :: ·)
    | .invalid more => .error ⟨offset, some (1 + more)⟩
    | .incomplete => .error ⟨offset, none⟩
  termination_by bytes => bytes.length
  decreasing_by all_goals (simp only [List.length_drop, List.length_cons]; omega)

/-- **Read text strictly.** -/
def decode (bytes : List UInt8) : Except Error (List Char) := decodeFrom 0 bytes

/-- The character that replaces a bad sequence. -/
def replacement : Char := '\uFFFD'

/-- **Read text, replacing every bad sequence.** -/
def decodeLossy : List UInt8 → List Char
  | [] => []
  | b :: rest =>
    match front b rest with
    | .char c more => c :: decodeLossy (rest.drop more)
    | .invalid more => replacement :: decodeLossy (rest.drop more)
    | .incomplete => [replacement]
  termination_by bytes => bytes.length
  decreasing_by all_goals (simp only [List.length_drop, List.length_cons]; omega)

@[simp] theorem decode_nil : decode [] = .ok [] := by simp [decode, decodeFrom]

@[simp] theorem decodeLossy_nil : decodeLossy [] = [] := by simp [decodeLossy]

@[simp] theorem encode_nil : encode [] = [] := rfl

theorem encode_append (xs ys : List Char) : encode (xs ++ ys) = encode xs ++ encode ys := by
  simp [encode]

end HttpDispatch.Utf8
