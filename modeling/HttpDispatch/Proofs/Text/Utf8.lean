import HttpDispatch.Text.Utf8

/-!
# Text survives being encoded

`Utf8.decode_encode`: what `Utf8.encode` writes is read back by the strict reader, character
by character.  All that has to be looked into is what `Utf8.front` makes of the bytes of one
character (`front_encodeChar`); there is a lemma for each of the four lengths, stated with the
code point of the character.
-/

namespace HttpDispatch.Utf8

variable {v : Nat} {rest : List UInt8}

/-! ### Bytes -/

/-- The value of a byte that is given by a small number. -/
theorem toNat_ofNat_of_lt {n : Nat} (h : n < 256) : (UInt8.ofNat n).toNat = n := by
  rw [UInt8.toNat_ofNat']
  exact Nat.mod_eq_of_lt h

/-- The byte that adds six bits, continuing a character. -/
theorem isTail_ofNat (n : Nat) : isTail (.ofNat (n % 64 + 128)) = true := by
  have hbyte := toNat_ofNat_of_lt (n := n % 64 + 128) (by omega)
  simp only [isTail, UInt8.le_iff_toNat_le, hbyte, Bool.and_eq_true, decide_eq_true_eq,
    UInt8.reduceToNat]
  omega

/-- The bits that it adds. -/
theorem tailBits_ofNat (n : Nat) : tailBits (.ofNat (n % 64 + 128)) = n % 64 := by
  rw [tailBits, toNat_ofNat_of_lt (by omega)]
  omega

/-- A byte is known by its number. -/
theorem ofNat_eq_iff {n : Nat} (h : n < 256) (b : UInt8) : UInt8.ofNat n = b ↔ n = b.toNat := by
  rw [← UInt8.toNat_inj, toNat_ofNat_of_lt h]

/-- What may come second in a character of three bytes: no other form is shorter, and it is no
surrogate. -/
theorem mem_secondOfThree (low : 0x800 ≤ v) (high : v < 0x10000)
    (valid : v < 0xD800 ∨ 0xDFFF < v) :
    (secondOfThree (.ofNat (v / 4096 + 0xE0))).1 ≤ .ofNat (v / 64 % 64 + 128) ∧
      .ofNat (v / 64 % 64 + 128) ≤ (secondOfThree (.ofNat (v / 4096 + 0xE0))).2 := by
  have hfirst : v / 4096 + 0xE0 < 256 := by omega
  have hsecond := toNat_ofNat_of_lt (n := v / 64 % 64 + 128) (by omega)
  simp only [secondOfThree, ofNat_eq_iff hfirst, UInt8.reduceToNat]
  split
  · simp only [UInt8.le_iff_toNat_le, hsecond, UInt8.reduceToNat]
    omega
  · split <;>
    · simp only [UInt8.le_iff_toNat_le, hsecond, UInt8.reduceToNat]
      omega

/-- What may come second in a character of four bytes: no other form is shorter, and it is not
beyond the last code point. -/
theorem mem_secondOfFour (low : 0x10000 ≤ v) (high : v < 0x110000) :
    (secondOfFour (.ofNat (v / 262144 + 0xF0))).1 ≤ .ofNat (v / 4096 % 64 + 128) ∧
      .ofNat (v / 4096 % 64 + 128) ≤ (secondOfFour (.ofNat (v / 262144 + 0xF0))).2 := by
  have hfirst : v / 262144 + 0xF0 < 256 := by omega
  have hsecond := toNat_ofNat_of_lt (n := v / 4096 % 64 + 128) (by omega)
  simp only [secondOfFour, ofNat_eq_iff hfirst, UInt8.reduceToNat]
  split
  · simp only [UInt8.le_iff_toNat_le, hsecond, UInt8.reduceToNat]
    omega
  · split <;>
    · simp only [UInt8.le_iff_toNat_le, hsecond, UInt8.reduceToNat]
      omega

/-! ### Characters -/

/-- A character of one byte. -/
theorem front_one (h : v < 0x80) : front (.ofNat v) rest = .char (.ofNat v) 0 := by
  have hbyte := toNat_ofNat_of_lt (n := v) (by omega)
  simp only [front.eq_def, UInt8.lt_iff_toNat_lt, hbyte, UInt8.reduceToNat]
  rw [if_pos h]

/-- A character of two bytes. -/
theorem front_two (low : 0x80 ≤ v) (high : v < 0x800) :
    front (.ofNat (v / 64 + 0xC0)) (.ofNat (v % 64 + 128) :: rest) = .char (.ofNat v) 1 := by
  have hbyte := toNat_ofNat_of_lt (n := v / 64 + 0xC0) (by omega)
  have hbits : (v / 64 + 0xC0) % 32 * 64 + v % 64 = v := by omega
  simp only [front, UInt8.lt_iff_toNat_lt, UInt8.le_iff_toNat_le, hbyte, UInt8.reduceToNat,
    isTail_ofNat, tailBits_ofNat, hbits]
  rw [if_neg (by omega), if_pos (by omega), if_pos trivial]

/-- A character of three bytes. -/
theorem front_three (low : 0x800 ≤ v) (high : v < 0x10000) (valid : v < 0xD800 ∨ 0xDFFF < v) :
    front (.ofNat (v / 4096 + 0xE0))
      (.ofNat (v / 64 % 64 + 128) :: .ofNat (v % 64 + 128) :: rest) = .char (.ofNat v) 2 := by
  have hbyte := toNat_ofNat_of_lt (n := v / 4096 + 0xE0) (by omega)
  have hbits : ((v / 4096 + 0xE0) % 16 * 64 + v / 64 % 64) * 64 + v % 64 = v := by omega
  simp only [front, isTail_ofNat, tailBits_ofNat, if_pos (mem_secondOfThree low high valid)]
  simp only [UInt8.lt_iff_toNat_lt, UInt8.le_iff_toNat_le, hbyte, UInt8.reduceToNat, hbits]
  rw [if_neg (by omega), if_neg (by omega), if_pos (by omega), if_pos trivial]

/-- A character of four bytes. -/
theorem front_four (low : 0x10000 ≤ v) (high : v < 0x110000) :
    front (.ofNat (v / 262144 + 0xF0))
      (.ofNat (v / 4096 % 64 + 128) :: .ofNat (v / 64 % 64 + 128) :: .ofNat (v % 64 + 128)
        :: rest) = .char (.ofNat v) 3 := by
  have hbyte := toNat_ofNat_of_lt (n := v / 262144 + 0xF0) (by omega)
  have hbits : (((v / 262144 + 0xF0) % 8 * 64 + v / 4096 % 64) * 64 + v / 64 % 64) * 64
      + v % 64 = v := by omega
  simp only [front, isTail_ofNat, tailBits_ofNat, if_pos (mem_secondOfFour low high)]
  simp only [UInt8.lt_iff_toNat_lt, UInt8.le_iff_toNat_le, hbyte, UInt8.reduceToNat, hbits]
  rw [if_neg (by omega), if_neg (by omega), if_neg (by omega), if_pos (by omega),
    if_pos trivial, if_pos trivial]

/-- **The bytes of a character start with that character.** -/
theorem front_encodeChar (c : Char) (rest : List UInt8) :
    ∃ b more, String.utf8EncodeChar c = b :: more ∧
      front b (more ++ rest) = .char c more.length := by
  have valid : c.toNat < 0xD800 ∨ 0xDFFF < c.toNat ∧ c.toNat < 0x110000 := c.valid
  have hc : Char.ofNat c.toNat = c := Char.ofNat_toNat c
  simp only [String.utf8EncodeChar, Char.toNat_val]
  -- from here on the character is its code point, and the cases are the four lengths
  generalize c.toNat = v at *
  subst hc
  by_cases h₁ : v ≤ 0x7F
  · rw [if_pos h₁]
    exact ⟨_, _, rfl, front_one (by omega)⟩
  rw [if_neg h₁]
  by_cases h₂ : v ≤ 0x7FF
  · rw [if_pos h₂, Nat.mod_eq_of_lt (by omega : v / 64 < 32)]
    exact ⟨_, _, rfl, front_two (by omega) (by omega)⟩
  rw [if_neg h₂]
  by_cases h₃ : v ≤ 0xFFFF
  · rw [if_pos h₃, Nat.mod_eq_of_lt (by omega : v / 4096 < 16)]
    exact ⟨_, _, rfl, front_three (by omega) (by omega) (by omega)⟩
  rw [if_neg h₃, Nat.mod_eq_of_lt (by omega : v / 262144 < 8)]
  exact ⟨_, _, rfl, front_four (by omega) (by omega)⟩

/-! ### Texts -/

/-- Reading on after the bytes of a text. -/
theorem decodeFrom_encode (cs : List Char) (offset : Nat) :
    decodeFrom offset (encode cs) = .ok cs := by
  induction cs generalizing offset with
  | nil => rw [encode_nil, decodeFrom]
  | cons c cs ih =>
      obtain ⟨b, more, hbytes, hfront⟩ := front_encodeChar c (encode cs)
      have hencode : encode (c :: cs) = b :: (more ++ encode cs) := by
        rw [encode, List.flatMap_cons, hbytes]
        rfl
      rw [hencode, decodeFrom, hfront]
      simp only [List.drop_left', ih]
      rfl

/-- **What is encoded is read back.** -/
theorem decode_encode (cs : List Char) : decode (encode cs) = .ok cs :=
  decodeFrom_encode cs 0

end HttpDispatch.Utf8
