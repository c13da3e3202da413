/-!
# Letter case of ASCII text

Media types, extensions and header names are compared without regard to the case
of the letters `A` to `Z`.  All other characters, letters of other scripts
included, are compared as they are.
-/

namespace HttpDispatch.Text

/-- ASCII letters in lower case. -/
def lowerChars (cs : List Char) : List Char := cs.map Char.toLower

/-- **ASCII letters of a text in lower case.** -/
def lower (s : String) : String := String.ofList (lowerChars s.toList)

/-! ### Laws -/

theorem toLower_toLower (c : Char) : c.toLower.toLower = c.toLower := by
  unfold Char.toLower
  split
  · rename_i h
    rw [dif_neg]
    rintro ⟨_, hle⟩
    have low := UInt32.le_iff_toNat_le.1 h.1
    have high := UInt32.le_iff_toNat_le.1 h.2
    have shifted := UInt32.le_iff_toNat_le.1 hle
    rw [UInt32.toNat_add] at shifted
    -- the letters A and Z, and their distance from the small ones
    have a : 'A'.val.toNat = 65 := rfl
    have z : 'Z'.val.toNat = 90 := rfl
    have distance : ('a'.val - 'A'.val).toNat = 32 := rfl
    omega
  · rfl

@[simp] theorem lowerChars_nil : lowerChars [] = [] := rfl

@[simp] theorem length_lowerChars (cs : List Char) : (lowerChars cs).length = cs.length := by
  simp [lowerChars]

@[simp] theorem lowerChars_lowerChars (cs : List Char) :
    lowerChars (lowerChars cs) = lowerChars cs := by
  simp only [lowerChars, List.map_map]
  exact List.map_congr_left fun c _ => toLower_toLower c

/-- Text in lower case stays as it is. -/
@[simp] theorem lower_lower (s : String) : lower (lower s) = lower s := by
  simp [lower]

end HttpDispatch.Text
