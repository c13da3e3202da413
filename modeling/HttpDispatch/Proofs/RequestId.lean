import HttpDispatch.RequestId
import Mathlib.Data.List.Induction
import Mathlib.Tactic.Ring

/-!
# The text of a request identifier

A caller may name its request in a header, and the identifier is read from the text it sends.
`RequestId.parse_eq_ok_iff` says which texts are read and what they stand for, and
`RequestId.exists_text_eq` what is printed for a text that was read.

Together they say what a caller gets back.  Printing and reading again changes nothing
(`RequestId.parse_text`).  Reading and printing changes the case of letters, and the first digit
of a text that has two bits too many: `RequestId.wrapped` is what comes of the text, and
`RequestId.wrapped_eq_iff` says that only texts whose first digit is below eight are kept.

### What is load-bearing

A number that is reduced modulo `2 ^ 128` keeps its lower 25 digits, for these hold 125 bits, and
of the first digit the lower three bits (`RequestId.ofCode_ofDigits_cons`).  All that a text can
lose is therefore lost in its first character.
-/

namespace HttpDispatch.RequestId

/-! ### One digit -/

/-- **A digit is a character of the alphabet**, in either case. -/
theorem digitValue?_eq_some_iff {c : Char} {v : Nat} :
    digitValue? c = some v ↔ v < 32 ∧ c.toUpper = digit v := by
  have hvalue : ∀ v : Fin 32, alphabet.idxOf? (digit v) = some v.val := by decide
  constructor
  · intro h
    obtain ⟨hlt, hget, -⟩ := List.idxOf?_eq_some_iff.1 h
    refine ⟨hlt, ?_⟩
    rw [digit, List.getD_eq_getElem?_getD, List.getElem?_eq_getElem hlt, Option.getD_some, hget]
  · rintro ⟨hlt, hupper⟩
    rw [digitValue?, hupper]
    exact hvalue ⟨v, hlt⟩

/-- Different values have different digits. -/
theorem digit_inj {v w : Nat} (hv : v < 32) (hw : w < 32) : digit v = digit w ↔ v = w := by
  have hinj : ∀ v w : Fin 32, digit v = digit w → v = w := by decide
  exact ⟨fun h => Fin.mk.inj (hinj ⟨v, hv⟩ ⟨w, hw⟩ h), congrArg digit⟩

/-- Digits are printed in upper case. -/
theorem toUpper_digit {v : Nat} (hv : v < 32) : (digit v).toUpper = digit v := by
  have hupper : ∀ v : Fin 32, (digit v).toUpper = digit v := by decide
  exact hupper ⟨v, hv⟩

/-- No digit is blank. -/
theorem isBlank_digit {v : Nat} (hv : v < 32) : Text.isBlank (digit v) = false := by
  have hblank : ∀ v : Fin 32, Text.isBlank (digit v) = false := by decide
  exact hblank ⟨v, hv⟩

/-- A digit takes one byte. -/
theorem utf8Size_of_digit {c : Char} {v : Nat} (hv : v < 32) (h : c.toUpper = digit v) :
    c.utf8Size = 1 := by
  have hsize : ∀ v : Fin 32, (digit v).utf8Size = 1 := by decide
  unfold Char.toUpper at h
  split at h
  · -- a small letter, which is changed to a capital one
    rename_i hletter
    exact Char.utf8Size_eq_one_iff.2 (UInt32.le_trans hletter.2 (by decide))
  · rw [h]
    exact hsize ⟨v, hv⟩

/-! ### Some digits -/

/-- The number of bytes of a text of digits is that of its characters. -/
theorem byteLength_eq {cs : List Char} (h : ∀ c ∈ cs, c.utf8Size = 1) :
    byteLength cs = cs.length := by
  induction cs using List.reverseRecOn with
  | nil => rfl
  | append_singleton cs c ih =>
      have hinit := ih fun x hx => h x (List.mem_append_left _ hx)
      have hlast := h c (by simp)
      rw [byteLength] at hinit
      rw [byteLength, List.foldl_append, hinit, List.foldl_cons, List.foldl_nil, hlast,
        List.length_append, List.length_singleton]

/-- **A text is read as some values** if it has the digits with these values, in either case. -/
theorem mapM_digitValue?_eq_some_iff {cs : List Char} {values : List Nat} :
    cs.mapM digitValue? = some values ↔
      (∀ v ∈ values, v < 32) ∧ cs.map Char.toUpper = values.map digit := by
  induction cs generalizing values with
  | nil => cases values <;> simp
  | cons c cs ih =>
      cases values with
      | nil => simp [List.mapM_cons, Option.bind_eq_some_iff]
      | cons v values =>
          simp only [List.mapM_cons, Option.bind_eq_bind, Option.bind_eq_some_iff,
            Option.pure_def, Option.some.injEq, List.cons.injEq, digitValue?_eq_some_iff, ih,
            List.forall_mem_cons, List.map_cons]
          constructor
          · rintro ⟨_, ⟨hv, hc⟩, _, ⟨hvs, hcs⟩, rfl, rfl⟩
            exact ⟨⟨hv, hvs⟩, hc, hcs⟩
          · rintro ⟨⟨hv, hvs⟩, hc, hcs⟩
            exact ⟨v, ⟨hv, hc⟩, values, ⟨hvs, hcs⟩, rfl, rfl⟩

/-- One more digit in front counts thirty-two times as much as the next. -/
theorem ofDigits_cons (v : Nat) (values : List Nat) :
    ofDigits (v :: values) = 32 ^ values.length * v + ofDigits values := by
  induction values using List.reverseRecOn with
  | nil => simp [ofDigits]
  | append_singleton values w ih =>
      rw [← List.cons_append, ofDigits_concat, ofDigits_concat, ih, List.length_append,
        List.length_singleton, Nat.pow_succ]
      ring

/-- So many digits stand for so small a number. -/
theorem ofDigits_lt {values : List Nat} (h : ∀ v ∈ values, v < 32) :
    ofDigits values < 32 ^ values.length := by
  induction values with
  | nil => decide
  | cons v values ih =>
      obtain ⟨hv, hvs⟩ := List.forall_mem_cons.1 h
      have hrest := ih hvs
      rw [ofDigits_cons, List.length_cons, Nat.pow_succ]
      calc 32 ^ values.length * v + ofDigits values
          < 32 ^ values.length * v + 32 ^ values.length := by omega
        _ = 32 ^ values.length * (v + 1) := by rw [Nat.mul_add, Nat.mul_one]
        _ ≤ 32 ^ values.length * 32 := Nat.mul_le_mul_left _ hv

/-- **Writing what was read** gives the digits. -/
theorem digits_ofDigits {values : List Nat} (h : ∀ v ∈ values, v < 32) :
    digits values.length (ofDigits values) = values.map digit := by
  induction values using List.reverseRecOn with
  | nil => rfl
  | append_singleton values v ih =>
      obtain ⟨hvs, hv⟩ := List.forall_mem_append.1 h
      have hlast : v < 32 := hv v (List.mem_singleton_self v)
      have hdiv : (32 * ofDigits values + v) / 32 = ofDigits values := by omega
      have hmod : (32 * ofDigits values + v) % 32 = v := by omega
      rw [List.length_append, List.length_singleton, digits, ofDigits_concat, hdiv, hmod, ih hvs,
        List.map_append, List.map_singleton]

/-- **Reading what was written** gives the number, up to what so many digits can hold. -/
theorem exists_digits_eq (count code : Nat) :
    ∃ values : List Nat, values.length = count ∧ (∀ v ∈ values, v < 32) ∧
      digits count code = values.map digit ∧ ofDigits values = code % 32 ^ count := by
  induction count generalizing code with
  | zero => exact ⟨[], rfl, by simp, rfl, by simp [ofDigits, Nat.mod_one]⟩
  | succ count ih =>
      obtain ⟨values, hlength, hvs, hdigits, hcode⟩ := ih (code / 32)
      refine ⟨values ++ [code % 32], by simp [hlength], ?_, by simp [digits, hdigits], ?_⟩
      · exact List.forall_mem_append.2
          ⟨hvs, List.forall_mem_singleton.2 (Nat.mod_lt _ (by decide))⟩
      · rw [ofDigits_concat, hcode, Nat.pow_succ', Nat.mod_mul, Nat.add_comm]

/-! ### Whole texts -/

@[simp] theorem code_ofCode (code : Nat) : (ofCode code).code = code % Nat.pow 2 128 := rfl

/-- An identifier has no more bits than are kept. -/
@[simp] theorem ofCode_code (id : RequestId) : ofCode id.code = id := by
  rw [ofCode]
  congr 1
  exact Nat.mod_eq_of_lt id.bound

/-- A text of digits, in either case, has a byte for each. -/
theorem byteLength_of_digits {cs : List Char} {values : List Nat} (h : ∀ v ∈ values, v < 32)
    (hcs : cs.map Char.toUpper = values.map digit) : byteLength cs = values.length := by
  have hsize : ∀ c ∈ cs, c.utf8Size = 1 := by
    intro c hc
    have hupper : c.toUpper ∈ values.map digit := hcs ▸ List.mem_map_of_mem hc
    obtain ⟨v, hv, hdigit⟩ := List.mem_map.1 hupper
    exact utf8Size_of_digit (h v hv) hdigit.symm
  rw [byteLength_eq hsize]
  simpa using congrArg List.length hcs

/-- **What a text is read as**: the number of its 26 digits, in either case. -/
theorem parse_eq_ok_iff {s : String} {id : RequestId} :
    parse s = .ok id ↔
      ∃ values : List Nat, values.length = textLength ∧ (∀ v ∈ values, v < 32) ∧
        s.toUpper.toList = values.map digit ∧ ofCode (ofDigits values) = id := by
  have hupper : s.toUpper.toList = s.toList.map Char.toUpper := String.toList_map
  rw [hupper, parse, parseChars]
  constructor
  · intro h
    split at h
    · cases h
    · rename_i hlength
      split at h
      · cases h
      · rename_i values hvalues
        obtain ⟨hvs, hcs⟩ := mapM_digitValue?_eq_some_iff.1 hvalues
        rw [byteLength_of_digits hvs hcs, not_not] at hlength
        exact ⟨values, hlength, hvs, hcs, Except.ok.inj h⟩
  · rintro ⟨values, hlength, hvs, hcs, rfl⟩
    rw [if_neg (not_not.2 ((byteLength_of_digits hvs hcs).trans hlength)),
      mapM_digitValue?_eq_some_iff.2 ⟨hvs, hcs⟩]

/-- **Of the first digit three bits are left**, and the others are kept. -/
theorem ofCode_ofDigits_cons {v : Nat} {values : List Nat} (hlength : values.length = 25)
    (h : ∀ w ∈ values, w < 32) :
    (ofCode (ofDigits (v :: values))).code = ofDigits (v % 8 :: values) := by
  have hlt := ofDigits_lt h
  have hbits : Nat.pow 2 128 = 32 ^ 25 * 8 := by decide
  rw [hlength] at hlt
  rw [code_ofCode, hbits, Nat.mod_mul, ofDigits_cons, ofDigits_cons, hlength,
    Nat.mul_add_mod, Nat.mod_eq_of_lt hlt, Nat.mul_add_div (Nat.pow_pos (by decide)),
    Nat.div_eq_of_lt hlt, Nat.add_zero, Nat.add_comm]

/-- **Reading and printing**: the digits are printed as they were read, the first of them modulo
eight. -/
theorem exists_text_eq {s : String} {id : RequestId} (h : parse s = .ok id) :
    ∃ v rest, v < 32 ∧ s.toUpper.toList = digit v :: rest ∧
      id.text.toList = digit (v % 8) :: rest := by
  obtain ⟨values, hlength, hvs, hs, rfl⟩ := parse_eq_ok_iff.1 h
  cases values with
  | nil => cases hlength
  | cons v values =>
      obtain ⟨hv, hvs⟩ := List.forall_mem_cons.1 hvs
      have hrest : values.length = 25 := Nat.succ.inj hlength
      have hwrapped : ∀ w ∈ v % 8 :: values, w < 32 :=
        List.forall_mem_cons.2 ⟨by omega, hvs⟩
      refine ⟨v, values.map digit, hv, hs, ?_⟩
      rw [text, String.toList_ofList, ofCode_ofDigits_cons hrest hvs, ← hlength]
      exact digits_ofDigits hwrapped

/-- **Printing and reading again** gives the same identifier. -/
theorem parse_text (id : RequestId) : parse id.text = .ok id := by
  obtain ⟨values, hlength, hvs, hdigits, hcode⟩ := exists_digits_eq textLength id.code
  refine parse_eq_ok_iff.2 ⟨values, hlength, hvs, ?_, ?_⟩
  · have hupper : (values.map digit).map Char.toUpper = values.map digit := by
      rw [List.map_map]
      exact List.map_congr_left fun v hv => toUpper_digit (hvs v hv)
    rw [text, hdigits, String.toUpper, String.toList_map, String.toList_ofList, hupper]
  · have hfits : id.code < 32 ^ textLength := lt_trans id.bound (by decide)
    rw [hcode, Nat.mod_eq_of_lt hfits, ofCode_code]

/-- Different identifiers have different texts. -/
theorem text_inj {id id' : RequestId} : id.text = id'.text ↔ id = id' := by
  refine ⟨fun h => ?_, congrArg text⟩
  have hparse := parse_text id
  rw [h, parse_text] at hparse
  exact (Except.ok.inj hparse).symm

/-- **What is printed for a text that was read**: capital letters, and for the first digit its
remainder modulo eight. -/
def wrapped (s : String) : String :=
  match s.toUpper.toList with
  | [] => ""
  | c :: cs => String.ofList (digit ((digitValue? c).getD 0 % 8) :: cs)

/-- **The number of a text fits** into an identifier: the first digit is below eight. -/
def Fits (s : String) : Prop := ∃ v, v < 8 ∧ s.toUpper.toList.head? = some (digit v)

/-- What is read from a text is printed as the text, wrapped. -/
theorem text_eq_wrapped {s : String} {id : RequestId} (h : parse s = .ok id) :
    id.text = wrapped s := by
  obtain ⟨v, rest, hv, hs, htext⟩ := exists_text_eq h
  have hvalue : digitValue? (digit v) = some v :=
    digitValue?_eq_some_iff.2 ⟨hv, toUpper_digit hv⟩
  rw [wrapped, hs]
  dsimp only
  rw [hvalue, Option.getD_some, ← htext, String.ofList_toList]

/-- **A text is kept if its number fits**, and no other is. -/
theorem wrapped_eq_iff {s : String} {id : RequestId} (h : parse s = .ok id) :
    wrapped s = s.toUpper ↔ Fits s := by
  obtain ⟨v, rest, hv, hs, htext⟩ := exists_text_eq h
  rw [← text_eq_wrapped h, ← String.toList_inj, htext, hs, List.cons.injEq, and_iff_left rfl,
    digit_inj (by omega) hv, Fits, hs, List.head?_cons]
  constructor
  · intro hkept
    exact ⟨v, by omega, rfl⟩
  · rintro ⟨w, hw, hhead⟩
    have hvw := (digit_inj hv (by omega)).1 (Option.some.inj hhead)
    omega

/-! ### The header -/

/-- What is read from a header is read from its text between the blanks. -/
theorem ofHeader?_eq_some_iff {header : String} {id : RequestId} :
    ofHeader? (some header) = some id ↔ parse (Text.trimmed header) = .ok id := by
  cases hparse : parse (Text.trimmed header) <;> simp [ofHeader?, hparse, Except.toOption]

/-- An identifier that is passed on is reused. -/
theorem ofHeader?_text (id : RequestId) : ofHeader? (some id.text) = some id := by
  obtain ⟨values, -, hvs, hdigits, -⟩ := exists_digits_eq textLength id.code
  have hblank : ∀ c ∈ id.text.toList, Text.isBlank c = false := by
    intro c hc
    rw [text, String.toList_ofList, hdigits] at hc
    obtain ⟨v, hv, rfl⟩ := List.mem_map.1 hc
    exact isBlank_digit (hvs v hv)
  rw [ofHeader?_eq_some_iff, Text.trimmed, Text.trim_of_not_blank hblank, String.ofList_toList]
  exact parse_text id

/-- **A caller gets back what it has sent if the number of its text fits.**  An identifier is read
back from its text.  What a header is reused for is printed as the text of the header, wrapped,
which is the text in capital letters if and only if its number fits; and headers are taken for
one identifier if and only if they are the same when wrapped, so that of two that fit and differ
neither is taken for the other. -/
theorem kept_iff_fits (header header' : String) :
    (∀ id : RequestId, parse id.text = .ok id ∧ ofHeader? (some id.text) = some id) ∧
      (∀ id, ofHeader? (some header) = some id →
        id.text = wrapped (Text.trimmed header) ∧
          (id.text = (Text.trimmed header).toUpper ↔ Fits (Text.trimmed header))) ∧
      ∀ id id', ofHeader? (some header) = some id → ofHeader? (some header') = some id' →
        (id = id' ↔ wrapped (Text.trimmed header) = wrapped (Text.trimmed header')) ∧
          (Fits (Text.trimmed header) → Fits (Text.trimmed header') →
            (id = id' ↔ (Text.trimmed header).toUpper = (Text.trimmed header').toUpper)) := by
  refine ⟨fun id => ⟨parse_text id, ofHeader?_text id⟩, fun id reused => ?_,
    fun id id' reused reused' => ⟨?_, fun fits fits' => ?_⟩⟩
  · have hparse := ofHeader?_eq_some_iff.1 reused
    rw [text_eq_wrapped hparse]
    exact ⟨rfl, wrapped_eq_iff hparse⟩
  · rw [← text_eq_wrapped (ofHeader?_eq_some_iff.1 reused),
      ← text_eq_wrapped (ofHeader?_eq_some_iff.1 reused'), text_inj]
  · have hparse := ofHeader?_eq_some_iff.1 reused
    have hparse' := ofHeader?_eq_some_iff.1 reused'
    rw [← (wrapped_eq_iff hparse).2 fits, ← (wrapped_eq_iff hparse').2 fits',
      ← text_eq_wrapped hparse, ← text_eq_wrapped hparse', text_inj]

/-- A text whose first digit is eight is taken for the one that starts with zero; one in small
letters that fits is kept. -/
theorem kept_iff_fits_eight :
    let eight := "80000000000000000000000001"
    let zero := "00000000000000000000000001"
    let small := " 01arz3ndektsv4rrffq69g5fav "
    let one : RequestId := ⟨1, by decide⟩
    ofHeader? (some eight) = some one ∧ ofHeader? (some zero) = some one ∧
      wrapped (Text.trimmed eight) = wrapped (Text.trimmed zero) ∧
      ¬ Fits (Text.trimmed eight) ∧
      (Text.trimmed eight).toUpper ≠ (Text.trimmed zero).toUpper ∧
      ∃ id, ofHeader? (some small) = some id ∧ id.text = "01ARZ3NDEKTSV4RRFFQ69G5FAV" := by
  intro eight zero small one
  obtain ⟨-, hkept, hsame⟩ := kept_iff_fits eight zero
  obtain ⟨-, hkeptSmall, -⟩ := kept_iff_fits small small
  have height : ofHeader? (some eight) = some one := by decide +kernel
  have hzero : ofHeader? (some zero) = some one := by decide +kernel
  have hchanged : one.text ≠ (Text.trimmed eight).toUpper := by decide +kernel
  have hsmall : (ofHeader? (some small)).isSome = true := by decide +kernel
  obtain ⟨id, hid⟩ := Option.isSome_iff_exists.1 hsmall
  have hfits : Fits (Text.trimmed small) := ⟨0, by decide, by decide +kernel⟩
  have hupper : (Text.trimmed small).toUpper = "01ARZ3NDEKTSV4RRFFQ69G5FAV" := by decide +kernel
  exact ⟨height, hzero, (hsame one one height hzero).1.1 rfl,
    fun fits => hchanged ((hkept one height).2.2 fits), by decide +kernel,
    id, hid, ((hkeptSmall id hid).2.2 hfits).trans hupper⟩

end HttpDispatch.RequestId
