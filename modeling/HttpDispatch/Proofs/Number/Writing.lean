import HttpDispatch.Json.Printer

/-!
# The text of a number

However a number is laid out, its text is not empty (`Number.write_ne_nil`), and it is made of
digits, signs, points and the letter `e` only (`Number.figures_write`).
-/

namespace HttpDispatch

/-- Whether a character occurs in the text of numbers. -/
def isFigure (c : Char) : Bool := c.isDigit || ['-', '+', '.', 'e'].contains c

/-- A text is made of figures. -/
def Figures (cs : List Char) : Prop := ∀ c ∈ cs, isFigure c = true

instance : DecidablePred Figures := fun _ => decidable_of_iff _ List.all_eq_true

namespace Figures

variable {cs cs' : List Char}

theorem append (h : Figures cs) (h' : Figures cs') : Figures (cs ++ cs') :=
  List.forall_mem_append.2 ⟨h, h'⟩

theorem cons {c : Char} (hc : isFigure c = true) (h : Figures cs) : Figures (c :: cs) :=
  List.forall_mem_cons.2 ⟨hc, h⟩

theorem toDigits (n : Nat) : Figures (Nat.toDigits 10 n) := fun _ hc =>
  Bool.or_eq_true_iff.2 (.inl (Nat.isDigit_of_mem_toDigits (by decide) (by decide) hc))

theorem zeros (n : Nat) : Figures (List.replicate n '0') := fun _ hc =>
  List.eq_of_mem_replicate hc ▸ by decide

end Figures

/-! ### Layouts -/

namespace Layout

/-- Digits with a point are not nothing. -/
theorem positional_ne_nil (digits : List Char) (point : Int) : positional digits point ≠ [] := by
  unfold positional
  split
  · simp
  · split
    · simp
    · simp

/-- Digits with a point are figures. -/
theorem figures_positional {digits : List Char} (h : Figures digits) (point : Int) :
    Figures (positional digits point) := by
  unfold positional
  split
  · have hzero : Figures "0.".toList := by decide
    exact (hzero.append (.zeros _)).append h
  · split
    · exact (h.append (.zeros _)).append (by decide)
    · have htake : Figures (digits.take point.toNat) := fun c hc => h c (List.mem_of_mem_take hc)
      have hdrop : Figures (digits.drop point.toNat) := fun c hc => h c (List.mem_of_mem_drop hc)
      exact htake.append (.cons (by decide) hdrop)

/-- Digits with an exponent are not nothing. -/
theorem scientific_ne_nil (l : Layout) (digits : List Char) (power : Int) :
    l.scientific digits power ≠ [] := by
  simp [scientific]

/-- Digits with an exponent are figures. -/
theorem figures_scientific (l : Layout) {digits : List Char} (h : Figures digits) (power : Int) :
    Figures (l.scientific digits power) := by
  have hsign : Figures (if power < 0 then ['-'] else if l.plusSign then ['+'] else []) := by
    split
    · decide
    · split <;> decide
  have hpoint : isFigure '.' = true := by decide
  have he : isFigure 'e' = true := by decide
  simp only [scientific]
  refine .append (.append ?_ (.cons he hsign)) (.toDigits _)
  split
  · obtain ⟨hfirst, hrest⟩ := List.forall_mem_cons.1 h
    exact .cons hfirst (.cons hpoint hrest)
  · exact h

/-- A decimal is not written as nothing. -/
theorem write_ne_nil (l : Layout) (d : Decimal) : l.write d ≠ [] := by
  simp only [write]
  split
  · exact positional_ne_nil _ _
  · exact scientific_ne_nil _ _ _

/-- A decimal is written in figures. -/
theorem figures_write (l : Layout) (d : Decimal) : Figures (l.write d) := by
  simp only [write]
  split
  · exact figures_positional (.toDigits _) _
  · exact figures_scientific l (.toDigits _) _

end Layout

/-! ### Numbers -/

/-- A double is not written as nothing. -/
theorem Binary64.write_ne_nil (l : Layout) (x : Binary64) : x.write l ≠ [] := by
  simp only [write]
  split
  · exact List.cons_ne_nil _ _
  · split
    · decide
    · exact l.write_ne_nil _

/-- A double is written in figures. -/
theorem Binary64.figures_write (l : Layout) (x : Binary64) : Figures (x.write l) := by
  have hdigits : Figures (if x.magnitude.significand = 0 then "0.0".toList
      else l.write (shortest x.magnitude)) := by
    split
    · decide
    · exact l.figures_write _
  have hminus : isFigure '-' = true := by decide
  simp only [write]
  split
  · exact .cons hminus hdigits
  · exact hdigits

/-- **A number is written as something.** -/
theorem Number.write_ne_nil (n : Number) : n.write ≠ [] := by
  cases n with
  | integer n =>
      rw [write, Json.writeInt]
      split
      · exact List.cons_ne_nil _ _
      · exact Nat.toDigits_ne_nil
  | double x => exact x.write_ne_nil _

/-- **A number is written in figures.** -/
theorem Number.figures_write (n : Number) : Figures n.write := by
  cases n with
  | integer n =>
      rw [write, Json.writeInt]
      split
      · exact .cons (by decide) (Figures.toDigits _)
      · exact .toDigits _
  | double x => exact x.figures_write _

end HttpDispatch
