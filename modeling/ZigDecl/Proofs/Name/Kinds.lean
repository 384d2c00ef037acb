import ZigDecl.Name.Style

/-! # Kinds of characters

A letter or digit is a capital, a small letter or a decimal digit, and never two of these. Main
statement: the case maps lead from letters and digits to the same ones in another case. -/

namespace ZigDecl.Name

open ZigDecl.Text

variable {c : Char}

/-- A character that belongs to no word is of no kind. -/
theorem isWordChar_eq_false (h : isWordChar c = false) :
    isUpperAscii c = false ∧ isLowerAscii c = false ∧ isDigitAscii c = false := by
  simp only [isWordChar, isLetter, Bool.or_eq_false_iff] at h
  exact ⟨h.1.2, h.1.1, h.2⟩

theorem isWordChar_of_isLetter (h : isLetter c = true) : isWordChar c = true := by
  simp [isWordChar, h]

theorem isWordChar_of_isDigitAscii (h : isDigitAscii c = true) : isWordChar c = true := by
  simp [isWordChar, h]

theorem isUpperAscii_iff : isUpperAscii c = true ↔ 65 ≤ c.toNat ∧ c.toNat ≤ 90 := by
  simp [isUpperAscii, Char.le_def, UInt32.le_iff_toNat_le]

theorem isLowerAscii_iff : isLowerAscii c = true ↔ 97 ≤ c.toNat ∧ c.toNat ≤ 122 := by
  simp [isLowerAscii, Char.le_def, UInt32.le_iff_toNat_le]

theorem isDigitAscii_iff : isDigitAscii c = true ↔ 48 ≤ c.toNat ∧ c.toNat ≤ 57 := by
  simp [isDigitAscii, Char.le_def, UInt32.le_iff_toNat_le]

/-- No character is of two kinds. -/
theorem kinds_apart (c : Char) :
    ¬ (isUpperAscii c = true ∧ isLowerAscii c = true) ∧
      ¬ (isUpperAscii c = true ∧ isDigitAscii c = true) ∧
      ¬ (isLowerAscii c = true ∧ isDigitAscii c = true) := by
  rw [isUpperAscii_iff, isLowerAscii_iff, isDigitAscii_iff]
  omega

theorem isUpperAscii_facts (h : isUpperAscii c = true) :
    isLowerAscii c = false ∧ isDigitAscii c = false ∧ isWordChar c = true := by
  have hapart := kinds_apart c
  simp only [h, true_and, Bool.not_eq_true] at hapart
  exact ⟨hapart.1, hapart.2.1, isWordChar_of_isLetter (by simp [isLetter, h])⟩

theorem isLowerAscii_facts (h : isLowerAscii c = true) :
    isUpperAscii c = false ∧ isDigitAscii c = false ∧ isWordChar c = true := by
  have hapart := kinds_apart c
  simp only [h, and_true, true_and, Bool.not_eq_true] at hapart
  exact ⟨hapart.1, hapart.2.2, isWordChar_of_isLetter (by simp [isLetter, h])⟩

theorem isDigitAscii_facts (h : isDigitAscii c = true) :
    isUpperAscii c = false ∧ isLowerAscii c = false ∧ isWordChar c = true := by
  have hapart := kinds_apart c
  simp only [h, and_true, Bool.not_eq_true] at hapart
  exact ⟨hapart.2.1, hapart.2.2, isWordChar_of_isDigitAscii h⟩

/-- A letter or digit is a capital, a small letter or a digit. -/
theorem isWordChar_cases (h : isWordChar c = true) :
    isUpperAscii c = true ∨ isLowerAscii c = true ∨ isDigitAscii c = true := by
  simp only [isWordChar, isLetter, Bool.or_eq_true] at h
  rcases h with (h | h) | h
  · exact Or.inr (Or.inl h)
  · exact Or.inl h
  · exact Or.inr (Or.inr h)

/-! ## The case maps -/

theorem toLower_of_not_isUpperAscii (h : isUpperAscii c = false) : c.toLower = c := by
  rw [← Bool.not_eq_true, isUpperAscii_iff] at h
  delta Char.toLower
  rw [dif_neg]
  simpa [UInt32.le_iff_toNat_le] using h

theorem toUpper_of_not_isLowerAscii (h : isLowerAscii c = false) : c.toUpper = c := by
  rw [← Bool.not_eq_true, isLowerAscii_iff] at h
  delta Char.toUpper
  rw [dif_neg]
  simpa [UInt32.le_iff_toNat_le] using h

theorem toNat_toLower (h : isUpperAscii c = true) : c.toLower.toNat = c.toNat + 32 := by
  have hc := isUpperAscii_iff.mp h
  have hrange : 'A'.val ≤ c.val ∧ c.val ≤ 'Z'.val := by
    simpa [UInt32.le_iff_toNat_le] using hc
  delta Char.toLower
  rw [dif_pos hrange, ← Char.toNat_val, UInt32.toNat_add, Char.toNat_val]
  exact Nat.mod_eq_of_lt (by simp; omega)

theorem toNat_toUpper (h : isLowerAscii c = true) : c.toUpper.toNat + 32 = c.toNat := by
  have hc := isLowerAscii_iff.mp h
  have hrange : 'a'.val ≤ c.val ∧ c.val ≤ 'z'.val := by
    simpa [UInt32.le_iff_toNat_le] using hc
  delta Char.toUpper
  rw [dif_pos hrange, ← Char.toNat_val, UInt32.toNat_add, Char.toNat_val]
  simp
  omega

theorem isLowerAscii_toLower (h : isUpperAscii c = true) : isLowerAscii c.toLower = true := by
  have hc := isUpperAscii_iff.mp h
  rw [isLowerAscii_iff, toNat_toLower h]
  omega

theorem isUpperAscii_toUpper (h : isLowerAscii c = true) : isUpperAscii c.toUpper = true := by
  have hc := isLowerAscii_iff.mp h
  have hsum := toNat_toUpper h
  rw [isUpperAscii_iff]
  omega

theorem toLower_of_isLowerAscii (h : isLowerAscii c = true) : c.toLower = c :=
  toLower_of_not_isUpperAscii (isLowerAscii_facts h).1

theorem toUpper_of_isUpperAscii (h : isUpperAscii c = true) : c.toUpper = c :=
  toUpper_of_not_isLowerAscii (isUpperAscii_facts h).1

theorem toLower_toLower (c : Char) : c.toLower.toLower = c.toLower := by
  cases h : isUpperAscii c with
  | false => rw [toLower_of_not_isUpperAscii h, toLower_of_not_isUpperAscii h]
  | true => exact toLower_of_isLowerAscii (isLowerAscii_toLower h)

theorem toLower_toUpper (c : Char) : c.toUpper.toLower = c.toLower := by
  cases h : isLowerAscii c with
  | false => rw [toUpper_of_not_isLowerAscii h]
  | true =>
    rw [toLower_of_isLowerAscii h, ← Char.toNat_inj, toNat_toLower (isUpperAscii_toUpper h),
      toNat_toUpper h]

theorem isLetter_case (h : isLetter c = true) :
    isLowerAscii c.toLower = true ∧ isUpperAscii c.toUpper = true := by
  simp only [isLetter, Bool.or_eq_true] at h
  rcases h with h | h
  · rw [toLower_of_isLowerAscii h]
    exact ⟨h, isUpperAscii_toUpper h⟩
  · rw [toUpper_of_isUpperAscii h]
    exact ⟨isLowerAscii_toLower h, h⟩

/-- The case maps lead from letters and digits to the same ones in another case. -/
theorem isWordChar_case (h : isWordChar c = true) :
    (isWordChar c.toLower = true ∧ c.toLower.toLower = c.toLower) ∧
      isWordChar c.toUpper = true ∧ c.toUpper.toLower = c.toLower := by
  refine ⟨⟨?_, toLower_toLower c⟩, ?_, toLower_toUpper c⟩
  · cases hu : isUpperAscii c with
    | false => rwa [toLower_of_not_isUpperAscii hu]
    | true => exact (isLowerAscii_facts (isLowerAscii_toLower hu)).2.2
  · cases hl : isLowerAscii c with
    | false => rwa [toUpper_of_not_isLowerAscii hl]
    | true => exact (isUpperAscii_facts (isUpperAscii_toUpper hl)).2.2

end ZigDecl.Name
