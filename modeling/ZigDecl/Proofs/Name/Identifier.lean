import ZigDecl.Proofs.Name.Kinds
import ZigDecl.Zig.Identifier

/-! # Styled names are identifiers

Legal characters are ASCII, and on ASCII text the case maps are those of single characters, so a
styled word has legal characters only. Main statement: whatever the words and their styles are,
words joined by underscores or by nothing make a text of the form of an identifier. -/

namespace ZigDecl.Name

open ZigDecl.Text ZigDecl.Zig

/-! ## Facts about all ASCII characters -/

/-- A property of characters that the first 128 code points have is one of all ASCII characters. -/
theorem forall_ascii {P : Char → Prop} (h : ∀ n < 128, P (Char.ofNat n)) (c : Char)
    (hc : c.toNat < 128) : P c := Char.ofNat_toNat c ▸ h c.toNat hc

theorem toNat_lt_of_isNameChar {c : Char} (h : isNameChar c = true) : c.toNat < 128 := by
  simp only [isNameChar, Bool.or_eq_true, beq_iff_eq] at h
  rcases h with h | rfl
  · have hkind := isWordChar_cases h
    rw [isUpperAscii_iff, isLowerAscii_iff, isDigitAscii_iff] at hkind
    omega
  · decide

/-- The tables have nothing on ASCII characters that the case maps do not know. -/
theorem case_ascii {c : Char} (h : c.toNat < 128) :
    lowerChar c = [c.toLower] ∧ upperChar c = [c.toUpper] :=
  forall_ascii (P := fun c => lowerChar c = [c.toLower] ∧ upperChar c = [c.toUpper])
    (by decide +kernel) c h

theorem isNameChar_toLower {c : Char} (h : isNameChar c = true) : isNameChar c.toLower = true := by
  simp only [isNameChar, Bool.or_eq_true, beq_iff_eq] at h ⊢
  rcases h with h | rfl
  · exact Or.inl (isWordChar_case h).1.1
  · exact Or.inr (toLower_of_not_isUpperAscii (by decide))

theorem isNameChar_toUpper {c : Char} (h : isNameChar c = true) : isNameChar c.toUpper = true := by
  simp only [isNameChar, Bool.or_eq_true, beq_iff_eq] at h ⊢
  rcases h with h | rfl
  · exact Or.inl (isWordChar_case h).2.1
  · exact Or.inr (toUpper_of_not_isLowerAscii (by decide))

/-! ## Styled words -/

/-- A text of legal characters only. -/
def IsLegal (cs : List Char) : Prop := ∀ c ∈ cs, isNameChar c = true

theorem isLegal_append {cs ds : List Char} : IsLegal (cs ++ ds) ↔ IsLegal cs ∧ IsLegal ds := by
  simp only [IsLegal, List.mem_append, or_imp, forall_and]

theorem isLegal_legalize (cs : List Char) : IsLegal (legalize cs) := by
  intro c hc
  obtain ⟨d, _, rfl⟩ := List.mem_map.mp hc
  by_cases hd : isNameChar d = true
  · rwa [if_pos hd]
  · rw [if_neg hd]; rfl

/-- A text of legal characters is not changed by legalizing it. -/
theorem legalize_of_isLegal {cs : List Char} (h : IsLegal cs) : legalize cs = cs :=
  (List.map_congr_left fun c hc => if_pos (h c hc)).trans (List.map_id' cs)

/-- The context rule of the final sigma has nothing to do on ASCII text. -/
theorem lowerAfter_ascii {cs : List Char} (h : ∀ c ∈ cs, c.toNat < 128) (before : List Char) :
    lowerAfter before cs = cs.map Char.toLower := by
  induction cs generalizing before with
  | nil => rfl
  | cons c cs ih =>
    have hc : c.toNat < 128 := h c (by simp)
    have hs : (c == 'Σ') = false := by
      rw [beq_eq_false_iff_ne]
      rintro rfl
      revert hc
      decide
    simp only [lowerAfter, hs, (case_ascii hc).1, ih fun d hd => h d (by simp [hd])]
    rfl

theorem lowerChars_of_isLegal {cs : List Char} (h : IsLegal cs) :
    lowerChars cs = cs.map Char.toLower :=
  lowerAfter_ascii (fun c hc => toNat_lt_of_isNameChar (h c hc)) []

/-- A legal character that names may start with is a letter or an underscore. -/
theorem isLetter_or_of_isStartChar {c : Char} (h : isNameChar c = true)
    (hs : isStartChar c = true) : (isLetter c || c == '_') = true := by
  have hlower : lowerChars [c] = [c.toLower] := lowerChars_of_isLegal (by simpa [IsLegal] using h)
  simp only [isNameChar, isWordChar, Bool.or_eq_true] at h
  rw [Bool.or_eq_true]
  rcases h with (hletter | hdigit) | hmark
  · exact Or.inl hletter
  · -- a digit is its own small letter, which a name may not start with
    obtain ⟨hu, hl, _⟩ := isDigitAscii_facts hdigit
    rw [isStartChar, hlower, toLower_of_not_isUpperAscii hu, Bool.or_eq_true] at hs
    rcases hs with hmark | hrange
    · exact Or.inr hmark
    · have hsmall : isLowerAscii c = true := hrange
      rw [hl] at hsmall
      cases hsmall
  · exact Or.inr hmark

theorem upperChars_of_isLegal {cs : List Char} (h : IsLegal cs) :
    upperChars cs = cs.map Char.toUpper := by
  induction cs with
  | nil => rfl
  | cons c cs ih =>
    have hc := (case_ascii (toNat_lt_of_isNameChar (h c (by simp)))).2
    have ht := ih fun d hd => h d (by simp [hd])
    simp only [upperChars, List.flatMap_cons, hc] at ht ⊢
    rw [ht]
    rfl

theorem isLegal_lowerChars {cs : List Char} (h : IsLegal cs) : IsLegal (lowerChars cs) := by
  rw [lowerChars_of_isLegal h]
  intro d hd
  obtain ⟨c, hc, rfl⟩ := List.mem_map.mp hd
  exact isNameChar_toLower (h c hc)

theorem isLegal_upperChars {cs : List Char} (h : IsLegal cs) : IsLegal (upperChars cs) := by
  rw [upperChars_of_isLegal h]
  intro d hd
  obtain ⟨c, hc, rfl⟩ := List.mem_map.mp hd
  exact isNameChar_toUpper (h c hc)

theorem isLegal_apply (style : WordStyle) {cs : List Char} (h : IsLegal cs) :
    IsLegal (style.apply cs) := by
  cases style with
  | lower => exact isLegal_lowerChars h
  | upper => exact isLegal_upperChars h
  | firstUpper =>
    cases cs with
    | nil => exact h
    | cons c cs =>
      have hc := (case_ascii (toNat_lt_of_isNameChar (h c (by simp)))).2
      have ht : IsLegal cs := fun d hd => h d (by simp [hd])
      simp only [WordStyle.apply, hc]
      intro d hd
      rcases List.mem_append.mp hd with hd | hd
      · rw [List.mem_singleton.mp hd]
        exact isNameChar_toUpper (h c (by simp))
      · exact isLegal_lowerChars ht d hd

theorem isLegal_of_mem_styledWord {style : WordStyle} {text w : List Char}
    (h : w ∈ styledWord style text) : IsLegal w := by
  unfold styledWord at h
  split at h
  · cases h
  · rw [List.mem_singleton.mp h]
    exact isLegal_apply style (isLegal_legalize text)

theorem isLegal_of_mem_styledWords {first rest : WordStyle} {words : List (List Char)}
    {w : List Char} (h : w ∈ styledWords first rest words) : IsLegal w := by
  cases words with
  | nil => cases h
  | cons text texts =>
    rcases List.mem_append.mp h with h | h
    · exact isLegal_of_mem_styledWord h
    · obtain ⟨t, _, ht⟩ := List.mem_flatMap.mp h
      exact isLegal_of_mem_styledWord ht

/-! ## Joined words -/

theorem isLegal_intercalate {sep : List Char} (hs : IsLegal sep) :
    ∀ {ws : List (List Char)}, (∀ w ∈ ws, IsLegal w) → IsLegal (sep.intercalate ws)
  | [], _ => by simp [IsLegal, List.intercalate]
  | [w], h => by simpa [List.intercalate] using h w (by simp)
  | w :: v :: ws, h => by
    have ht : IsLegal (sep.intercalate (v :: ws)) :=
      isLegal_intercalate hs fun u hu => h u (List.mem_cons_of_mem _ hu)
    rw [List.intercalate_cons_cons]
    exact isLegal_append.mpr ⟨isLegal_append.mpr ⟨h w (by simp), hs⟩, ht⟩

/-- Words joined by legal characters make a text of the form of an identifier. -/
theorem hasIdentifierForm_combineWords (first rest : WordStyle) {separator : String}
    (hs : IsLegal separator.toList) (words : List (List Char)) :
    hasIdentifierForm (combineWords first rest separator words) = true := by
  have hl : IsLegal (separator.toList.intercalate (styledWords first rest words)) :=
    isLegal_intercalate hs fun w hw => isLegal_of_mem_styledWords hw
  unfold combineWords
  split
  · decide
  · next c cs he =>
    rw [he] at hl
    have hc : isNameChar c = true := hl c (by simp)
    have ht : cs.all isNameChar = true :=
      List.all_eq_true.mpr fun d hd => hl d (by simp [hd])
    split
    · decide
    · split
      · next hstart => simp [hasIdentifierForm, isLetter_or_of_isStartChar hc hstart, ht]
      · simp [hasIdentifierForm, hc, ht]

theorem isLegal_separator (case : NamingCase) : IsLegal case.parts.2.2.toList := by
  cases case <;> simp [NamingCase.parts, IsLegal, isNameChar]

/-- A name in any style has the form of an identifier. -/
theorem hasIdentifierForm_style (case : NamingCase) (name : String) :
    hasIdentifierForm (case.style name).toList = true := by
  simp only [NamingCase.style, String.toList_ofList]
  exact hasIdentifierForm_combineWords _ _ (isLegal_separator case) _

end ZigDecl.Name
