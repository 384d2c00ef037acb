import ZigDecl.Proofs.Name.Styled

/-! # Words of any characters

Words need not come from a name: they may be empty, or hold any characters. Main statement: styled
and joined they make an identifier that is not made of underscores alone, and one with all their
letters and digits if they have any. -/

namespace ZigDecl.Name

open ZigDecl.Text ZigDecl.Zig

/-! ## The texts of identifiers -/

/-- An ASCII letter or an underscore. -/
def StartsIdentifier (c : Char) : Prop := ('A' ≤ c ∧ c ≤ 'Z') ∨ ('a' ≤ c ∧ c ≤ 'z') ∨ c = '_'

/-- A letter or an underscore, and then letters, digits and underscores, all of them ASCII. -/
inductive IdentifierText : List Char → Prop
  | intro {c : Char} {cs : List Char} (first : StartsIdentifier c)
      (rest : ∀ d ∈ cs, StartsIdentifier d ∨ ('0' ≤ d ∧ d ≤ '9')) : IdentifierText (c :: cs)

theorem startsIdentifier_iff {c : Char} :
    StartsIdentifier c ↔ (isLetter c || c == '_') = true := by
  simp only [StartsIdentifier, isLetter, isUpperAscii, isLowerAscii, Bool.or_eq_true,
    Bool.and_eq_true, decide_eq_true_eq, beq_iff_eq]
  tauto

theorem isNameChar_iff {c : Char} :
    isNameChar c = true ↔ StartsIdentifier c ∨ ('0' ≤ c ∧ c ≤ '9') := by
  rw [startsIdentifier_iff]
  simp only [isNameChar, isWordChar, isDigitAscii, Bool.or_eq_true, Bool.and_eq_true,
    decide_eq_true_eq]
  tauto

/-- The texts of identifiers are those that are taken for identifiers. -/
theorem identifierText_iff {cs : List Char} : IdentifierText cs ↔ hasIdentifierForm cs = true := by
  cases cs with
  | nil => exact ⟨nofun, nofun⟩
  | cons c cs =>
    rw [hasIdentifierForm, Bool.and_eq_true, List.all_eq_true, ← startsIdentifier_iff]
    constructor
    · rintro ⟨hc, hcs⟩
      exact ⟨hc, fun d hd => isNameChar_iff.mpr (hcs d hd)⟩
    · rintro ⟨hc, hcs⟩
      exact ⟨hc, fun d hd => isNameChar_iff.mp (hcs d hd)⟩

/-! ## Words without letters and digits -/

theorem IsLegal.eq_mark {cs : List Char} (h : IsLegal cs) (hnone : spelling cs = []) :
    ∀ c ∈ cs, c = '_' := by
  intro c hc
  have hname := h c hc
  rw [isNameChar, spelling_eq_nil_iff.mp hnone c hc, Bool.false_or] at hname
  exact beq_iff_eq.mp hname

section Combined

variable (first rest : WordStyle) {separator : String} (hs : IsLegal separator.toList)
  (words : List (List Char))
include hs

theorem isLegal_joinedWords :
    IsLegal (separator.toList.intercalate (styledWords first rest words)) :=
  isLegal_intercalate hs fun _ hw => isLegal_of_mem_styledWords hw

/-- Words without letters and digits become the placeholder. -/
theorem combineWords_of_spelling_eq_nil (hsep : spelling separator.toList = [])
    (hnone : spelling words.flatten = []) :
    combineWords first rest separator words = placeholder := by
  have hjoined : spelling (separator.toList.intercalate (styledWords first rest words)) = [] := by
    rw [spelling_intercalate hsep, spelling_styledWords, hnone]
  have hmarks := (isLegal_joinedWords first rest hs words).eq_mark hjoined
  unfold combineWords
  split
  · rfl
  · next c cs hj =>
    have hall : (c :: cs).all (· == '_') = true :=
      List.all_eq_true.mpr fun d hd => beq_iff_eq.mpr (hmarks d (hj ▸ hd))
    rw [if_pos hall]

omit hs in
/-- Words with letters and digits make a text with these letters and digits. -/
theorem spelling_combineWords (hsep : spelling separator.toList = [])
    (hsome : spelling words.flatten ≠ []) :
    spelling (combineWords first rest separator words) = spelling words.flatten := by
  have hjoined : spelling (separator.toList.intercalate (styledWords first rest words)) =
      spelling words.flatten := by
    rw [spelling_intercalate hsep, spelling_styledWords]
  rw [combineWords_eq_marked (hjoined ▸ hsome), spelling_marked, hjoined]

end Combined

theorem exists_ne_mark_of_spelling_ne_nil {cs : List Char} (h : spelling cs ≠ []) :
    ∃ c ∈ cs, c ≠ '_' := by
  rw [Ne, spelling_eq_nil_iff] at h
  push Not at h
  obtain ⟨c, hc, hword⟩ := h
  refine ⟨c, hc, ?_⟩
  rintro rfl
  exact hword rfl

/-- Words of any characters, in any styles, joined by an underscore or by nothing, make the text of
an identifier in which something else stands than underscores. It has the letters and digits of the
words in their order; if they have none, it is the placeholder. -/
theorem identifierText_combineWords (first rest : WordStyle) {separator : String}
    (hs : separator = "_" ∨ separator = "") (words : List (List Char)) :
    IdentifierText (combineWords first rest separator words) ∧
      (∃ c ∈ combineWords first rest separator words, c ≠ '_') ∧
      (spelling words.flatten ≠ [] →
        spelling (combineWords first rest separator words) = spelling words.flatten) ∧
      (spelling words.flatten = [] →
        combineWords first rest separator words = placeholder) := by
  have hlegal : IsLegal separator.toList := by
    rcases hs with rfl | rfl <;> simp [IsLegal, isNameChar]
  have hsep : spelling separator.toList = [] := by rcases hs with rfl | rfl <;> rfl
  have hsome := spelling_combineWords first rest words hsep
  have hnone := combineWords_of_spelling_eq_nil first rest hlegal words hsep
  refine ⟨identifierText_iff.mpr (hasIdentifierForm_combineWords first rest hlegal words), ?_,
    hsome, hnone⟩
  by_cases h : spelling words.flatten = []
  · rw [hnone h]
    exact ⟨'u', by decide, by decide⟩
  · exact exists_ne_mark_of_spelling_ne_nil ((hsome h).symm ▸ h)

/-- An empty word, punctuation in front of a letter whose small form is ASCII, a digit in front of a
letter whose capital form is two, and letters of both cases. -/
def mixedWords : List (List Char) := [[], "-\u212a".toList, "9ß".toList, "fL".toList]

theorem identifierText_combineWords_mixed :
    (("" : String) = "_" ∨ ("" : String) = "") ∧
      combineWords .lower .firstUpper "" mixedWords = "__9_Fl".toList ∧
      IdentifierText (combineWords .lower .firstUpper "" mixedWords) ∧
      (∃ c ∈ combineWords .lower .firstUpper "" mixedWords, c ≠ '_') ∧
      spelling (combineWords .lower .firstUpper "" mixedWords) = "9fl".toList :=
  have h := identifierText_combineWords .lower .firstUpper (.inr rfl) mixedWords
  ⟨.inr rfl, by decide, h.1, h.2.1, h.2.2.1 (by decide)⟩

end ZigDecl.Name
