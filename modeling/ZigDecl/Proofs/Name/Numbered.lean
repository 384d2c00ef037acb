import Mathlib.Data.List.Nodup
import ZigDecl.Name.Namespace
import ZigDecl.Proofs.Name.Styled

/-! # Numbered names

A numbered name is the words of its base followed by the digits of its number. Main statement: it
has the letters and digits of the base and then those of the number, so different numbers give
different names, none of them is the base, and of more such names than there are taken ones some are
free. -/

namespace ZigDecl.Name

open ZigDecl.Text

/-- A base with a number behind it has one word more. -/
theorem wordTexts_numbered (base : String) (n : Nat) :
    wordTexts (base ++ " " ++ toString n).toList =
      wordTexts base.toList ++ [Nat.toDigits 10 n] := by
  have htext : (base ++ " " ++ toString n).toList = base.toList ++ ' ' :: Nat.toDigits 10 n := by
    simp
  rw [htext, wordTexts_stop (by decide),
    wordTexts_of_isRun (Or.inr (Or.inr rfl)) (isDigits_toDigits n)]

theorem spelling_of_isDigits {ds : List Char} (h : IsDigits ds) : spelling ds = ds := by
  have hfilter : ds.filter isWordChar = ds :=
    List.filter_eq_self.mpr fun d hd => isWordChar_of_isDigitAscii (h.2 d hd)
  rw [spelling, hfilter, map_toLower_of_isDigits h.2]

theorem spelling_withNumber (base : String) (n : Nat) :
    spelling (base ++ " " ++ toString n).toList = spelling base.toList ++ Nat.toDigits 10 n := by
  rw [← spelling_flatten_wordTexts, wordTexts_numbered, List.flatten_append, spelling_append,
    spelling_flatten_wordTexts, List.flatten_singleton, spelling_of_isDigits (isDigits_toDigits n)]

theorem hasWordChar_withNumber (base : String) (n : Nat) :
    HasWordChar (base ++ " " ++ toString n) := by
  rw [hasWordChar_iff, spelling_withNumber]
  exact List.append_ne_nil_of_right_ne_nil _ Nat.toDigits_ne_nil

theorem spelling_numbered (case : NamingCase) (base : String) (n : Nat) :
    spelling (numbered case base n).toList = spelling base.toList ++ Nat.toDigits 10 n := by
  rw [numbered, spelling_style case (hasWordChar_withNumber base n), spelling_withNumber]

/-- A number is put behind the base, which is styled for that once more. -/
theorem numbered_eq (case : NamingCase) {base : String} (h : HasWordChar base) (n : Nat) :
    numbered case base n = case.style base ++ case.parts.2.2 ++ toString n := by
  have hstyled : styledWords case.parts.1 case.parts.2.1 (wordTexts base.toList) ≠ [] := by
    intro hnil
    refine joined_ne_nil case h ?_
    rw [NamingCase.joined, hnil, List.intercalate_nil]
  have hjoined : case.joined (base ++ " " ++ toString n) =
      case.joined base ++ (case.parts.2.2.toList ++ Nat.toDigits 10 n) := by
    rw [NamingCase.joined, wordTexts_numbered,
      styledWords_concat _ _ (wordTexts_ne_nil h) (isDigits_toDigits n),
      intercalate_concat _ hstyled, List.append_assoc, NamingCase.joined]
  rw [← String.toList_inj, numbered, toList_style case (hasWordChar_withNumber base n), hjoined,
    marked_append (joined_ne_nil case h), ← toList_style case h]
  simp

theorem numbered_inj (case : NamingCase) (base : String) {i j : Nat}
    (h : numbered case base i = numbered case base j) : i = j := by
  have hspelling : spelling base.toList ++ Nat.toDigits 10 i =
      spelling base.toList ++ Nat.toDigits 10 j := by
    rw [← spelling_numbered case base i, ← spelling_numbered case base j, h]
  have hvalue := congrArg (Nat.ofDigitChars 10 · 0) (List.append_cancel_left hspelling)
  simpa only [Nat.ofDigitChars_ten_toDigits] using hvalue

/-- A numbered name is never its base, for it is spelled with more digits. -/
theorem numbered_ne (case : NamingCase) (base : String) (n : Nat) :
    numbered case base n ≠ base := by
  intro h
  have hspelling := spelling_numbered case base n
  rw [h, List.self_eq_append_right] at hspelling
  exact Nat.toDigits_ne_nil hspelling

/-! ## Free names -/

/-- Of more candidates than there are taken names, all of them different, one is free. -/
theorem exists_not_mem {f : Nat → String} (hf : ∀ {i j}, f i = f j → i = j) (taken : List String)
    (start : Nat) : ∃ i < taken.length + 1, f (start + i) ∉ taken := by
  by_contra hall
  have hsub : (List.range (taken.length + 1)).map (fun i => f (start + i)) ⊆ taken := by
    intro name hname
    obtain ⟨i, hi, rfl⟩ := List.mem_map.mp hname
    by_contra hfree
    exact hall ⟨i, List.mem_range.mp hi, hfree⟩
  have hnodup : ((List.range (taken.length + 1)).map fun i => f (start + i)).Nodup := by
    refine List.Nodup.map_on (fun i _ j _ h => ?_) List.nodup_range
    have := hf h
    omega
  have hle := hnodup.length_le_of_subset hsub
  rw [List.length_map, List.length_range] at hle
  omega

end ZigDecl.Name
