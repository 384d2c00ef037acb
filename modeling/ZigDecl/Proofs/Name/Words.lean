import Mathlib.Data.List.TakeWhile
import ZigDecl.Proofs.Name.Identifier

/-! # The words of a text

A character of no word ends the word in front of it. Main statements: a text with such a character
inside has the words of both sides, and a run of capitals, of small letters or of digits is one
word. -/

namespace ZigDecl.Name

open ZigDecl.Text

/-! ## Words in front of a separator -/

section Stop

variable {p : Char → Bool} {s : Char}

theorem takeWhile_stop (h : p s = false) (cs ds : List Char) :
    (cs ++ s :: ds).takeWhile p = cs.takeWhile p := by
  induction cs with
  | nil => simp [h]
  | cons c cs ih => simp only [List.cons_append, List.takeWhile_cons, ih]

theorem dropWhile_stop (h : p s = false) (cs ds : List Char) :
    (cs ++ s :: ds).dropWhile p = cs.dropWhile p ++ s :: ds := by
  induction cs with
  | nil => simp [h]
  | cons c cs ih =>
    simp only [List.cons_append, List.dropWhile_cons, ih]
    split <;> rfl

end Stop

theorem takeCapitalized_stop {s : Char} (h : isWordChar s = false) (c : Char) (cs ds : List Char) :
    takeCapitalized c (cs ++ s :: ds) =
      ((takeCapitalized c cs).1, (takeCapitalized c cs).2 ++ s :: ds) := by
  obtain ⟨hu, hl, _⟩ := isWordChar_eq_false h
  have hhead : (((cs.dropWhile isUpperAscii ++ s :: ds).head?.map isLowerAscii).getD false) =
      ((cs.dropWhile isUpperAscii).head?.map isLowerAscii).getD false := by
    cases cs.dropWhile isUpperAscii with
    | nil => simp [hl]
    | cons d rest => rfl
  simp only [takeCapitalized, takeWhile_stop hu, dropWhile_stop hu, hhead, takeWhile_stop hl,
    dropWhile_stop hl]
  split
  · split <;> rfl
  · rfl

theorem takeWord_stop {s : Char} (h : isWordChar s = false) (c : Char) (cs ds : List Char) :
    takeWord c (cs ++ s :: ds) = ((takeWord c cs).1, (takeWord c cs).2 ++ s :: ds) := by
  obtain ⟨_, hl, hd⟩ := isWordChar_eq_false h
  simp only [takeWord, takeCapitalized_stop h, takeWhile_stop hl, dropWhile_stop hl,
    takeWhile_stop hd, dropWhile_stop hd]
  split
  · rfl
  · split <;> rfl

theorem wordTexts_nil : wordTexts [] = [] := by rw [wordTexts]

theorem wordTexts_of_isWordChar {c : Char} (h : isWordChar c = true) (cs : List Char) :
    wordTexts (c :: cs) = (takeWord c cs).1 :: wordTexts (takeWord c cs).2 := by
  rw [wordTexts, if_pos h]

theorem wordTexts_of_not_isWordChar {c : Char} (h : isWordChar c = false) (cs : List Char) :
    wordTexts (c :: cs) = wordTexts cs := by
  rw [wordTexts, if_neg (by simp [h])]

/-- A separator ends a word and is part of none. -/
theorem wordTexts_stop {s : Char} (h : isWordChar s = false) (cs ds : List Char) :
    wordTexts (cs ++ s :: ds) = wordTexts cs ++ wordTexts ds := by
  induction hn : cs.length using Nat.strongRecOn generalizing cs with
  | ind n ih =>
    cases cs with
    | nil => rw [wordTexts_nil, List.nil_append, wordTexts_of_not_isWordChar h, List.nil_append]
    | cons c cs =>
      cases hc : isWordChar c with
      | true =>
        have hlt := length_takeWord_lt c cs
        rw [List.cons_append, wordTexts_of_isWordChar hc, wordTexts_of_isWordChar hc,
          takeWord_stop h, List.cons_append, ih _ (by omega) _ rfl]
      | false =>
        rw [List.cons_append, wordTexts_of_not_isWordChar hc, wordTexts_of_not_isWordChar hc]
        exact ih cs.length (by rw [← hn, List.length_cons]; omega) cs rfl

/-! ## Runs -/

section TakeWord

variable {c : Char} {cs : List Char}

theorem takeWord_of_isUpperAscii (h : isUpperAscii c = true) :
    takeWord c cs = takeCapitalized c cs := by
  rw [takeWord, if_pos h]

theorem takeWord_of_isLowerAscii (h : isLowerAscii c = true) :
    takeWord c cs = (c :: cs.takeWhile isLowerAscii, cs.dropWhile isLowerAscii) := by
  rw [takeWord, if_neg (by simp [(isLowerAscii_facts h).1]), if_pos h]

theorem takeWord_of_isDigitAscii (h : isDigitAscii c = true) :
    takeWord c cs = (c :: cs.takeWhile isDigitAscii, cs.dropWhile isDigitAscii) := by
  obtain ⟨hu, hl, _⟩ := isDigitAscii_facts h
  rw [takeWord, if_neg (by simp [hu]), if_neg (by simp [hl])]

end TakeWord

/-- Characters of one kind, at least one of them. -/
def IsRun (p : Char → Bool) (cs : List Char) : Prop := cs ≠ [] ∧ ∀ c ∈ cs, p c = true

theorem IsRun.mono {p q : Char → Bool} {cs : List Char} (h : IsRun p cs)
    (hpq : ∀ c, p c = true → q c = true) : IsRun q cs := ⟨h.1, fun c hc => hpq c (h.2 c hc)⟩

theorem IsRun.map {p q : Char → Bool} {f : Char → Char} {cs : List Char} (h : IsRun p cs)
    (hpq : ∀ c, p c = true → q (f c) = true) : IsRun q (cs.map f) := by
  refine ⟨by simpa using h.1, fun d hd => ?_⟩
  obtain ⟨c, hc, rfl⟩ := List.mem_map.mp hd
  exact hpq c (h.2 c hc)

theorem isRun_cons {p : Char → Bool} {c : Char} {cs : List Char} :
    IsRun p (c :: cs) ↔ p c = true ∧ ∀ d ∈ cs, p d = true := by
  simp [IsRun]

/-- Capitals, small letters or digits alone are one word. -/
theorem wordTexts_of_isRun {p : Char → Bool}
    (hp : p = isUpperAscii ∨ p = isLowerAscii ∨ p = isDigitAscii) {cs : List Char}
    (h : IsRun p cs) : wordTexts cs = [cs] := by
  obtain _ | ⟨c, cs⟩ := cs
  · exact absurd rfl h.1
  · obtain ⟨hc, hcs⟩ := isRun_cons.mp h
    have htake : cs.takeWhile p = cs := List.takeWhile_eq_self_iff.mpr hcs
    have hdrop : cs.dropWhile p = [] := List.dropWhile_eq_nil_iff.mpr hcs
    have hword : isWordChar c = true ∧ takeWord c cs = (c :: cs, []) := by
      rcases hp with rfl | rfl | rfl
      · refine ⟨(isUpperAscii_facts hc).2.2, ?_⟩
        simp [takeWord_of_isUpperAscii hc, takeCapitalized, htake, hdrop]
      · exact ⟨(isLowerAscii_facts hc).2.2, by rw [takeWord_of_isLowerAscii hc, htake, hdrop]⟩
      · exact ⟨isWordChar_of_isDigitAscii hc, by rw [takeWord_of_isDigitAscii hc, htake, hdrop]⟩
    rw [wordTexts_of_isWordChar hword.1, hword.2, wordTexts_nil]

/-- A text of decimal digits. -/
def IsDigits (ds : List Char) : Prop := IsRun isDigitAscii ds

theorem isDigits_toDigits (n : Nat) : IsDigits (Nat.toDigits 10 n) := by
  refine ⟨Nat.toDigits_ne_nil, fun d hd => ?_⟩
  have h := Nat.isDigit_of_mem_toDigits (by decide) (by decide) hd
  simpa [isDigitAscii, Char.isDigit, Char.le_def] using h

end ZigDecl.Name
