import Mathlib.Data.List.Basic
import ZigDecl.Proofs.Name.Words

/-! # Where words end

Words are read off the front of a text by runs of capitals, small letters and digits, with a look
at what follows a run of capitals. Main statement: this is the same as a rule on two neighbours and
the character behind them, and the words of a text are the only ones that hold its letters and
digits in order and end where that rule says. -/

namespace ZigDecl.Name

open ZigDecl.Text

/-! ## The rule -/

/-- Whether a word ends between the letters or digits `a` and `b`, with `next` behind them: a letter
meets a digit, a capital follows a small letter, or a capital with a small letter behind it follows
a capital. -/
def isBoundary (a b : Char) (next : Option Char) : Bool :=
  (isDigitAscii a && isLetter b) || (isLetter a && isDigitAscii b) ||
    (isLowerAscii a && isUpperAscii b) ||
    (isUpperAscii a && isUpperAscii b && next.any isLowerAscii)

/-- Whether the word of the letter or digit `c` ends with it, in front of a text. -/
def isWordEnd (c : Char) : List Char → Bool
  | [] => true
  | d :: ds => !isWordChar d || isBoundary c d ds.head?

/-! ## Words by runs are words by the rule -/

section TakeWord

variable {c d : Char} {cs ds : List Char}

theorem takeCapitalized_nil : takeCapitalized c [] = ([c], []) := by
  simp [takeCapitalized]

/-- A capital takes small letters with it, and nothing of another kind. -/
theorem takeCapitalized_cons_of_not_isUpperAscii (h : isUpperAscii d = false) :
    takeCapitalized c (d :: ds) =
      (c :: (d :: ds).takeWhile isLowerAscii, (d :: ds).dropWhile isLowerAscii) := by
  by_cases hl : isLowerAscii d = true
  · simp [takeCapitalized, h, hl]
  · simp [takeCapitalized, h, hl]

/-- The last of several capitals is left to the small letters behind it. -/
theorem takeCapitalized_cons_of_isUpperAscii (h : isUpperAscii d = true) :
    takeCapitalized c (d :: ds) =
      if ds.head?.any isLowerAscii then ([c], d :: ds)
      else (c :: (takeCapitalized d ds).1, (takeCapitalized d ds).2) := by
  by_cases hnext : ds.head?.any isLowerAscii = true
  · obtain _ | ⟨e, es⟩ := ds
    · cases hnext
    · have he : isLowerAscii e = true := hnext
      simp [takeCapitalized, h, he, (isLowerAscii_facts he).1]
  · rw [if_neg hnext]
    simp only [takeCapitalized, List.takeWhile_cons_of_pos h, List.dropWhile_cons_of_pos h]
    split
    · next hrest =>
      -- capitals come before these small letters, for the text does not start with them
      obtain ⟨k, ks, hcapitals⟩ : ∃ k ks, ds.takeWhile isUpperAscii = k :: ks := by
        cases hcapitals : ds.takeWhile isUpperAscii with
        | cons k ks => exact ⟨k, ks, rfl⟩
        | nil =>
          have hall := List.takeWhile_append_dropWhile (p := isUpperAscii) (l := ds)
          rw [hcapitals, List.nil_append] at hall
          rw [hall] at hrest
          cases ds with
          | nil => cases hrest
          | cons e es => exact absurd hrest hnext
      rw [hcapitals, List.getLast?_cons_cons]
      cases hlast : (k :: ks).getLast? with
      | none => simp at hlast
      | some last => rfl
    · rfl

theorem isWordEnd_of_isDigitAscii (h : isDigitAscii c = true) :
    isWordEnd c (d :: ds) = !isDigitAscii d := by
  obtain ⟨hu, hl, _⟩ := isDigitAscii_facts h
  cases hd : isWordChar d with
  | false => simp [isWordEnd, hd, isWordChar_eq_false hd]
  | true =>
    rcases isWordChar_cases hd with hd' | hd' | hd'
    · simp [isWordEnd, isBoundary, isLetter, h, hd, hd', isUpperAscii_facts hd']
    · simp [isWordEnd, isBoundary, isLetter, h, hd, hd', isLowerAscii_facts hd']
    · simp [isWordEnd, isBoundary, isLetter, hu, hl, hd, hd', isDigitAscii_facts hd']

theorem isWordEnd_of_isLowerAscii (h : isLowerAscii c = true) :
    isWordEnd c (d :: ds) = !isLowerAscii d := by
  obtain ⟨hu, hdigit, _⟩ := isLowerAscii_facts h
  cases hd : isWordChar d with
  | false => simp [isWordEnd, hd, isWordChar_eq_false hd]
  | true =>
    rcases isWordChar_cases hd with hd' | hd' | hd'
    · simp [isWordEnd, isBoundary, h, hd, hd', isUpperAscii_facts hd']
    · simp [isWordEnd, isBoundary, isLetter, hu, hdigit, hd, hd', isLowerAscii_facts hd']
    · simp [isWordEnd, isBoundary, isLetter, h, hd, hd', isDigitAscii_facts hd']

theorem isWordEnd_of_isUpperAscii (h : isUpperAscii c = true) :
    isWordEnd c (d :: ds) =
      if isUpperAscii d then ds.head?.any isLowerAscii else !isLowerAscii d := by
  obtain ⟨hl, hdigit, _⟩ := isUpperAscii_facts h
  cases hd : isWordChar d with
  | false => simp [isWordEnd, hd, isWordChar_eq_false hd]
  | true =>
    rcases isWordChar_cases hd with hd' | hd' | hd'
    · simp [isWordEnd, isBoundary, isLetter, h, hl, hdigit, hd, hd', isUpperAscii_facts hd']
    · simp [isWordEnd, isBoundary, isLetter, hl, hdigit, hd, hd', isLowerAscii_facts hd']
    · simp [isWordEnd, isBoundary, isLetter, h, hd, hd', isDigitAscii_facts hd']

/-- Inside a word letters follow letters, and digits follow digits. -/
theorem kind_of_not_isWordEnd (hc : isWordChar c = true) (h : isWordEnd c (d :: ds) = false) :
    isWordChar d = true ∧ isDigitAscii c = isDigitAscii d ∧ isLetter c = isLetter d := by
  rcases isWordChar_cases hc with hu | hl | hdigit
  · rw [isWordEnd_of_isUpperAscii hu] at h
    by_cases hd : isUpperAscii d = true
    · simp [isLetter, hu, hd, isUpperAscii_facts hu, isUpperAscii_facts hd]
    · rw [if_neg hd, Bool.not_eq_false'] at h
      simp [isLetter, hu, h, isUpperAscii_facts hu, isLowerAscii_facts h]
  · rw [isWordEnd_of_isLowerAscii hl, Bool.not_eq_false'] at h
    simp [isLetter, hl, h, isLowerAscii_facts hl, isLowerAscii_facts h]
  · rw [isWordEnd_of_isDigitAscii hdigit, Bool.not_eq_false'] at h
    simp [isWordChar, isLetter, hdigit, h, isDigitAscii_facts hdigit, isDigitAscii_facts h]

theorem takeWord_nil (h : isWordChar c = true) : takeWord c [] = ([c], []) := by
  rcases isWordChar_cases h with hu | hl | hd
  · rw [takeWord_of_isUpperAscii hu, takeCapitalized_nil]
  · rw [takeWord_of_isLowerAscii hl]
    rfl
  · rw [takeWord_of_isDigitAscii hd]
    rfl

/-- A word ends with its first character, or goes on as the word of the next one. -/
theorem takeWord_cons (h : isWordChar c = true) :
    takeWord c (d :: ds) = if isWordEnd c (d :: ds) then ([c], d :: ds)
      else (c :: (takeWord d ds).1, (takeWord d ds).2) := by
  rcases isWordChar_cases h with hu | hl | hd
  · rw [takeWord_of_isUpperAscii hu, isWordEnd_of_isUpperAscii hu]
    by_cases hdu : isUpperAscii d = true
    · rw [takeCapitalized_cons_of_isUpperAscii hdu, takeWord_of_isUpperAscii hdu, if_pos hdu]
    · rw [takeCapitalized_cons_of_not_isUpperAscii (by simpa using hdu), if_neg hdu]
      by_cases hdl : isLowerAscii d = true
      · simp [takeWord_of_isLowerAscii hdl, hdl]
      · simp [hdl]
  · rw [takeWord_of_isLowerAscii hl, isWordEnd_of_isLowerAscii hl]
    by_cases hdl : isLowerAscii d = true
    · simp [takeWord_of_isLowerAscii hdl, hdl]
    · simp [hdl]
  · rw [takeWord_of_isDigitAscii hd, isWordEnd_of_isDigitAscii hd]
    by_cases hdd : isDigitAscii d = true
    · simp [takeWord_of_isDigitAscii hdd, hdd]
    · simp [hdd]

end TakeWord

/-- The words of a text, character by character: one that belongs to no word is passed over, and
another one is a word of its own or is put in front of the word behind it. -/
inductive Cut : List Char → List (List Char) → Prop
  | nil : Cut [] []
  | gap {c : Char} {cs : List Char} {ws : List (List Char)} :
      isWordChar c = false → Cut cs ws → Cut (c :: cs) ws
  | last {c : Char} {cs : List Char} {ws : List (List Char)} :
      isWordChar c = true → isWordEnd c cs = true → Cut cs ws → Cut (c :: cs) ([c] :: ws)
  | inside {c : Char} {cs w : List Char} {ws : List (List Char)} :
      isWordChar c = true → isWordEnd c cs = false → Cut cs (w :: ws) →
      Cut (c :: cs) ((c :: w) :: ws)

theorem cut_wordTexts (cs : List Char) : Cut cs (wordTexts cs) := by
  induction cs with
  | nil =>
    rw [wordTexts_nil]
    exact .nil
  | cons c cs ih =>
    cases hc : isWordChar c with
    | false =>
      rw [wordTexts_of_not_isWordChar hc]
      exact .gap hc ih
    | true =>
      rw [wordTexts_of_isWordChar hc]
      cases cs with
      | nil =>
        rw [takeWord_nil hc]
        exact .last hc rfl ih
      | cons d ds =>
        rw [takeWord_cons hc]
        cases hend : isWordEnd c (d :: ds) with
        | true => exact .last hc hend ih
        | false =>
          have hd : isWordChar d = true := by
            by_contra hd
            simp [isWordEnd, hd] at hend
          rw [wordTexts_of_isWordChar hd] at ih
          exact .inside hc hend ih

namespace Cut

variable {cs : List Char} {ws : List (List Char)}

theorem flatten_eq (h : Cut cs ws) : ws.flatten = cs.filter isWordChar := by
  induction h with
  | nil => rfl
  | gap hc _ ih => rw [List.filter_cons_of_neg (by simp [hc]), ih]
  | last hc _ _ ih => rw [List.filter_cons_of_pos hc, List.flatten_cons, ih]; rfl
  | inside hc _ _ ih => rw [List.filter_cons_of_pos hc, ← ih]; rfl

theorem ne_nil (h : Cut cs ws) : ∀ w ∈ ws, w ≠ [] := by
  induction h with
  | nil => simp
  | gap _ _ ih => exact ih
  | last _ _ _ ih => simpa using ih
  | inside _ _ _ ih => simpa using fun w hw => ih w (List.mem_cons_of_mem _ hw)

/-- A word that starts with `c` is the first one of a text that does. -/
theorem head_eq {c d : Char} {w : List Char} (h : Cut (c :: cs) ((d :: w) :: ws))
    (hc : isWordChar c = true) : d = c := by
  cases h with
  | gap hc' _ =>
    rw [hc] at hc'
    cases hc'
  | last | inside => rfl

/-- A word is digits or letters, for it ends where they meet. -/
theorem isRun (h : Cut cs ws) : ∀ w ∈ ws, IsRun isDigitAscii w ∨ IsRun isLetter w := by
  induction h with
  | nil => simp
  | gap _ _ ih => exact ih
  | @last c _ _ hc _ _ ih =>
    rintro w (_ | ⟨_, hw⟩)
    · rw [isRun_cons, isRun_cons]
      simpa [isWordChar, or_comm] using hc
    · exact ih w hw
  | @inside c cs w ws hc hend hcut ih =>
    rintro v (_ | ⟨_, hv⟩)
    · obtain _ | ⟨d, w⟩ := w
      · exact absurd rfl (hcut.ne_nil [] (by simp))
      obtain _ | ⟨e, es⟩ := cs
      · cases hend
      obtain ⟨he, hdigit, hletter⟩ := kind_of_not_isWordEnd hc hend
      obtain rfl := hcut.head_eq he
      rcases ih (d :: w) (by simp) with hw | hw
      · exact Or.inl (isRun_cons.mpr ⟨hdigit.trans (hw.2 d (by simp)), hw.2⟩)
      · exact Or.inr (isRun_cons.mpr ⟨hletter.trans (hw.2 d (by simp)), hw.2⟩)
    · exact ih v (List.mem_cons_of_mem _ hv)

end Cut

/-! ## Where the words of a list end -/

/-- The words from the first up to one of them hold the given letters, so that a word ends there. -/
def EndsAt (words : List (List Char)) (letters : List Char) : Prop :=
  ∃ first rest, words = first ++ rest ∧ first.flatten = letters

theorem endsAt_nil (words : List (List Char)) : EndsAt words [] := ⟨[], words, rfl, rfl⟩

theorem endsAt_flatten (words : List (List Char)) : EndsAt words words.flatten :=
  ⟨words, [], by simp, rfl⟩

section EndsAt

variable {c : Char} {w letters : List Char} {ws : List (List Char)}

theorem EndsAt.prefix_flatten (h : EndsAt ws letters) : letters <+: ws.flatten := by
  obtain ⟨first, rest, rfl, rfl⟩ := h
  rw [List.flatten_append]
  exact List.prefix_append _ _

/-- Behind its first word, a list ends words where the other words do. -/
theorem endsAt_cons_append (hw : w ≠ []) : EndsAt (w :: ws) (w ++ letters) ↔ EndsAt ws letters := by
  constructor
  · rintro ⟨first, rest, hsplit, hletters⟩
    cases first with
    | nil => simp [hw] at hletters
    | cons v first =>
      obtain ⟨rfl, hrest⟩ := List.cons.inj hsplit
      exact ⟨first, rest, hrest, List.append_cancel_left hletters⟩
  · rintro ⟨first, rest, rfl, rfl⟩
    exact ⟨w :: first, rest, rfl, rfl⟩

/-- A character more at the front of the first word moves its end, and those behind it. -/
theorem endsAt_cons_cons (hl : letters ≠ []) :
    EndsAt ((c :: w) :: ws) (c :: letters) ↔ EndsAt (w :: ws) letters := by
  constructor
  · rintro ⟨first, rest, hsplit, hletters⟩
    cases first with
    | nil => cases hletters
    | cons v first =>
      obtain ⟨rfl, hrest⟩ := List.cons.inj hsplit
      exact ⟨w :: first, rest, by rw [hrest]; rfl, (List.cons.inj hletters).2⟩
  · rintro ⟨first, rest, hsplit, hletters⟩
    cases first with
    | nil => exact absurd hletters.symm hl
    | cons v first =>
      obtain ⟨rfl, hrest⟩ := List.cons.inj hsplit
      exact ⟨(c :: w) :: first, rest, by rw [hrest]; rfl, by rw [← hletters]; rfl⟩

theorem EndsAt.prefix_of_ne_nil (h : EndsAt (w :: ws) letters) (hl : letters ≠ []) :
    w <+: letters := by
  obtain ⟨first, rest, hsplit, rfl⟩ := h
  cases first with
  | nil => exact absurd rfl hl
  | cons v first =>
    obtain ⟨rfl, _⟩ := List.cons.inj hsplit
    exact List.prefix_append _ _

theorem endsAt_head (w : List Char) (ws : List (List Char)) : EndsAt (w :: ws) w :=
  ⟨[w], ws, rfl, by simp⟩

/-- Lists of words that end at the same places are the same. -/
theorem eq_of_endsAt_iff {vs : List (List Char)} (hws : ∀ w ∈ ws, w ≠ []) (hvs : ∀ v ∈ vs, v ≠ [])
    (h : ∀ letters, EndsAt ws letters ↔ EndsAt vs letters) : ws = vs := by
  induction ws generalizing vs with
  | nil =>
    cases vs with
    | nil => rfl
    | cons v vs =>
      have hv := ((h v).mpr (endsAt_head v vs)).prefix_flatten
      exact absurd (List.prefix_nil.mp hv) (hvs v (by simp))
  | cons w ws ih =>
    have hw : w ≠ [] := hws w (by simp)
    cases vs with
    | nil => exact absurd (List.prefix_nil.mp ((h w).mp (endsAt_head w ws)).prefix_flatten) hw
    | cons v vs =>
      have hv : v ≠ [] := hvs v (by simp)
      have hvw : v <+: w := ((h w).mp (endsAt_head w ws)).prefix_of_ne_nil hw
      have hwv : w <+: v := ((h v).mpr (endsAt_head v vs)).prefix_of_ne_nil hv
      obtain rfl : v = w := hvw.eq_of_length_le hwv.length_le
      have htail : ws = vs := by
        refine ih (fun u hu => hws u (List.mem_cons_of_mem _ hu))
          (fun u hu => hvs u (List.mem_cons_of_mem _ hu)) fun letters => ?_
        have hbehind : ∀ us, EndsAt (v :: us) (v ++ letters) ↔ EndsAt us letters :=
          fun us => endsAt_cons_append hv
        rw [← hbehind ws, ← hbehind vs]
        exact h _
      rw [htail]

end EndsAt

/-- Between two neighbours a word ends exactly where the rule says. -/
theorem Cut.endsAt_iff {before after : List Char} {a b : Char} {ws : List (List Char)}
    (h : Cut (before ++ a :: b :: after) ws) :
    EndsAt ws ((before ++ [a]).filter isWordChar) ↔
      (isWordChar a = true → isWordChar b = true → isBoundary a b after.head? = true) := by
  induction before generalizing ws with
  | nil =>
    rw [List.nil_append] at h ⊢
    cases h with
    | gap ha _ => simp [ha, endsAt_nil]
    | @last _ _ ws ha hend _ =>
      have hends : EndsAt ([a] :: ws) ([a].filter isWordChar) := by
        rw [List.filter_cons_of_pos ha]
        exact endsAt_head [a] ws
      have hrule : isWordChar b = true → isBoundary a b after.head? = true := by
        intro hb
        simpa [isWordEnd, hb] using hend
      exact iff_of_true hends fun _ => hrule
    | @inside _ _ w ws ha hend hcut =>
      have hw : w ≠ [] := hcut.ne_nil w (by simp)
      have hends : ¬ EndsAt ((a :: w) :: ws) [a] := by
        intro hends
        have hlen := (hends.prefix_of_ne_nil (by simp)).length_le
        exact hw (by simpa using hlen)
      rw [isWordEnd, Bool.or_eq_false_iff, Bool.not_eq_false'] at hend
      simp [ha, hends, hend]
  | cons x before ih =>
    rw [List.cons_append] at h ⊢
    cases h with
    | gap hx hcut => rw [List.filter_cons_of_neg (by simp [hx]), ih hcut]
    | last hx _ hcut =>
      rw [List.filter_cons_of_pos hx, ← ih hcut]
      exact endsAt_cons_append (by simp)
    | inside hx hend hcut =>
      -- the character behind `x` is in the same word, so something stands in front of the place
      have hne : (before ++ [a]).filter isWordChar ≠ [] := by
        cases before with
        | nil =>
          rw [List.nil_append, isWordEnd, Bool.or_eq_false_iff, Bool.not_eq_false'] at hend
          simp [hend.1]
        | cons y before =>
          rw [List.cons_append, isWordEnd, Bool.or_eq_false_iff, Bool.not_eq_false'] at hend
          simp [hend.1]
      rw [List.filter_cons_of_pos hx, ← ih hcut]
      exact endsAt_cons_cons hne

/-! ## The words of a text by the rule alone -/

/-- Words that hold the letters and digits of a text in order: no word is empty, what stands between
two letters or digits divides words, and two that stand side by side are divided where the rule
says. An acronym is two or more capitals. -/
structure IsSplit (text : List Char) (words : List Word) : Prop where
  letters : (words.map (·.text)).flatten = text.filter isWordChar
  nonempty : ∀ w ∈ words, w.text ≠ []
  apart : ∀ before a b after, text = before ++ a :: b :: after →
    isWordChar a = false ∨ isWordChar b = false →
      EndsAt (words.map (·.text)) ((before ++ [a]).filter isWordChar)
  divided : ∀ before a b after, text = before ++ a :: b :: after →
    isWordChar a = true → isWordChar b = true →
      (EndsAt (words.map (·.text)) ((before ++ [a]).filter isWordChar) ↔
        isBoundary a b after.head? = true)
  acronym : ∀ w ∈ words, w.isAcronym = true ↔
    2 ≤ w.text.length ∧ ∀ c ∈ w.text, isUpperAscii c = true

theorem isAcronym_ofText (text : List Char) : (Word.ofText text).isAcronym = true ↔
    2 ≤ text.length ∧ ∀ c ∈ text, isUpperAscii c = true := by
  simp only [Word.ofText, Bool.and_eq_true, decide_eq_true_eq, List.all_eq_true]
  rfl

theorem isSplit_splitIntoWords (name : String) : IsSplit name.toList (splitIntoWords name) := by
  have hcut := cut_wordTexts name.toList
  have htexts : (splitIntoWords name).map (·.text) = wordTexts name.toList := by
    simp [splitIntoWords, Word.ofText, Function.comp_def]
  refine ⟨?_, ?_, ?_, ?_, ?_⟩
  · rw [htexts, hcut.flatten_eq]
  · intro w hw
    exact hcut.ne_nil _ (htexts ▸ List.mem_map_of_mem hw)
  · intro before a b after htext hgap
    rw [htext] at hcut
    rw [htexts, htext, hcut.endsAt_iff]
    intro ha hb
    rcases hgap with h | h
    · rw [ha] at h
      cases h
    · rw [hb] at h
      cases h
  · intro before a b after htext ha hb
    rw [htext] at hcut
    rw [htexts, htext, hcut.endsAt_iff]
    exact ⟨fun h => h ha hb, fun h _ _ => h⟩
  · intro w hw
    obtain ⟨text, _, rfl⟩ := List.mem_map.mp hw
    exact isAcronym_ofText text

namespace IsSplit

variable {text : List Char} {words words' : List Word}

/-- A word ends in front of any part of the text, or not, by the rule alone. -/
theorem endsAt_iff (h : IsSplit text words) (h' : IsSplit text words') (letters : List Char) :
    EndsAt (words.map (·.text)) letters ↔ EndsAt (words'.map (·.text)) letters := by
  by_cases hprefix : letters <+: text.filter isWordChar
  · obtain ⟨more, hmore⟩ := hprefix
    obtain ⟨before, after, htext, rfl, _⟩ := List.filter_eq_append_iff.mp hmore.symm
    obtain rfl | ⟨front, a, rfl⟩ := before.eq_nil_or_concat'
    · simp [endsAt_nil]
    · cases after with
      | nil =>
        rw [List.append_nil] at htext
        rw [← htext]
        exact iff_of_true (h.letters ▸ endsAt_flatten _) (h'.letters ▸ endsAt_flatten _)
      | cons b after =>
        have hat : text = front ++ a :: b :: after := by simp [htext]
        by_cases hgap : isWordChar a = false ∨ isWordChar b = false
        · exact iff_of_true (h.apart _ _ _ _ hat hgap) (h'.apart _ _ _ _ hat hgap)
        · simp only [not_or, Bool.not_eq_false] at hgap
          rw [h.divided _ _ _ _ hat hgap.1 hgap.2, h'.divided _ _ _ _ hat hgap.1 hgap.2]
  · refine iff_of_false (fun he => hprefix ?_) (fun he => hprefix ?_)
    · exact h.letters ▸ he.prefix_flatten
    · exact h'.letters ▸ he.prefix_flatten

theorem map_text_eq (h : IsSplit text words) (h' : IsSplit text words') :
    words.map (·.text) = words'.map (·.text) := by
  refine eq_of_endsAt_iff ?_ ?_ (h.endsAt_iff h')
  · simpa using h.nonempty
  · simpa using h'.nonempty

theorem eq_map_ofText (h : IsSplit text words) : words = (words.map (·.text)).map Word.ofText := by
  rw [List.map_map]
  refine (List.map_id words).symm.trans (List.map_congr_left fun w hw => ?_)
  have hflag : w.isAcronym = (Word.ofText w.text).isAcronym := by
    rw [Bool.eq_iff_iff, h.acronym w hw, isAcronym_ofText]
  cases w
  exact congrArg (Word.mk _) hflag

end IsSplit

/-- The words of a name are the only ones that hold its letters and digits in order and end where
the rule says. -/
theorem isSplit_iff (name : String) (words : List Word) :
    IsSplit name.toList words ↔ words = splitIntoWords name := by
  have hsplit := isSplit_splitIntoWords name
  constructor
  · intro h
    rw [h.eq_map_ofText, hsplit.eq_map_ofText, h.map_text_eq hsplit]
  · rintro rfl
    exact hsplit

end ZigDecl.Name
