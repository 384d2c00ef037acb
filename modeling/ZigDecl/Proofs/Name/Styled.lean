import ZigDecl.Proofs.Name.Boundary

/-! # Styled names

A name in a style is its words in theirs, joined, with an underscore in front if it would start with
a digit. Main statement: whatever the style, a name keeps its letters and digits in their order, and
only their case may change. -/

namespace ZigDecl.Name

open ZigDecl.Text

/-! ## Letters and digits of a text -/

/-- A name that has words. -/
def HasWordChar (name : String) : Prop := ∃ c ∈ name.toList, isWordChar c = true

/-- The letters and digits of a text in order, whatever their case. -/
def spelling (cs : List Char) : List Char := (cs.filter isWordChar).map Char.toLower

@[simp] theorem spelling_append (cs ds : List Char) :
    spelling (cs ++ ds) = spelling cs ++ spelling ds := by
  simp [spelling]

theorem spelling_eq_nil_iff {cs : List Char} :
    spelling cs = [] ↔ ∀ c ∈ cs, isWordChar c = false := by
  simp [spelling, List.filter_eq_nil_iff]

theorem hasWordChar_iff {name : String} : HasWordChar name ↔ spelling name.toList ≠ [] := by
  simp [HasWordChar, spelling_eq_nil_iff]

theorem spelling_flatten_wordTexts (cs : List Char) :
    spelling (wordTexts cs).flatten = spelling cs := by
  rw [(cut_wordTexts cs).flatten_eq, spelling, List.filter_filter]
  simp [spelling]

theorem isWord_of_mem_wordTexts {cs w : List Char} (h : w ∈ wordTexts cs) : IsRun isWordChar w := by
  rcases (cut_wordTexts cs).isRun w h with hw | hw
  · exact hw.mono fun _ => isWordChar_of_isDigitAscii
  · exact hw.mono fun _ => isWordChar_of_isLetter

/-! ## Words in their styles -/

theorem IsRun.isLegal {w : List Char} (h : IsRun isWordChar w) : IsLegal w := by
  intro c hc
  simp [isNameChar, h.2 c hc]

theorem apply_lower {w : List Char} (h : IsLegal w) :
    WordStyle.lower.apply w = w.map Char.toLower := lowerChars_of_isLegal h

theorem apply_upper {w : List Char} (h : IsLegal w) :
    WordStyle.upper.apply w = w.map Char.toUpper := upperChars_of_isLegal h

theorem apply_firstUpper_cons {c : Char} {cs : List Char} (h : IsLegal (c :: cs)) :
    WordStyle.firstUpper.apply (c :: cs) = c.toUpper :: cs.map Char.toLower := by
  rw [WordStyle.apply, (case_ascii (toNat_lt_of_isNameChar (h c (by simp)))).2,
    lowerChars_of_isLegal fun d hd => h d (List.mem_cons_of_mem _ hd)]
  rfl

/-- A map that keeps letters and digits but for their case, and underscores, keeps what legal
characters spell. -/
theorem spelling_map {f : Char → Char} (hmark : f '_' = '_')
    (hf : ∀ c, isWordChar c = true → isWordChar (f c) = true ∧ (f c).toLower = c.toLower)
    {w : List Char} (h : IsLegal w) : spelling (w.map f) = spelling w := by
  induction w with
  | nil => rfl
  | cons c w ih =>
    obtain ⟨hc, hw⟩ := isLegal_append.mp (show IsLegal ([c] ++ w) from h)
    have hhead : spelling [f c] = spelling [c] := by
      have hcases : isWordChar c = true ∨ c = '_' := by simpa [IsLegal, isNameChar] using hc
      rcases hcases with hword | rfl
      · simp [spelling, hword, hf c hword]
      · rw [hmark]
    calc spelling ([f c] ++ w.map f) = spelling [f c] ++ spelling (w.map f) := spelling_append _ _
      _ = spelling [c] ++ spelling w := by rw [hhead, ih hw]
      _ = spelling (c :: w) := (spelling_append [c] w).symm

theorem spelling_lower {w : List Char} (h : IsLegal w) :
    spelling (w.map Char.toLower) = spelling w :=
  spelling_map (toLower_of_not_isUpperAscii rfl) (fun _ hc => (isWordChar_case hc).1) h

theorem spelling_upper {w : List Char} (h : IsLegal w) :
    spelling (w.map Char.toUpper) = spelling w :=
  spelling_map (toUpper_of_not_isLowerAscii rfl) (fun _ hc => (isWordChar_case hc).2) h

theorem spelling_apply (style : WordStyle) {w : List Char} (h : IsLegal w) :
    spelling (style.apply w) = spelling w := by
  cases style with
  | lower => rw [apply_lower h, spelling_lower h]
  | upper => rw [apply_upper h, spelling_upper h]
  | firstUpper =>
    obtain _ | ⟨c, cs⟩ := w
    · rfl
    obtain ⟨hc, hcs⟩ := isLegal_append.mp (show IsLegal ([c] ++ cs) from h)
    rw [apply_firstUpper_cons h]
    calc spelling ([c].map Char.toUpper ++ cs.map Char.toLower)
        = spelling ([c].map Char.toUpper) ++ spelling (cs.map Char.toLower) := spelling_append _ _
      _ = spelling [c] ++ spelling cs := by rw [spelling_upper hc, spelling_lower hcs]
      _ = spelling (c :: cs) := (spelling_append [c] cs).symm

/-- Legalizing takes away no letter and no digit. -/
theorem spelling_legalize (w : List Char) : spelling (legalize w) = spelling w := by
  induction w with
  | nil => rfl
  | cons c w ih =>
    have hhead : spelling [if isNameChar c then c else '_'] = spelling [c] := by
      by_cases hc : isNameChar c = true
      · rw [if_pos hc]
      · rw [if_neg hc]
        have hword : isWordChar c = false := by simp_all [isNameChar]
        simp [spelling, hword, show isWordChar '_' = false from rfl]
    calc spelling ([if isNameChar c then c else '_'] ++ legalize w)
        = spelling [c] ++ spelling w := by rw [spelling_append, hhead, ih]
      _ = spelling (c :: w) := (spelling_append [c] w).symm

theorem spelling_styledWord (style : WordStyle) (w : List Char) :
    spelling (styledWord style w).flatten = spelling w := by
  rw [← spelling_legalize w, styledWord]
  split
  · next hnil => rw [hnil]; rfl
  · rw [List.flatten_singleton, spelling_apply style (isLegal_legalize w)]

theorem spelling_flatMap_styledWord (style : WordStyle) (ws : List (List Char)) :
    spelling (ws.flatMap (styledWord style)).flatten = spelling ws.flatten := by
  induction ws with
  | nil => rfl
  | cons w ws ih =>
    rw [List.flatMap_cons, List.flatten_append, List.flatten_cons, spelling_append,
      spelling_append, spelling_styledWord, ih]

/-- Whatever the words are, their letters and digits are still there when they are styled. -/
theorem spelling_styledWords (first rest : WordStyle) (ws : List (List Char)) :
    spelling (styledWords first rest ws).flatten = spelling ws.flatten := by
  cases ws with
  | nil => rfl
  | cons w ws =>
    rw [styledWords, List.flatten_append, List.flatten_cons, spelling_append, spelling_append,
      spelling_styledWord, spelling_flatMap_styledWord]

theorem styledWord_of_isRun (style : WordStyle) {w : List Char} (h : IsRun isWordChar w) :
    styledWord style w = [style.apply w] := by
  rw [styledWord, legalize_of_isLegal h.isLegal]
  cases w with
  | nil => exact absurd rfl h.1
  | cons c cs => rfl

/-- Words in their styles are as many as the words. -/
theorem styledWords_cons {first rest : WordStyle} {w : List Char} {ws : List (List Char)}
    (h : ∀ v ∈ w :: ws, IsRun isWordChar v) :
    styledWords first rest (w :: ws) = first.apply w :: ws.map rest.apply := by
  have hrest : ∀ v ∈ ws, styledWord rest v = [rest.apply v] := fun v hv =>
    styledWord_of_isRun rest (h v (List.mem_cons_of_mem _ hv))
  rw [styledWords, styledWord_of_isRun first (h w (by simp)), List.flatMap_congr hrest,
    ← List.map_eq_flatMap]
  rfl

/-- In one style for all places the words are styled one by one. -/
theorem styledWords_same (style : WordStyle) {ws : List (List Char)}
    (h : ∀ w ∈ ws, IsRun isWordChar w) : styledWords style style ws = ws.map style.apply := by
  cases ws with
  | nil => rfl
  | cons w ws => exact styledWords_cons h

/-! ## Digits as the last word -/

theorem IsDigits.isWord {ds : List Char} (h : IsDigits ds) : IsRun isWordChar ds :=
  h.mono fun _ => isWordChar_of_isDigitAscii

theorem map_toLower_of_isDigits {ds : List Char} (h : ∀ d ∈ ds, isDigitAscii d = true) :
    ds.map Char.toLower = ds :=
  (List.map_congr_left fun d hd =>
    toLower_of_not_isUpperAscii (isDigitAscii_facts (h d hd)).1).trans (List.map_id' ds)

theorem toUpper_of_isDigitAscii {c : Char} (h : isDigitAscii c = true) : c.toUpper = c :=
  toUpper_of_not_isLowerAscii (isDigitAscii_facts h).2.1

theorem apply_of_isDigits (style : WordStyle) {ds : List Char} (h : IsDigits ds) :
    style.apply ds = ds := by
  have hlegal := h.isWord.isLegal
  cases style with
  | lower => rw [apply_lower hlegal, map_toLower_of_isDigits h.2]
  | upper =>
    rw [apply_upper hlegal]
    exact (List.map_congr_left fun d hd => toUpper_of_isDigitAscii (h.2 d hd)).trans
      (List.map_id' ds)
  | firstUpper =>
    obtain _ | ⟨c, cs⟩ := ds
    · rfl
    obtain ⟨hc, hcs⟩ := isRun_cons.mp h
    rw [apply_firstUpper_cons hlegal, map_toLower_of_isDigits hcs, toUpper_of_isDigitAscii hc]

theorem styledWords_concat (first rest : WordStyle) {ws : List (List Char)} (hne : ws ≠ [])
    {ds : List Char} (h : IsDigits ds) :
    styledWords first rest (ws ++ [ds]) = styledWords first rest ws ++ [ds] := by
  obtain _ | ⟨w, ws⟩ := ws
  · exact absurd rfl hne
  · rw [List.cons_append, styledWords, styledWords, List.flatMap_append, List.append_assoc,
      List.flatMap_singleton, styledWord_of_isRun rest h.isWord,
      apply_of_isDigits rest h]

/-! ## Joined words -/

theorem intercalate_concat (sep : List Char) {ws : List (List Char)} (h : ws ≠ [])
    (w : List Char) : sep.intercalate (ws ++ [w]) = sep.intercalate ws ++ sep ++ w := by
  induction ws with
  | nil => exact absurd rfl h
  | cons v ws ih =>
    cases ws with
    | nil => simp [List.intercalate_cons_of_ne_nil]
    | cons u ws =>
      rw [List.cons_append, List.intercalate_cons_of_ne_nil (by simp), ih (by simp),
        List.intercalate_cons_cons]
      simp only [List.append_assoc]

theorem spelling_intercalate {sep : List Char} (hs : spelling sep = []) (ws : List (List Char)) :
    spelling (sep.intercalate ws) = spelling ws.flatten := by
  induction ws with
  | nil => simp
  | cons w ws ih =>
    cases ws with
    | nil => simp
    | cons v ws =>
      rw [List.intercalate_cons_cons, spelling_append, spelling_append, hs, ih, List.append_nil,
        ← spelling_append]
      rfl

/-- A text with an underscore in front of it if no name may start as it does. -/
def marked (cs : List Char) : List Char :=
  if cs.head?.any isStartChar then cs else '_' :: cs

@[simp] theorem spelling_marked (cs : List Char) : spelling (marked cs) = spelling cs := by
  unfold marked
  split
  · rfl
  · rfl

theorem marked_append {cs : List Char} (h : cs ≠ []) (ds : List Char) :
    marked (cs ++ ds) = marked cs ++ ds := by
  cases cs with
  | nil => exact absurd rfl h
  | cons c cs =>
    by_cases hc : isStartChar c = true
    · simp [marked, hc]
    · simp [marked, hc]

theorem wordTexts_marked (cs : List Char) : wordTexts (marked cs) = wordTexts cs := by
  unfold marked
  split
  · rfl
  · exact wordTexts_of_not_isWordChar (by decide) cs

theorem combineWords_eq_marked {first rest : WordStyle} {separator : String}
    {words : List (List Char)}
    (h : spelling (separator.toList.intercalate (styledWords first rest words)) ≠ []) :
    combineWords first rest separator words =
      marked (separator.toList.intercalate (styledWords first rest words)) := by
  unfold combineWords
  split
  · next hj =>
    rw [hj] at h
    exact absurd rfl h
  · next c cs hj =>
    rw [hj] at h ⊢
    have hall : ((c :: cs).all (· == '_')) = false := by
      by_contra hall
      refine h (spelling_eq_nil_iff.mpr fun d hd => ?_)
      rw [Bool.not_eq_false, List.all_eq_true] at hall
      rw [beq_iff_eq.mp (hall d hd)]
      rfl
    rw [hall]
    rfl

theorem spelling_separator (case : NamingCase) : spelling case.parts.2.2.toList = [] := by
  cases case <;> rfl

/-- The words of a name in their styles, joined. -/
def NamingCase.joined (case : NamingCase) (name : String) : List Char :=
  case.parts.2.2.toList.intercalate
    (styledWords case.parts.1 case.parts.2.1 (wordTexts name.toList))

theorem spelling_joined (case : NamingCase) (name : String) :
    spelling (case.joined name) = spelling name.toList := by
  rw [NamingCase.joined, spelling_intercalate (spelling_separator case),
    spelling_styledWords, spelling_flatten_wordTexts]

/-- A text with the letters and digits of a name is not empty. -/
theorem HasWordChar.ne_nil {name : String} {cs : List Char} (h : HasWordChar name)
    (hs : spelling cs = spelling name.toList) : cs ≠ [] := by
  rintro rfl
  exact hasWordChar_iff.mp h hs.symm

theorem joined_ne_nil (case : NamingCase) {name : String} (h : HasWordChar name) :
    case.joined name ≠ [] := h.ne_nil (spelling_joined case name)

theorem wordTexts_ne_nil {name : String} (h : HasWordChar name) : wordTexts name.toList ≠ [] := by
  intro hnil
  refine h.ne_nil (spelling_flatten_wordTexts name.toList) ?_
  rw [hnil, List.flatten_nil]

/-- In one style for all places a name is its words in that style, joined. -/
theorem joined_eq {case : NamingCase} {style : WordStyle} {separator : String}
    (h : case.parts = (style, style, separator)) (name : String) :
    case.joined name =
      separator.toList.intercalate ((wordTexts name.toList).map style.apply) := by
  rw [NamingCase.joined, h, styledWords_same style fun w => isWord_of_mem_wordTexts]

theorem toList_style (case : NamingCase) {name : String} (h : HasWordChar name) :
    (case.style name).toList = marked (case.joined name) := by
  have hne : spelling (case.joined name) ≠ [] := by
    rw [spelling_joined]
    exact hasWordChar_iff.mp h
  rw [NamingCase.style, String.toList_ofList, combineWords_eq_marked hne]
  rfl

/-- A name in a style has the letters and digits of the name. -/
theorem spelling_style (case : NamingCase) {name : String} (h : HasWordChar name) :
    spelling (case.style name).toList = spelling name.toList := by
  rw [toList_style case h, spelling_marked, spelling_joined]

theorem hasWordChar_of_mem_wordTexts {name : String} {w : List Char}
    (h : w ∈ wordTexts name.toList) : HasWordChar name := by
  have hcut := cut_wordTexts name.toList
  obtain ⟨c, hc⟩ := List.exists_mem_of_ne_nil w (hcut.ne_nil w h)
  have hmem : c ∈ name.toList.filter isWordChar := by
    rw [← hcut.flatten_eq]
    exact List.mem_flatten.mpr ⟨w, h, hc⟩
  exact ⟨c, List.mem_filter.mp hmem⟩

theorem combineWords_nil (first rest : WordStyle) (separator : String) :
    combineWords first rest separator [] = placeholder := rfl

/-- A name without words becomes the placeholder. -/
theorem toList_style_of_not_hasWordChar (case : NamingCase) {name : String}
    (h : ¬ HasWordChar name) : (case.style name).toList = placeholder := by
  have hwords : wordTexts name.toList = [] :=
    List.eq_nil_iff_forall_not_mem.mpr fun w hw => h (hasWordChar_of_mem_wordTexts hw)
  rw [NamingCase.style, String.toList_ofList, hwords, combineWords_nil]

/-- A styled name always has a word, whatever the name. -/
theorem hasWordChar_style (case : NamingCase) (name : String) : HasWordChar (case.style name) := by
  by_cases h : HasWordChar name
  · rw [hasWordChar_iff, spelling_style case h]
    exact hasWordChar_iff.mp h
  · rw [HasWordChar, toList_style_of_not_hasWordChar case h]
    exact ⟨'u', by decide, by decide⟩

end ZigDecl.Name
