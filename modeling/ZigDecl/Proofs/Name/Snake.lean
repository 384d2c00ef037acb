import ZigDecl.Proofs.Name.Search

/-! # Names whose words stay apart

In the snake styles the words of a name have one case and stand between underscores, so the name is
read back as the words that it is made of. Main statement: to style such a name again changes
nothing, and a name that is taken gets its number behind an underscore. -/

namespace ZigDecl.Name

open ZigDecl.Text

/-- Texts of one word each are read back from between underscores. -/
theorem wordTexts_intercalate {ws : List (List Char)} (h : ∀ w ∈ ws, wordTexts w = [w]) :
    wordTexts (['_'].intercalate ws) = ws := by
  induction ws with
  | nil => exact wordTexts_nil
  | cons w ws ih =>
    have hw := h w (by simp)
    cases ws with
    | nil => rw [List.intercalate_singleton, hw]
    | cons v ws =>
      rw [List.intercalate_cons_cons, List.append_assoc, List.singleton_append,
        wordTexts_stop (by decide), hw, ih fun u hu => h u (List.mem_cons_of_mem _ hu)]
      rfl

/-! ## Words of one case -/

section OneCase

variable {style : WordStyle} {w : List Char}

theorem isRun_lower (h : IsRun isLetter w) : IsRun isLowerAscii (WordStyle.lower.apply w) := by
  rw [apply_lower (h.mono fun _ => isWordChar_of_isLetter).isLegal]
  exact h.map fun c hc => (isLetter_case hc).1

theorem isRun_upper (h : IsRun isLetter w) : IsRun isUpperAscii (WordStyle.upper.apply w) := by
  rw [apply_upper (h.mono fun _ => isWordChar_of_isLetter).isLegal]
  exact h.map fun c hc => (isLetter_case hc).2

theorem lower_of_isRun (h : IsRun isLowerAscii w) : WordStyle.lower.apply w = w := by
  rw [apply_lower (h.mono fun c hc => (isLowerAscii_facts hc).2.2).isLegal]
  exact (List.map_congr_left fun c hc => toLower_of_isLowerAscii (h.2 c hc)).trans (List.map_id' w)

theorem upper_of_isRun (h : IsRun isUpperAscii w) : WordStyle.upper.apply w = w := by
  rw [apply_upper (h.mono fun c hc => (isUpperAscii_facts hc).2.2).isLegal]
  exact (List.map_congr_left fun c hc => toUpper_of_isUpperAscii (h.2 c hc)).trans (List.map_id' w)

/-- A word set in one case is still one word, and is in that case. -/
theorem apply_stable (hstyle : style = .lower ∨ style = .upper)
    (h : IsRun isDigitAscii w ∨ IsRun isLetter w) :
    wordTexts (style.apply w) = [style.apply w] ∧
      style.apply (style.apply w) = style.apply w := by
  rcases h with h | h
  · rw [apply_of_isDigits style h]
    exact ⟨wordTexts_of_isRun (Or.inr (Or.inr rfl)) h, apply_of_isDigits style h⟩
  · rcases hstyle with rfl | rfl
    · have hrun := isRun_lower h
      exact ⟨wordTexts_of_isRun (Or.inr (Or.inl rfl)) hrun, lower_of_isRun hrun⟩
    · have hrun := isRun_upper h
      exact ⟨wordTexts_of_isRun (Or.inl rfl) hrun, upper_of_isRun hrun⟩

end OneCase

/-! ## Names in snake style -/

section Snake

variable {case : NamingCase} {style : WordStyle} {name : String}

/-- A name in a snake style is read back as its words in that style. -/
theorem wordTexts_style (hstyle : style = .lower ∨ style = .upper)
    (hparts : case.parts = (style, style, "_")) (h : HasWordChar name) :
    wordTexts (case.style name).toList = (wordTexts name.toList).map style.apply := by
  rw [toList_style case h, wordTexts_marked, joined_eq hparts]
  refine wordTexts_intercalate fun v hv => ?_
  obtain ⟨w, hw, rfl⟩ := List.mem_map.mp hv
  exact (apply_stable hstyle ((cut_wordTexts _).isRun w hw)).1

theorem style_style (hstyle : style = .lower ∨ style = .upper)
    (hparts : case.parts = (style, style, "_")) (h : HasWordChar name) :
    case.style (case.style name) = case.style name := by
  have hwords : ((wordTexts name.toList).map style.apply).map style.apply =
      (wordTexts name.toList).map style.apply := by
    rw [List.map_map]
    exact List.map_congr_left fun w hw => (apply_stable hstyle ((cut_wordTexts _).isRun w hw)).2
  rw [← String.toList_inj, toList_style case (hasWordChar_style case name), joined_eq hparts,
    wordTexts_style hstyle hparts h, hwords, ← joined_eq hparts, ← toList_style case h]

/-- In a snake style a name with a letter or digit stays as it is when it is styled again. It is
given in any namespace where it is free, and else with an underscore and the least number from two
on behind it that makes it free. -/
theorem snake_style_assign (hcase : case = .snake ∨ case = .screamingSnake)
    (h : HasWordChar name) :
    case.style (case.style name) = case.style name ∧
      ∀ ns : Namespace, FirstFree ns (case.style name)
        (fun n => case.style name ++ "_" ++ toString n) (ns.assign case name).1.name := by
  obtain ⟨style, hstyle, hparts⟩ : ∃ style : WordStyle,
      (style = .lower ∨ style = .upper) ∧ case.parts = (style, style, "_") := by
    rcases hcase with rfl | rfl
    · exact ⟨.lower, Or.inl rfl, rfl⟩
    · exact ⟨.upper, Or.inr rfl, rfl⟩
  have hstable := style_style hstyle hparts h
  refine ⟨hstable, fun ns => ?_⟩
  have hnumbered : numbered case (case.style name) =
      fun n => case.style name ++ "_" ++ toString n := by
    funext n
    rw [numbered_eq case (hasWordChar_style case name), hstable, hparts]
  rw [← hnumbered]
  exact firstFree_assign ns case name

end Snake

/-- A namespace in which a name and its first numbered form are taken. -/
def crowdedNamespace : Namespace := ⟨["_2_FA_HTTP_SERVER"], ["_2_FA_HTTP_SERVER_2"]⟩

theorem snake_style_assign_crowded :
    HasWordChar "2faHTTPServer" ∧
      NamingCase.screamingSnake.style "2faHTTPServer" = "_2_FA_HTTP_SERVER" ∧
      NamingCase.screamingSnake.style "_2_FA_HTTP_SERVER" = "_2_FA_HTTP_SERVER" ∧
      crowdedNamespace.isAvailable "_2_FA_HTTP_SERVER" = false ∧
      ∃ n, IsLeast {n | 2 ≤ n ∧
          crowdedNamespace.isAvailable ("_2_FA_HTTP_SERVER" ++ "_" ++ toString n) = true} n ∧
        (crowdedNamespace.assign .screamingSnake "2faHTTPServer").1.name =
          "_2_FA_HTTP_SERVER" ++ "_" ++ toString n := by
  have hname : HasWordChar "2faHTTPServer" := ⟨'f', by decide, by decide⟩
  have hstyle : NamingCase.screamingSnake.style "2faHTTPServer" = "_2_FA_HTTP_SERVER" := by
    decide +kernel
  have htaken : crowdedNamespace.isAvailable "_2_FA_HTTP_SERVER" = false := by decide
  have hcase : NamingCase.screamingSnake = .snake ∨
      NamingCase.screamingSnake = .screamingSnake := Or.inr rfl
  obtain ⟨hstable, hassign⟩ := snake_style_assign hcase hname
  rw [hstyle] at hstable hassign
  exact ⟨hname, hstyle, hstable, htaken, (hassign crowdedNamespace).2 htaken⟩

end ZigDecl.Name
