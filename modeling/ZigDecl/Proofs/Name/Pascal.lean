import Mathlib.Data.List.Chain
import ZigDecl.Proofs.Name.Search

/-! # Names whose words run together

In Pascal style only capitals keep the words of a name apart, so words of one letter that stand side
by side are read back as one word. Main statement: a name that is taken gets its number behind the
name styled once more, and this is the name itself if and only if no two words of one letter stand
side by side. -/

namespace ZigDecl.Name

open ZigDecl.Text

/-- The words of a text, each with a capital in front of it, run together. -/
def capitalized (cs : List Char) : List Char := (wordTexts cs).flatMap WordStyle.firstUpper.apply

theorem capitalized_nil : capitalized [] = [] := by
  rw [capitalized, wordTexts_nil, List.flatMap_nil]

/-! ## The first word -/

section First

variable {c d : Char} {cs ds : List Char}

theorem capitalized_cons (h : isWordChar c = true) :
    capitalized (c :: cs) =
      WordStyle.firstUpper.apply (takeWord c cs).1 ++ capitalized (takeWord c cs).2 := by
  rw [capitalized, wordTexts_of_isWordChar h, List.flatMap_cons]
  rfl

theorem isWord_takeWord (h : isWordChar c = true) : IsRun isWordChar (takeWord c cs).1 := by
  have hmem : (takeWord c cs).1 ∈ wordTexts (c :: cs) := by
    rw [wordTexts_of_isWordChar h]
    exact List.mem_cons_self
  exact isWord_of_mem_wordTexts hmem

theorem exists_takeWord_eq (c : Char) (cs : List Char) : ∃ w, (takeWord c cs).1 = c :: w := by
  have happend := takeWord_append c cs
  cases hw : (takeWord c cs).1 with
  | nil => exact absurd hw (takeWord_ne_nil c cs)
  | cons d w =>
    rw [hw, List.cons_append] at happend
    exact ⟨w, by rw [(List.cons.inj happend).1]⟩

theorem capitalized_of_isWordEnd (h : isWordChar c = true) (hend : isWordEnd c cs = true) :
    capitalized (c :: cs) = c.toUpper :: capitalized cs := by
  have hlegal : IsLegal [c] := (isRun_cons.mpr ⟨h, by simp⟩ : IsRun isWordChar [c]).isLegal
  have hword : takeWord c cs = ([c], cs) := by
    cases cs with
    | nil => exact takeWord_nil h
    | cons d ds => rw [takeWord_cons h, if_pos hend]
  rw [capitalized_cons h, hword, apply_firstUpper_cons hlegal]
  rfl

/-- A capital inside a word becomes a small letter. -/
theorem capitalized_ne (hc : isWordChar c = true) (hd : isUpperAscii d = true)
    (hend : isWordEnd c (d :: ds) = false) : capitalized (c :: d :: ds) ≠ c :: d :: ds := by
  obtain ⟨w, hw⟩ := exists_takeWord_eq d ds
  have hword : takeWord c (d :: ds) = (c :: d :: w, (takeWord d ds).2) := by
    rw [takeWord_cons hc, if_neg (by simp [hend]), hw]
  have hlegal : IsLegal (c :: d :: w) := by
    have hrun : IsRun isWordChar (takeWord c (d :: ds)).1 := isWord_takeWord hc
    rw [hword] at hrun
    exact hrun.isLegal
  rw [capitalized_cons hc, hword, apply_firstUpper_cons hlegal]
  intro heq
  have hlower : d.toLower = d := (List.cons.inj (List.cons.inj heq).2).1
  have hsmall := (isLetter_case (c := d) (by simp [isLetter, hd])).1
  rw [hlower, (isUpperAscii_facts hd).1] at hsmall
  cases hsmall

/-- Digits in front stay as they are, whether they are a word or go on. -/
theorem capitalized_eq_takeWhile (cs : List Char) :
    capitalized cs =
      cs.takeWhile isDigitAscii ++ capitalized (cs.dropWhile isDigitAscii) := by
  cases cs with
  | nil => rfl
  | cons c cs =>
    cases hc : isDigitAscii c with
    | false => simp [hc]
    | true =>
      have hrun : IsDigits (c :: cs.takeWhile isDigitAscii) :=
        isRun_cons.mpr ⟨hc, fun d hd => List.mem_takeWhile_imp hd⟩
      rw [capitalized_cons (isWordChar_of_isDigitAscii hc), takeWord_of_isDigitAscii hc,
        apply_of_isDigits _ hrun, List.takeWhile_cons_of_pos hc, List.dropWhile_cons_of_pos hc]

theorem capitalized_digits_append (h : IsDigits ds) (cs : List Char) :
    capitalized (ds ++ cs) = ds ++ capitalized cs := by
  rw [capitalized_eq_takeWhile, capitalized_eq_takeWhile cs, List.takeWhile_append_of_pos h.2,
    List.dropWhile_append_of_pos h.2, List.append_assoc]

theorem capitalized_word_append (hc : isUpperAscii c = true) (h : IsRun isLowerAscii ds)
    (hcs : cs.head?.any isLowerAscii = false) :
    capitalized (c :: ds ++ cs) = c :: ds ++ capitalized cs := by
  obtain ⟨d, ds, rfl⟩ := List.exists_cons_of_ne_nil h.1
  have hd : isLowerAscii d = true := h.2 d (by simp)
  have hlegal : IsLegal (c :: d :: ds) := by
    refine IsRun.isLegal (isRun_cons.mpr ⟨(isUpperAscii_facts hc).2.2, fun e he => ?_⟩)
    exact (isLowerAscii_facts (h.2 e he)).2.2
  have htake : cs.takeWhile isLowerAscii = [] ∧ cs.dropWhile isLowerAscii = cs := by
    cases cs with
    | nil => exact ⟨rfl, rfl⟩
    | cons e es =>
      have he : isLowerAscii e = false := hcs
      simp [he]
  have hword : takeWord c (d :: ds ++ cs) = (c :: d :: ds, cs) := by
    rw [takeWord_of_isUpperAscii hc, List.cons_append,
      takeCapitalized_cons_of_not_isUpperAscii (isLowerAscii_facts hd).1, ← List.cons_append,
      List.takeWhile_append_of_pos h.2, List.dropWhile_append_of_pos h.2, htake.1, htake.2,
      List.append_nil]
  have hsmall : (d :: ds).map Char.toLower = d :: ds :=
    (List.map_congr_left fun e he => toLower_of_isLowerAscii (h.2 e he)).trans (List.map_id' _)
  rw [List.cons_append, capitalized_cons (isUpperAscii_facts hc).2.2, hword,
    apply_firstUpper_cons hlegal, toUpper_of_isUpperAscii hc, hsmall]

end First

/-! ## Words of one letter -/

def IsSingleLetter (w : List Char) : Prop := ∃ c, isLetter c = true ∧ w = [c]

/-- No two words of one letter stand side by side. -/
def LettersApart (words : List (List Char)) : Prop :=
  words.IsChain fun v w => ¬ (IsSingleLetter v ∧ IsSingleLetter w)

/-- A word and the same with a capital in front: digits, a letter, or several letters. -/
inductive IsCapitalized : List Char → List Char → Prop
  | digits {ds : List Char} : IsDigits ds → IsCapitalized ds ds
  | letter {c u : Char} :
      isLetter c = true → isUpperAscii u = true → IsCapitalized [c] [u]
  | letters {c d u : Char} {cs ds : List Char} :
      isUpperAscii u = true → IsRun isLowerAscii ds → IsCapitalized (c :: d :: cs) (u :: ds)

theorem isCapitalized_apply {w : List Char} (h : IsRun isDigitAscii w ∨ IsRun isLetter w) :
    IsCapitalized w (WordStyle.firstUpper.apply w) := by
  rcases h with h | h
  · rw [apply_of_isDigits _ h]
    exact .digits h
  · have hlegal : IsLegal w := (h.mono fun _ => isWordChar_of_isLetter).isLegal
    match w with
    | [] => exact absurd rfl h.1
    | [c] =>
      rw [apply_firstUpper_cons hlegal]
      exact .letter (h.2 c (by simp)) (isLetter_case (h.2 c (by simp))).2
    | c :: d :: cs =>
      have hrest : IsRun isLetter (d :: cs) :=
        ⟨by simp, fun e he => h.2 e (List.mem_cons_of_mem c he)⟩
      rw [apply_firstUpper_cons hlegal]
      exact .letters (isLetter_case (h.2 c (by simp))).2
        (hrest.map fun e he => (isLetter_case he).1)

namespace IsCapitalized

variable {w v : List Char}

theorem head_not_isLowerAscii (h : IsCapitalized w v) (cs : List Char) :
    (v ++ cs).head?.any isLowerAscii = false := by
  cases h with
  | digits hd =>
    obtain ⟨d, ds, rfl⟩ := List.exists_cons_of_ne_nil hd.1
    exact (isDigitAscii_facts (hd.2 d (by simp))).2.1
  | letter _ hu | letters hu _ => exact (isUpperAscii_facts hu).1

theorem isSingleLetter_iff (h : IsCapitalized w v) :
    IsSingleLetter w ↔ ∃ u, isUpperAscii u = true ∧ v = [u] := by
  cases h with
  | digits hd =>
    constructor
    · rintro ⟨c, hc, rfl⟩
      simp [isLetter, isDigitAscii_facts (hd.2 c (by simp))] at hc
    · rintro ⟨c, hc, rfl⟩
      simp [isDigitAscii_facts (hd.2 c (by simp))] at hc
  | @letter c u hc hu => exact iff_of_true ⟨c, hc, rfl⟩ ⟨u, hu, rfl⟩
  | letters _ hrun =>
    refine iff_of_false (by simp [IsSingleLetter]) ?_
    rintro ⟨u, _, hv⟩
    exact hrun.1 (List.cons.inj hv).2

/-- Only a word of one letter can run into what follows it. -/
theorem capitalized_append (h : IsCapitalized w v) (hw : ¬ IsSingleLetter w) {cs : List Char}
    (hcs : cs.head?.any isLowerAscii = false) : capitalized (v ++ cs) = v ++ capitalized cs := by
  cases h with
  | digits hd => exact capitalized_digits_append hd cs
  | letter hc _ => exact absurd ⟨_, hc, rfl⟩ hw
  | letters hu hrun => exact capitalized_word_append hu hrun hcs

/-- A capital is a word of its own unless a word of one letter follows it. -/
theorem isWordEnd_iff (h : IsCapitalized w v) {u : Char} (hu : isUpperAscii u = true)
    {cs : List Char} (hcs : cs.head?.any isLowerAscii = false) :
    isWordEnd u (v ++ cs) = true ↔ ¬ IsSingleLetter w := by
  cases h with
  | digits hd =>
    have hsingle : ¬ IsSingleLetter w := by
      rintro ⟨c, hc, rfl⟩
      simp [isLetter, isDigitAscii_facts (hd.2 c (by simp))] at hc
    obtain ⟨d, ds, rfl⟩ := List.exists_cons_of_ne_nil hd.1
    obtain ⟨hdu, hdl, _⟩ := isDigitAscii_facts (hd.2 d (by simp))
    rw [List.cons_append, isWordEnd_of_isUpperAscii hu]
    simp [hdu, hdl, hsingle]
  | @letter c u' hc hu' =>
    rw [List.cons_append, isWordEnd_of_isUpperAscii hu, if_pos hu', List.nil_append, hcs]
    exact iff_of_false Bool.false_ne_true (not_not.mpr ⟨c, hc, rfl⟩)
  | letters hu' hrun =>
    obtain ⟨d, ds, rfl⟩ := List.exists_cons_of_ne_nil hrun.1
    have hd : isLowerAscii d = true := hrun.2 d (by simp)
    rw [List.cons_append, isWordEnd_of_isUpperAscii hu, if_pos hu']
    simp [hd, IsSingleLetter]

end IsCapitalized

theorem lettersApart_cons {w : List Char} {ws : List (List Char)} (hw : ¬ IsSingleLetter w) :
    LettersApart (w :: ws) ↔ LettersApart ws := by
  simp [LettersApart, List.isChain_cons, hw]

theorem lettersApart_cons_cons {v w : List Char} {ws : List (List Char)} (hv : IsSingleLetter v) :
    LettersApart (v :: w :: ws) ↔ ¬ IsSingleLetter w ∧ LettersApart (w :: ws) := by
  simp [LettersApart, hv]

section RunTogether

variable {ws : List (List Char)}

theorem head_flatMap_not_isLowerAscii (h : ∀ w ∈ ws, IsRun isDigitAscii w ∨ IsRun isLetter w) :
    (ws.flatMap WordStyle.firstUpper.apply).head?.any isLowerAscii = false := by
  cases ws with
  | nil => rfl
  | cons w ws => exact (isCapitalized_apply (h w (by simp))).head_not_isLowerAscii _

/-- Words run together with capitals in front stay as they are when they are capitalized again, if
and only if no two words of one letter stand side by side. -/
theorem capitalized_flatMap_iff (h : ∀ w ∈ ws, IsRun isDigitAscii w ∨ IsRun isLetter w) :
    capitalized (ws.flatMap WordStyle.firstUpper.apply) =
      ws.flatMap WordStyle.firstUpper.apply ↔ LettersApart ws := by
  induction ws with
  | nil => exact iff_of_true capitalized_nil .nil
  | cons w ws ih =>
    have hrest : ∀ v ∈ ws, IsRun isDigitAscii v ∨ IsRun isLetter v :=
      fun v hv => h v (List.mem_cons_of_mem w hv)
    have hword := isCapitalized_apply (h w (by simp))
    rw [List.flatMap_cons]
    by_cases hw : IsSingleLetter w
    · obtain ⟨u, hu, hform⟩ := hword.isSingleLetter_iff.mp hw
      have huw : isWordChar u = true := (isUpperAscii_facts hu).2.2
      rw [hform, List.singleton_append]
      cases ws with
      | nil =>
        refine iff_of_true ?_ (.singleton w)
        rw [List.flatMap_nil, capitalized_of_isWordEnd huw rfl, toUpper_of_isUpperAscii hu,
          capitalized_nil]
      | cons v ws =>
        have hnext := isCapitalized_apply (hrest v (by simp))
        have hhead := head_flatMap_not_isLowerAscii fun x hx =>
          hrest x (List.mem_cons_of_mem v hx)
        have hend := hnext.isWordEnd_iff hu hhead
        rw [lettersApart_cons_cons hw, ← ih hrest, List.flatMap_cons]
        by_cases hv : IsSingleLetter v
        · -- the two letters are read as one word, and the second one becomes small
          obtain ⟨u', hu', hform'⟩ := hnext.isSingleLetter_iff.mp hv
          rw [hform', List.singleton_append] at hend ⊢
          have hlast : isWordEnd u (u' :: ws.flatMap WordStyle.firstUpper.apply) = false := by
            rw [← Bool.not_eq_true, hend, not_not]
            exact hv
          exact iff_of_false (capitalized_ne huw hu' hlast) fun hand => hand.1 hv
        · rw [capitalized_of_isWordEnd huw (hend.mpr hv), toUpper_of_isUpperAscii hu]
          simp [hv]
    · rw [hword.capitalized_append hw (head_flatMap_not_isLowerAscii hrest),
        List.append_cancel_left_eq, ih hrest, lettersApart_cons hw]

end RunTogether

/-! ## Names in Pascal style -/

theorem nil_intercalate (ws : List (List Char)) : List.intercalate [] ws = ws.flatten := by
  induction ws with
  | nil => rfl
  | cons w ws ih =>
    cases ws with
    | nil => simp
    | cons v ws =>
      rw [List.intercalate_cons_cons, List.append_nil, ih]
      rfl

section Pascal

variable {name : String}

theorem toList_pascal (h : HasWordChar name) :
    (NamingCase.pascal.style name).toList = marked (capitalized name.toList) := by
  have hparts : NamingCase.pascal.parts = (.firstUpper, .firstUpper, "") := rfl
  rw [toList_style .pascal h, joined_eq hparts]
  exact congrArg marked ((nil_intercalate _).trans (List.flatMap_def ..).symm)

/-- Capitalizing words yields letters and digits. -/
theorem filter_capitalized (cs : List Char) :
    (capitalized cs).filter isWordChar = capitalized cs := by
  refine List.filter_eq_self.mpr fun c hc => ?_
  obtain ⟨w, hw, hc⟩ := List.mem_flatMap.mp hc
  have hword := isWord_of_mem_wordTexts hw
  obtain ⟨d, ds, rfl⟩ := List.exists_cons_of_ne_nil hword.1
  obtain ⟨hd, hds⟩ := isRun_cons.mp hword
  rw [apply_firstUpper_cons hword.isLegal] at hc
  rcases List.mem_cons.mp hc with rfl | hc
  · exact (isWordChar_case hd).2.1
  · obtain ⟨e, he, rfl⟩ := List.mem_map.mp hc
    exact (isWordChar_case (hds e he)).1.1

theorem filter_marked (cs : List Char) : (marked cs).filter isWordChar = cs.filter isWordChar := by
  unfold marked
  split
  · rfl
  · rfl

/-- A name in Pascal style stays as it is when it is styled again, if and only if no two words of
one letter stand side by side in it. -/
theorem pascal_pascal_iff (h : HasWordChar name) :
    NamingCase.pascal.style (NamingCase.pascal.style name) = NamingCase.pascal.style name ↔
      LettersApart (wordTexts name.toList) := by
  have hwords := capitalized_flatMap_iff fun w hw => (cut_wordTexts name.toList).isRun w hw
  rw [← hwords, ← String.toList_inj, toList_pascal (hasWordChar_style .pascal name),
    toList_pascal h, capitalized, wordTexts_marked]
  constructor
  · intro heq
    have hfilter := congrArg (List.filter isWordChar) heq
    rw [filter_marked, filter_marked] at hfilter
    exact (filter_capitalized _).symm.trans (hfilter.trans (filter_capitalized _))
  · intro heq
    exact congrArg marked heq

/-- A name in Pascal style is given where it is free, and else the least number from two on that
makes it free is put behind the name styled once more. That has the same letters and digits, and
it is the name itself if and only if no two words of one letter stand side by side. -/
theorem pascal_assign_iff (h : HasWordChar name) (ns : Namespace) :
    FirstFree ns (NamingCase.pascal.style name)
        (fun n => NamingCase.pascal.style (NamingCase.pascal.style name) ++ toString n)
        (ns.assign .pascal name).1.name ∧
      spelling (NamingCase.pascal.style (NamingCase.pascal.style name)).toList =
        spelling (NamingCase.pascal.style name).toList ∧
      (ns.isAvailable (NamingCase.pascal.style name) = false →
        ((∃ n, 2 ≤ n ∧
            (ns.assign .pascal name).1.name = NamingCase.pascal.style name ++ toString n) ↔
          LettersApart (wordTexts name.toList))) := by
  have hbase := hasWordChar_style .pascal name
  have hspelling := spelling_style .pascal hbase
  have hfirst := firstFree_assign ns .pascal name
  have hnumbered : numbered .pascal (NamingCase.pascal.style name) =
      fun n => NamingCase.pascal.style (NamingCase.pascal.style name) ++ toString n := by
    funext n
    rw [numbered_eq .pascal hbase]
    exact congrArg (· ++ toString n) (String.append_empty ..)
  rw [hnumbered] at hfirst
  refine ⟨hfirst, hspelling, fun htaken => ?_⟩
  obtain ⟨k, hleast, hname⟩ := hfirst.2 htaken
  rw [hname, ← pascal_pascal_iff h]
  constructor
  · rintro ⟨n, _, heq⟩
    -- both numbers are the same, for the letters and digits in front of them are
    have htext : ∀ m : Nat, (toString m).toList = Nat.toDigits 10 m := fun m => by simp
    have hdigits := congrArg (fun s => spelling s.toList) heq
    simp only [String.toList_append, spelling_append, hspelling, htext,
      spelling_of_isDigits (isDigits_toDigits _), List.append_cancel_left_eq] at hdigits
    have hlist := congrArg String.toList heq
    rw [String.toList_append, String.toList_append, htext, htext, hdigits] at hlist
    exact String.toList_inj.mp (List.append_cancel_right hlist)
  · intro hsame
    exact ⟨k, hleast.1.1, by rw [hsame]⟩

end Pascal

theorem pascal_assign_iff_merged :
    HasWordChar "a b c" ∧ (⟨["ABC"], []⟩ : Namespace).isAvailable "ABC" = false ∧
      NamingCase.pascal.style "a b c" = "ABC" ∧
      ((⟨["ABC"], []⟩ : Namespace).assign .pascal "a b c").1.name = "Abc2" ∧
      ¬ LettersApart (wordTexts "a b c".toList) ∧
      ¬ ∃ n, 2 ≤ n ∧
        ((⟨["ABC"], []⟩ : Namespace).assign .pascal "a b c").1.name = "ABC" ++ toString n := by
  have hname : HasWordChar "a b c" := ⟨'a', by decide, by decide⟩
  have htaken : (⟨["ABC"], []⟩ : Namespace).isAvailable "ABC" = false := by decide
  have hstyle : NamingCase.pascal.style "a b c" = "ABC" := by decide +kernel
  have hwords : wordTexts "a b c".toList = [['a'], ['b'], ['c']] := by decide +kernel
  have hmerged : ¬ LettersApart (wordTexts "a b c".toList) := by
    rw [hwords]
    intro hapart
    exact (List.isChain_cons_cons.mp hapart).1 ⟨⟨'a', by decide, rfl⟩, ⟨'b', by decide, rfl⟩⟩
  obtain ⟨-, -, hexact⟩ := pascal_assign_iff hname ⟨["ABC"], []⟩
  rw [hstyle] at hexact
  exact ⟨hname, htaken, hstyle, by decide +kernel, hmerged,
    fun h => hmerged ((hexact htaken).mp h)⟩

end ZigDecl.Name
