import Mathlib.Data.List.Basic
import ZigDecl.Proofs.Output.Parts
import ZigDecl.Text.Block

/-! # Lines of a finished file

A part of a file is followed line by line into the finished text: the buffer cuts it at line feeds
and joins all lines with the line ending, tidying cuts the text at the line ending and takes the
blanks off the ends of the lines, and whoever reads the file cuts it once more. Main statement: the
lines of a part stand one after the other in the finished file, without the blanks at their ends. -/

namespace ZigDecl

namespace Text

/-! ## Cutting at line feeds -/

theorem splitAt_of_not_mem {sep : Char} {l : List Char} (h : sep ∉ l) : splitAt sep l = [l] := by
  induction l with
  | nil => rfl
  | cons c cs ih =>
    obtain ⟨hc, hcs⟩ := List.ne_and_not_mem_of_not_mem_cons h
    rw [splitAt, if_neg (by simpa using hc.symm), ih hcs]
    rfl

theorem splitAt_append {sep : Char} {l : List Char} (h : sep ∉ l) (cs : List Char) :
    splitAt sep (l ++ sep :: cs) = l :: splitAt sep cs := by
  induction l with
  | nil => simp [splitAt]
  | cons c l ih =>
    obtain ⟨hc, hl⟩ := List.ne_and_not_mem_of_not_mem_cons h
    rw [List.cons_append, splitAt, if_neg (by simpa using hc.symm), ih hl]
    rfl

/-- No piece holds what was cut at. -/
theorem not_mem_of_mem_splitAt {sep : Char} {cs l : List Char} (h : l ∈ splitAt sep cs) :
    sep ∉ l := by
  induction cs generalizing l with
  | nil => rw [List.mem_singleton.mp h]; exact List.not_mem_nil
  | cons c cs ih =>
    rw [splitAt] at h
    split at h
    · rcases List.mem_cons.mp h with rfl | h
      · exact List.not_mem_nil
      · exact ih h
    · next hc =>
      have hne : sep ≠ c := fun heq => hc (by simp [heq])
      obtain ⟨first, rest, hsplit⟩ := List.exists_cons_of_ne_nil (splitAt_ne_nil sep cs)
      rw [hsplit] at h ih
      rcases List.mem_cons.mp h with rfl | h
      · exact List.not_mem_cons_of_ne_of_not_mem hne (ih (by simp))
      · exact ih (List.mem_cons_of_mem _ h)

/-- Nor does a line of a text that is cut at every line break. -/
theorem not_mem_of_mem_lines {cs l : List Char} (h : l ∈ lines cs) : '\n' ∉ l := by
  fun_induction lines cs generalizing l with
  | case1 => cases h
  | case2 cs ih =>
    rcases List.mem_cons.mp h with rfl | h
    · exact List.not_mem_nil
    · exact ih h
  | case3 c cs hcs hbreak ih =>
    rcases List.mem_cons.mp h with rfl | h
    · exact List.not_mem_nil
    · exact ih h
  | case4 c cs hcs hbreak ih =>
    have hc : '\n' ≠ c := by
      rintro rfl
      exact hbreak rfl
    match hsplit : lines cs with
    | [] =>
      rw [hsplit] at h
      simpa [List.mem_singleton.mp h] using hc
    | first :: rest =>
      rw [hsplit] at h
      rcases List.mem_cons.mp h with rfl | h
      · exact List.not_mem_cons_of_ne_of_not_mem hc (ih (by simp [hsplit]))
      · exact ih (by simp [hsplit, h])

/-- Lines with something at the end of each. -/
def ended (sep : List Char) (ls : List (List Char)) : List Char := ls.flatMap (· ++ sep)

theorem ended_append (sep : List Char) (ls ms : List (List Char)) :
    ended sep (ls ++ ms) = ended sep ls ++ ended sep ms := List.flatMap_append

theorem ended_cons (sep l : List Char) (ls : List (List Char)) :
    ended sep (l :: ls) = l ++ sep ++ ended sep ls := List.flatMap_cons

theorem intercalate_concat_nil (sep : List Char) (ls : List (List Char)) :
    sep.intercalate (ls ++ [[]]) = ended sep ls := by
  induction ls with
  | nil => simp [List.intercalate, ended]
  | cons l ls ih =>
    obtain ⟨m, ms, hms⟩ := List.exists_cons_of_ne_nil (l := ls ++ [[]]) (by simp)
    rw [List.cons_append, ended_cons, ← ih, hms, List.intercalate_cons_cons]

theorem intercalate_append_self (sep : List Char) :
    ∀ {ls : List (List Char)}, ls ≠ [] → sep.intercalate ls ++ sep = ended sep ls
  | [l], _ => by simp [ended]
  | l :: m :: ls, _ => by
    rw [List.intercalate_cons_cons, ended_cons, List.append_assoc,
      intercalate_append_self sep (by simp)]

/-- No line feed stands in a line. -/
def Clean (ls : List (List Char)) : Prop := ∀ l ∈ ls, '\n' ∉ l

theorem Clean.tail {l : List Char} {ls : List (List Char)} (h : Clean (l :: ls)) : Clean ls :=
  fun m hm => h m (List.mem_cons_of_mem l hm)

theorem clean_cons {l : List Char} {ls : List (List Char)} (hl : '\n' ∉ l) (h : Clean ls) :
    Clean (l :: ls) := by
  rintro m (_ | ⟨_, hm⟩)
  · exact hl
  · exact h m hm

theorem Clean.append {ls ms : List (List Char)} (h : Clean ls) (h' : Clean ms) :
    Clean (ls ++ ms) := fun l hl => (List.mem_append.mp hl).elim (h l) (h' l)

theorem splitAt_ended {ls : List (List Char)} (h : Clean ls) (cs : List Char) :
    splitAt '\n' (ended ['\n'] ls ++ cs) = ls ++ splitAt '\n' cs := by
  induction ls with
  | nil => rfl
  | cons l ls ih =>
    rw [ended_cons, List.append_assoc, List.append_assoc, List.singleton_append,
      splitAt_append (h l (by simp)), ih h.tail]
    rfl

/-! ## Texts of lines -/

/-- A text on one line. -/
def IsLine (s : String) : Prop := '\n' ∉ s.toList

instance : DecidablePred IsLine := fun s => inferInstanceAs (Decidable ('\n' ∉ s.toList))

theorem IsLine.append {s t : String} (h : IsLine s) (h' : IsLine t) : IsLine (s ++ t) := by
  rw [IsLine, String.toList_append, List.mem_append, not_or]
  exact ⟨h, h'⟩

/-- A text consists of lines, each with a line feed at its end. -/
structure HasLines (s : String) (ls : List String) : Prop where
  eq : s.toList = ended ['\n'] (ls.map String.toList)
  clean : Clean (ls.map String.toList)

theorem hasLines_empty : HasLines "" [] := ⟨rfl, nofun⟩

theorem HasLines.append {s t : String} {ls ms : List String} (h : HasLines s ls)
    (h' : HasLines t ms) : HasLines (s ++ t) (ls ++ ms) where
  eq := by rw [String.toList_append, h.eq, h'.eq, List.map_append, ended_append]
  clean := by
    rw [List.map_append]
    exact h.clean.append h'.clean

theorem hasLines_line {l : String} (h : IsLine l) : HasLines (l ++ "\n") [l] where
  eq := by simp [ended]
  clean := by simpa [Clean, IsLine] using h

theorem hasLines_join {α : Type} {f : α → String} {g : α → List String} {xs : List α}
    (h : ∀ x ∈ xs, HasLines (f x) (g x)) : HasLines (String.join (xs.map f)) (xs.flatMap g) := by
  induction xs with
  | nil => exact hasLines_empty
  | cons x xs ih =>
    have hrest := ih fun y hy => h y (List.mem_cons_of_mem _ hy)
    rw [List.map_cons, List.flatMap_cons, String.join_cons]
    exact (h x (by simp)).append hrest

/-- Indenting a text without blank lines indents all of its lines. -/
theorem HasLines.indent {s : String} {ls : List String} (h : HasLines s ls)
    (hls : ∀ l ∈ ls, allBlank l.toList = false) :
    HasLines (indent 4 s) (ls.map ("    " ++ ·)) := by
  have hmap : (ls.map String.toList).map (indentLine (List.replicate 4 ' ')) =
      (ls.map ("    " ++ ·)).map String.toList := by
    rw [List.map_map, List.map_map]
    refine List.map_congr_left fun l hl => ?_
    rw [Function.comp_apply, Function.comp_apply, indentLine, hls l hl, String.toList_append]
    rfl
  constructor
  · rw [Text.indent, String.toList_ofList, h.eq, ← List.append_nil (ended _ _),
      splitAt_ended h.clean, List.map_append, hmap, ← intercalate_concat_nil]
    rfl
  · intro m hm
    obtain ⟨_, hindented, rfl⟩ := List.mem_map.mp hm
    obtain ⟨l, hl, rfl⟩ := List.mem_map.mp hindented
    rw [String.toList_append, List.mem_append, not_or]
    exact ⟨by decide, h.clean _ (List.mem_map_of_mem hl)⟩

/-! ## The end of a text -/

theorem dropEndWhile_subset (p : Char → Bool) (cs : List Char) : dropEndWhile p cs ⊆ cs := by
  induction cs with
  | nil => exact List.Subset.refl []
  | cons c cs ih =>
    rw [dropEndWhile]
    split
    · split
      · exact List.nil_subset _
      · exact List.cons_subset_cons c (List.nil_subset cs)
    · exact List.cons_subset_cons c ih

theorem dropEndWhile_append_of_false {p : Char → Bool} {c : Char} (h : p c = false)
    (cs : List Char) : dropEndWhile p (cs ++ [c]) = cs ++ [c] := by
  induction cs with
  | nil => simp [dropEndWhile, h]
  | cons d cs ih =>
    rw [List.cons_append, dropEndWhile, ih]
    cases cs <;> rfl

theorem dropEndWhile_append_of_true {p : Char → Bool} {c : Char} (h : p c = true)
    (cs : List Char) : dropEndWhile p (cs ++ [c]) = dropEndWhile p cs := by
  induction cs with
  | nil => simp [dropEndWhile, h]
  | cons d cs ih => rw [List.cons_append, dropEndWhile, ih, dropEndWhile]

theorem trimEnd_cons {c : Char} (h : isBlank c = false) (cs : List Char) :
    trimEnd (c :: cs) = c :: trimEnd cs := by
  rw [trimEnd, dropEndWhile, h, trimEnd]
  cases dropEndWhile isBlank cs <;> rfl

theorem trimEnd_append {ds : List Char} (h : trimEnd ds ≠ []) (cs : List Char) :
    trimEnd (cs ++ ds) = cs ++ trimEnd ds := by
  induction cs with
  | nil => rfl
  | cons c cs ih =>
    rw [List.cons_append, trimEnd, dropEndWhile, show dropEndWhile isBlank (cs ++ ds) = _ from ih]
    obtain ⟨d, ds', hds⟩ := List.exists_cons_of_ne_nil h
    rw [hds]
    cases cs <;> rfl

/-- Cut into lines without the line feeds at its end, a text whose last line is not empty gives its
lines. -/
theorem HasLines.splitLines_eq {s : String} {ls : List String} {last : String}
    (h : HasLines s (ls ++ [last])) (hlast : last ≠ "") :
    splitLines (stripLineFeeds s) = ls ++ [last] := by
  have hls : Clean (ls.map String.toList) := fun l hl => h.clean l (by simp_all)
  have hclean : '\n' ∉ last.toList := h.clean _ (by simp)
  obtain ⟨init, c, hinit⟩ :=
    (List.eq_nil_or_concat' last.toList).resolve_left (by simpa using hlast)
  have hc : (c == '\n') = false :=
    beq_eq_false_iff_ne.mpr fun heq => hclean (by simp [hinit, heq])
  have heq : s.toList = (ended ['\n'] (ls.map String.toList) ++ init ++ [c]) ++ ['\n'] := by
    simp [h.eq, ended, hinit]
  have hend : dropEndWhile (· == '\n') s.toList =
      ended ['\n'] (ls.map String.toList) ++ last.toList := by
    rw [heq, dropEndWhile_append_of_true rfl,
      dropEndWhile_append_of_false (p := (· == '\n')) hc, List.append_assoc, hinit]
  rw [splitLines, stripLineFeeds, String.toList_ofList, hend, splitAt_ended hls,
    splitAt_of_not_mem hclean]
  simp

/-! ## Comments -/

theorem not_mem_commentLine {mark line : List Char} (hmark : '\n' ∉ mark) (hline : '\n' ∉ line) :
    '\n' ∉ commentLine mark line := by
  intro h
  have hmem := dropEndWhile_subset _ _ h
  rcases List.mem_append.mp hmem with hmem | hmem
  · exact hmark hmem
  · exact hline ((List.mem_cons.mp hmem).resolve_left (by decide))

/-- A comment has a line for each line of the text that it is made of. -/
theorem hasLines_comment {mark : String} (hmark : IsLine mark) (s : String) :
    HasLines (comment mark s ++ "\n")
      ((splitAt '\n' s.toList).map fun l => String.ofList (commentLine mark.toList l)) := by
  have hmap : ((splitAt '\n' s.toList).map fun l =>
      String.ofList (commentLine mark.toList l)).map String.toList =
        (splitAt '\n' s.toList).map (commentLine mark.toList) := by
    rw [List.map_map]
    exact List.map_congr_left fun l _ => String.toList_ofList
  constructor
  · rw [hmap, ← intercalate_append_self _ (by simpa using splitAt_ne_nil '\n' s.toList),
      String.toList_append, comment, String.toList_ofList]
    rfl
  · rw [hmap]
    intro _ hmem
    obtain ⟨l, hl, rfl⟩ := List.mem_map.mp hmem
    exact not_mem_commentLine hmark (not_mem_of_mem_splitAt hl)

/-! ## Cutting at line endings -/

/-- What ends with a line feed and holds no other one. -/
def IsEnding (sep : List Char) : Prop := ∃ p, sep = p ++ ['\n'] ∧ '\n' ∉ p

theorem isEnding_of_eq {s : String} (h : s = "\n" ∨ s = "\r\n") : IsEnding s.toList := by
  rcases h with rfl | rfl
  · exact ⟨[], rfl, List.not_mem_nil⟩
  · exact ⟨['\r'], rfl, by decide⟩

theorem splitOnFrom_append (sep : List Char) (xs cs : List Char) :
    splitOnFrom sep xs.length (xs ++ cs) = splitOnFrom sep 0 cs := by
  induction xs with
  | nil => rfl
  | cons x xs ih => exact ih

theorem IsEnding.mem {sep : List Char} (h : IsEnding sep) : '\n' ∈ sep := by
  obtain ⟨p, rfl, _⟩ := h
  simp

/-- In front of itself, a line ending starts only where it is on the line already. -/
theorem IsEnding.infix_of_prefix {sep : List Char} (h : IsEnding sep) {l cs : List Char}
    (hl : l ≠ []) (hpre : sep <+: l ++ sep ++ cs) : sep <:+: l := by
  obtain ⟨p, rfl, hp⟩ := h
  rcases Nat.lt_or_ge l.length (p ++ ['\n']).length with hshort | hlong
  · -- The line feed would be one of the line or of what comes in front of the other line feed.
    exfalso
    have hpos := List.length_pos_of_ne_nil hl
    rw [List.length_append, List.length_singleton] at hshort
    have hbefore : p ++ ['\n'] <+: l ++ p := by
      refine List.prefix_of_prefix_length_le hpre ⟨'\n' :: cs, by simp⟩ ?_
      simp only [List.length_append, List.length_singleton]
      omega
    have hline : l <+: p := by
      have hfull := List.prefix_of_prefix_length_le ((List.prefix_append l p).trans
        (List.prefix_append (l ++ p) ('\n' :: cs))) (by simpa using hpre) (by simp; omega)
      exact List.prefix_of_prefix_length_le hfull (List.prefix_append p _) (by omega)
    have hmem : '\n' ∈ l ++ p := hbefore.subset (by simp)
    exact hp ((List.mem_append.mp hmem).elim (fun hin => hline.subset hin) id)
  · rw [List.append_assoc] at hpre
    exact (List.prefix_of_prefix_length_le hpre (List.prefix_append l _) hlong).isInfix

theorem splitOn_of_not_infix {sep : List Char} {l : List Char} (hl : ¬sep <:+: l) :
    splitOn sep l = [l] := by
  induction l with
  | nil => rfl
  | cons c l ih =>
    have hnot : sep.isPrefixOf (c :: l) = false :=
      Bool.eq_false_iff.mpr fun hpre => hl (List.isPrefixOf_iff_prefix.mp hpre).isInfix
    have ih : splitOnFrom sep 0 l = [l] := ih fun hin => hl (List.infix_cons hin)
    rw [splitOn, splitOnFrom, hnot, ih]
    rfl

theorem IsEnding.splitOn_append {sep : List Char} (h : IsEnding sep) {l : List Char}
    (hl : ¬sep <:+: l) (cs : List Char) : splitOn sep (l ++ sep ++ cs) = l :: splitOn sep cs := by
  induction l with
  | nil =>
    obtain ⟨c, rest, hsep⟩ := List.exists_cons_of_ne_nil (List.ne_nil_of_mem h.mem)
    have hpre : sep.isPrefixOf (c :: (rest ++ cs)) = true :=
      List.isPrefixOf_iff_prefix.mpr ⟨cs, by rw [hsep]; rfl⟩
    have hskip : splitOnFrom sep (sep.length - 1) (rest ++ cs) = splitOnFrom sep 0 cs := by
      rw [← splitOnFrom_append sep rest, hsep]
      rfl
    have hcs : sep ++ cs = c :: (rest ++ cs) := by rw [hsep]; rfl
    rw [List.nil_append, splitOn, hcs, splitOnFrom, if_pos hpre, hskip, splitOn]
  | cons c l ih =>
    have hnot : sep.isPrefixOf (c :: (l ++ sep ++ cs)) = false := Bool.eq_false_iff.mpr fun hpre =>
      hl (h.infix_of_prefix (List.cons_ne_nil c l) (List.isPrefixOf_iff_prefix.mp hpre))
    have ih : splitOnFrom sep 0 (l ++ sep ++ cs) = l :: splitOn sep cs :=
      ih fun hin => hl (List.infix_cons hin)
    rw [List.cons_append, List.cons_append, splitOn, splitOnFrom, hnot, ih]
    rfl

/-- Lines that do not hold a line ending are cut again where they were joined with it. -/
theorem IsEnding.splitOn_intercalate_of_forall {sep : List Char} (h : IsEnding sep) :
    ∀ {ls : List (List Char)}, ls ≠ [] → (∀ l ∈ ls, ¬sep <:+: l) →
      splitOn sep (sep.intercalate ls) = ls
  | [l], _, hls => by rw [List.intercalate_singleton, splitOn_of_not_infix (hls l (by simp))]
  | l :: m :: ls, _, hls => by
    rw [List.intercalate_cons_cons, h.splitOn_append (hls l (by simp)),
      h.splitOn_intercalate_of_forall (by simp) fun l hl => hls l (List.mem_cons_of_mem _ hl)]

/-- Lines joined with a line ending are cut at it again. -/
theorem IsEnding.splitOn_intercalate {sep : List Char} (h : IsEnding sep)
    {ls : List (List Char)} (hne : ls ≠ []) (hls : Clean ls) :
    splitOn sep (sep.intercalate ls) = ls :=
  h.splitOn_intercalate_of_forall hne fun l hl hin => hls l hl (hin.subset h.mem)

end Text

namespace Output

open Text

/-! ## Lines of a buffer -/

namespace Buffer

theorem clean_splitLines (s : String) : Clean ((splitLines s).map String.toList) := by
  intro l hl
  simp only [splitLines, List.map_map, List.mem_map, Function.comp_apply,
    String.toList_ofList] at hl
  obtain ⟨piece, hpiece, rfl⟩ := hl
  exact not_mem_of_mem_splitAt hpiece

theorem exists_lines_ensureBlankLine (b : Buffer) : ∃ gap : List String,
    Clean (gap.map String.toList) ∧ b.ensureBlankLine.lines = b.lines ++ gap := by
  rw [ensureBlankLine]
  split
  · exact ⟨[], nofun, (List.append_nil _).symm⟩
  · split
    · exact ⟨[], nofun, (List.append_nil _).symm⟩
    · exact ⟨[""], by simp [Clean], rfl⟩

/-- A part comes after the lines that are there, and perhaps after an empty one. -/
theorem exists_lines_emitPart (b : Buffer) (text : String) :
    ∃ gap : List String, Clean (gap.map String.toList) ∧
      (b.emitPart text).lines = b.lines ++ gap ++ splitLines (stripLineFeeds text) := by
  obtain ⟨gap, hclean, hlines⟩ := b.exists_lines_ensureBlankLine
  exact ⟨gap, hclean, by rw [emitPart, lines_emit, hlines]⟩

/-- Whatever parts come, they come after the lines that are there. -/
theorem exists_lines_foldl (parts : List String) (b : Buffer) :
    ∃ more : List String, Clean (more.map String.toList) ∧
      (parts.foldl emitPart b).lines = b.lines ++ more := by
  induction parts generalizing b with
  | nil => exact ⟨[], nofun, (List.append_nil _).symm⟩
  | cons text parts ih =>
    obtain ⟨more, hmore, hlines⟩ := ih (b.emitPart text)
    obtain ⟨gap, hgap, hpart⟩ := b.exists_lines_emitPart text
    refine ⟨gap ++ splitLines (stripLineFeeds text) ++ more, ?_, ?_⟩
    · rw [List.map_append, List.map_append]
      exact (hgap.append (clean_splitLines _)).append hmore
    · rw [List.foldl_cons, hlines, hpart]
      simp only [List.append_assoc]

/-- The lines of a part stand one after the other in the buffer. -/
theorem exists_lines_ofParts (before after : List String) {text : String}
    {ls : List String} {last : String} (h : HasLines text (ls ++ [last])) (hlast : last ≠ "") :
    ∃ above below : List String, Clean (above.map String.toList) ∧ Clean (below.map String.toList) ∧
      (ofParts (before ++ text :: after)).lines = above ++ (ls ++ [last]) ++ below := by
  obtain ⟨first, hfirst, hbefore⟩ := exists_lines_foldl before .empty
  obtain ⟨gap, hgap, hpart⟩ := (before.foldl emitPart .empty).exists_lines_emitPart text
  obtain ⟨below, hbelow, hafter⟩ :=
    exists_lines_foldl after ((before.foldl emitPart .empty).emitPart text)
  refine ⟨first ++ gap, below, by rw [List.map_append]; exact hfirst.append hgap, hbelow, ?_⟩
  rw [ofParts, List.foldl_append, List.foldl_cons, hafter, hpart, hbefore,
    h.splitLines_eq hlast]
  rfl

/-- In the text of a buffer, the line ending follows every line. -/
theorem toList_text (b : Buffer) (lineEnding : String) :
    (b.text lineEnding).toList =
      lineEnding.toList.intercalate (b.lines.map String.toList ++ [[]]) := by
  rw [intercalate_concat_nil, text]
  rcases b with ⟨_ | ⟨line, lines⟩⟩
  · rfl
  · rw [if_neg (by simp), String.toList_append, String.toList_intercalate]
    exact intercalate_append_self _ (by simp)

end Buffer

/-! ## Lines of a tidy text -/

/-- What comes behind lines is tidied on its own, apart from the blank lines it may start with. -/
theorem exists_tidyLines_append (afterBlank : Bool) (xs ys : List (List Char)) :
    ∃ blank, tidyLines afterBlank (xs ++ ys) = tidyLines afterBlank xs ++ tidyLines blank ys := by
  induction xs generalizing afterBlank with
  | nil => exact ⟨afterBlank, rfl⟩
  | cons x xs ih =>
    rw [List.cons_append, tidyLines, tidyLines]
    split
    · obtain ⟨blank, hblank⟩ := ih true
      exact ⟨blank, by cases afterBlank <;> simp [hblank]⟩
    · obtain ⟨blank, hblank⟩ := ih false
      exact ⟨blank, by rw [hblank]; rfl⟩

/-- A line as tidying leaves it. -/
def tidyLine (line : String) : List Char := trimEnd line.toList

/-- Lines of which tidying leaves out none, as long as no blank one comes before them. -/
def Kept (ls : List String) : Prop :=
  ∀ rest, tidyLines false (ls.map String.toList ++ rest) =
    ls.map tidyLine ++ tidyLines false rest

theorem kept_nil : Kept [] := fun _ => rfl

theorem Kept.append {ls ms : List String} (h : Kept ls) (h' : Kept ms) : Kept (ls ++ ms) := by
  intro rest
  rw [List.map_append, List.append_assoc, h, h', List.map_append, List.append_assoc]

theorem tidyLines_cons {l : List Char} (hl : trimEnd l ≠ []) (afterBlank : Bool)
    (rest : List (List Char)) :
    tidyLines afterBlank (l :: rest) = trimEnd l :: tidyLines false rest := by
  rw [tidyLines]
  split
  · next h => exact absurd h hl
  · rfl

/-- A line that is not blank. -/
theorem kept_line {l : String} (hl : tidyLine l ≠ []) : Kept [l] :=
  fun rest => tidyLines_cons hl false rest

/-- An empty line in front of one that is not blank. -/
theorem kept_gap {l : String} (hl : tidyLine l ≠ []) : Kept ["", l] :=
  fun rest => congrArg ([] :: ·) (tidyLines_cons hl true rest)

theorem kept_flatMap {α : Type} {f : α → List String} {xs : List α}
    (h : ∀ x ∈ xs, Kept (f x)) : Kept (xs.flatMap f) := by
  induction xs with
  | nil => exact kept_nil
  | cons x xs ih =>
    exact (h x (by simp)).append (ih fun y hy => h y (List.mem_cons_of_mem x hy))

theorem kept_of_forall {ls : List String} (h : ∀ l ∈ ls, tidyLine l ≠ []) : Kept ls := by
  have hflat := kept_flatMap (f := fun l => [l]) fun l hl => kept_line (h l hl)
  rwa [List.flatMap_singleton'] at hflat

theorem clean_tidyLines {ls : List (List Char)} (h : Clean ls) (afterBlank : Bool) :
    Clean (tidyLines afterBlank ls) := by
  induction ls generalizing afterBlank with
  | nil => exact nofun
  | cons l ls ih =>
    have hkept : '\n' ∉ trimEnd l :=
      fun hmem => h l (by simp) (dropEndWhile_subset _ l hmem)
    rw [tidyLines]
    split
    · split
      · exact ih h.tail true
      · exact clean_cons List.not_mem_nil (ih h.tail true)
    · exact clean_cons hkept (ih h.tail false)

theorem tidyLines_ne_nil {ls : List (List Char)} (h : ls ≠ []) : tidyLines false ls ≠ [] := by
  obtain ⟨l, ls, rfl⟩ := List.exists_cons_of_ne_nil h
  rw [tidyLines]
  split <;> simp

/-- Cut at its line ending, a tidy text has the lines that are left after tidying. -/
theorem splitOn_tidy {lineEnding code tidied : String} (hsep : IsEnding lineEnding.toList)
    {ls : List (List Char)} (hcode : code.toList = lineEnding.toList.intercalate ls) (hne : ls ≠ [])
    (hls : Clean ls) (h : tidy? lineEnding code = some tidied) :
    splitOn lineEnding.toList tidied.toList = tidyLines false ls := by
  rw [tidy?] at h
  split at h
  · cases h
  · cases h
    rw [String.toList_ofList, hcode, hsep.splitOn_intercalate hne hls,
      hsep.splitOn_intercalate (tidyLines_ne_nil hne) (clean_tidyLines hls false)]

/-- The lines of a part of which tidying leaves out none stand one after the other in the finished
file, without the blanks at their ends. -/
theorem exists_splitOn_tidy {lineEnding tidied text : String} (hsep : IsEnding lineEnding.toList)
    {before after : List String} {first last : String} {ls : List String}
    (h : HasLines text (first :: ls ++ [last])) (hfirst : tidyLine first ≠ [])
    (hlast : tidyLine last ≠ []) (hkept : Kept ls)
    (htidy : tidy? lineEnding ((Buffer.ofParts (before ++ text :: after)).text lineEnding) =
      some tidied) :
    ∃ above below, splitOn lineEnding.toList tidied.toList =
      above ++ (first :: ls ++ [last]).map tidyLine ++ below := by
  have hne : last ≠ "" := by rintro rfl; exact hlast rfl
  obtain ⟨above, below, habove, hbelow, hlines⟩ := Buffer.exists_lines_ofParts before after h hne
  have hclean : Clean ((above ++ (first :: ls ++ [last]) ++ below).map String.toList ++ [[]]) := by
    rw [List.map_append, List.map_append]
    exact ((habove.append h.clean).append hbelow).append (by simp [Clean])
  have hsplit := splitOn_tidy hsep
    ((Buffer.toList_text _ lineEnding).trans (by rw [hlines])) (by simp) hclean htidy
  have hall : Kept (ls ++ [last]) := hkept.append (kept_line hlast)
  obtain ⟨blank, hblank⟩ := exists_tidyLines_append false (above.map String.toList)
    (first.toList :: ((ls ++ [last]).map String.toList ++ (below.map String.toList ++ [[]])))
  rw [tidyLines_cons hfirst, hall] at hblank
  refine ⟨tidyLines false (above.map String.toList),
    tidyLines false (below.map String.toList ++ [[]]), ?_⟩
  simpa [hsplit, tidyLine] using hblank

end Output

end ZigDecl
