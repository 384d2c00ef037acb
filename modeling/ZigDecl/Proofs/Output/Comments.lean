import ZigDecl.Output.Sink
import ZigDecl.Proofs.Output.Blocks

/-! # Doc comments in a finished text

A doc comment is a line of its own. Tidying takes out second blank lines in a row, so a comment
might keep two blank lines apart, but no comment has a blank line right behind it. Main statement:
finished texts whose parts are the same lines, in the one with doc comments in front of some of
them, are the same without their doc comments. -/

namespace ZigDecl

namespace Text

/-! ## Lines of a text -/

/-- Whatever is in front of it, a text with a line feed at its end has lines. -/
theorem hasLines_splitLines (s : String) : HasLines (s ++ "\n") (splitLines s) where
  eq := by
    rw [map_toList_splitLines, ← intercalate_append_self _ (splitAt_ne_nil _ _),
      intercalate_splitAt, String.toList_append]
    rfl
  clean := Output.Buffer.clean_splitLines s

theorem HasLines.splitAt_eq {s : String} {ls : List String} (h : HasLines s ls) :
    splitAt '\n' s.toList = ls.map String.toList ++ [[]] := by
  rw [h.eq, ← List.append_nil (ended _ _), splitAt_ended h.clean]
  rfl

theorem splitAt_concat (sep : Char) (cs : List Char) :
    splitAt sep (cs ++ [sep]) = splitAt sep cs ++ [[]] := by
  induction cs with
  | nil => simp [splitAt]
  | cons c cs ih =>
    rw [List.cons_append, splitAt, splitAt, ih]
    split
    · rfl
    · obtain ⟨p, ps, hps⟩ := List.exists_cons_of_ne_nil (splitAt_ne_nil sep cs)
      rw [hps]
      rfl

/-- The lines of a text that ends with something are those of the block that it makes. -/
theorem HasLines.blockLines_eq {s : String} {ls : List String} (h : HasLines s ls)
    (hs : Closes s) : blockLines s = ls.map String.toList := by
  obtain ⟨cs, hcs⟩ := hs
  have hend : s.toList = cs ++ [';'] ++ ['\n'] := by rw [hcs, List.append_assoc]; rfl
  have hsplit := h.splitAt_eq
  rw [hend, splitAt_concat] at hsplit
  rw [Text.blockLines_eq, hend, dropEndWhile_append_of_true rfl, dropEndWhile_append_of_false rfl]
  exact List.append_cancel_right hsplit

theorem startsFull_splitAt_append {cs : List Char} (h : StartsFull (splitAt '\n' cs)) :
    ∀ {lead : List Char}, '\n' ∉ lead → StartsFull (splitAt '\n' (lead ++ cs))
  | [], _ => h
  | c :: lead, hlead => by
    obtain ⟨hc, hlead⟩ := List.ne_and_not_mem_of_not_mem_cons hlead
    obtain ⟨l, more, hls, hl⟩ := startsFull_splitAt_append h hlead
    have hne : trimEnd (c :: l) ≠ [] := by
      have := trimEnd_append hl [c]
      simp_all
    refine ⟨c :: l, more, ?_, hne⟩
    rw [List.cons_append, splitAt, if_neg (by simpa using hc.symm), hls]
    rfl

/-- The first line of a text that opens is not blank, wherever on it the text starts. -/
theorem HasLines.startsFull {lead s : String} {ls : List String} (h : HasLines (lead ++ s) ls)
    (hlead : IsLine lead) (hs : Opens s) : StartsFull (ls.map String.toList) := by
  obtain ⟨c, cs, hcs, hc⟩ := hs
  have hfull := startsFull_splitAt_append (startsFull_splitAt hc cs) hlead
  rw [← hcs, ← String.toList_append, h.splitAt_eq] at hfull
  obtain ⟨l, more, hls, hl⟩ := hfull
  cases ls with
  | nil =>
    cases hls
    exact absurd rfl hl
  | cons first ls =>
    obtain ⟨rfl, _⟩ := List.cons.inj hls
    exact ⟨_, _, rfl, hl⟩

end Text

namespace Output

open Text

/-- Whether a line starts with three slashes, behind spaces or not. -/
def isDocLine (line : List Char) : Bool :=
  "///".toList.isPrefixOf (line.dropWhile (· == ' '))

/-- A text without its doc comments. -/
def withoutDocs (lineEnding text : String) : String :=
  String.ofList (lineEnding.toList.intercalate
    ((splitOn lineEnding.toList text.toList).filter fun line => !isDocLine line))

/-- What tidying leaves of lines, without doc comments. -/
def codeLines (ls : List (List Char)) : List (List Char) :=
  (tidyLines false ls).filter fun line => !isDocLine line

/-! ## Lines with doc comments in front of some of them -/

/-- The lines of the first list are those of the second one and doc comments. Behind a comment
comes another one or a line that is not blank. -/
inductive Commented : List String → List String → Prop
  | nil : Commented [] []
  | code (l : String) {ls ms : List String} (h : Commented ls ms) : Commented (l :: ls) (l :: ms)
  | doc {d : String} {ls ms : List String} (hd : isDocLine (tidyLine d) = true)
      (hls : StartsFull (ls.map String.toList)) (h : Commented ls ms) : Commented (d :: ls) ms

namespace Commented

theorem refl : ∀ ls : List String, Commented ls ls
  | [] => .nil
  | l :: ls => .code l (refl ls)

theorem append {ls ms ls' ms' : List String} (h : Commented ls ms) (h' : Commented ls' ms') :
    Commented (ls ++ ls') (ms ++ ms') := by
  induction h with
  | nil => exact h'
  | code l _ ih => exact .code l ih
  | @doc d ls ms hd hls _ ih =>
    obtain ⟨l, more, heq, hl⟩ := hls
    refine .doc hd ⟨l, more ++ ls'.map String.toList, ?_, hl⟩ ih
    show (ls ++ ls').map String.toList = _
    rw [List.map_append, heq]
    rfl

theorem ne_nil_of_isDocLine {l : List Char} (h : isDocLine l = true) : l ≠ [] := by
  rintro rfl
  cases h

/-- Doc comments in front of lines the first of which is not blank. -/
theorem docs {ds ls ms : List String} (hds : ∀ d ∈ ds, isDocLine (tidyLine d) = true)
    (hls : StartsFull (ls.map String.toList)) (h : Commented ls ms) : Commented (ds ++ ls) ms := by
  induction ds with
  | nil => exact h
  | cons d ds ih =>
    have ih := ih fun e he => hds e (List.mem_cons_of_mem d he)
    refine .doc (hds d (by simp)) ?_ ih
    cases ds with
    | nil => exact hls
    | cons e ds =>
      exact ⟨e.toList, _, rfl, ne_nil_of_isDocLine (hds e (by simp))⟩

/-- Doc comments make no difference to what tidying leaves of the other lines. -/
theorem filter_tidyLines {ls ms : List String} (h : Commented ls ms) (afterBlank : Bool) :
    (tidyLines afterBlank (ls.map String.toList)).filter (fun line => !isDocLine line) =
      (tidyLines afterBlank (ms.map String.toList)).filter fun line => !isDocLine line := by
  induction h generalizing afterBlank with
  | nil => rfl
  | code l _ ih =>
    rw [List.map_cons, List.map_cons, tidyLines, tidyLines]
    split
    · split
      · exact ih true
      · rw [List.filter_cons, List.filter_cons, ih true]
    · rw [List.filter_cons, List.filter_cons, ih false]
  | @doc d ls ms hd hls _ ih =>
    -- No blank line comes next, so it makes no difference that the line before it is not blank now.
    have hne : trimEnd d.toList ≠ [] := ne_nil_of_isDocLine hd
    have hdoc : isDocLine (trimEnd d.toList) = true := hd
    rw [List.map_cons, tidyLines_cons hne, List.filter_cons, hdoc,
      ← tidyLines_of_startsFull hls afterBlank, ← ih afterBlank]
    rfl

theorem codeLines_eq {ls ms : List String} (h : Commented ls ms) :
    codeLines (ls.map String.toList) = codeLines (ms.map String.toList) := h.filter_tidyLines false

end Commented

/-! ## Texts with doc comments in front of some of their lines -/

/-- The lines of the first text are those of the second one and doc comments. -/
def CommentedText (s t : String) : Prop :=
  ∃ ls ms, HasLines s ls ∧ HasLines t ms ∧ Commented ls ms

namespace CommentedText

theorem append {s t s' t' : String} (h : CommentedText s t) (h' : CommentedText s' t') :
    CommentedText (s ++ s') (t ++ t') := by
  obtain ⟨ls, ms, hs, ht, h⟩ := h
  obtain ⟨ls', ms', hs', ht', h'⟩ := h'
  exact ⟨ls ++ ls', ms ++ ms', hs.append hs', ht.append ht', h.append h'⟩

/-- A text with lines is the same text without any doc comment. -/
theorem refl {s : String} {ls : List String} (h : HasLines s ls) : CommentedText s s :=
  ⟨ls, ls, h, h, .refl ls⟩

theorem line (s : String) : CommentedText (s ++ "\n") (s ++ "\n") := refl (hasLines_splitLines s)

theorem join {α β : Type} {f : α → String} {g : β → String} {xs : List α} {ys : List β}
    (h : List.Forall₂ (fun x y => CommentedText (f x) (g y)) xs ys) :
    CommentedText (String.join (xs.map f)) (String.join (ys.map g)) := by
  induction h with
  | nil => exact refl hasLines_empty
  | cons hxy _ ih =>
    rw [List.map_cons, List.map_cons, String.join_cons, String.join_cons]
    exact hxy.append ih

/-- Doc comments in front of a text whose first line is not blank. -/
theorem docs {d s t lead : String} {ds : List String} (hd : HasLines d ds)
    (hds : ∀ l ∈ ds, isDocLine (tidyLine l) = true) (hlead : IsLine lead) (hs : Opens s)
    (h : CommentedText (lead ++ s) t) : CommentedText (d ++ (lead ++ s)) t := by
  obtain ⟨ls, ms, hls, hms, h⟩ := h
  exact ⟨ds ++ ls, ms, hd.append hls, hms, h.docs hds (hls.startsFull hlead hs)⟩

/-- The parts of a file that differ in doc comments are tidied to the same lines of code. -/
theorem codeLines_eq {s t : String} (h : CommentedText s t) (hs : Closes s) (ht : Closes t) :
    codeLines (blockLines s) = codeLines (blockLines t) := by
  obtain ⟨ls, ms, hls, hms, h⟩ := h
  rw [hls.blockLines_eq hs, hms.blockLines_eq ht]
  exact h.codeLines_eq

end CommentedText

/-! ## Finished texts -/

theorem withoutDocs_eq {lineEnding text : String} (hsep : IsEnding lineEnding.toList)
    {ls : List (List Char)} (hls : Clean ls) (htext : text.toList = ended lineEnding.toList ls) :
    withoutDocs lineEnding text =
      String.ofList (ended lineEnding.toList (ls.filter fun line => !isDocLine line)) := by
  have hclean : Clean (ls ++ [[]]) := hls.append (by simp [Clean])
  rw [withoutDocs, htext, ← intercalate_concat_nil, hsep.splitOn_intercalate (by simp) hclean,
    List.filter_append, ← intercalate_concat_nil]
  rfl

example : withoutDocs "\n" "/// a\nconst b = 1;\n    /// c\n// d\n" = "const b = 1;\n// d\n" := by
  rfl

/-- Without its doc comments, a finished text is made of the lines of code of its parts. -/
theorem withoutDocs_spaced {lineEnding : String} (hsep : IsEnding lineEnding.toList)
    {ls : List (List Char)} (hls : Clean ls) (texts : List String) :
    withoutDocs lineEnding
        (spaced lineEnding (tidyText lineEnding ls) (texts.map (block lineEnding))) =
      String.ofList (ended lineEnding.toList
        (codeLines ls ++ texts.flatMap fun text => [] :: codeLines (blockLines text))) := by
  have hclean : Clean (tidyLines false ls ++
      texts.flatMap fun text => [] :: tidyLines false (blockLines text)) := by
    refine (clean_tidyLines hls false).append fun l hl => ?_
    obtain ⟨text, _, hl⟩ := List.mem_flatMap.mp hl
    rcases List.mem_cons.mp hl with rfl | hl
    · exact List.not_mem_nil
    · exact clean_tidyLines (Buffer.clean_splitLines _) false l hl
  rw [withoutDocs_eq hsep hclean, List.filter_append, List.filter_flatMap]
  · rfl
  · rw [toList_spaced, ended_append, tidyText, String.toList_ofList]

/-- A file without its doc comments. -/
def File.withoutDocs (lineEnding : String) (file : File) : File :=
  { file with text := Output.withoutDocs lineEnding file.text }

end Output

end ZigDecl
