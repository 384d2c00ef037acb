import ZigDecl.Proofs.Output.Comments
import ZigDecl.Proofs.Output.Tidied

/-! # The modifier in a finished text

A line declares a public constant if it begins, behind blanks or not, with `pub const `. Main
statement: finished texts whose parts have the same lines but for the modifier, in the one with it
at some of them and in the other nowhere, are the same text but for the modifier. -/

namespace ZigDecl.Output

open Text

/-- Whether a line begins, behind blanks or not, with a public constant. -/
def isPublicLine (line : List Char) : Bool :=
  "pub const ".toList.isPrefixOf (line.dropWhile isBlank)

/-- A line without the modifier, if it begins with a public constant. -/
def privateLine (line : List Char) : List Char :=
  if isPublicLine line then
    line.takeWhile isBlank ++ (line.dropWhile isBlank).drop "pub ".toList.length
  else line

/-- A text without the modifier on the lines that begin with a public constant. -/
def privateText (lineEnding text : String) : String :=
  String.ofList (lineEnding.toList.intercalate
    ((splitOn lineEnding.toList text.toList).map privateLine))

example : privateLine "  pub const a = \"pub const \";".toList =
    "  const a = \"pub const \";".toList := by decide

/-! ## Lines -/

theorem dropWhile_blank_append {lead : List Char} (h : allBlank lead = true) (cs : List Char) :
    (lead ++ cs).dropWhile isBlank = cs.dropWhile isBlank :=
  List.dropWhile_append_of_pos (List.all_eq_true.mp h)

theorem isPublicLine_append {lead : List Char} (h : allBlank lead = true) (cs : List Char) :
    isPublicLine (lead ++ cs) = isPublicLine cs := by
  rw [isPublicLine, dropWhile_blank_append h, isPublicLine]

theorem isPublicLine_cons {c : Char} (hblank : isBlank c = false) (hc : c ≠ 'p')
    (cs : List Char) : isPublicLine (c :: cs) = false := by
  rw [isPublicLine, List.dropWhile_cons_of_neg (by simp [hblank])]
  simp [List.isPrefixOf, hc.symm]

theorem isPublicLine_iff {line : List Char} : isPublicLine line = true ↔
    ∃ lead rest, allBlank lead = true ∧ line = lead ++ ("pub const ".toList ++ rest) := by
  constructor
  · intro h
    obtain ⟨rest, hrest⟩ := List.isPrefixOf_iff_prefix.mp h
    refine ⟨line.takeWhile isBlank, rest, List.all_takeWhile, ?_⟩
    rw [hrest, List.takeWhile_append_dropWhile]
  · rintro ⟨lead, rest, hlead, rfl⟩
    rw [isPublicLine_append hlead]
    exact List.isPrefixOf_iff_prefix.mpr ⟨rest, rfl⟩

theorem privateLine_const {lead : List Char} (h : allBlank lead = true) (rest : List Char) :
    privateLine (lead ++ ("pub const ".toList ++ rest)) = lead ++ ("const ".toList ++ rest) := by
  have hpublic := isPublicLine_iff.mpr ⟨lead, rest, h, rfl⟩
  have htake : (lead ++ ("pub const ".toList ++ rest)).takeWhile isBlank = lead := by
    rw [List.takeWhile_append_of_pos (by simpa [allBlank] using h)]
    exact List.append_nil lead
  rw [privateLine, if_pos hpublic, htake, dropWhile_blank_append h]
  rfl

/-- A line in a text with the modifier and in the text without it. Something follows the modifier,
so that tidying does not reach it. -/
inductive Unpublished : String → String → Prop
  | same {l : String} (h : isPublicLine l.toList = false) : Unpublished l l
  | const {lead rest : String} (hlead : allBlank lead.toList = true)
      (hrest : allBlank rest.toList = false) :
      Unpublished (lead ++ ("pub " ++ ("const " ++ rest))) (lead ++ ("const " ++ rest))

theorem isPublicLine_trimEnd {line : List Char} (h : isPublicLine line = false) :
    isPublicLine (trimEnd line) = false := by
  refine Bool.eq_false_iff.mpr fun hpublic => ?_
  obtain ⟨lead, rest, hlead, heq⟩ := isPublicLine_iff.mp hpublic
  obtain ⟨blanks, _, hline⟩ := (trims_trimEnd line).eq_append
  rw [heq, List.append_assoc, List.append_assoc] at hline
  exact Bool.eq_false_iff.mp h (isPublicLine_iff.mpr ⟨lead, rest ++ blanks, hlead, hline⟩)

/-- Tidying a line and leaving out the modifier do not get in each other's way. -/
theorem Unpublished.trimEnd_eq {l m : String} (h : Unpublished l m) :
    trimEnd m.toList = privateLine (trimEnd l.toList) := by
  cases h with
  | same h => rw [privateLine, if_neg (by simp [isPublicLine_trimEnd h])]
  | @const lead rest hlead hrest =>
    have hne : trimEnd rest.toList ≠ [] := fun hnil => by
      rw [allBlank_iff_trimEnd.mp hnil] at hrest
      cases hrest
    have hpub : (lead ++ ("pub " ++ ("const " ++ rest))).toList =
        (lead.toList ++ "pub const ".toList) ++ rest.toList := by simp
    have hconst : (lead ++ ("const " ++ rest)).toList =
        (lead.toList ++ "const ".toList) ++ rest.toList := by simp
    rw [hpub, hconst, trimEnd_append hne, trimEnd_append hne, List.append_assoc,
      List.append_assoc, privateLine_const hlead]

theorem privateLine_nil : privateLine [] = [] := rfl

theorem privateLine_ne_nil {line : List Char} (h : line ≠ []) : privateLine line ≠ [] := by
  cases hpublic : isPublicLine line with
  | true =>
    obtain ⟨lead, rest, hlead, rfl⟩ := isPublicLine_iff.mp hpublic
    rw [privateLine_const hlead]
    simp
  | false => rwa [privateLine, if_neg (by simp [hpublic])]

/-- What tidying leaves of the lines of both texts differs in the modifier as well. -/
theorem tidyLines_unpublished {ls ms : List String} (h : List.Forall₂ Unpublished ls ms)
    (afterBlank : Bool) : tidyLines afterBlank (ms.map String.toList) =
      (tidyLines afterBlank (ls.map String.toList)).map privateLine := by
  induction h generalizing afterBlank with
  | nil => rfl
  | @cons l m ls ms hlm _ ih =>
    rw [List.map_cons, List.map_cons, tidyLines, tidyLines, hlm.trimEnd_eq]
    cases hl : trimEnd l.toList with
    | nil =>
      rw [privateLine_nil, ih true]
      cases afterBlank <;> rfl
    | cons c cs =>
      obtain ⟨d, ds, hds⟩ := List.exists_cons_of_ne_nil (privateLine_ne_nil (List.cons_ne_nil c cs))
      simp only [hds, List.map_cons, ih false]

/-! ## Texts -/

/-- No line of a text begins with a public constant. -/
def IsPrivate (text : String) : Prop :=
  ∃ ls, HasLines text ls ∧ ∀ l ∈ ls, isPublicLine l.toList = false

theorem isPrivate_line {l : String} (hl : IsLine l) (h : isPublicLine l.toList = false) :
    IsPrivate (l ++ "\n") :=
  ⟨[l], hasLines_line hl, by simpa using h⟩

/-- The lines of a text with a line feed at its end are those between its line feeds. -/
theorem isPrivate_of_splitAt {s : String} (hend : s.toList.getLast? = some '\n')
    (h : ∀ l ∈ splitAt '\n' s.toList, isPublicLine l = false) : IsPrivate s := by
  obtain ⟨cs, hcs⟩ := List.getLast?_eq_some_iff.mp hend
  have hs : s = String.ofList cs ++ "\n" := by
    rw [← String.toList_inj, hcs, String.toList_append, String.toList_ofList]
    rfl
  refine ⟨splitLines (String.ofList cs), hs ▸ hasLines_splitLines _, fun l hl => h _ ?_⟩
  have hmem : l.toList ∈ (splitLines (String.ofList cs)).map String.toList :=
    List.mem_map_of_mem hl
  rw [map_toList_splitLines, String.toList_ofList] at hmem
  rw [hcs, splitAt_concat]
  exact List.mem_append_left _ hmem

theorem IsPrivate.append {s t : String} (h : IsPrivate s) (h' : IsPrivate t) :
    IsPrivate (s ++ t) := by
  obtain ⟨ls, hs, hls⟩ := h
  obtain ⟨ms, ht, hms⟩ := h'
  exact ⟨ls ++ ms, hs.append ht, fun l hl => (List.mem_append.mp hl).elim (hls l) (hms l)⟩

/-- A line in three pieces behind a text. -/
theorem IsPrivate.append_line {s a b c l : String} (h : IsPrivate s) (hl : a ++ b ++ c = l ++ "\n")
    (hline : IsLine l) (hpublic : isPublicLine l.toList = false) :
    IsPrivate (s ++ a ++ b ++ c) := by
  have heq : s ++ a ++ b ++ c = s ++ (a ++ b ++ c) := by simp only [String.append_assoc]
  rw [heq, hl]
  exact h.append (isPrivate_line hline hpublic)

theorem IsPrivate.join {α : Type} {f : α → String} {xs : List α} (h : ∀ x ∈ xs, IsPrivate (f x)) :
    IsPrivate (String.join (xs.map f)) := by
  induction xs with
  | nil => exact ⟨[], hasLines_empty, nofun⟩
  | cons x xs ih =>
    rw [List.map_cons, String.join_cons]
    exact (h x (by simp)).append (ih fun y hy => h y (List.mem_cons_of_mem x hy))

/-- The lines of the second text are those of the first one without the modifier. -/
def UnpublishedText (s t : String) : Prop :=
  ∃ ls ms, HasLines s ls ∧ HasLines t ms ∧ List.Forall₂ Unpublished ls ms

theorem forall₂_same_unpublished {ls : List String}
    (h : ∀ l ∈ ls, isPublicLine l.toList = false) : List.Forall₂ Unpublished ls ls :=
  List.forall₂_same.mpr fun l hl => .same (h l hl)

namespace UnpublishedText

theorem append {s t s' t' : String} (h : UnpublishedText s t) (h' : UnpublishedText s' t') :
    UnpublishedText (s ++ s') (t ++ t') := by
  obtain ⟨ls, ms, hs, ht, h⟩ := h
  obtain ⟨ls', ms', hs', ht', h'⟩ := h'
  exact ⟨ls ++ ls', ms ++ ms', hs.append hs', ht.append ht', List.rel_append h h'⟩

theorem same {s : String} (h : IsPrivate s) : UnpublishedText s s := by
  obtain ⟨ls, hs, hls⟩ := h
  exact ⟨ls, ls, hs, hs, forall₂_same_unpublished hls⟩

/-- What the parts of both texts are tidied to differs in the modifier. -/
theorem tidyLines_eq {s t : String} (h : UnpublishedText s t) (hs : Closes s) (ht : Closes t) :
    tidyLines false (blockLines t) = (tidyLines false (blockLines s)).map privateLine := by
  obtain ⟨ls, ms, hls, hms, h⟩ := h
  rw [hms.blockLines_eq ht, hls.blockLines_eq hs, tidyLines_unpublished h]

end UnpublishedText

/-! ## Finished texts -/

theorem privateText_eq {lineEnding text : String} (hsep : IsEnding lineEnding.toList)
    {ls : List (List Char)} (hls : Clean ls) (htext : text.toList = ended lineEnding.toList ls) :
    privateText lineEnding text =
      String.ofList (ended lineEnding.toList (ls.map privateLine)) := by
  have hclean : Clean (ls ++ [[]]) := hls.append (by simp [Clean])
  rw [privateText, htext, ← intercalate_concat_nil, hsep.splitOn_intercalate (by simp) hclean,
    List.map_append, ← intercalate_concat_nil]
  rfl

/-- The lines that a part is tidied to. -/
def tidyBlock (text : String) : List (List Char) := tidyLines false (blockLines text)

/-- Lines, and behind them those of parts, with an empty line in front of each part. -/
def spacedLines (lineEnding : String) (first : List (List Char))
    (parts : List (List (List Char))) : String :=
  String.ofList (ended lineEnding.toList (first ++ parts.flatMap fun part => [] :: part))

theorem spaced_eq (lineEnding : String) (ls : List (List Char)) (texts : List String) :
    spaced lineEnding (tidyText lineEnding ls) (texts.map (block lineEnding)) =
      spacedLines lineEnding (tidyLines false ls) (texts.map tidyBlock) := by
  rw [← String.toList_inj, toList_spaced, spacedLines, tidyText, String.toList_ofList,
    String.toList_ofList, ended_append, List.flatMap_map]
  rfl

/-- Without the modifier, a finished text is made of the lines of its parts without it. -/
theorem privateText_spaced {lineEnding : String} (hsep : IsEnding lineEnding.toList)
    {ls : List (List Char)} (hls : Clean ls) (texts : List String) :
    privateText lineEnding
        (spaced lineEnding (tidyText lineEnding ls) (texts.map (block lineEnding))) =
      spacedLines lineEnding ((tidyLines false ls).map privateLine)
        (texts.map fun text => (tidyBlock text).map privateLine) := by
  have hclean : Clean (tidyLines false ls ++ (texts.map tidyBlock).flatMap ([] :: ·)) := by
    refine (clean_tidyLines hls false).append fun l hl => ?_
    obtain ⟨_, hblock, hl⟩ := List.mem_flatMap.mp hl
    obtain ⟨text, _, rfl⟩ := List.mem_map.mp hblock
    rcases List.mem_cons.mp hl with rfl | hl
    · exact List.not_mem_nil
    · exact clean_tidyLines (Buffer.clean_splitLines _) false l hl
  rw [spaced_eq, privateText_eq hsep hclean (by rw [spacedLines, String.toList_ofList]),
    List.map_append, List.map_flatMap, spacedLines, List.flatMap_map, List.flatMap_map]
  rfl

/-! ## Texts in front -/

theorem splitAt_dropEndWhile_subset (cs : List Char) :
    splitAt '\n' (dropEndWhile (· == '\n') cs) ⊆ splitAt '\n' cs := by
  induction cs using List.reverseRecOn with
  | nil => exact List.Subset.refl _
  | append_singleton cs c ih =>
    by_cases hc : c = '\n'
    · subst hc
      rw [dropEndWhile_append_of_true rfl, splitAt_concat]
      exact List.Subset.trans ih (List.subset_append_left _ _)
    · rw [dropEndWhile_append_of_false (by simpa using hc)]
      exact List.Subset.refl _

theorem IsPrivate.blockLines {text : String} (h : IsPrivate text) :
    ∀ l ∈ Text.blockLines text, isPublicLine l = false := by
  obtain ⟨ls, hs, hls⟩ := h
  intro l hl
  rw [blockLines_eq] at hl
  have hmem := splitAt_dropEndWhile_subset _ hl
  rw [hs.splitAt_eq] at hmem
  rcases List.mem_append.mp hmem with hmem | hmem
  · obtain ⟨line, hline, rfl⟩ := List.mem_map.mp hmem
    exact hls line hline
  · rw [List.mem_singleton.mp hmem]
    rfl

theorem Buffer.mem_lines_ensureBlankLine {b : Buffer} {l : String}
    (h : l ∈ b.ensureBlankLine.lines) : l ∈ b.lines ∨ l = "" := by
  rw [ensureBlankLine] at h
  split at h
  · exact .inl h
  · split at h
    · exact .inl h
    · simpa using h

/-- The lines of a buffer are those of its parts, and empty ones. -/
theorem Buffer.isPublicLine_ofParts {parts : List String} (h : ∀ text ∈ parts, IsPrivate text) :
    ∀ l ∈ (ofParts parts).lines, isPublicLine l.toList = false := by
  induction parts using List.reverseRecOn with
  | nil => exact nofun
  | append_singleton parts text ih =>
    have ih := ih fun t ht => h t (List.mem_append_left _ ht)
    intro l hl
    rw [ofParts_concat, emitPart, lines_emit] at hl
    rcases List.mem_append.mp hl with hl | hl
    · rcases mem_lines_ensureBlankLine hl with hl | rfl
      · exact ih l hl
      · rfl
    · exact (h text (by simp)).blockLines _ (List.mem_map_of_mem hl)

/-- What tidying leaves of parts without public constants has no modifier to leave out. -/
theorem map_privateLine_ofParts {parts : List String} (h : ∀ text ∈ parts, IsPrivate text) :
    (tidyLines false (Buffer.ofParts parts).charLines).map privateLine =
      tidyLines false (Buffer.ofParts parts).charLines :=
  (tidyLines_unpublished (forall₂_same_unpublished (Buffer.isPublicLine_ofParts h)) false).symm

theorem map_privateLine_tidyBlock {text : String} (h : IsPrivate text) (hs : Closes text) :
    (tidyBlock text).map privateLine = tidyBlock text :=
  ((UnpublishedText.same h).tidyLines_eq hs hs).symm

/-- A file without the modifier. -/
def File.asPrivate (lineEnding : String) (file : File) : File :=
  { file with text := privateText lineEnding file.text }

end ZigDecl.Output
