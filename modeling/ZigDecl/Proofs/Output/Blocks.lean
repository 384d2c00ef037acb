import ZigDecl.Proofs.Output.Lines

/-! # Blocks of a finished file

Tidying goes over the whole text of a buffer. Where the parts start and end with lines that are not
blank, it cannot reach across the empty line between two parts. Main statement: the finished text of
such parts is what each of them is tidied to, one after the other with one empty line between. -/

namespace ZigDecl

namespace Text

/-! ## Texts that start and end with something -/

/-- A text with a first character that is not blank. -/
def Opens (s : String) : Prop := ∃ c cs, s.toList = c :: cs ∧ isBlank c = false

/-- A text that ends with a semicolon and a line feed. -/
def Closes (s : String) : Prop := ∃ cs, s.toList = cs ++ [';', '\n']

theorem Opens.append {s : String} (h : Opens s) (t : String) : Opens (s ++ t) := by
  obtain ⟨c, cs, hs, hc⟩ := h
  exact ⟨c, cs ++ t.toList, by rw [String.toList_append, hs]; rfl, hc⟩

theorem Closes.append {t : String} (h : Closes t) (s : String) : Closes (s ++ t) := by
  obtain ⟨cs, ht⟩ := h
  exact ⟨s.toList ++ cs, by rw [String.toList_append, ht, List.append_assoc]⟩

/-- A text of whole lines, the first and the last of which are not blank. -/
structure IsSolid (s : String) : Prop where
  opens : Opens s
  closes : Closes s

/-- Lines the first of which is not blank. -/
def StartsFull (ls : List (List Char)) : Prop := ∃ l more, ls = l :: more ∧ trimEnd l ≠ []

/-- Lines the last of which is not blank. -/
def EndsFull (ls : List (List Char)) : Prop := ∃ more l, ls = more ++ [l] ∧ trimEnd l ≠ []

theorem EndsFull.append {ms : List (List Char)} (h : EndsFull ms) (ls : List (List Char)) :
    EndsFull (ls ++ ms) := by
  obtain ⟨more, l, rfl, hl⟩ := h
  exact ⟨ls ++ more, l, (List.append_assoc ..).symm, hl⟩

/-- The lines of a text without the line feeds at its end. -/
def blockLines (s : String) : List (List Char) :=
  (splitLines (stripLineFeeds s)).map String.toList

theorem map_toList_splitLines (s : String) :
    (splitLines s).map String.toList = splitAt '\n' s.toList := by
  rw [splitLines, List.map_map]
  exact (List.map_congr_left fun l _ => String.toList_ofList).trans (List.map_id _)

theorem blockLines_eq (s : String) :
    blockLines s = splitAt '\n' (dropEndWhile (· == '\n') s.toList) := by
  rw [blockLines, map_toList_splitLines, stripLineFeeds, String.toList_ofList]

theorem trimEnd_trimEnd (cs : List Char) : trimEnd (trimEnd cs) = trimEnd cs := by
  induction cs with
  | nil => rfl
  | cons c cs ih =>
    simp only [trimEnd, dropEndWhile] at ih ⊢
    cases hcs : dropEndWhile isBlank cs with
    | nil => by_cases hc : isBlank c = true <;> simp [hc, dropEndWhile]
    | cons d ds =>
      rw [hcs] at ih
      simp only [dropEndWhile] at ih ⊢
      rw [ih]

theorem startsFull_splitAt {c : Char} (hc : isBlank c = false) (cs : List Char) :
    StartsFull (splitAt '\n' (c :: cs)) := by
  have hne : c ≠ '\n' := by rintro rfl; cases hc
  obtain ⟨first, more, hcs⟩ := List.exists_cons_of_ne_nil (splitAt_ne_nil '\n' cs)
  refine ⟨c :: first, more, ?_, ?_⟩
  · rw [splitAt, if_neg (by simpa using hne), hcs]
    rfl
  · rw [trimEnd_cons hc]
    exact List.cons_ne_nil _ _

theorem endsFull_splitAt {c : Char} (hc : isBlank c = false) (cs : List Char) :
    EndsFull (splitAt '\n' (cs ++ [c])) := by
  have hne : c ≠ '\n' := by rintro rfl; cases hc
  induction cs with
  | nil =>
    refine ⟨[], [c], ?_, by rw [trimEnd_cons hc]; exact List.cons_ne_nil _ _⟩
    exact splitAt_of_not_mem (by simpa using hne.symm)
  | cons d cs ih =>
    rw [List.cons_append, splitAt]
    by_cases hd : (d == '\n') = true
    · rw [if_pos hd]
      exact ih.append [[]]
    · rw [if_neg hd]
      obtain ⟨more, l, hls, hl⟩ := ih
      rw [hls]
      cases more with
      | nil =>
        refine ⟨[], d :: l, rfl, ?_⟩
        have hmore := trimEnd_append hl [d]
        rw [List.singleton_append] at hmore
        rw [hmore]
        exact List.cons_ne_nil _ _
      | cons m more => exact ⟨(d :: m) :: more, l, rfl, hl⟩

theorem IsSolid.stripped {s : String} (h : IsSolid s) : ∃ c cs ds,
    isBlank c = false ∧ dropEndWhile (· == '\n') s.toList = c :: cs ∧ c :: cs = ds ++ [';'] := by
  obtain ⟨ds, hds⟩ := h.closes
  obtain ⟨c, cs, hcs, hc⟩ := h.opens
  have hstrip : dropEndWhile (· == '\n') s.toList = ds ++ [';'] := by
    rw [hds, List.append_cons, dropEndWhile_append_of_true rfl, dropEndWhile_append_of_false rfl]
  cases ds with
  | nil => exact ⟨';', [], [], rfl, hstrip, rfl⟩
  | cons d ds =>
    have hd : d = c := (List.cons.inj (hds.symm.trans hcs)).1
    exact ⟨c, ds ++ [';'], d :: ds, hc, by rw [hstrip, hd]; rfl, by rw [hd]; rfl⟩

theorem IsSolid.startsFull {s : String} (h : IsSolid s) : StartsFull (blockLines s) := by
  obtain ⟨c, cs, _, hc, hstrip, _⟩ := h.stripped
  rw [blockLines_eq, hstrip]
  exact startsFull_splitAt hc cs

theorem IsSolid.endsFull {s : String} (h : IsSolid s) : EndsFull (blockLines s) := by
  obtain ⟨c, cs, ds, _, hstrip, hds⟩ := h.stripped
  rw [blockLines_eq, hstrip, hds]
  exact endsFull_splitAt (by decide) ds

end Text

namespace Output

open Text

/-! ## Tidying part by part -/

/-- Whether the line before was blank makes no difference to lines that start with something. -/
theorem tidyLines_of_startsFull {ls : List (List Char)} (h : StartsFull ls) (afterBlank : Bool) :
    tidyLines afterBlank ls = tidyLines false ls := by
  obtain ⟨l, more, rfl, hl⟩ := h
  rw [tidyLines_cons hl, tidyLines_cons hl]

/-- Behind lines that end with something, tidying starts again. -/
theorem tidyLines_append_of_endsFull {ls : List (List Char)} (h : EndsFull ls)
    (more : List (List Char)) :
    ∀ afterBlank, tidyLines afterBlank (ls ++ more) =
      tidyLines afterBlank ls ++ tidyLines false more := by
  obtain ⟨init, l, rfl, hl⟩ := h
  induction init with
  | nil =>
    intro afterBlank
    rw [List.nil_append, List.singleton_append, tidyLines_cons hl, tidyLines_cons hl]
    rfl
  | cons m init ih =>
    intro afterBlank
    simp only [List.cons_append, tidyLines]
    split
    · split
      · exact ih true
      · rw [ih true]; rfl
    · rw [ih false]; rfl

theorem startsFull_tidyLines {ls : List (List Char)} (h : StartsFull ls) (afterBlank : Bool) :
    StartsFull (tidyLines afterBlank ls) := by
  obtain ⟨l, more, rfl, hl⟩ := h
  exact ⟨trimEnd l, tidyLines false more, tidyLines_cons hl afterBlank more,
    by rwa [trimEnd_trimEnd]⟩

theorem endsFull_tidyLines {ls : List (List Char)} (h : EndsFull ls) (afterBlank : Bool) :
    EndsFull (tidyLines afterBlank ls) := by
  obtain ⟨more, l, rfl, hl⟩ := h
  obtain ⟨blank, hsplit⟩ := exists_tidyLines_append afterBlank more [l]
  rw [tidyLines_cons hl] at hsplit
  exact ⟨tidyLines afterBlank more, trimEnd l, hsplit, by rwa [trimEnd_trimEnd]⟩

/-- A part behind an empty line is tidied as on its own. -/
theorem tidyLines_gap {text : String} (h : IsSolid text) (more : List (List Char)) :
    tidyLines false ([] :: (blockLines text ++ more)) =
      [] :: (tidyLines false (blockLines text) ++ tidyLines false more) := by
  have hblank : tidyLines false ([] :: (blockLines text ++ more)) =
      [] :: tidyLines true (blockLines text ++ more) := rfl
  rw [hblank, tidyLines_append_of_endsFull h.endsFull, tidyLines_of_startsFull h.startsFull]

/-- The lines of parts that come one after the other, with an empty line in front of each. -/
def gapped (texts : List String) : List (List Char) :=
  texts.flatMap fun text => [] :: blockLines text

theorem tidyLines_gapped {texts : List String} (h : ∀ text ∈ texts, IsSolid text)
    (more : List (List Char)) :
    tidyLines false (gapped texts ++ more) =
      (texts.flatMap fun text => [] :: tidyLines false (blockLines text)) ++
        tidyLines false more := by
  induction texts with
  | nil => rfl
  | cons text texts ih =>
    have hrest := ih fun t ht => h t (List.mem_cons_of_mem text ht)
    rw [gapped] at hrest ⊢
    simp only [List.flatMap_cons, List.cons_append, List.append_assoc]
    rw [tidyLines_gap (h text (by simp)), hrest]

namespace Buffer

/-- The lines of a buffer as lists of characters. -/
def charLines (b : Buffer) : List (List Char) := b.lines.map String.toList

theorem clean_charLines (parts : List String) : Clean (ofParts parts).charLines := by
  obtain ⟨more, hmore, hlines⟩ := exists_lines_foldl parts .empty
  rw [charLines, ofParts, hlines]
  exact hmore

theorem charLines_emit (b : Buffer) (text : String) :
    (b.emit text).charLines = b.charLines ++ blockLines text := List.map_append

/-- There is an empty line in front of a part, as long as it comes behind something. -/
theorem charLines_emitPart {b : Buffer} (h : EndsFull b.charLines) (text : String) :
    (b.emitPart text).charLines = b.charLines ++ [] :: blockLines text := by
  obtain ⟨more, l, hls, hl⟩ := h
  have hlast : (b.lines.map String.toList).getLast? = some l := by
    rw [show b.lines.map String.toList = more ++ [l] from hls, List.getLast?_concat]
  rw [List.getLast?_map] at hlast
  obtain ⟨last, hlines, rfl⟩ := Option.map_eq_some_iff.mp hlast
  have hne : (last == "") = false := by
    refine beq_eq_false_iff_ne.mpr ?_
    rintro rfl
    exact hl rfl
  have hgap : b.ensureBlankLine = b.emitLine "" := by
    rw [ensureBlankLine, hlines]
    simp only [hne]
    rfl
  rw [emitPart, hgap, charLines_emit, charLines, lines_emitLine, List.map_append,
    List.append_assoc]
  rfl

theorem endsFull_emitPart {b : Buffer} (h : EndsFull b.charLines) {text : String}
    (ht : IsSolid text) : EndsFull (b.emitPart text).charLines := by
  rw [charLines_emitPart h, List.append_cons]
  exact ht.endsFull.append _

theorem charLines_foldl {texts : List String} (h : ∀ text ∈ texts, IsSolid text) {b : Buffer}
    (hb : EndsFull b.charLines) :
    (texts.foldl emitPart b).charLines = b.charLines ++ gapped texts := by
  induction texts generalizing b with
  | nil => exact (List.append_nil _).symm
  | cons text texts ih =>
    rw [List.foldl_cons, ih (fun t ht => h t (List.mem_cons_of_mem text ht))
      (endsFull_emitPart hb (h text (by simp))), charLines_emitPart hb, List.append_assoc]
    rfl

theorem endsFull_ofParts (parts : List String) {text : String} (h : IsSolid text) :
    EndsFull (ofParts (parts ++ [text])).charLines := by
  obtain ⟨gap, _, hlines⟩ := (ofParts parts).exists_lines_emitPart text
  rw [ofParts_concat, charLines, hlines, List.map_append]
  exact h.endsFull.append _

end Buffer

/-- Lines as they are tidied, with the line ending behind each. -/
def tidyText (lineEnding : String) (ls : List (List Char)) : String :=
  String.ofList (ended lineEnding.toList (tidyLines false ls))

/-- A part as it stands in a finished text. -/
def block (lineEnding text : String) : String := tidyText lineEnding (blockLines text)

/-- Whole lines of which the last one is not blank. -/
def EndsInLine (lineEnding s : String) : Prop :=
  ∃ ls, EndsFull ls ∧ s.toList = ended lineEnding.toList ls

/-- Whole lines of which neither the first nor the last one is blank. -/
def IsBlock (lineEnding s : String) : Prop :=
  ∃ ls, StartsFull ls ∧ EndsFull ls ∧ s.toList = ended lineEnding.toList ls

theorem endsInLine_tidyText (lineEnding : String) {ls : List (List Char)} (h : EndsFull ls) :
    EndsInLine lineEnding (tidyText lineEnding ls) :=
  ⟨tidyLines false ls, endsFull_tidyLines h false, String.toList_ofList⟩

theorem isBlock_block (lineEnding : String) {text : String} (h : IsSolid text) :
    IsBlock lineEnding (block lineEnding text) :=
  ⟨tidyLines false (blockLines text), startsFull_tidyLines h.startsFull false,
    endsFull_tidyLines h.endsFull false, String.toList_ofList⟩

/-- Blocks behind something, with an empty line in front of each. -/
def spaced (lineEnding first : String) (blocks : List String) : String :=
  first ++ String.join (blocks.map (lineEnding ++ ·))

theorem toList_spaced (lineEnding first : String) (texts : List String) :
    (spaced lineEnding first (texts.map (block lineEnding))).toList =
      first.toList ++ ended lineEnding.toList
        (texts.flatMap fun text => [] :: tidyLines false (blockLines text)) := by
  rw [spaced, String.toList_append]
  congr 1
  induction texts with
  | nil => rfl
  | cons text texts ih =>
    rw [List.flatMap_cons, List.cons_append, ended_cons, ended_append, ← ih]
    simp [block, tidyText]

/-- Behind a part that ends with something, every part stands as what it is tidied to, with an empty
line in front. -/
theorem tidy?_ofParts {lineEnding : String} (hsep : IsEnding lineEnding.toList)
    {parts texts : List String} (hparts : EndsFull (Buffer.ofParts parts).charLines)
    (htexts : ∀ text ∈ texts, IsSolid text) :
    tidy? lineEnding ((Buffer.ofParts (parts ++ texts)).text lineEnding) =
      some (spaced lineEnding (tidyText lineEnding (Buffer.ofParts parts).charLines)
        (texts.map (block lineEnding))) := by
  have hne : lineEnding ≠ "" := by
    rintro rfl
    obtain ⟨_, hnil, _⟩ := hsep
    simp at hnil
  have hlines : (Buffer.ofParts (parts ++ texts)).charLines =
      (Buffer.ofParts parts).charLines ++ gapped texts := by
    rw [Buffer.ofParts_append]
    exact Buffer.charLines_foldl htexts hparts
  have hclean : Clean ((Buffer.ofParts (parts ++ texts)).charLines ++ [[]]) :=
    (Buffer.clean_charLines _).append (by simp [Clean])
  have htidy : tidyLines false ((Buffer.ofParts (parts ++ texts)).charLines ++ [[]]) =
      tidyLines false (Buffer.ofParts parts).charLines ++
        (texts.flatMap fun text => [] :: tidyLines false (blockLines text)) ++ [[]] := by
    rw [hlines, List.append_assoc, tidyLines_append_of_endsFull hparts, tidyLines_gapped htexts,
      List.append_assoc]
    rfl
  rw [tidy?, if_neg hne]
  refine congrArg some (String.toList_inj.mp ?_)
  rw [String.toList_ofList, Buffer.toList_text, ← Buffer.charLines,
    hsep.splitOn_intercalate (by simp) hclean, htidy, intercalate_concat_nil, ended_append,
    toList_spaced, tidyText, String.toList_ofList]

end Output

end ZigDecl
