import Mathlib.Data.List.Forall2
import Mathlib.Data.List.Induction
import ZigDecl.Config.Basic
import ZigDecl.Proofs.Output.Lines

/-! # What a tidy text is

A tidy text keeps the lines that are not blank, without the blanks at their ends, and has one empty
line for each run of blank lines. `IsTidied` says so of the lines alone; it leaves no choice, so
tidying a second time changes nothing. Main statement: the lines of a tidied text are the only ones
that are tidied from those of the text. -/

namespace ZigDecl

namespace Text

/-! ## The ends of lines -/

/-- A line without a blank at its end. -/
def NoBlankEnd (l : List Char) : Prop := ∀ c ∈ l.getLast?, isBlank c = false

/-- What is left of a line without the blanks at its end. -/
structure Trims (line kept : List Char) : Prop where
  noBlankEnd : NoBlankEnd kept
  eq_append : ∃ blanks, allBlank blanks = true ∧ line = kept ++ blanks

theorem trims_trimEnd (line : List Char) : Trims line (trimEnd line) := by
  induction line using List.reverseRecOn with
  | nil => exact ⟨nofun, [], rfl, rfl⟩
  | append_singleton line c ih =>
    cases hc : isBlank c with
    | true =>
      obtain ⟨blanks, hblanks, hline⟩ := ih.eq_append
      rw [trimEnd, dropEndWhile_append_of_true hc]
      refine ⟨ih.noBlankEnd, blanks ++ [c], ?_, ?_⟩
      · simpa [allBlank, hc] using hblanks
      · rw [← List.append_assoc]
        exact congrArg (· ++ [c]) hline
    | false =>
      rw [trimEnd, dropEndWhile_append_of_false hc]
      exact ⟨by simp [NoBlankEnd, hc], [], rfl, (List.append_nil _).symm⟩

/-- Blanks behind a line are no part of what is left of a longer line. -/
theorem NoBlankEnd.eq_nil {kept more blanks : List Char} (h : NoBlankEnd (kept ++ more))
    (hblanks : allBlank (more ++ blanks) = true) : more = [] := by
  rcases more.eq_nil_or_concat' with rfl | ⟨front, c, rfl⟩
  · rfl
  · have hfalse := h c (by simp)
    have htrue : isBlank c = true := List.all_eq_true.mp hblanks c (by simp)
    rw [htrue] at hfalse
    cases hfalse

theorem Trims.unique {line kept kept' : List Char} (h : Trims line kept)
    (h' : Trims line kept') : kept = kept' := by
  obtain ⟨blanks, hblanks, heq⟩ := h.eq_append
  obtain ⟨blanks', hblanks', heq'⟩ := h'.eq_append
  rcases List.append_eq_append_iff.mp (heq.symm.trans heq') with
    ⟨more, rfl, rfl⟩ | ⟨more, rfl, rfl⟩
  · rw [h'.noBlankEnd.eq_nil hblanks, List.append_nil]
  · rw [h.noBlankEnd.eq_nil hblanks', List.append_nil]

theorem trims_iff {line kept : List Char} : Trims line kept ↔ kept = trimEnd line :=
  ⟨fun h => h.unique (trims_trimEnd line), fun h => h ▸ trims_trimEnd line⟩

theorem NoBlankEnd.trims {l : List Char} (h : NoBlankEnd l) : Trims l l :=
  ⟨h, [], rfl, (List.append_nil l).symm⟩

/-- A blank line without blanks at its end is empty. -/
theorem NoBlankEnd.allBlank_eq {l : List Char} (h : NoBlankEnd l) : allBlank l = l.isEmpty := by
  rw [Bool.eq_iff_iff, List.isEmpty_iff, ← allBlank_iff_trimEnd, ← trims_iff.mp h.trims]

/-! ## Pieces -/

/-- The first piece is how the text starts, and no piece holds what was cut at. -/
theorem splitOnFrom_pieces {sep : List Char} (hsep : sep ≠ []) (skip : Nat) (cs : List Char) :
    (∃ first more, splitOnFrom sep skip cs = first :: more ∧ first <+: cs.drop skip) ∧
      ∀ l ∈ splitOnFrom sep skip cs, ¬sep <:+: l := by
  fun_induction splitOnFrom sep skip cs with
  | case1 skip => simpa using hsep
  | case2 c cs skip ih => exact ih
  | case3 c cs hpre ih =>
    refine ⟨⟨[], _, rfl, List.nil_prefix⟩, List.forall_mem_cons.mpr ⟨by simpa using hsep, ih.2⟩⟩
  | case4 c cs hpre ih =>
    obtain ⟨⟨first, more, hpieces, hfirst⟩, hfree⟩ := ih
    have hgrown : c :: first <+: c :: cs := List.cons_prefix_cons.mpr ⟨rfl, hfirst⟩
    rw [hpieces] at hfree ⊢
    refine ⟨⟨c :: first, more, rfl, hgrown⟩, List.forall_mem_cons.mpr ⟨fun hin => ?_, ?_⟩⟩
    · rcases List.infix_cons_iff.mp hin with hin | hin
      · exact hpre (List.isPrefixOf_iff_prefix.mpr (hin.trans hgrown))
      · exact hfree first (by simp) hin
    · exact fun l hl => hfree l (List.mem_cons_of_mem first hl)

theorem splitOn_ne_nil {sep : List Char} (hsep : sep ≠ []) (cs : List Char) :
    splitOn sep cs ≠ [] := by
  obtain ⟨⟨first, more, hpieces, _⟩, _⟩ := splitOnFrom_pieces hsep 0 cs
  rw [splitOn, hpieces]
  exact List.cons_ne_nil _ _

end Text

namespace Output

open Text

/-! ## Tidied lines -/

/-- A line with a property stands behind exactly `n` lines without it. -/
def StandsBehind (p : List Char → Bool) (ls : List (List Char)) (n : Nat) : Prop :=
  ∃ front l back, ls = front ++ l :: back ∧ p l = true ∧ front.countP (!p ·) = n

/-- Lines tidied from other lines: no line ends with a blank, no two empty lines follow each other,
the lines that are not empty are what is left of those that were not blank, and an empty line stands
where there was a blank one or more. -/
structure IsTidied (input output : List (List Char)) : Prop where
  trimmed : ∀ l ∈ output, NoBlankEnd l
  apart : ¬[[], []] <:+: output
  kept : List.Forall₂ Trims (input.filter (!allBlank ·)) (output.filter (!·.isEmpty))
  gaps : ∀ n, StandsBehind List.isEmpty output n ↔ StandsBehind allBlank input n

section Behind

variable {p q : List Char → Bool} {l : List Char} {ls : List (List Char)} {n : Nat}

theorem not_standsBehind_nil : ¬StandsBehind p [] n := by
  rintro ⟨front, l, back, h, _⟩
  simp at h

theorem standsBehind_cons_of_true (hl : p l = true) :
    StandsBehind p (l :: ls) n ↔ n = 0 ∨ StandsBehind p ls n := by
  constructor
  · rintro ⟨front, m, back, heq, hm, rfl⟩
    cases front with
    | nil => exact .inl rfl
    | cons f front =>
      obtain ⟨rfl, rfl⟩ := List.cons.inj heq
      exact .inr ⟨front, m, back, rfl, hm, by simp [hl]⟩
  · rintro (rfl | ⟨front, m, back, rfl, hm, rfl⟩)
    · exact ⟨[], l, ls, rfl, hl, rfl⟩
    · exact ⟨l :: front, m, back, rfl, hm, by simp [hl]⟩

theorem standsBehind_cons_of_false (hl : p l = false) :
    StandsBehind p (l :: ls) n ↔ ∃ m, n = m + 1 ∧ StandsBehind p ls m := by
  constructor
  · rintro ⟨front, m, back, heq, hm, rfl⟩
    cases front with
    | nil =>
      obtain ⟨rfl, rfl⟩ := List.cons.inj heq
      rw [hm] at hl
      cases hl
    | cons f front =>
      obtain ⟨rfl, rfl⟩ := List.cons.inj heq
      exact ⟨_, by simp [hl], front, m, back, rfl, hm, rfl⟩
  · rintro ⟨_, rfl, front, m, back, rfl, hm, rfl⟩
    exact ⟨l :: front, m, back, rfl, hm, by simp [hl]⟩

theorem standsBehind_congr (h : ∀ l ∈ ls, p l = q l) :
    StandsBehind p ls n ↔ StandsBehind q ls n := by
  induction ls generalizing n with
  | nil => exact iff_of_false not_standsBehind_nil not_standsBehind_nil
  | cons l ls ih =>
    obtain ⟨hl, hls⟩ := List.forall_mem_cons.mp h
    cases hp : p l with
    | true =>
      rw [standsBehind_cons_of_true hp, standsBehind_cons_of_true (hl ▸ hp), ih hls]
    | false =>
      rw [standsBehind_cons_of_false hp, standsBehind_cons_of_false (hl ▸ hp)]
      simp only [ih hls]

/-- What stands behind nothing is at the start. -/
theorem standsBehind_zero_iff : StandsBehind p ls 0 ↔ ∃ l more, ls = l :: more ∧ p l = true := by
  cases ls with
  | nil => exact iff_of_false not_standsBehind_nil (by simp)
  | cons l ls =>
    cases hl : p l with
    | true => simp [standsBehind_cons_of_true hl, hl]
    | false => simp [standsBehind_cons_of_false hl, hl]

end Behind

/-! ## Tidying lines -/

theorem tidyLines_blank {l : List Char} (hl : allBlank l = true) (afterBlank : Bool)
    (ls : List (List Char)) :
    tidyLines afterBlank (l :: ls) =
      if afterBlank then tidyLines true ls else [] :: tidyLines true ls := by
  rw [tidyLines, allBlank_iff_trimEnd.mpr hl]

/-- Tidying a list of lines goes by whether the first one is blank. -/
theorem tidyLines_induction {motive : Bool → List (List Char) → List (List Char) → Prop}
    (nil : ∀ afterBlank, motive afterBlank [] [])
    (skip : ∀ l ls out, allBlank l = true → motive true ls out → motive true (l :: ls) out)
    (gap : ∀ l ls out, allBlank l = true → motive true ls out → motive false (l :: ls) ([] :: out))
    (keep : ∀ afterBlank l ls out, allBlank l = false → motive false ls out →
      motive afterBlank (l :: ls) (trimEnd l :: out))
    (afterBlank : Bool) (ls : List (List Char)) :
    motive afterBlank ls (tidyLines afterBlank ls) := by
  induction ls generalizing afterBlank with
  | nil => exact nil afterBlank
  | cons l ls ih =>
    cases hl : allBlank l with
    | true =>
      rw [tidyLines_blank hl]
      cases afterBlank with
      | true => exact skip l ls _ hl (ih true)
      | false => exact gap l ls _ hl (ih true)
    | false =>
      rw [tidyLines_cons (by simp [allBlank_iff_trimEnd, hl])]
      exact keep afterBlank l ls _ hl (ih false)

/-- A tidied line does not end with a blank, and some line starts with it. -/
theorem form_of_mem_tidyLines (afterBlank : Bool) (ls : List (List Char)) :
    ∀ l ∈ tidyLines afterBlank ls, NoBlankEnd l ∧ ∃ m ∈ ls, l <+: m := by
  refine tidyLines_induction (motive := fun _ ls out => ∀ l ∈ out, NoBlankEnd l ∧ ∃ m ∈ ls, l <+: m)
    (fun _ => nofun) ?_ ?_ ?_ afterBlank ls
  · intro m ls out _ ih l hl
    exact (ih l hl).imp_right fun ⟨k, hk, hpre⟩ => ⟨k, List.mem_cons_of_mem m hk, hpre⟩
  · intro m ls out _ ih
    refine List.forall_mem_cons.mpr ⟨⟨nofun, m, by simp, List.nil_prefix⟩, fun l hl => ?_⟩
    exact (ih l hl).imp_right fun ⟨k, hk, hpre⟩ => ⟨k, List.mem_cons_of_mem m hk, hpre⟩
  · intro _ m ls out _ ih
    obtain ⟨hend, blanks, _, hm⟩ := trims_trimEnd m
    refine List.forall_mem_cons.mpr ⟨⟨hend, m, by simp, blanks, hm.symm⟩, fun l hl => ?_⟩
    exact (ih l hl).imp_right fun ⟨k, hk, hpre⟩ => ⟨k, List.mem_cons_of_mem m hk, hpre⟩

theorem trimEnd_isEmpty {l : List Char} (hl : allBlank l = false) :
    (trimEnd l).isEmpty = false := by
  rw [List.isEmpty_eq_false_iff, ne_eq, allBlank_iff_trimEnd, hl]
  exact Bool.false_ne_true

/-- Behind a blank line, no line is empty that comes first. -/
theorem apart_tidyLines (afterBlank : Bool) (ls : List (List Char)) :
    ¬[[], []] <:+: tidyLines afterBlank ls ∧
      (afterBlank = true → ¬[[]] <+: tidyLines afterBlank ls) := by
  refine tidyLines_induction (motive := fun afterBlank _ out =>
    ¬[[], []] <:+: out ∧ (afterBlank = true → ¬[[]] <+: out)) ?_ ?_ ?_ ?_ afterBlank ls
  · simp
  · intro _ _ _ _ ih
    exact ih
  · intro l ls out _ ih
    refine ⟨fun hin => ?_, nofun⟩
    rcases List.infix_cons_iff.mp hin with hin | hin
    · exact ih.2 rfl (List.cons_prefix_cons.mp hin).2
    · exact ih.1 hin
  · intro _ l ls out hl ih
    have hne : [] ≠ trimEnd l := fun heq => by simpa [← heq] using trimEnd_isEmpty hl
    refine ⟨fun hin => ?_, fun _ hpre => hne (List.cons_prefix_cons.mp hpre).1⟩
    rcases List.infix_cons_iff.mp hin with hin | hin
    · exact hne (List.cons_prefix_cons.mp hin).1
    · exact ih.1 hin

theorem kept_tidyLines (afterBlank : Bool) (ls : List (List Char)) :
    List.Forall₂ Trims (ls.filter (!allBlank ·))
      ((tidyLines afterBlank ls).filter (!·.isEmpty)) := by
  refine tidyLines_induction (motive := fun _ ls out =>
    List.Forall₂ Trims (ls.filter (!allBlank ·)) (out.filter (!·.isEmpty))) ?_ ?_ ?_ ?_
    afterBlank ls
  · exact fun _ => .nil
  · intro l ls out hl ih
    simpa [hl] using ih
  · intro l ls out hl ih
    simpa [hl] using ih
  · intro _ l ls out hl ih
    simpa [hl, trimEnd_isEmpty hl] using ⟨trims_trimEnd l, ih⟩

/-- A blank line in front counts as one that stands behind nothing. -/
theorem gaps_tidyLines (afterBlank : Bool) (ls : List (List Char)) (n : Nat) :
    (afterBlank = true ∧ n = 0) ∨ StandsBehind List.isEmpty (tidyLines afterBlank ls) n ↔
      (afterBlank = true ∧ n = 0) ∨ StandsBehind allBlank ls n := by
  refine tidyLines_induction (motive := fun afterBlank ls out => ∀ n,
    (afterBlank = true ∧ n = 0) ∨ StandsBehind List.isEmpty out n ↔
      (afterBlank = true ∧ n = 0) ∨ StandsBehind allBlank ls n) ?_ ?_ ?_ ?_ afterBlank ls n
  · simp [not_standsBehind_nil]
  · intro l ls out hl ih n
    rw [standsBehind_cons_of_true hl, ih n]
    simp
  · intro l ls out hl ih n
    rw [standsBehind_cons_of_true hl, standsBehind_cons_of_true rfl]
    simpa using ih n
  · intro afterBlank l ls out hl ih n
    rw [standsBehind_cons_of_false hl, standsBehind_cons_of_false (trimEnd_isEmpty hl)]
    simp only [Bool.false_eq_true, false_and, false_or] at ih
    simp only [ih]

theorem isTidied_tidyLines (ls : List (List Char)) : IsTidied ls (tidyLines false ls) where
  trimmed l hl := (form_of_mem_tidyLines false ls l hl).1
  apart := (apart_tidyLines false ls).1
  kept := kept_tidyLines false ls
  gaps n := by simpa using gaps_tidyLines false ls n

/-! ## No choice -/

/-- No empty line comes first behind another one. -/
theorem not_standsBehind_zero {ls : List (List Char)} (h : ¬[[], []] <:+: [] :: ls) :
    ¬StandsBehind List.isEmpty ls 0 := by
  rw [standsBehind_zero_iff]
  rintro ⟨l, more, rfl, hl⟩
  rw [List.isEmpty_iff.mp hl] at h
  exact h ⟨[], more, rfl⟩

/-- Lines without two empty ones in a row are determined by the others and by where empty ones
stand among them. -/
theorem eq_of_gaps {xs ys : List (List Char)} (hxs : ¬[[], []] <:+: xs) (hys : ¬[[], []] <:+: ys)
    (hkept : xs.filter (!·.isEmpty) = ys.filter (!·.isEmpty))
    (hgaps : ∀ n, StandsBehind List.isEmpty xs n ↔ StandsBehind List.isEmpty ys n) : xs = ys := by
  have htail : ∀ {l : List Char} {ls : List (List Char)}, ¬[[], []] <:+: l :: ls →
      ¬[[], []] <:+: ls := fun h hin => h (List.infix_cons hin)
  induction xs generalizing ys with
  | nil =>
    cases ys with
    | nil => rfl
    | cons y ys =>
      cases hy : y.isEmpty with
      | true =>
        exact absurd ((hgaps 0).mpr (standsBehind_zero_iff.mpr ⟨y, ys, rfl, hy⟩))
          not_standsBehind_nil
      | false => simp [hy] at hkept
  | cons x xs ih =>
    have hfirst : x.isEmpty = true ↔ ∃ l more, ys = l :: more ∧ l.isEmpty = true := by
      rw [← standsBehind_zero_iff, ← hgaps 0, standsBehind_zero_iff]
      simp
    cases hx : x.isEmpty with
    | true =>
      obtain ⟨y, ys, rfl, hy⟩ := hfirst.mp hx
      obtain rfl := List.isEmpty_iff.mp hx
      obtain rfl := List.isEmpty_iff.mp hy
      refine congrArg ([] :: ·) (ih (htail hxs) (htail hys) (by simpa using hkept) fun n => ?_)
      cases n with
      | zero => exact iff_of_false (not_standsBehind_zero hxs) (not_standsBehind_zero hys)
      | succ n => simpa [standsBehind_cons_of_true] using hgaps (n + 1)
    | false =>
      cases ys with
      | nil => simp [hx] at hkept
      | cons y ys =>
        have hy : y.isEmpty = false := by
          rw [Bool.eq_false_iff]
          intro hy
          rw [hfirst.mpr ⟨y, ys, rfl, hy⟩] at hx
          cases hx
        simp only [List.filter_cons, hx, hy, Bool.not_false, if_true] at hkept
        obtain ⟨rfl, hrest⟩ := List.cons.inj hkept
        refine congrArg (x :: ·) (ih (htail hxs) (htail hys) hrest fun n => ?_)
        simpa [standsBehind_cons_of_false hx] using hgaps (n + 1)

namespace IsTidied

variable {input output output' : List (List Char)}

theorem unique (h : IsTidied input output) (h' : IsTidied input output') : output = output' := by
  have htrims : Relator.RightUnique Trims := fun _ _ _ hl hl' => hl.unique hl'
  have hkept := List.right_unique_forall₂' htrims h.kept h'.kept
  exact eq_of_gaps h.apart h'.apart hkept fun n => (h.gaps n).trans (h'.gaps n).symm

/-- Tidied lines are tidied from themselves. -/
theorem again (h : IsTidied input output) : IsTidied output output where
  trimmed := h.trimmed
  apart := h.apart
  kept := by
    rw [List.filter_congr fun l hl => congrArg (!·) (h.trimmed l hl).allBlank_eq]
    refine List.forall₂_same.mpr fun l hl => (h.trimmed l (List.mem_of_mem_filter hl)).trims
  gaps n := standsBehind_congr fun l hl => ((h.trimmed l hl).allBlank_eq).symm

end IsTidied

theorem isTidied_iff {ls out : List (List Char)} : IsTidied ls out ↔ out = tidyLines false ls :=
  ⟨fun h => h.unique (isTidied_tidyLines ls), fun h => h ▸ isTidied_tidyLines ls⟩

theorem tidyLines_tidyLines (ls : List (List Char)) :
    tidyLines false (tidyLines false ls) = tidyLines false ls :=
  (isTidied_iff.mp (isTidied_tidyLines ls).again).symm

/-! ## Tidy texts -/

/-- The pieces of a text between its line endings. -/
def linesOf (lineEnding text : String) : List (List Char) :=
  splitOn lineEnding.toList text.toList

theorem tidy?_eq {lineEnding : String} (h : lineEnding ≠ "") (code : String) :
    tidy? lineEnding code = some (String.ofList
      (lineEnding.toList.intercalate (tidyLines false (linesOf lineEnding code)))) := by
  rw [tidy?, if_neg h]
  rfl

/-- A tidy text is cut at the line ending into the lines that were tidied. -/
theorem linesOf_tidy {lineEnding code tidied : String} (hsep : IsEnding lineEnding.toList)
    (h : tidy? lineEnding code = some tidied) :
    linesOf lineEnding tidied = tidyLines false (linesOf lineEnding code) := by
  have hne : lineEnding.toList ≠ [] := List.ne_nil_of_mem hsep.mem
  rw [tidy?_eq (by rintro rfl; exact hne rfl)] at h
  obtain rfl := Option.some.inj h
  rw [linesOf, String.toList_ofList]
  refine hsep.splitOn_intercalate_of_forall (tidyLines_ne_nil (splitOn_ne_nil hne _)) ?_
  intro l hl hin
  obtain ⟨_, m, hm, hpre⟩ := form_of_mem_tidyLines false _ l hl
  exact (splitOnFrom_pieces hne 0 _).2 m hm (hin.trans hpre.isInfix)

/-- Tidying a text succeeds with either line ending; the lines of the result are the only ones that
are tidied from those of the text, and tidying it once more changes nothing. -/
theorem tidy?_tidied {lineEnding : String} (h : Config.isLineEnding (.str lineEnding) = true)
    (code : String) :
    ∃ tidied, tidy? lineEnding code = some tidied ∧
      (∀ ls, IsTidied (linesOf lineEnding code) ls ↔ ls = linesOf lineEnding tidied) ∧
      tidy? lineEnding tidied = some tidied := by
  rw [Config.isLineEnding, Bool.or_eq_true, beq_iff_eq, beq_iff_eq] at h
  have hsep : IsEnding lineEnding.toList := isEnding_of_eq h
  have hne : lineEnding ≠ "" := by
    rintro rfl
    exact absurd hsep.mem List.not_mem_nil
  have hlines := linesOf_tidy hsep (tidy?_eq hne code)
  refine ⟨_, tidy?_eq hne code, fun ls => by rw [hlines, isTidied_iff], ?_⟩
  rw [tidy?_eq hne, hlines, tidyLines_tidyLines]

/-- A text with line feeds and carriage returns beside its line endings. -/
def raggedText : String := "\r\n\n a\r\r\n \r\n\t\r\nb\u2028\n\r\n"

def tidiedText : String := "\r\n\n a\r\n\r\nb\r\n"

theorem tidy?_tidied_ragged :
    Config.isLineEnding (.str "\r\n") = true ∧
    tidy? "\r\n" raggedText = some tidiedText ∧
    (∀ ls, IsTidied (linesOf "\r\n" raggedText) ls ↔ ls = linesOf "\r\n" tidiedText) ∧
    linesOf "\r\n" tidiedText = [[], ['\n', ' ', 'a'], [], ['b'], []] ∧
    tidy? "\r\n" tidiedText = some tidiedText := by
  have hvalid : Config.isLineEnding (.str "\r\n") = true := rfl
  obtain ⟨tidied, htidied, hlines, hagain⟩ := tidy?_tidied hvalid raggedText
  obtain rfl : tidiedText = tidied := Option.some.inj (.trans (by rfl) htidied)
  exact ⟨hvalid, htidied, hlines, by rfl, hagain⟩

end Output

end ZigDecl
