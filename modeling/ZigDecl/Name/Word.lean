import ZigDecl.Text.Case

/-! # The words of an external name

A name is read as a sequence of words: runs of ASCII letters and digits, cut where letters meet
digits, where a capital follows a small letter, and before the last capital of a run that a small
letter follows. All other characters only separate words. -/

namespace ZigDecl.Name

open ZigDecl.Text (isLowerAscii isUpperAscii isDigitAscii)

/-- A word of a name; an acronym is a word of two or more capitals. -/
structure Word where
  text : List Char
  isAcronym : Bool
  deriving DecidableEq, Repr

def isLetter (c : Char) : Bool := isLowerAscii c || isUpperAscii c

def isWordChar (c : Char) : Bool := isLetter c || isDigitAscii c

/-- A word that starts with the capital `c`: the capitals after it, without the last one if a small
letter follows that one; or the small letters after it if no capital follows. -/
def takeCapitalized (c : Char) (cs : List Char) : List Char × List Char :=
  let capitals := cs.takeWhile isUpperAscii
  let rest := cs.dropWhile isUpperAscii
  if (rest.head?.map isLowerAscii).getD false then
    match capitals.getLast? with
    | none => (c :: rest.takeWhile isLowerAscii, rest.dropWhile isLowerAscii)
    | some last => (c :: capitals.dropLast, last :: rest)
  else (c :: capitals, rest)

/-- The word at the front of a text that starts with the word character `c`, and the text after
it. -/
def takeWord (c : Char) (cs : List Char) : List Char × List Char :=
  if isUpperAscii c then takeCapitalized c cs
  else if isLowerAscii c then (c :: cs.takeWhile isLowerAscii, cs.dropWhile isLowerAscii)
  else (c :: cs.takeWhile isDigitAscii, cs.dropWhile isDigitAscii)

theorem takeCapitalized_append (c : Char) (cs : List Char) :
    (takeCapitalized c cs).1 ++ (takeCapitalized c cs).2 = c :: cs := by
  have h := List.takeWhile_append_dropWhile (p := isUpperAscii) (l := cs)
  simp only [takeCapitalized]
  split
  · split
    · next hl =>
      have : cs.takeWhile isUpperAscii = [] := by simpa using hl
      rw [this, List.nil_append] at h
      simpa [List.takeWhile_append_dropWhile] using h
    · next last hl =>
      have hne : cs.takeWhile isUpperAscii ≠ [] := by intro h0; simp [h0] at hl
      have hlast := List.getLast?_eq_some_getLast hne
      rw [hl] at hlast
      have hcap := List.dropLast_concat_getLast hne
      rw [← Option.some.inj hlast] at hcap
      have : (cs.takeWhile isUpperAscii).dropLast ++ last :: cs.dropWhile isUpperAscii = cs := by
        calc _ = ((cs.takeWhile isUpperAscii).dropLast ++ [last]) ++ cs.dropWhile isUpperAscii := by
              simp
          _ = cs := by rw [hcap]; exact h
      simpa using this
  · simp [List.takeWhile_append_dropWhile]

/-- The word and the text after it are the text. -/
theorem takeWord_append (c : Char) (cs : List Char) :
    (takeWord c cs).1 ++ (takeWord c cs).2 = c :: cs := by
  unfold takeWord
  split
  · exact takeCapitalized_append c cs
  · split <;> simp [List.takeWhile_append_dropWhile]

theorem takeWord_ne_nil (c : Char) (cs : List Char) : (takeWord c cs).1 ≠ [] := by
  unfold takeWord takeCapitalized
  split
  · dsimp only
    split
    · split <;> simp
    · simp
  · split <;> simp

theorem length_takeWord_lt (c : Char) (cs : List Char) :
    (takeWord c cs).2.length < (c :: cs).length := by
  have h := congrArg List.length (takeWord_append c cs)
  have := List.length_pos_iff.mpr (takeWord_ne_nil c cs)
  rw [List.length_append] at h
  omega

/-- The letters of the words of a text, in order. -/
def wordTexts : List Char → List (List Char)
  | [] => []
  | c :: cs =>
    if isWordChar c then (takeWord c cs).1 :: wordTexts (takeWord c cs).2
    else wordTexts cs
termination_by cs => cs.length
decreasing_by
  · exact length_takeWord_lt c cs
  · simp

def Word.ofText (text : List Char) : Word := ⟨text, 1 < text.length && text.all isUpperAscii⟩

def splitIntoWords (name : String) : List Word := (wordTexts name.toList).map Word.ofText

end ZigDecl.Name
