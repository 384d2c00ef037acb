/-! # Cutting text at separators and at line breaks

`splitAt` cuts at every occurrence of one character, `splitOn` at every occurrence of a separator
of any length, and `lines` at every Unicode line break. -/

namespace ZigDecl.Text

/-- Put `c` in front of the first piece. -/
def consFirst (c : Char) : List (List Char) → List (List Char)
  | [] => [[c]]
  | p :: ps => (c :: p) :: ps

/-- The pieces between the occurrences of `sep`; there is always at least one. -/
def splitAt (sep : Char) : List Char → List (List Char)
  | [] => [[]]
  | c :: cs => if c == sep then [] :: splitAt sep cs else consFirst c (splitAt sep cs)

/-- The pieces between the leftmost occurrences of `sep`, where `skip` characters of an occurrence
already found are still to be passed over. -/
def splitOnFrom (sep : List Char) : Nat → List Char → List (List Char)
  | _, [] => [[]]
  | skip + 1, _ :: cs => splitOnFrom sep skip cs
  | 0, c :: cs =>
    if sep.isPrefixOf (c :: cs) then [] :: splitOnFrom sep (sep.length - 1) cs
    else consFirst c (splitOnFrom sep 0 cs)

/-- The pieces between the leftmost occurrences of a nonempty `sep`. -/
def splitOn (sep cs : List Char) : List (List Char) := splitOnFrom sep 0 cs

/-- The characters that end a line: line feed, vertical tab, form feed, carriage return, the
separators U+001C to U+001E, U+0085, and the Unicode line and paragraph separators. -/
def isLineBreak (c : Char) : Bool :=
  let n := c.toNat
  (10 ≤ n && n ≤ 13) || (28 ≤ n && n ≤ 30) || n == 0x85 || n == 0x2028 || n == 0x2029

/-- The lines of a text. A carriage return and the line feed after it end one line, and a break at
the very end opens no further line. -/
def lines : List Char → List (List Char)
  | [] => []
  | '\r' :: '\n' :: cs => [] :: lines cs
  | c :: cs => if isLineBreak c then [] :: lines cs else consFirst c (lines cs)

def splitLines (s : String) : List String := (splitAt '\n' s.toList).map String.ofList

theorem splitAt_ne_nil (sep : Char) (cs : List Char) : splitAt sep cs ≠ [] := by
  cases cs with
  | nil => simp [splitAt]
  | cons c cs =>
    simp only [splitAt]
    split
    · simp
    · cases splitAt sep cs <;> simp [consFirst]

/-- Joining the pieces again gives the text that was cut. -/
theorem intercalate_splitAt (sep : Char) (cs : List Char) :
    [sep].intercalate (splitAt sep cs) = cs := by
  induction cs with
  | nil => simp [splitAt, List.intercalate]
  | cons c cs ih =>
    simp only [splitAt]
    cases h : splitAt sep cs with
    | nil => exact absurd h (splitAt_ne_nil sep cs)
    | cons p ps =>
      rw [h] at ih
      by_cases hc : c = sep
      · subst hc; simpa [List.intercalate] using ih
      · cases ps <;> simp_all [consFirst, List.intercalate]

end ZigDecl.Text
