/-! # Blanks at the ends of a text

White space is the Unicode set together with the four information separators. Trimming works on
character lists, and the `String` forms are the same functions read through `toList`. -/

namespace ZigDecl.Text

/-- The white space characters: ASCII blanks, the separators U+001C to U+001F, U+0085, and the
Unicode space, line and paragraph separators. -/
def isBlank (c : Char) : Bool :=
  let n := c.toNat
  (9 ≤ n && n ≤ 13) || (28 ≤ n && n ≤ 32) || n == 0x85 || n == 0xA0 || n == 0x1680 ||
    (0x2000 ≤ n && n ≤ 0x200A) || n == 0x2028 || n == 0x2029 || n == 0x202F || n == 0x205F ||
    n == 0x3000

/-- Drop the longest tail whose elements all satisfy `p`. -/
def dropEndWhile {α : Type} (p : α → Bool) : List α → List α
  | [] => []
  | c :: cs =>
    match dropEndWhile p cs with
    | [] => if p c then [] else [c]
    | kept => c :: kept

/-- A text without the blanks at its end. -/
def trimEnd (cs : List Char) : List Char := dropEndWhile isBlank cs

/-- A text without the blanks at either end. -/
def trim (cs : List Char) : List Char := trimEnd (cs.dropWhile isBlank)

def allBlank (cs : List Char) : Bool := cs.all isBlank

/-- A string without the blanks at its end. -/
def stripEnd (s : String) : String := String.ofList (trimEnd s.toList)

/-- A string without the line feeds at its end. -/
def stripLineFeeds (s : String) : String := String.ofList (dropEndWhile (· == '\n') s.toList)

@[simp] theorem toList_stripEnd (s : String) : (stripEnd s).toList = trimEnd s.toList := by
  simp [stripEnd]

theorem allBlank_iff_trimEnd {cs : List Char} : trimEnd cs = [] ↔ allBlank cs = true := by
  induction cs with
  | nil => simp [trimEnd, dropEndWhile, allBlank]
  | cons c cs ih =>
    simp only [trimEnd, dropEndWhile, allBlank, List.all_cons, Bool.and_eq_true] at ih ⊢
    cases h : dropEndWhile isBlank cs with
    | nil => by_cases hc : isBlank c = true <;> simp_all
    | cons d ds => simp_all

end ZigDecl.Text
