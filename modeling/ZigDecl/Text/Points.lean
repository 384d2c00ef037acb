import ZigDecl.Text.Blank
import ZigDecl.Text.Case
import ZigDecl.Text.Point

/-! # Words and case of texts with halves

Half of a surrogate pair is neither a blank nor a letter. It stays as it is where a text is trimmed,
cut into words or brought into lower case. -/

namespace ZigDecl.Text

def pointsOf (cs : List Char) : List Point := cs.map .char

/-- The string that code points are, if they have no halves. -/
def stringOf? (ps : List Point) : Option String := (Point.chars? ps).map String.ofList

def isBlankPoint : Point → Bool
  | .char c => isBlank c
  | .half _ => false

/-- A text without the blanks at either end. -/
def trimPoints (ps : List Point) : List Point :=
  dropEndWhile isBlankPoint (ps.dropWhile isBlankPoint)

/-- The words of a text behind the reversed start of its first word. -/
def wordsFrom (start : List Point) : List Point → List (List Point)
  | [] => if start.isEmpty then [] else [start.reverse]
  | p :: ps =>
    if isBlankPoint p then (if start.isEmpty then [] else [start.reverse]) ++ wordsFrom [] ps
    else wordsFrom (p :: start) ps

/-- The words of a text, which blanks separate. -/
def words (ps : List Point) : List (List Point) := wordsFrom [] ps

/-- Lower case of a text behind the reversed characters since its last half. Whether a sigma is
final depends on these alone. -/
def lowerFrom (run : List Char) : List Point → List Point
  | [] => pointsOf (lowerChars run.reverse)
  | .char c :: ps => lowerFrom (c :: run) ps
  | .half n :: ps => pointsOf (lowerChars run.reverse) ++ .half n :: lowerFrom [] ps

def lowerPoints (ps : List Point) : List Point := lowerFrom [] ps

end ZigDecl.Text
