import ZigDecl.Text.Blank
import ZigDecl.Text.Lines

/-! # Blocks of lines

Operations that set every line of a text off from the margin. -/

namespace ZigDecl.Text

/-- A line behind `lead`, if there is anything on it. -/
def indentLine (lead line : List Char) : List Char :=
  if allBlank line then line else lead ++ line

/-- A text with all lines that are not blank indented by `width` blanks. -/
def indent (width : Nat) (s : String) : String :=
  let lead := List.replicate width ' '
  String.ofList (['\n'].intercalate ((splitAt '\n' s.toList).map (indentLine lead)))

/-- A line as a comment that starts with `mark`, without blanks at its end. -/
def commentLine (mark line : List Char) : List Char := trimEnd (mark ++ ' ' :: line)

/-- A text with every line made a comment. -/
def comment (mark : String) (s : String) : String :=
  String.ofList (['\n'].intercalate ((splitAt '\n' s.toList).map (commentLine mark.toList)))

end ZigDecl.Text
