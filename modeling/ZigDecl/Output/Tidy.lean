import ZigDecl.Text.Blank
import ZigDecl.Text.Lines

/-! # Tidy text

Tidying takes the blanks off the end of every line and leaves one empty line of each run of blank
lines. Lines are those between the occurrences of the line ending. -/

namespace ZigDecl.Output

/-- Lines without blanks at their ends and without a second empty line in a row; `afterBlank` says
that the line before was blank. -/
def tidyLines (afterBlank : Bool) : List (List Char) → List (List Char)
  | [] => []
  | line :: rest =>
    match Text.trimEnd line with
    | [] => if afterBlank then tidyLines true rest else [] :: tidyLines true rest
    | kept => kept :: tidyLines false rest

/-- A tidy text; `none` if the line ending is empty, as nothing can be cut at it. -/
def tidy? (lineEnding code : String) : Option String :=
  if lineEnding = "" then none
  else
    let lines := Text.splitOn lineEnding.toList code.toList
    some (String.ofList (lineEnding.toList.intercalate (tidyLines false lines)))

end ZigDecl.Output
