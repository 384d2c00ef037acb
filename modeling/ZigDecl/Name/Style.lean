import ZigDecl.Name.Word

/-! # Naming styles

A styled name is made of the words of an external name: each word is legalized, set in the style of
its place and joined to the others. The result is always an identifier: a leading digit gets an
underscore in front of it, and a name without any letter or digit becomes `_underscore`. -/

namespace ZigDecl.Name

open ZigDecl.Text

/-- How one word is set. -/
inductive WordStyle where
  | lower | upper | firstUpper
  deriving DecidableEq, Repr

def WordStyle.apply : WordStyle → List Char → List Char
  | .lower, cs => lowerChars cs
  | .upper, cs => upperChars cs
  | .firstUpper, [] => []
  | .firstUpper, c :: cs => upperChar c ++ lowerChars cs

def isNameChar (c : Char) : Bool := isWordChar c || c == '_'

/-- The text with an underscore for every character that identifiers may not hold. -/
def legalize (cs : List Char) : List Char := cs.map fun c => if isNameChar c then c else '_'

/-- Whether a text that starts with `c` may stand as it is: `c` is an underscore, or its lower-case
form sorts from `a` up to the single letter `z`. -/
def isStartChar (c : Char) : Bool :=
  c == '_' ||
    match lowerChars [c] with
    | [] => false
    | [d] => 'a' ≤ d && d ≤ 'z'
    | d :: _ => 'a' ≤ d && d < 'z'

/-- The name that stands for a text without any letter or digit. -/
def placeholder : List Char := "_underscore".toList

/-- A word legalized and set in a style; an empty word is dropped. -/
def styledWord (style : WordStyle) (text : List Char) : List (List Char) :=
  match legalize text with
  | [] => []
  | legal => [style.apply legal]

/-- The words in their styles. The style of the first place stays with it if its word is empty. -/
def styledWords (first rest : WordStyle) : List (List Char) → List (List Char)
  | [] => []
  | w :: ws => styledWord first w ++ ws.flatMap (styledWord rest)

/-- Style words and join them into an identifier. -/
def combineWords (first rest : WordStyle) (separator : String) (words : List (List Char)) :
    List Char :=
  match separator.toList.intercalate (styledWords first rest words) with
  | [] => placeholder
  | c :: cs =>
    if (c :: cs).all (· == '_') then placeholder
    else if isStartChar c then c :: cs
    else '_' :: c :: cs

/-- The style of a whole name. -/
inductive NamingCase where
  /-- `user_name` -/
  | snake
  /-- `userName` -/
  | camel
  /-- `UserName` -/
  | pascal
  /-- `USER_NAME` -/
  | screamingSnake
  deriving DecidableEq, Repr

/-- The style of the first word, that of the others, and what stands between them. -/
def NamingCase.parts : NamingCase → WordStyle × WordStyle × String
  | .snake => (.lower, .lower, "_")
  | .camel => (.lower, .firstUpper, "")
  | .pascal => (.firstUpper, .firstUpper, "")
  | .screamingSnake => (.upper, .upper, "_")

/-- An external name as an identifier in a naming style. -/
def NamingCase.style (case : NamingCase) (name : String) : String :=
  let (first, rest, separator) := case.parts
  String.ofList (combineWords first rest separator (wordTexts name.toList))

end ZigDecl.Name
