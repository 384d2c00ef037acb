import ZigDecl.Console.ColorTable
import ZigDecl.Text.Blank
import ZigDecl.Text.Case
import ZigDecl.Text.Digit
import ZigDecl.Text.Lines
import ZigDecl.Text.Points

/-! # Styles

A style is written in words: attributes, which `not` turns off, a colour, the colour of the
background behind `on`, and the address of a link behind `link`. Two texts mean the same style when
they have the same normal form. -/

namespace ZigDecl.Console

/-- What a style turns on or off. -/
inductive Attribute where
  | bold | dim | italic | underline | blink | fastBlink | reverse | conceal | strike
  | doubleUnderline | frame | encircle | overline
  deriving DecidableEq, Repr

namespace Attribute

/-- All attributes in the order in which they are written. -/
def all : List Attribute := [.bold, .dim, .italic, .underline, .blink, .fastBlink, .reverse,
  .conceal, .strike, .doubleUnderline, .frame, .encircle, .overline]

/-- The words for an attribute, the full one first. -/
def words : Attribute → String × Option String
  | .bold => ("bold", some "b")
  | .dim => ("dim", some "d")
  | .italic => ("italic", some "i")
  | .underline => ("underline", some "u")
  | .blink => ("blink", none)
  | .fastBlink => ("blink2", none)
  | .reverse => ("reverse", some "r")
  | .conceal => ("conceal", some "c")
  | .strike => ("strike", some "s")
  | .doubleUnderline => ("underline2", some "uu")
  | .frame => ("frame", none)
  | .encircle => ("encircle", none)
  | .overline => ("overline", some "o")

def ofWord? (word : String) : Option Attribute :=
  all.find? fun a => a.words.1 == word || a.words.2 == some word

end Attribute

/-- Why a text is no style. -/
inductive StyleError where
  | unknown
  /-- A colour lacks one of its numbers. -/
  | missingNumber
  deriving DecidableEq, Repr

/-- A style; colours are kept as they are written in lower case. -/
structure Style where
  /-- The attributes that are turned on or off, the last one first. -/
  attributes : List (Attribute × Bool)
  color : Option String
  background : Option String
  link : Option (List Point)
  deriving DecidableEq, Repr

namespace Style

def plain : Style := ⟨[], none, none, none⟩

/-- What stands between a start and an end of a text. -/
def between? (start finish : String) (cs : List Char) : Option (List Char) :=
  let rest := cs.drop start.length
  if start.toList.isPrefixOf cs && finish.toList.isSuffixOf rest then
    some (rest.take (rest.length - finish.length))
  else none

def maxShade : Nat := 255

/-- A colour of three numbers with commas between them. -/
def checkShades (cs : List Char) : Except StyleError Unit :=
  let shades := Text.splitAt ',' cs
  if shades.length != 3 then .error .unknown
  else if shades.any (·.isEmpty) then .error .missingNumber
  else if shades.all fun s => (Text.number? s).any (· ≤ maxShade) then .ok ()
  else .error .unknown

/-- Check that a word in lower case is a colour: a name, six hexadecimal digits, the number of a
colour, or the numbers of its red, green and blue. -/
def checkColor (word : List Char) : Except StyleError Unit :=
  if colorNames.contains (String.ofList word) then .ok ()
  else
    match between? "#" "" word, between? "color(" ")" word, between? "rgb(" ")" word with
    | some digits, _, _ =>
      if digits.length == 6 && digits.all fun c => Text.isDigitAscii c || ('a' ≤ c && c ≤ 'f') then
        .ok ()
      else .error .unknown
    | _, some digits, _ =>
      if digits.length ≤ 3 && digits.all Text.isDigitAscii &&
          (Text.number? digits).any (· ≤ maxShade) then .ok ()
      else .error .unknown
    | _, _, some shades =>
      if !shades.isEmpty && shades.all fun c => Text.isDecimal c || c == ',' then checkShades shades
      else .error .unknown
    | _, _, _ => .error .unknown

/-- The colour of a word, as it is kept. -/
def readColor (word : List Point) : Except StyleError String :=
  match Point.chars? (Text.lowerPoints word) with
  | some name => do
    checkColor name
    return String.ofList name
  | none => .error .unknown

def set (s : Style) (a : Attribute) (isOn : Bool) : Style :=
  { s with attributes := (a, isOn) :: s.attributes }

/-- The attribute that a word names. -/
def attributeOf? (word : List Point) : Option Attribute :=
  (Text.stringOf? word).bind Attribute.ofWord?

/-- Read words into a style. The word behind `not` is taken as it stands, and the others do not
depend on case. -/
def readWords (s : Style) : List (List Point) → Except StyleError Style
  | [] => .ok s
  | [word] =>
    let word := Text.lowerPoints word
    match attributeOf? word with
    | some a => .ok (s.set a true)
    | none => do return { s with color := some (← readColor word) }
  | word :: next :: rest =>
    let word := Text.lowerPoints word
    match Text.stringOf? word with
    | some "on" => do readWords { s with background := some (← readColor next) } rest
    | some "not" =>
      match attributeOf? next with
      | some a => readWords (s.set a false) rest
      | none => .error .unknown
    | some "link" => readWords { s with link := some next } rest
    | _ =>
      match attributeOf? word with
      | some a => readWords (s.set a true) (next :: rest)
      | none => do readWords { s with color := some (← readColor word) } (next :: rest)

def ofText (ps : List Point) : Except StyleError Style :=
  if ps.isEmpty || Text.stringOf? (Text.trimPoints ps) == some "none" then .ok plain
  else plain.readWords (Text.words ps)

/-- The words of an attribute that a style sets. -/
def attributeText? (s : Style) (a : Attribute) : Option String :=
  (s.attributes.find? (·.1 == a)).map fun (a, isOn) => (if isOn then "" else "not ") ++ a.words.1

/-- A style as it is written in normal form. -/
def toText (s : Style) : List Point :=
  let words := Attribute.all.filterMap s.attributeText? ++ s.color.toList ++
    (s.background.toList.map ("on " ++ ·))
  let link := s.link.toList.map (Text.pointsOf "link ".toList ++ ·)
  let parts := words.map (fun word => Text.pointsOf word.toList) ++ link
  if parts.isEmpty then Text.pointsOf "none".toList else [.char ' '].intercalate parts

/-- The normal form of a text that may stand for a style; another text is only trimmed and brought
into lower case. -/
def normalForm (ps : List Point) : Except StyleError (List Point) :=
  match ofText ps with
  | .ok s => .ok s.toText
  | .error .unknown => .ok (Text.lowerPoints (Text.trimPoints ps))
  | .error .missingNumber => .error .missingNumber

end Style

end ZigDecl.Console
