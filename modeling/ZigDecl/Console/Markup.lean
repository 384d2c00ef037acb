import ZigDecl.Console.CellWidth
import ZigDecl.Console.EmojiTable
import ZigDecl.Console.Literal
import ZigDecl.Console.Style
import ZigDecl.Text.Quoted

/-! # Messages with markup

A printed message may hold tags in brackets, which set a style and are not shown, and names of
pictographs between colons. A closing tag closes the last open tag of its style, or the last one at
all if it has no name; one that closes nothing makes the message unprintable. Styles do not show in
plain text, so all that is left of a message is its text. -/

namespace ZigDecl.Console

/-- A part of a message: text, or the inside of a tag. -/
inductive Segment where
  | text (points : List Point)
  | tag (inside : List Point)
  deriving DecidableEq, Repr

/-- A code point that the inside of a tag starts with. -/
def isTagStart : Point → Bool
  | .char c => Text.isLowerAscii c || c == '#' || c == '/' || c == '@'
  | .half _ => false

/-- The inside of a tag at the front of a text, and the text after it. -/
def tagAt? : List Point → Option (List Point × List Point)
  | .char '[' :: p :: ps =>
    let inside := fun q => q != .char ']' && q != .char '['
    match isTagStart p, ps.dropWhile inside with
    | true, .char ']' :: rest => some (p :: ps.takeWhile inside, rest)
    | _, _ => none
  | _ => none

/-- Put a code point in front of the segments. -/
def consText (p : Point) : List Segment → List Segment
  | .text ps :: rest => .text (p :: ps) :: rest
  | segments => .text [p] :: segments

/-- The segments of a message, at most `fuel` code points and tags. Two backslashes in front of a
tag stand for one, and a single one makes the tag text. -/
def segmentsFrom : Nat → List Point → List Segment
  | 0, _ => []
  | _, [] => []
  | fuel + 1, p :: ps =>
    let slashes := (p :: ps).takeWhile (· == .char '\\')
    match tagAt? ((p :: ps).drop slashes.length) with
    | none => consText p (segmentsFrom fuel ps)
    | some (inside, rest) =>
      .text (List.replicate (slashes.length / 2) (.char '\\')) ::
        (if slashes.length % 2 == 1 then .text (.char '[' :: inside ++ [.char ']'])
          else .tag inside) ::
        .text [] :: segmentsFrom fuel rest

def segments (ps : List Point) : List Segment := segmentsFrom (ps.length + 1) ps

/-- A pictograph's name up to its closing colon, the mark that chooses how it is drawn, and the text
after the colon. -/
def codeBody : List Point → Option (List Point × List Char × List Point)
  | [] => none
  | p :: ps =>
    if p == .char ':' then some ([], [], ps)
    else if (Text.pointsOf "-emoji:".toList).isPrefixOf (p :: ps) then
      some ([], ['\uFE0F'], ps.drop 6)
    else if (Text.pointsOf "-text:".toList).isPrefixOf (p :: ps) then
      some ([], ['\uFE0E'], ps.drop 5)
    else if Text.isBlankPoint p then none
    else (codeBody ps).map fun (name, mark, rest) => (p :: name, mark, rest)

/-- The pictograph of a name, whatever its case. -/
def pictographOf? (name : List Point) : Option (List Char) :=
  (Point.chars? (Text.lowerPoints name)).bind emojiOf?

/-- A text with pictographs in place of their names; at most `fuel` code points and names. -/
def drawFrom : Nat → List Point → List Point
  | 0, _ => []
  | _, [] => []
  | fuel + 1, .char ':' :: ps =>
    match codeBody ps with
    | none => .char ':' :: drawFrom fuel ps
    | some (name, mark, rest) =>
      match pictographOf? name with
      | some glyph => Text.pointsOf (glyph ++ mark) ++ drawFrom fuel rest
      | none => .char ':' :: ps.take (ps.length - rest.length) ++ drawFrom fuel rest
  | fuel + 1, p :: ps => p :: drawFrom fuel ps

/-- A text with pictographs in place of their names. -/
def draw (ps : List Point) : List Point := drawFrom (ps.length + 1) ps

/-- A text without the backslashes in front of opening brackets. -/
def unescape : List Point → List Point
  | .char '\\' :: .char '[' :: ps => .char '[' :: unescape ps
  | p :: ps => p :: unescape ps
  | [] => []

/-- An open tag: the normal form of its style, and what stands behind its equals sign. -/
structure Tag where
  name : List Point
  parameters : Option (List Point)
  deriving DecidableEq, Repr

/-- Why a message cannot be printed. -/
inductive MarkupError where
  | nothingToClose
  /-- The parameters of a closed tag are no literal. -/
  | badParameters
  /-- A colour lacks one of its numbers. -/
  | missingNumber
  deriving DecidableEq, Repr

namespace Tag

def normalName (name : List Point) : Except MarkupError (List Point) :=
  (Style.normalForm name).mapError fun _ => .missingNumber

/-- The tag with a name and parameters inside its brackets. -/
def ofInside (inside : List Point) : Except MarkupError Tag := do
  let name ← normalName (inside.takeWhile (· != .char '='))
  return ⟨name, (inside.dropWhile (· != .char '=')).tail?⟩

/-- Whether a tag stands for an action and not for a style. -/
def isAction (t : Tag) : Bool := t.name.head? == some (.char '@')

/-- Whether the parameters of an action are a literal, which has no halves. -/
def areLiteral (parameters : List Point) : Bool :=
  (Point.chars? parameters).any fun cs => Literal.isLiteral (Literal.ofParameters cs)

/-- Check a tag when it is closed: the parameters of an action have to be a literal. -/
def checkClosed (t : Tag) : Except MarkupError Unit :=
  let parameters := t.parameters.getD []
  if t.isAction && !parameters.isEmpty && !areLiteral parameters then .error .badParameters
  else .ok ()

/-- Check the style of a tag with its parameters, which counts once the message is drawn. A text
that is no style changes nothing. -/
def checkStyle (t : Tag) : Except MarkupError Unit :=
  match t.parameters with
  | none => .ok ()
  | some parameters =>
    match Style.ofText (t.name ++ .char ' ' :: parameters) with
    | .error .missingNumber => .error .missingNumber
    | _ => .ok ()

/-- The tag that a closing tag closes, and the other open ones; without a name it is the last. -/
def close? (name : List Point) : List Tag → Option (Tag × List Tag)
  | [] => none
  | tag :: rest =>
    if name.isEmpty || tag.name == name then some (tag, rest)
    else (close? name rest).map fun (found, rest) => (found, tag :: rest)

end Tag

/-- The text of segments and all their tags, where `tags` are open, the last one first. -/
def textOf (tags : List Tag) : List Segment → Except MarkupError (List Point × List Tag)
  | [] => .ok ([], tags)
  | .text ps :: rest => do
    let (text, styles) ← textOf tags rest
    return (draw (unescape ps) ++ text, styles)
  | .tag (.char '/' :: inside) :: rest => do
    let name := Text.trimPoints (inside.takeWhile (· != .char '='))
    let name ← if name.isEmpty then pure [] else Tag.normalName name
    match Tag.close? name tags with
    | none => .error .nothingToClose
    | some (tag, tags) => do
      tag.checkClosed
      let (text, styles) ← textOf tags rest
      return (text, if tag.isAction then styles else tag :: styles)
  | .tag inside :: rest => do textOf ((← Tag.ofInside inside) :: tags) rest

def markedText (ps : List Point) : Except MarkupError (List Point) := do
  let (text, styles) ← textOf [] (segments ps)
  styles.forM Tag.checkStyle
  return text

def isDropped : Point → Bool
  | .char c => c.toNat == 7 || c.toNat == 8 || (11 ≤ c.toNat && c.toNat ≤ 13)
  | .half _ => false

/-- The number of cells that a text takes; a half takes one, as a letter does. -/
def pointsCells (ps : List Point) : Nat :=
  charsCells none (ps.map fun
    | .char c => c
    | .half _ => 'x')

/-- A text with blanks in place of its tabs. A tab is a blank and as many more as lead to the next
multiple of eight cells of its line; `part` is what stands in front of it since the last one, in
reverse. -/
def expandTabs (column : Nat) (part : List Point) : List Point → List Point
  | [] => part.reverse
  | .char '\n' :: ps => part.reverse ++ .char '\n' :: expandTabs 0 [] ps
  | .char '\t' :: ps =>
    let before := part.reverse ++ [.char ' ']
    let reached := column + pointsCells before
    let next := (reached + 7) / 8 * 8
    before ++ List.replicate (next - reached) (.char ' ') ++ expandTabs next [] ps
  | p :: ps => expandTabs column (p :: part) ps

/-- What is put out for a code point; a half is written by its number. -/
def putOut : Point → List Char
  | .char c => [c]
  | .half n => Text.halfEscape n

/-- What a message shows. A message without brackets is taken as it is but for its pictographs. -/
def shownText {τ : Type} [TextLike τ] (message : τ) : Except MarkupError String := do
  let ps := TextLike.points message
  let text ← if ps.contains (.char '[') then markedText ps else .ok (draw ps)
  return String.ofList ((expandTabs 0 [] (text.filter fun p => !isDropped p)).flatMap putOut)

end ZigDecl.Console
