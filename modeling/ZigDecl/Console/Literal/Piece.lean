import ZigDecl.Text.Case
import ZigDecl.Value.Reader

/-! # Pieces of literals

A literal is cut into numbers, texts in quotes, words and marks. Blanks between them do not count,
and neither do ends of lines inside brackets or what stands behind a hash sign. -/

namespace ZigDecl.Console.Literal

/-- A part of a literal. -/
inductive Piece where
  | number (isComplex : Bool)
  | quoted (isBytes : Bool)
  | word (name : String)
  | dots
  | mark (c : Char)
  | lineEnd
  deriving DecidableEq, Repr

def isHex (c : Char) : Bool := (Value.hexDigit? c).isSome

/-- A digit below a base of at most ten. -/
def isDigitBelow (base : Nat) (c : Char) : Bool :=
  Text.isDigitAscii c && c.toNat < '0'.toNat + base

/-- A character of a word; all that is not ASCII counts. -/
def isWordChar (c : Char) : Bool := c.isAlphanum || c == '_' || 0x80 ≤ c.toNat

/-- The text behind digits, between which single underscores may stand. -/
def dropDigits (p : Char → Bool) : List Char → List Char
  | '_' :: c :: cs => if p c then dropDigits p cs else '_' :: c :: cs
  | c :: cs => if p c then dropDigits p cs else c :: cs
  | [] => []

/-- The text behind digits of which there is at least one, and which start with a digit. -/
def behindDigits? (p : Char → Bool) (cs : List Char) : Option (List Char) :=
  if (cs.head?.map p).getD false then some (dropDigits p cs) else none

/-- The text behind an exponent, if there is one. -/
def behindExponent (cs : List Char) : List Char :=
  match cs with
  | c :: rest =>
    let digits := if rest.head? == some '+' || rest.head? == some '-' then rest.drop 1 else rest
    if c == 'e' || c == 'E' then (behindDigits? Text.isDigitAscii digits).getD cs else cs
  | [] => []

/-- The text behind a fraction, if there is one. -/
def behindFraction : List Char → List Char
  | '.' :: cs => (behindDigits? Text.isDigitAscii cs).getD cs
  | cs => cs

/-- A decimal number at the front of a text, and the text behind it. A whole number has no zeros in
front of it unless it is zero. -/
def decimalAt? (cs : List Char) : Option (Bool × List Char) :=
  let whole := (behindDigits? Text.isDigitAscii cs).getD cs
  let rest := behindExponent (behindFraction whole)
  match rest with
  | c :: behind =>
    if c == 'j' || c == 'J' then some (true, behind)
    else if rest.length < whole.length then some (false, rest)
    else wholeNumber whole
  | [] => if whole.isEmpty then wholeNumber whole else some (false, [])
where
  /-- A number that is nothing but digits. -/
  wholeNumber (behind : List Char) : Option (Bool × List Char) :=
    let digits := (cs.take (cs.length - behind.length)).filter (· != '_')
    if digits.head? == some '0' && digits.any (· != '0') then none else some (false, behind)

/-- A number at the front of a text, and the text behind it, which does not go on as a word. -/
def numberAt? (cs : List Char) : Option (Bool × List Char) := do
  let based := fun (p : Char → Bool) (digits : List Char) =>
    let digits := if digits.head? == some '_' then digits.drop 1 else digits
    (behindDigits? p digits).map (false, ·)
  let (isComplex, rest) ← match cs with
    | '0' :: 'x' :: digits | '0' :: 'X' :: digits => based isHex digits
    | '0' :: 'o' :: digits | '0' :: 'O' :: digits => based (isDigitBelow 8) digits
    | '0' :: 'b' :: digits | '0' :: 'B' :: digits => based (isDigitBelow 2) digits
    | _ => decimalAt? cs
  if (rest.head?.map isWordChar).getD false then none else some (isComplex, rest)

/-- What may stand in front of a quote. -/
def quoteKinds : List (String × Bool × Bool) :=
  [("", false, false), ("u", false, false), ("r", true, false), ("b", false, true),
    ("br", true, true), ("rb", true, true)]

/-- Whether a text starts with so many hexadecimal digits. -/
def startsWithHex (count : Nat) (cs : List Char) : Bool :=
  (cs.take count).length == count && (cs.take count).all isHex

/-- Whether what stands behind a backslash may stand there. -/
def isGoodEscape (isBytes : Bool) : List Char → Bool
  | 'x' :: cs => startsWithHex 2 cs
  | 'u' :: cs => isBytes || startsWithHex 4 cs
  | 'U' :: cs =>
    isBytes || (startsWithHex 8 cs &&
      (cs.take 8).foldl (fun n c => n * 16 + (Value.hexDigit? c).getD 0) 0 ≤ 0x10FFFF)
  | 'N' :: '{' :: cs => isBytes || (cs.head? != some '}' && cs.contains '}')
  | 'N' :: _ => isBytes
  | _ => true

/-- The text behind the quotes that end a quoted text. -/
def behindQuotes? (quotes : List Char) (isRaw isBytes : Bool) : List Char → Option (List Char)
  | [] => none
  | c :: cs =>
    if quotes.isPrefixOf (c :: cs) then some ((c :: cs).drop quotes.length)
    else if (isBytes && 0x80 ≤ c.toNat) || (c == '\n' && quotes.length == 1) then none
    else if c == '\\' then
      match cs with
      | [] => none
      | d :: rest =>
        if (isRaw || isGoodEscape isBytes cs) && !(isBytes && 0x80 ≤ d.toNat) then
          behindQuotes? quotes isRaw isBytes rest
        else none
    else behindQuotes? quotes isRaw isBytes cs

/-- A quoted text behind the characters that tell its kind, and the text behind it. -/
def quotedAt? (kind : List Char) (cs : List Char) : Option (Bool × List Char) := do
  let (_, isRaw, isBytes) ← quoteKinds.find? fun (k, _) => k.toList == Text.lowerChars kind
  let quote ← cs.head?
  let triple := List.replicate 3 quote
  let quotes := if triple.isPrefixOf cs then triple else [quote]
  let rest ← behindQuotes? quotes isRaw isBytes (cs.drop quotes.length)
  return (isBytes, rest)

def isQuote (c : Char) : Bool := c == '"' || c == '\''

/-- The first piece of a text that starts with neither a blank nor the end of a line, and the text
behind it. -/
def pieceAt? (cs : List Char) : Option (Piece × List Char) := do
  let first ← cs.head?
  let isDigit := fun (c : Option Char) => (c.map Text.isDigitAscii).getD false
  let front := cs.takeWhile isWordChar
  let behind := cs.dropWhile isWordChar
  if isDigit first || (first == '.' && isDigit (cs.drop 1).head?) then
    let (isComplex, rest) ← numberAt? cs
    return (.number isComplex, rest)
  else if (behind.head?.map isQuote).getD false then
    let (isBytes, rest) ← quotedAt? front behind
    return (.quoted isBytes, rest)
  else if !front.isEmpty then return (.word (String.ofList front), behind)
  else if "...".toList.isPrefixOf cs then return (.dots, cs.drop 3)
  else if "()\x7b\x7d,:+-".toList.contains first then return (.mark first, cs.drop 1)
  else none

/-- How many brackets are open behind a piece in front of which there were `depth`. -/
def depthBehind (depth : Nat) : Piece → Nat
  | .mark '(' | .mark '{' => depth + 1
  | .mark ')' | .mark '}' => depth - 1
  | _ => depth

/-- The pieces of a text inside `depth` open brackets; at most `fuel` steps. -/
def piecesFrom : Nat → Nat → List Char → Option (List Piece)
  | 0, _, _ => none
  | _, _, [] => some []
  | fuel + 1, depth, '\\' :: '\n' :: cs => piecesFrom fuel depth cs
  | fuel + 1, depth, c :: cs =>
    if c == ' ' || c == '\t' || c == '\x0c' || (c == '\n' && 0 < depth) then
      piecesFrom fuel depth cs
    else if c == '\n' then (piecesFrom fuel depth cs).map (.lineEnd :: ·)
    else if c == '#' then piecesFrom fuel depth (cs.dropWhile (· != '\n'))
    else do
      let (piece, rest) ← pieceAt? (c :: cs)
      return piece :: (← piecesFrom fuel (depthBehind depth piece) rest)

/-- A text in which every line ends with a line feed alone. -/
def withLineFeeds : List Char → List Char
  | '\r' :: '\n' :: cs => '\n' :: withLineFeeds cs
  | c :: cs => (if c == '\r' then '\n' else c) :: withLineFeeds cs
  | [] => []

def pieces (cs : List Char) : Option (List Piece) :=
  piecesFrom (cs.length + 1) 0 (withLineFeeds cs)

end ZigDecl.Console.Literal
