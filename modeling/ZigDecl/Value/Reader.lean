import ZigDecl.Value.Basic

/-! # Reading JSON text

The reader accepts the JSON grammar together with the number words `NaN`, `Infinity` and
`-Infinity`. Of several members with one key the first gives the place and the last the value.
Each step consumes characters, so twice the length of the text bounds the depth of the reading.
There is no other limit: a value may be nested as deeply as its text has room for. -/

namespace ZigDecl.Value

/-- Why a text is no JSON document. -/
inductive ReadError where
  /-- The text does not follow the grammar. -/
  | malformed
  /-- A whole number has more digits than are converted. -/
  | tooManyDigits
  deriving DecidableEq, Repr

/-- The greatest number of digits of a whole number. -/
def maxDigits : Nat := 4300

def isSpace (c : Char) : Bool := c == ' ' || c == '\t' || c == '\n' || c == '\r'

def skipSpaces (cs : List Char) : List Char := cs.dropWhile isSpace

def hexDigit? (c : Char) : Option Nat :=
  if c.isDigit then some (c.toNat - 48)
  else if 'a' ≤ c && c ≤ 'f' then some (c.toNat - 87)
  else if 'A' ≤ c && c ≤ 'F' then some (c.toNat - 55)
  else none

def hex4? (a b c d : Char) : Option Nat := do
  return (((← hexDigit? a) * 16 + (← hexDigit? b)) * 16 + (← hexDigit? c)) * 16 + (← hexDigit? d)

/-- The character behind a backslash, for the escapes of one letter. -/
def escape? : Char → Option Char
  | '"' => some '"'
  | '\\' => some '\\'
  | '/' => some '/'
  | 'b' => some '\x08'
  | 'f' => some '\x0c'
  | 'n' => some '\n'
  | 'r' => some '\r'
  | 't' => some '\t'
  | _ => none

/-- What a first half of a surrogate pair that was read just before is on its own. -/
def alone (high : Option Nat) : List Point := (high.map Point.ofHalf).toList

/-- The rest of a text after its opening quote, where `high` is a first half of a surrogate pair
read just before. Only a second half right behind it makes a character of it. -/
def readText (high : Option Nat) : List Char → Except ReadError (List Point × List Char)
  | [] => .error .malformed
  | '"' :: cs => .ok (alone high, cs)
  | '\\' :: 'u' :: a :: b :: c :: d :: cs =>
    match hex4? a b c d with
    | none => .error .malformed
    | some n =>
      if 0xDC00 ≤ n && n < 0xE000 then do
        let (text, rest) ← readText none cs
        let p := match high with
          | some h => .char (Char.ofNat (0x10000 + (h - 0xD800) * 0x400 + (n - 0xDC00)))
          | none => .ofHalf n
        return (p :: text, rest)
      else if 0xD800 ≤ n && n < 0xDC00 then do
        let (text, rest) ← readText (some n) cs
        return (alone high ++ text, rest)
      else do
        let (text, rest) ← readText none cs
        return (alone high ++ .char (Char.ofNat n) :: text, rest)
  | '\\' :: e :: cs =>
    match escape? e with
    | none => .error .malformed
    | some c => do
      let (text, rest) ← readText none cs
      return (alone high ++ .char c :: text, rest)
  | c :: cs =>
    if c.toNat < 32 || c == '\\' then .error .malformed
    else do
      let (text, rest) ← readText none cs
      return (alone high ++ .char c :: text, rest)

def ofDigits (digits : List Char) : Nat := digits.foldl (fun n c => n * 10 + (c.toNat - 48)) 0

/-- The digits at the front of a text. -/
def readDigits (cs : List Char) : List Char × List Char :=
  (cs.takeWhile Char.isDigit, cs.dropWhile Char.isDigit)

/-- A fraction at the front of a text: a point and at least one digit. -/
def readFraction (cs : List Char) : Option (List Char) × List Char :=
  match cs with
  | '.' :: rest =>
    match readDigits rest with
    | ([], _) => (none, cs)
    | (digits, rest) => (some digits, rest)
  | _ => (none, cs)

/-- A power of ten at the front of a text: a letter, a sign if any, and at least one digit. -/
def readPower (cs : List Char) : Option Int × List Char :=
  match cs with
  | e :: rest =>
    if e == 'e' || e == 'E' then
      let (sign, rest) : Int × List Char := match rest with
        | '-' :: rest => (-1, rest)
        | '+' :: rest => (1, rest)
        | rest => (1, rest)
      match readDigits rest with
      | ([], _) => (none, cs)
      | (digits, rest) => (some (sign * ofDigits digits), rest)
    else (none, cs)
  | [] => (none, cs)

def toFloat (digits : Nat) (power : Int) : Float :=
  if digits = 0 then 0.0
  else if power > 400 then 1.0 / 0.0
  else if power < -(20000 : Int) - (Nat.toDigits 10 digits).length then 0.0
  else Float.ofScientific digits (power < 0) power.natAbs

/-- A number at the front of a text, after its minus sign if `negative`. -/
def readNumber (negative : Bool) (cs : List Char) : Except ReadError (Value RawText × List Char) := do
  let (whole, rest) ← match cs with
    | '0' :: rest => pure (['0'], rest)
    | _ =>
      match readDigits cs with
      | ([], _) => throw .malformed
      | found => pure found
  let (fraction, rest) := readFraction rest
  let (power, rest) := readPower rest
  if fraction.isNone && power.isNone then
    if whole.length > maxDigits then throw .tooManyDigits
    let n : Int := ofDigits whole
    return (.int (if negative then -n else n), rest)
  else
    let after := fraction.getD []
    let x := toFloat (ofDigits (whole ++ after)) (power.getD 0 - after.length)
    return (.float (if negative then -x else x), rest)

/-- The text after a word that it must start with. -/
def expect (word : String) (cs : List Char) : Except ReadError (List Char) :=
  if word.toList.isPrefixOf cs then .ok (cs.drop word.length) else .error .malformed

mutual

/-- A value at the front of a text. -/
def readValue : Nat → List Char → Except ReadError (Value RawText × List Char)
  | 0, _ => .error .malformed
  | fuel + 1, cs =>
    match cs with
    | '"' :: rest => do
      let (text, rest) ← readText none rest
      return (.str ⟨text⟩, rest)
    | '[' :: rest =>
      match skipSpaces rest with
      | ']' :: rest => .ok (.arr [], rest)
      | rest => do
        let (items, rest) ← readItems fuel rest
        return (.arr items, rest)
    | '\x7b' :: rest =>
      match skipSpaces rest with
      | '\x7d' :: rest => .ok (.obj [], rest)
      | rest => do
        let (members, rest) ← readMembers fuel rest
        return (.obj (putAll members []), rest)
    | 'n' :: _ => return (.null, ← expect "null" cs)
    | 't' :: _ => return (.bool true, ← expect "true" cs)
    | 'f' :: _ => return (.bool false, ← expect "false" cs)
    | 'N' :: _ => return (.float (0.0 / 0.0), ← expect "NaN" cs)
    | 'I' :: _ => return (.float (1.0 / 0.0), ← expect "Infinity" cs)
    | '-' :: 'I' :: _ => return (.float (-1.0 / 0.0), ← expect "-Infinity" cs)
    | '-' :: rest => readNumber true rest
    | cs => readNumber false cs

/-- The items of a list up to its closing bracket. -/
def readItems : Nat → List Char → Except ReadError (List (Value RawText) × List Char)
  | 0, _ => .error .malformed
  | fuel + 1, cs => do
    let (item, rest) ← readValue fuel cs
    match skipSpaces rest with
    | ']' :: rest => return ([item], rest)
    | ',' :: rest =>
      let (items, rest) ← readItems fuel (skipSpaces rest)
      return (item :: items, rest)
    | _ => throw .malformed

/-- The members of an object up to its closing brace. -/
def readMembers : Nat → List Char →
    Except ReadError (List (RawText × Value RawText) × List Char)
  | 0, _ => .error .malformed
  | fuel + 1, cs => do
    let (key, rest) ← match cs with
      | '"' :: rest => readText none rest
      | _ => throw .malformed
    match skipSpaces rest with
    | ':' :: rest =>
      let (value, rest) ← readValue fuel (skipSpaces rest)
      let member := (RawText.mk key, value)
      match skipSpaces rest with
      | '\x7d' :: rest => return ([member], rest)
      | ',' :: rest =>
        let (members, rest) ← readMembers fuel (skipSpaces rest)
        return (member :: members, rest)
      | _ => throw .malformed
    | _ => throw .malformed

end

def ofJson (text : String) : Except ReadError (Value RawText) := do
  let cs := text.toList
  let (value, rest) ← readValue (2 * cs.length + 2) (skipSpaces cs)
  if (skipSpaces rest).isEmpty then return value else throw .malformed

end ZigDecl.Value
