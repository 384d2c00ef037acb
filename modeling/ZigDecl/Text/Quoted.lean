import ZigDecl.Text.Point
import ZigDecl.Text.Printable

/-! # Quoted text in messages

Texts are quoted with apostrophes, or with quotation marks when they hold an apostrophe and no
quotation mark. Characters without a printed form, and halves of surrogate pairs, are written by
number. -/

namespace ZigDecl.Text

/-- The lower-case hexadecimal digits of `n`, at least `width` of them. -/
def hexPadded (width n : Nat) : List Char :=
  let digits := Nat.toDigits 16 n
  List.replicate (width - digits.length) '0' ++ digits

/-- The mark that `quote` puts around a text. -/
def quoteMark (ps : List Point) : Char :=
  if ps.contains (.char '\'') && !ps.contains (.char '"') then '"' else '\''

/-- One character inside a text quoted with `mark`. -/
def quotedChar (mark c : Char) : List Char :=
  if c == mark || c == '\\' then ['\\', c]
  else if c == '\n' then ['\\', 'n']
  else if c == '\r' then ['\\', 'r']
  else if c == '\t' then ['\\', 't']
  else if isPrintable c then [c]
  else if c.toNat < 0x100 then '\\' :: 'x' :: hexPadded 2 c.toNat
  else if c.toNat < 0x10000 then '\\' :: 'u' :: hexPadded 4 c.toNat
  else '\\' :: 'U' :: hexPadded 8 c.toNat

/-- The number of half of a surrogate pair behind a backslash. -/
def halfEscape (n : Fin 2048) : List Char := '\\' :: 'u' :: hexPadded 4 (0xD800 + n)

def quotedPoint (mark : Char) : Point → List Char
  | .char c => quotedChar mark c
  | .half n => halfEscape n

def quote (ps : List Point) : List Char :=
  let mark := quoteMark ps
  mark :: ps.flatMap (quotedPoint mark) ++ [mark]

def quoted {τ : Type} [TextLike τ] (s : τ) : String := String.ofList (quote (TextLike.points s))

end ZigDecl.Text
