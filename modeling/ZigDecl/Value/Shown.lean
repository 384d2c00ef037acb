import ZigDecl.Value.Basic
import ZigDecl.Text.Quoted
import ZigDecl.Decimal.Shortest

/-! # Values in messages

`Value.shown` writes a value the way messages quote it, and `Value.display` leaves a text that
stands on its own without quotes. -/

namespace ZigDecl

namespace Decimal

/-- Decimal digits with the point after the first `whole` of them. -/
def pointAfter (whole : Nat) (digits : List Char) : List Char :=
  let after := digits.drop whole
  digits.take whole ++ '.' :: (if after.isEmpty then ['0'] else after)

/-- A double in its shortest form: positional from 10^-4 up to 10^16, with at least one digit on
either side of the point, and beyond that with a power of ten of at least two digits. -/
def written (x : Float) : String :=
  if x.isNaN then "nan"
  else
    let sign := if x.toBits.toNat / power 2 63 == 1 then "-" else ""
    if x.isInf then sign ++ "inf"
    else
      let s := shortest x
      let digits := Nat.toDigits 10 s.digits
      let place : Int := s.exponent + digits.length - 1
      let body : List Char :=
        if s.digits == 0 then ['0', '.', '0']
        else if place < -4 || 16 ≤ place then
          let rest := digits.drop 1
          let exponent := Nat.toDigits 10 place.natAbs
          digits.take 1 ++ (if rest.isEmpty then [] else '.' :: rest) ++
            'e' :: (if place < 0 then '-' else '+') ::
            (if exponent.length < 2 then '0' :: exponent else exponent)
        else if place < 0 then
          '0' :: '.' :: List.replicate (place.natAbs - 1) '0' ++ digits
        else
          pointAfter (place.toNat + 1)
            (digits ++ List.replicate (place.toNat + 1 - digits.length) '0')
      sign ++ String.ofList body

end Decimal

namespace Value

variable {τ : Type} [TextLike τ]

mutual

def shown : Value τ → String
  | .null => "None"
  | .bool true => "True"
  | .bool false => "False"
  | .int n => toString n
  | .float x => Decimal.written x
  | .str s => Text.quoted s
  | .arr items => "[" ++ ", ".intercalate (shownItems items) ++ "]"
  | .obj members => "\x7b" ++ ", ".intercalate (shownMembers members) ++ "\x7d"

def shownItems : List (Value τ) → List String
  | [] => []
  | v :: rest => shown v :: shownItems rest

def shownMembers : List (τ × Value τ) → List String
  | [] => []
  | (k, v) :: rest => (Text.quoted k ++ ": " ++ shown v) :: shownMembers rest

end

/-- A value as it is printed on its own: a text without quotes. -/
def display : Value τ → τ
  | .str s => s
  | v => TextLike.lit (shown v)

end Value

end ZigDecl
