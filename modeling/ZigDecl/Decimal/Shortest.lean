/-! # The shortest decimal of a binary number

A finite double is `mantissa · 2^exponent`. Every real nearer to it than to its neighbours reads
back as it, so the shortest decimal is the one of fewest digits in that interval; of two with as
few digits the nearer is taken, and of two equally near the even one. -/

namespace ZigDecl.Decimal

def power (base n : Nat) : Nat := Nat.pow base n

/-- A positive number `mantissa · 2^exponent`; `narrowBelow` says that the next smaller double is
only half as far away as the next larger one. -/
structure Binary where
  mantissa : Nat
  exponent : Int
  narrowBelow : Bool
  deriving Repr, DecidableEq

def Binary.ofFloat (x : Float) : Binary :=
  let bits : Nat := x.toBits.toNat
  let fraction : Nat := bits % power 2 52
  let biased : Nat := bits / power 2 52 % power 2 11
  if biased == 0 then ⟨fraction, -1074, false⟩
  else ⟨power 2 52 + fraction, (biased : Int) - 1075, fraction == 0 && biased != 1⟩

/-- A decimal number `digits · 10^exponent`. -/
structure Scaled where
  digits : Nat
  exponent : Int
  deriving Repr, DecidableEq

/-- The quotient `num / den · 10^(-exponent)` as a fraction of natural numbers. -/
def scaleDown (num den : Nat) (exponent : Int) : Nat × Nat :=
  if exponent < 0 then (num * power 10 exponent.natAbs, den)
  else (num, den * power 10 exponent.natAbs)

/-- The number of decimal digits of `n`; zero has none. -/
def digitCount (n : Nat) : Nat := if n = 0 then 0 else (Nat.toDigits 10 n).length

/-- The place of the leading digit of the positive fraction `num / den`: the exponent `e` with
`10^e ≤ num / den < 10^(e + 1)`. -/
def leadingPlace (num den : Nat) : Int :=
  if den ≤ num then (digitCount (num / den) : Int) - 1
  else
    let guess := (digitCount den : Int) - digitCount num
    let (n, d) := scaleDown num den (-guess)
    if d ≤ n then -guess else -guess - 1

/-- The decimal with `count` digits that lies in the rounding interval of `b` and nearest to it. -/
def nearestWith (b : Binary) (count : Nat) : Option Scaled :=
  let quarter := fun (units : Nat) =>
    if b.exponent < 2 then (units, power 2 (2 - b.exponent).toNat)
    else (units * power 2 (b.exponent - 2).toNat, 1)
  let (num, den) := quarter (4 * b.mantissa)
  let (low, _) := quarter (4 * b.mantissa - (if b.narrowBelow then 1 else 2))
  let (high, _) := quarter (4 * b.mantissa + 2)
  let exponent := leadingPlace num den - count + 1
  let below := (scaleDown num den exponent).1 / (scaleDown num den exponent).2
  let inside := fun (digits : Nat) =>
    let (n, d) := scaleDown 1 den exponent
    let (l, h, v) := (low * n, high * n, digits * d)
    if b.mantissa % 2 == 0 then l ≤ v && v ≤ h else l < v && v < h
  let (n, d) := scaleDown num den exponent
  let fromBelow := n - below * d
  let fromAbove := (below + 1) * d - n
  let choice :=
    match inside below, inside (below + 1) with
    | true, true =>
      if fromBelow < fromAbove then some below
      else if fromAbove < fromBelow then some (below + 1)
      else some (if below % 2 == 0 then below else below + 1)
    | true, false => some below
    | false, true => some (below + 1)
    | false, false => none
  choice.map (⟨·, exponent⟩)

/-- The first of the digit counts `count`, `count + 1`, … that reaches the interval. -/
def shortestFrom (b : Binary) : Nat → Nat → Scaled
  | 0, _ => ⟨b.mantissa, 0⟩
  | more + 1, count => (nearestWith b count).getD (shortestFrom b more (count + 1))

/-- Move factors of ten from the digits to the exponent. -/
def Scaled.normalize : Nat → Scaled → Scaled
  | 0, s => s
  | fuel + 1, s =>
    if s.digits != 0 && s.digits % 10 == 0 then normalize fuel ⟨s.digits / 10, s.exponent + 1⟩
    else s

/-- The shortest decimal that reads back as the magnitude of `x`. Seventeen digits always do. -/
def shortest (x : Float) : Scaled :=
  let b := Binary.ofFloat x
  if b.mantissa = 0 then ⟨0, 0⟩ else (shortestFrom b 17 1).normalize 20

end ZigDecl.Decimal
