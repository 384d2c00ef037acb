import ZigDecl.Text.Lines
import ZigDecl.Text.Case
import ZigDecl.Value.Reader

/-! # Hosts in brackets

A host in brackets is an address of version six, with a zone behind a percent sign if it has one, or
an address of a version to come. -/

namespace ZigDecl.Host

def isHex (c : Char) : Bool := (Value.hexDigit? c).isSome

/-- A group of an address: up to four hexadecimal digits. -/
def isGroup (cs : List Char) : Bool := !cs.isEmpty && cs.length ≤ 4 && cs.all isHex

/-- A part of an address of version four: a number up to 255 without leading zeros. -/
def isOctet (cs : List Char) : Bool :=
  !cs.isEmpty && cs.length ≤ 3 && cs.all Text.isDigitAscii && (cs.head? != some '0' || cs == ['0']) &&
    Value.ofDigits cs ≤ 255

def isVersionFour (cs : List Char) : Bool :=
  let octets := Text.splitAt '.' cs
  octets.length == 4 && octets.all isOctet

/-- The groups of an address, where an address of version four at the end counts as two. -/
def groups? (cs : List Char) : Option (List (List Char)) :=
  let parts := Text.splitAt ':' cs
  match parts.getLast? with
  | some last =>
    if parts.length < 3 then none
    else if last.contains '.' then
      if isVersionFour last then some (parts.dropLast ++ [['0'], ['0']]) else none
    else some parts
  | none => none

/-- Whether groups are eight, or fewer with one gap between them that stands for the others. The gap
is an empty group, and at either end of the address it comes with another one. -/
def areGroups (groups : List (List Char)) : Bool :=
  let inner := groups.drop 1 |>.dropLast
  match inner.findIdx? (·.isEmpty) with
  | none => groups.length == 8 && groups.all isGroup
  | some i =>
    let front := groups.take (i + 1)
    let back := groups.drop (i + 2)
    let high := if front == [[]] then [] else front
    let low := if back == [[]] then [] else back
    groups.length ≤ 9 && high.all isGroup && low.all isGroup && high.length + low.length < 8

/-- An address of version six with a zone or without. -/
def isVersionSix (cs : List Char) : Bool :=
  let zone := cs.dropWhile (· != '%')
  !cs.contains '/' && (zone.isEmpty || (1 < zone.length && !(zone.drop 1).contains '%')) &&
    ((groups? (cs.takeWhile (· != '%'))).map areGroups).getD false

/-- An address of a version to come: `v`, the version in hexadecimal digits, a point, and more. -/
def isFuture : List Char → Bool
  | 'v' :: cs =>
    match cs.dropWhile isHex with
    | '.' :: rest => (cs.head?.map isHex).getD false && !rest.isEmpty && !rest.contains '\n'
    | _ => false
  | _ => false

def isBracketed (cs : List Char) : Bool :=
  if cs.head? == some 'v' then isFuture cs else isVersionSix cs

end ZigDecl.Host
