import ZigDecl.Text.Blank
import ZigDecl.Text.Lines
import ZigDecl.Text.Case
import ZigDecl.Source.Host

/-! # Web addresses

Of an address only the scheme, the authority and the path are needed. -/

namespace ZigDecl

/-- The parts of an address. -/
structure Url where
  scheme : String
  authority : String
  path : String
  deriving DecidableEq, Repr

namespace Url

def isSchemeChar (c : Char) : Bool :=
  Text.isLowerAscii c || Text.isUpperAscii c || Text.isDigitAscii c ||
    c == '+' || c == '-' || c == '.'

/-- The text of an address without the control characters and blanks in front of it, and without
tabs and line breaks. -/
def cleaned (cs : List Char) : List Char :=
  (cs.dropWhile fun c => c.toNat ≤ 32).filter fun c => c != '\t' && c != '\n' && c != '\r'

/-- The scheme of an address in lower case, and the text after it. -/
def splitScheme (cs : List Char) : List Char × List Char :=
  let front := cs.takeWhile (· != ':')
  match cs.dropWhile (· != ':'), front with
  | ':' :: rest, c :: _ =>
    if (Text.isLowerAscii c || Text.isUpperAscii c) && front.all isSchemeChar then
      (Text.lowerChars front, rest)
    else ([], cs)
  | _, _ => ([], cs)

/-- The authority of an address, and the text after it. -/
def splitAuthority : List Char → List Char × List Char
  | '/' :: '/' :: rest =>
    let inside := fun c => c != '/' && c != '?' && c != '#'
    (rest.takeWhile inside, rest.dropWhile inside)
  | cs => ([], cs)

/-- Characters that are variants of the marks between the parts of an address. -/
def markVariants : List Nat := [0x2047, 0x2048, 0x2049, 0x2100, 0x2101, 0x2105, 0x2106, 0x2A74,
  0xFE13, 0xFE16, 0xFE55, 0xFE56, 0xFE5F, 0xFE6B, 0xFF03, 0xFF0F, 0xFF1A, 0xFF1F, 0xFF20]

/-- The host in an authority with what follows it: all that stands behind the last at sign. -/
def hostSection (authority : List Char) : List Char :=
  (authority.reverse.takeWhile (· != '@')).reverse

/-- Whether the host of an authority with brackets is well formed. Nothing may stand in front of an
opening bracket, and what stands behind the closing one starts with a colon. -/
def isGoodHost (host : List Char) : Bool :=
  match host with
  | '[' :: rest =>
    let behind := (rest.dropWhile (· != ']')).drop 1
    (behind.isEmpty || behind.head? == some ':') &&
      Host.isBracketed (rest.takeWhile (· != ']'))
  | _ => !host.contains '[' && Host.isBracketed (host.takeWhile (· != ':'))

/-- Whether an authority has both brackets and a host that goes with them, or no bracket at all. -/
def hasGoodBrackets (authority : List Char) : Bool :=
  match authority.contains '[', authority.contains ']' with
  | false, false => true
  | true, true => isGoodHost (hostSection authority)
  | _, _ => false

def isGoodAuthority (authority : List Char) : Bool :=
  hasGoodBrackets authority && !authority.any fun c => markVariants.contains c.toNat

/-- A path without the parameters behind the semicolon in its last part. -/
def withoutParameters (path : List Char) : List Char :=
  let last := (path.reverse.takeWhile (· != '/')).reverse
  path.take (path.length - last.length) ++ last.takeWhile (· != ';')

/-- The parts of an address; `none` if its authority is not well formed. -/
def ofText? (text : String) : Option Url :=
  let (scheme, rest) := splitScheme (cleaned text.toList)
  let (authority, rest) := splitAuthority rest
  if isGoodAuthority authority then
    let path := withoutParameters (rest.takeWhile fun c => c != '#' && c != '?')
    some ⟨String.ofList scheme, String.ofList authority, String.ofList path⟩
  else none

def isWeb (u : Url) : Bool := (u.scheme == "http" || u.scheme == "https") && u.authority != ""

end Url

end ZigDecl
