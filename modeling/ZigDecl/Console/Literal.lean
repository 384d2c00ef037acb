import ZigDecl.Console.Literal.Piece
import ZigDecl.Text.Alphanumeric
import ZigDecl.Text.Blank

/-! # Literals in tags

A tag whose name starts with an at sign may carry a literal: a number, a text or bytes in quotes, a
truth value, or a tuple, a set or a map of literals. Only its form matters, for nothing of it is
shown. -/

namespace ZigDecl.Console.Literal

/-- What a literal is, as far as it decides where it may stand. -/
inductive Kind where
  | real
  | signedReal
  | complex
  /-- Another literal that may be an element of a set or a key of a map. -/
  | plain
  /-- A set, a map, or a tuple with one of them in it. -/
  | container
  deriving DecidableEq, Repr

namespace Kind

/-- What a literal is behind a sign, which only a number can have. -/
def signed? : Kind → Option Kind
  | .real => some .signedReal
  | .complex => some .plain
  | _ => none

def tuple (kinds : List Kind) : Kind := if kinds.contains .container then .container else .plain

/-- What a set is, none of whose elements is a container. -/
def set? (kinds : List Kind) : Option Kind :=
  if kinds.contains .container then none else some .container

/-- What a sum or a difference is, which only a real and a complex number have. -/
def sum? : Kind → Kind → Option Kind
  | .real, .complex | .signedReal, .complex => some .plain
  | _, _ => none

end Kind

mutual

/-- A literal without a sign at the front of some pieces, and the pieces behind it. -/
def atomAt? : Nat → List Piece → Option (Kind × List Piece)
  | 0, _ => none
  | fuel + 1, ps =>
    match ps with
    | .number isComplex :: rest => some (if isComplex then .complex else .real, rest)
    | .quoted isBytes :: rest =>
      let next := rest.dropWhile (· == .quoted isBytes)
      if next.head? == some (.quoted !isBytes) then none else some (.plain, next)
    | .word "set" :: .mark '(' :: .mark ')' :: rest => some (.container, rest)
    | .dots :: rest | .word "True" :: rest | .word "False" :: rest | .word "None" :: rest
    | .mark '(' :: .mark ')' :: rest => some (.plain, rest)
    | .mark '(' :: rest => do
      let (kind, rest) ← literalAt? fuel rest
      match rest with
      | .mark ')' :: rest => return (kind, rest)
      | .mark ',' :: rest => do
        let (kinds, rest) ← itemsAt? fuel ')' rest
        return (.tuple (kind :: kinds), rest)
      | _ => none
    | .mark '{' :: .mark '}' :: rest => some (.container, rest)
    | .mark '{' :: rest => do
      let (kind, rest) ← literalAt? fuel rest
      match rest with
      | .mark ':' :: rest => do
        if kind == .container then none
        return (.container, ← valueAt? fuel rest)
      | .mark ',' :: rest => do
        let (kinds, rest) ← itemsAt? fuel '}' rest
        return (← Kind.set? (kind :: kinds), rest)
      | .mark '}' :: rest => return (← Kind.set? [kind], rest)
      | _ => none
    | _ => none

/-- A literal at the front of some pieces, and the pieces behind it. -/
def literalAt? : Nat → List Piece → Option (Kind × List Piece)
  | 0, _ => none
  | fuel + 1, ps => do
    let (kind, rest) ← match ps with
      | .mark '+' :: rest | .mark '-' :: rest => do
        let (kind, rest) ← atomAt? fuel rest
        pure (← kind.signed?, rest)
      | _ => atomAt? fuel ps
    match rest with
    | .mark '+' :: more | .mark '-' :: more => do
      let (other, rest) ← atomAt? fuel more
      return (← kind.sum? other, rest)
    | _ => return (kind, rest)

/-- The literals up to a closing bracket, and the pieces behind it. -/
def itemsAt? : Nat → Char → List Piece → Option (List Kind × List Piece)
  | 0, _, _ => none
  | fuel + 1, close, ps => do
    if ps.head? == some (.mark close) then return ([], ps.drop 1)
    let (kind, rest) ← literalAt? fuel ps
    match rest with
    | .mark ',' :: rest => do
      let (kinds, rest) ← itemsAt? fuel close rest
      return (kind :: kinds, rest)
    | _ => if rest.head? == some (.mark close) then return ([kind], rest.drop 1) else none

/-- The pieces behind a map, from the value behind a key on. -/
def valueAt? : Nat → List Piece → Option (List Piece)
  | 0, _ => none
  | fuel + 1, ps => do
    let (_, rest) ← literalAt? fuel ps
    match rest with
    | .mark '}' :: rest | .mark ',' :: .mark '}' :: rest => return rest
    | .mark ',' :: rest => do
      let (kind, rest) ← literalAt? fuel rest
      match rest with
      | .mark ':' :: rest => if kind == .container then none else valueAt? fuel rest
      | _ => none
    | _ => none

end

/-- Pieces without ends of lines at either end. -/
def trimLines (ps : List Piece) : List Piece :=
  let isEnd := (· == Piece.lineEnd)
  ((ps.dropWhile isEnd).reverse.dropWhile isEnd).reverse

/-- Whether pieces are one literal, or several with commas, which make a tuple. -/
def areLiteral (ps : List Piece) : Bool :=
  let body := trimLines ps
  let fuel := 4 * (body.length + 2)
  match literalAt? fuel body with
  | some (_, []) => true
  | some (_, .mark ',' :: rest) => (itemsAt? fuel ')' (rest ++ [.mark ')'])).any (·.2.isEmpty)
  | _ => false

def isLiteral (cs : List Char) : Bool := (pieces cs).any areLiteral

/-! ## Parameters of tags -/

/-- A character of a name with points in it. -/
def isNameChar (c : Char) : Bool := Text.isAlphanumeric c || c == '_' || c == '.'

/-- The literal that the parameters of a tag stand for. Of a name with arguments behind it only the
arguments count. -/
def ofParameters (parameters : List Char) : List Char :=
  let text := Text.trim parameters
  match text.dropWhile isNameChar with
  | [] => ['(', ')']
  | '(' :: rest =>
    if rest.getLast? == some ')' && !rest.contains '\n' then '(' :: rest else text
  | _ => text

end ZigDecl.Console.Literal
