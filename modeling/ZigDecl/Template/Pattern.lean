import ZigDecl.Template.Filter
import ZigDecl.Template.Scope
import ZigDecl.Value.Reader

/-! # Patterns

A pattern is text with holes. A hole names a variable and the filters that its value goes through,
each with an argument or without. Carriage returns in a pattern count as line feeds. -/

namespace ZigDecl.Template

/-- A filter with its argument. -/
structure Stage where
  filter : Filter
  argument : Option Value
  deriving Repr

/-- A part of a pattern. -/
inductive Piece where
  | text (chars : List Char)
  | hole (name : String) (stages : List Stage)
  deriving Repr

abbrev Pattern := List Piece

namespace Pattern

/-- A text with line feeds as its only line breaks of the ASCII kind. -/
def unixLines : List Char → List Char
  | [] => []
  | '\r' :: '\n' :: cs => '\n' :: unixLines cs
  | c :: cs => (if c == '\r' then '\n' else c) :: unixLines cs

def skipBlanks (cs : List Char) : List Char := cs.dropWhile Text.isBlank

def isNameChar (c : Char) : Bool := c.isAlphanum || c == '_'

/-- A name at the front of a text. -/
def readName (cs : List Char) : Except TemplateCause (String × List Char) :=
  match cs with
  | c :: _ =>
    if isNameChar c && !c.isDigit then
      .ok (String.ofList (cs.takeWhile isNameChar), cs.dropWhile isNameChar)
    else .error .syntaxError
  | [] => .error .syntaxError

/-- A whole number or a text in quotes at the front of a text. -/
def readLiteral (cs : List Char) : Except TemplateCause (Value × List Char) :=
  let number := fun (sign : Int) (cs : List Char) =>
    match Value.readDigits cs with
    | ([], _) => .error .syntaxError
    | (digits, rest) => .ok (.int (sign * Value.ofDigits digits), rest)
  match cs with
  | '-' :: rest => number (-1) rest
  | c :: rest =>
    if c == '"' || c == '\'' then
      match rest.dropWhile (· != c) with
      | _ :: after => .ok (.str (String.ofList (rest.takeWhile (· != c))), after)
      | [] => .error .syntaxError
    else number 1 cs
  | [] => .error .syntaxError

/-- The argument of a filter, if there is one. -/
def readArgument (cs : List Char) : Except TemplateCause (Option Value × List Char) :=
  match skipBlanks cs with
  | '(' :: rest =>
    match skipBlanks rest with
    | ')' :: rest => .ok (none, rest)
    | rest => do
      let (value, rest) ← readLiteral rest
      match skipBlanks rest with
      | ')' :: rest => return (some value, rest)
      | _ => throw .syntaxError
  | rest => .ok (none, rest)

/-- The filters of a hole and the text after it; there are at most `fuel` of them. -/
def readStages : Nat → List Char → Except TemplateCause (List Stage × List Char)
  | 0, _ => .error .syntaxError
  | fuel + 1, cs =>
    match skipBlanks cs with
    | '\x7d' :: '\x7d' :: rest => .ok ([], rest)
    | '|' :: rest => do
      let (name, rest) ← readName (skipBlanks rest)
      let (argument, rest) ← readArgument rest
      let (stages, rest) ← readStages fuel rest
      match Filter.ofName? name with
      | some filter => return (⟨filter, argument⟩ :: stages, rest)
      | none => throw (.noFilter name)
    | _ => .error .syntaxError

/-- Put a character in front of a pattern. -/
def consChar (c : Char) : Pattern → Pattern
  | .text cs :: rest => .text (c :: cs) :: rest
  | pieces => .text [c] :: pieces

/-- The pieces of a text; at most `fuel` characters and holes are read. -/
def readPieces : Nat → List Char → Except TemplateCause Pattern
  | 0, _ => .ok []
  | _, [] => .ok []
  | fuel + 1, '\x7b' :: '\x7b' :: cs => do
    let (name, rest) ← readName (skipBlanks cs)
    let (stages, rest) ← readStages (rest.length + 1) rest
    return .hole name stages :: (← readPieces fuel rest)
  | fuel + 1, c :: cs => return consChar c (← readPieces fuel cs)

def ofText (text : String) : Except TemplateCause Pattern :=
  let cs := unixLines text.toList
  readPieces (cs.length + 1) cs

/-- A value after the filters of a hole. -/
def applyStages (v : Value) : List Stage → Except TemplateCause String
  | [] => .ok v.display
  | stage :: rest => do
    let text ← (stage.filter.apply v stage.argument).mapError .fault
    applyStages (.str text) rest

/-- A pattern with its holes filled from a scope. -/
def fill (scope : Scope) : Pattern → Except TemplateCause String
  | [] => .ok ""
  | .text cs :: rest => return String.ofList cs ++ (← fill scope rest)
  | .hole name stages :: rest => do
    let text ← applyStages (← scope.slot name) stages
    return text ++ (← fill scope rest)

end Pattern

end ZigDecl.Template
