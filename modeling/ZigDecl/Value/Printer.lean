import ZigDecl.Value.Shown

/-! # Writing JSON text

Members are written in their order. With an indentation every item and member has a line of its
own, and empty lists and objects stay closed. -/

namespace ZigDecl.Value

def jsonChar (c : Char) : List Char :=
  if c == '"' then ['\\', '"']
  else if c == '\\' then ['\\', '\\']
  else if c == '\n' then ['\\', 'n']
  else if c == '\r' then ['\\', 'r']
  else if c == '\t' then ['\\', 't']
  else if c == '\x08' then ['\\', 'b']
  else if c == '\x0c' then ['\\', 'f']
  else if c.toNat < 32 then '\\' :: 'u' :: Text.hexPadded 4 c.toNat
  else [c]

def jsonText (s : String) : String :=
  String.ofList ('"' :: s.toList.flatMap jsonChar ++ ['"'])

/-- A number that is not whole; the words stand for the values that have no digits. -/
def jsonFloat (x : Float) : String :=
  if x.isNaN then "NaN"
  else if x.isInf then (if x < 0.0 then "-Infinity" else "Infinity")
  else Decimal.written x

/-- Pieces between brackets: on one line without an indentation, else one piece a line, indented
one step deeper than the bracket at `depth`. -/
def enclose (indent : Option Nat) (depth : Nat) (left right : String) (pieces : List String) :
    String :=
  match pieces, indent with
  | [], _ => left ++ right
  | _, none => left ++ ", ".intercalate pieces ++ right
  | _, some step =>
    let line := fun (d : Nat) => "\n" ++ String.ofList (List.replicate (d * step) ' ')
    left ++ line (depth + 1) ++ ("," ++ line (depth + 1)).intercalate pieces ++ line depth ++ right

mutual

/-- A value at nesting `depth` as JSON text. -/
def toJsonAt (indent : Option Nat) (depth : Nat) : Value → String
  | .null => "null"
  | .bool b => if b then "true" else "false"
  | .int n => toString n
  | .float x => jsonFloat x
  | .str s => jsonText s
  | .arr items => enclose indent depth "[" "]" (jsonItems indent (depth + 1) items)
  | .obj members => enclose indent depth "\x7b" "\x7d" (jsonMembers indent (depth + 1) members)

def jsonItems (indent : Option Nat) (depth : Nat) : List Value → List String
  | [] => []
  | v :: rest => toJsonAt indent depth v :: jsonItems indent depth rest

def jsonMembers (indent : Option Nat) (depth : Nat) : List (String × Value) → List String
  | [] => []
  | (k, v) :: rest =>
    (jsonText k ++ ": " ++ toJsonAt indent depth v) :: jsonMembers indent depth rest

end

/-- A value as JSON text, indented by `indent` blanks a level or on one line. -/
def toJson (indent : Option Nat) (v : Value) : String := toJsonAt indent 0 v

end ZigDecl.Value
