import ZigDecl.Text.Quoted

/-! # Zig string literals

A literal is printable ASCII: quotation marks and backslashes are escaped, the common control
characters have escapes of their own, and all other characters outside printable ASCII are written
by number. -/

namespace ZigDecl.Zig

def literalChar (c : Char) : List Char :=
  if c == '\\' then ['\\', '\\']
  else if c == '"' then ['\\', '"']
  else if c == '\n' then ['\\', 'n']
  else if c == '\r' then ['\\', 'r']
  else if c == '\t' then ['\\', 't']
  else if c.toNat < 0x20 || c.toNat == 0x7F then '\\' :: 'x' :: Text.hexPadded 2 c.toNat
  else if 0x7E < c.toNat then ['\\', 'u', '\x7b'] ++ Nat.toDigits 16 c.toNat ++ ['\x7d']
  else [c]

def literalChars (cs : List Char) : List Char := '"' :: cs.flatMap literalChar ++ ['"']

def stringLiteral (s : String) : String := String.ofList (literalChars s.toList)

end ZigDecl.Zig
