import ZigDecl.Name.Style

/-! # Zig identifiers

A bare identifier starts with an ASCII letter or an underscore, goes on with ASCII letters, digits
and underscores, and is no keyword. -/

namespace ZigDecl.Zig

def keywords : List String := [
  "addrspace", "align", "allowzero", "and", "anyframe", "anytype", "asm", "async", "await",
  "break", "callconv", "catch", "comptime", "const", "continue", "defer", "else", "enum",
  "errdefer", "error", "export", "extern", "fn", "for", "if", "inline", "noalias", "nosuspend",
  "noinline", "opaque", "or", "orelse", "packed", "pub", "resume", "return", "linksection",
  "struct", "suspend", "switch", "test", "threadlocal", "try", "union", "unreachable",
  "usingnamespace", "var", "volatile", "while"]

/-- The names that the first lines of a generated file bind. -/
def preludeNames : List String := ["std"]

/-- Whether a text has the form of a bare identifier. -/
def hasIdentifierForm : List Char → Bool
  | [] => false
  | c :: cs => (Name.isLetter c || c == '_') && cs.all Name.isNameChar

/-- Whether a name is a bare identifier and no keyword. -/
def isIdentifier (name : String) : Bool :=
  hasIdentifierForm name.toList && !keywords.contains name

end ZigDecl.Zig
