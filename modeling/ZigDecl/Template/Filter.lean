import ZigDecl.Fault
import ZigDecl.Text.Block
import ZigDecl.Value.Shown
import ZigDecl.Zig.Literal

/-! # Filters

A filter turns a value into text, by way of its displayed form. Two of the filters take an
argument. -/

namespace ZigDecl.Template

/-- What can be done with a value before it is put into a text. -/
inductive Filter where
  /-- Indent the lines that are not blank; the argument is the width. -/
  | indent
  /-- Make every line a comment; the argument is the comment mark. -/
  | comment
  /-- Write a string literal. -/
  | literal
  deriving DecidableEq, Repr

namespace Filter

/-- The name of a filter in a template. -/
def name : Filter → String
  | .indent => "indent"
  | .comment => "comment"
  | .literal => "zig_string"

def ofName? (name : String) : Option Filter :=
  [Filter.indent, .comment, .literal].find? (·.name == name)

/-- The width that a value stands for; a negative one counts as zero. -/
def widthOf : Value → Except Fault Nat
  | .int n => .ok n.toNat
  | .bool b => .ok b.toNat
  | _ => .error .wrongType

/-- The text that a filter makes of a value, with an argument if there is one. -/
def apply (f : Filter) (v : Value) (argument : Option Value) : Except Fault String :=
  match f, argument with
  | .indent, none => .ok (Text.indent 4 v.display)
  | .indent, some width => (Text.indent · v.display) <$> widthOf width
  | .comment, none => .ok (Text.comment "//" v.display)
  | .comment, some mark => .ok (Text.comment mark.display v.display)
  | .literal, none => .ok (Zig.stringLiteral v.display)
  | .literal, some _ => .error .wrongType

end Filter

end ZigDecl.Template
