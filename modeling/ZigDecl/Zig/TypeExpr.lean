/-! # Zig type expressions

A type expression is kept as its text, with a flag that says whether it is optional and the issues
that came up while it was made. Making it optional twice changes nothing. -/

namespace ZigDecl.Zig

/-- A type expression, and the remarks on places where it is a makeshift. -/
structure TypeExpr where
  name : String
  isOptional : Bool
  issues : List String
  deriving DecidableEq, Repr

namespace TypeExpr

/-- A type that is not optional and about which there is nothing to remark. -/
def plain (name : String) : TypeExpr := ⟨name, false, []⟩

/-- The optional form of a type; an optional type has it already. -/
def asOptional (t : TypeExpr) : TypeExpr :=
  if t.isOptional then t else { t with name := "?" ++ t.name, isOptional := true }

/-- The type with one more issue; an issue is kept once. -/
def withIssue (t : TypeExpr) (issue : String) : TypeExpr :=
  if t.issues.contains issue then t else { t with issues := t.issues ++ [issue] }

def wrap (t : TypeExpr) (before after : String) : TypeExpr :=
  ⟨before ++ t.name ++ after, false, t.issues⟩

theorem asOptional_asOptional (t : TypeExpr) : t.asOptional.asOptional = t.asOptional := by
  unfold asOptional
  split <;> simp_all

end TypeExpr

end ZigDecl.Zig
