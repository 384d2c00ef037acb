import ZigDecl.Graph.Basic
import ZigDecl.Value.Shown

/-! # Types in messages

A named type is shown by its kind and its name, any other type with everything inside it. -/

namespace ZigDecl.TypeGraph

def shownPrimitive (p : Primitive) : String :=
  "PrimitiveType(kind=<PrimitiveKind." ++
    String.ofList (p.name.toList.map Char.toUpper) ++ ": " ++ Text.quoted p.name ++ ">)"

variable {τ : Type} [TextLike τ]

def shownNamed (g : TypeGraph τ) (id : Nat) : String :=
  let kind := match g.shape? id with
    | some (.record _) => "ClassType"
    | some (.enum _) => "EnumType"
    | some (.union _) | none => "UnionType"
  kind ++ "(" ++ (g.nameOf id).shown ++ ")"

def shown (g : TypeGraph τ) : Ty → String
  | .primitive p => shownPrimitive p
  | .array _ t => "ArrayType(items=" ++ g.shown t ++ ")"
  | .map _ t => "MapType(values=" ++ g.shown t ++ ")"
  | .named id => g.shownNamed id

end ZigDecl.TypeGraph
