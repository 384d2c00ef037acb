import ZigDecl.Graph.Basic
import ZigDecl.Value.Raw

/-! # Type graphs of strings

Code is generated from graphs whose texts are strings. -/

namespace ZigDecl

open TextLike (string?)

variable {τ : Type} [TextLike τ]

def Property.whole? (p : Property τ) : Option Property := do
  return ⟨← p.name.whole?, p.type, p.isOptional, ← p.description.whole?⟩

def Shape.whole? : Shape τ → Option Shape
  | .record properties => return .record (← properties.mapM Property.whole?)
  | .enum cases => return .enum (← cases.mapM string?)
  | .union members => some (.union members)

def NamedType.whole? (t : NamedType τ) : Option NamedType := do
  return ⟨← t.name.whole?, ← t.description.whole?, ← t.shape.whole?⟩

/-- The graph with strings for its texts, if they are strings. -/
def TypeGraph.whole? (g : TypeGraph τ) : Option TypeGraph := do
  let types ← g.types.toList.mapM NamedType.whole?
  let topLevels ← g.topLevels.mapM fun (name, t) => do return (← string? name, t)
  return ⟨types.toArray, topLevels⟩

end ZigDecl
