import ZigDecl.Graph.Basic
import ZigDecl.Fault

/-! # The named types of a graph in order

Graph order is that of the first visits of a depth-first walk from the top-levels. Each visit to a
new type uses up one of the types of the store, so their number bounds the depth of the walk. -/

namespace ZigDecl.TypeGraph

variable {τ : Type} (g : TypeGraph τ)

/-- The types visited so far and then those that a walk from `id` visits first, in order; at most
`fuel` types are entered one inside the other. -/
def visit : Nat → List Nat → Nat → List Nat
  | 0, seen, _ => seen
  | fuel + 1, seen, id =>
    if seen.contains id then seen else (g.successors id).foldl (visit fuel) (seen ++ [id])

/-- The named types at the bottom of the top-levels. -/
def roots : List Nat := g.topLevels.filterMap fun (_, root) => root.target?

/-- All named types that the top-levels lead to, in graph order. -/
def namedTypes : List Nat := g.roots.foldl (g.visit (g.types.size + 1)) []

/-- The named types with a declaration of their own. -/
def declarations : List Nat := g.namedTypes.filter g.isDeclared

def records : List Nat := g.namedTypes.filter fun id =>
  match g.shape? id with
  | some (.record _) => true
  | _ => false

def enums : List Nat := g.namedTypes.filter fun id =>
  match g.shape? id with
  | some (.enum _) => true
  | _ => false

/-- The unions of the graph that have a declaration. -/
def unions : List Nat := g.namedTypes.filter fun id =>
  match g.shape? id with
  | some (.union _) => g.isDeclared id
  | _ => false

/-- Add the declarations that a mention of `id` refers to, other than `self`: the type itself if it
is declared, else those that its members refer to. -/
def collect (self : Option Nat) : Nat → List Nat → Nat → Except Fault (List Nat)
  | 0, _, _ => .error .endless
  | fuel + 1, found, id =>
    if g.isDeclared id then
      .ok (if self = some id || found.contains id then found else found ++ [id])
    else (g.successors id).foldlM (collect self fuel) found

/-- The declarations that the declaration of a type refers to, in the order of first reference. A
declared type is looked at from inside and is not among them. -/
def referencedDeclarations (t : Ty) : Except Fault (List Nat) :=
  let fuel := g.types.size + 1
  match t.target? with
  | none => .ok []
  | some id =>
    if g.needsDeclaration t then (g.successors id).foldlM (g.collect (some id) fuel) []
    else g.collect none fuel [] id

end ZigDecl.TypeGraph
