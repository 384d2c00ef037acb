import ZigDecl.Graph.Basic

/-! # Building a type graph

Named types are added one by one and filled in later, so that they may refer to each other. The
members of a union are kept without repetitions. -/

namespace ZigDecl

/-- The list without later repetitions of a type. -/
def distinctTypes (members : List Ty) : List Ty :=
  members.foldl (fun kept t => if kept.any (·.same t) then kept else kept ++ [t]) []

namespace TypeGraph

variable {τ : Type}

/-- Add a named type; its place in the store is the second result. -/
def addType (g : TypeGraph τ) (t : NamedType τ) : TypeGraph τ × Nat :=
  ({ g with types := g.types.push t }, g.types.size)

/-- Replace what a named type is made of. -/
def setShape (g : TypeGraph τ) (id : Nat) (shape : Shape τ) : TypeGraph τ :=
  { g with types := g.types.modify id fun t => { t with shape } }

/-- Add a property to a record, after the ones it has. -/
def addProperty (g : TypeGraph τ) (id : Nat) (p : Property τ) : TypeGraph τ :=
  { g with types := g.types.modify id fun t =>
      match t.shape with
      | .record properties => { t with shape := .record (properties ++ [p]) }
      | _ => t }

def setMembers (g : TypeGraph τ) (id : Nat) (members : List Ty) : TypeGraph τ :=
  g.setShape id (.union (distinctTypes members))

def hasTopLevel [DecidableEq τ] (g : TypeGraph τ) (name : τ) : Bool :=
  g.topLevels.any (·.1 == name)

/-- Add a top-level after the ones there are; `none` if there is one of that name. -/
def addTopLevel? [DecidableEq τ] (g : TypeGraph τ) (name : τ) (root : Ty) :
    Option (TypeGraph τ) :=
  if g.hasTopLevel name then none else some { g with topLevels := g.topLevels ++ [(name, root)] }

/-- The first property of a record under a name. -/
def property? [DecidableEq τ] (g : TypeGraph τ) (id : Nat) (name : τ) : Option (Property τ) :=
  match g.shape? id with
  | some (.record properties) => properties.find? fun p =>
    match p.name with
    | .str s => s == name
    | _ => false
  | _ => none

end TypeGraph

end ZigDecl
