import ZigDecl.Value.Basic

/-! # Type graphs

A type graph has named top-levels and a store of named types: records, enumerations and unions.
Types refer to named types by their place in the store, so a graph may be cyclic; everything else
about a type is written out in place. The texts of a graph are of the type of those in the document
that it comes from. -/

namespace ZigDecl

variable {τ : Type}

/-- The types without parts. -/
inductive Primitive where
  | any | null | bool | integer | double | string
  deriving DecidableEq, Repr

/-- The word for a primitive type in a document. -/
def Primitive.name : Primitive → String
  | .any => "any"
  | .null => "null"
  | .bool => "bool"
  | .integer => "integer"
  | .double => "double"
  | .string => "string"

def Primitive.all : List Primitive := [.any, .null, .bool, .integer, .double, .string]

def Primitive.ofName? [DecidableEq τ] [TextLike τ] (name : τ) : Option Primitive :=
  all.find? (TextLike.lit ·.name == name)

/-- A type in its place. The `mark` of an array or map tells it from others of the same form that
were written elsewhere; it plays no part in equality of types. -/
inductive Ty where
  | primitive (kind : Primitive)
  | array (mark : Nat) (items : Ty)
  | map (mark : Nat) (values : Ty)
  | named (id : Nat)
  deriving DecidableEq, Repr

namespace Ty

/-- Equality of types: arrays and maps by their form, named types by identity. -/
def same : Ty → Ty → Bool
  | .primitive a, .primitive b => a == b
  | .array _ a, .array _ b => same a b
  | .map _ a, .map _ b => same a b
  | .named a, .named b => a == b
  | _, _ => false

def isNull : Ty → Bool
  | .primitive .null => true
  | _ => false

/-- Whether a type is a reference into the store. -/
def isNamed : Ty → Bool
  | .named _ => true
  | _ => false

/-- The type at the bottom of nested arrays and maps. -/
def leaf : Ty → Ty
  | .array _ t => leaf t
  | .map _ t => leaf t
  | t => t

/-- The named type at the bottom of nested arrays and maps. -/
def target? (t : Ty) : Option Nat :=
  match t.leaf with
  | .named id => some id
  | _ => none

@[simp] theorem same_refl (t : Ty) : t.same t = true := by
  induction t <;> simp_all [same]

theorem same_comm (s t : Ty) : s.same t = t.same s := by
  induction s generalizing t with
  | primitive p => cases t <;> simp [same, Bool.beq_comm]
  | array _ s ih => cases t <;> simp [same, ih]
  | map _ s ih => cases t <;> simp [same, ih]
  | named i => cases t <;> simp [same, Bool.beq_comm]

theorem same_trans {s t u : Ty} (h : s.same t = true) (h' : t.same u = true) :
    s.same u = true := by
  induction s generalizing t u with
  | primitive p => cases t <;> cases u <;> simp_all [same]
  | array _ s ih => cases t <;> cases u <;> simp_all [same]; exact ih h h'
  | map _ s ih => cases t <;> cases u <;> simp_all [same]; exact ih h h'
  | named i => cases t <;> cases u <;> simp_all [same]

end Ty

/-- A property of a record under its external name. -/
structure Property (τ : Type := String) where
  name : Value τ
  type : Ty
  isOptional : Bool
  description : Value τ
  deriving Repr

/-- What a named type is made of. -/
inductive Shape (τ : Type := String) where
  | record (properties : List (Property τ))
  | enum (cases : List τ)
  | union (members : List Ty)
  deriving Repr

/-- A type with a name. -/
structure NamedType (τ : Type := String) where
  name : Value τ
  description : Value τ
  shape : Shape τ
  deriving Repr

/-- The types without the null type, in order. -/
def nonNulls (members : List Ty) : List Ty := members.filter fun t => !t.isNull

/-- Whether the null type is among the members. -/
def hasNull (members : List Ty) : Bool := members.any Ty.isNull

/-- The other member of a union of null and one other type. -/
def nullableOf (members : List Ty) : Option Ty :=
  match hasNull members, nonNulls members with
  | true, [t] => some t
  | _, _ => none

/-- Named top-levels, and the store of named types that they lead to. -/
structure TypeGraph (τ : Type := String) where
  types : Array (NamedType τ)
  topLevels : List (τ × Ty)
  deriving Repr

namespace TypeGraph

def empty : TypeGraph τ := ⟨#[], []⟩

def shape? (g : TypeGraph τ) (id : Nat) : Option (Shape τ) := g.types[id]?.map (·.shape)

/-- The name that a named type was given. -/
def nameOf (g : TypeGraph τ) (id : Nat) : Value τ := (g.types[id]?.map (·.name)).getD .null

/-- The description that a named type was given. -/
def descriptionOf (g : TypeGraph τ) (id : Nat) : Value τ :=
  (g.types[id]?.map (·.description)).getD .null

/-- Whether a named type has a declaration of its own: a union only if two members are left without
null. -/
def isDeclared (g : TypeGraph τ) (id : Nat) : Bool :=
  match g.shape? id with
  | some (.record _) => true
  | some (.enum _) => true
  | some (.union members) => 2 ≤ (nonNulls members).length
  | none => false

/-- Whether a type is referred to by a name of its own. -/
def needsDeclaration (g : TypeGraph τ) : Ty → Bool
  | .named id => g.isDeclared id
  | _ => false

/-- The types that a named type is made of, in order. -/
def parts (g : TypeGraph τ) (id : Nat) : List Ty :=
  match g.shape? id with
  | some (.record properties) => properties.map (·.type)
  | some (.union members) => members
  | _ => []

/-- The types directly inside a type, in order. -/
def children (g : TypeGraph τ) : Ty → List Ty
  | .primitive _ => []
  | .array _ t => [t]
  | .map _ t => [t]
  | .named id => g.parts id

/-- The named types that a named type mentions, in order. -/
def successors (g : TypeGraph τ) (id : Nat) : List Nat := (g.parts id).filterMap Ty.target?

end TypeGraph

end ZigDecl
