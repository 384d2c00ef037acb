import ZigDecl.Graph.Build
import ZigDecl.Graph.Definition
import ZigDecl.Graph.Error
import ZigDecl.Graph.InlineCycle
import ZigDecl.Graph.Shown

/-! # Reading a type graph from a document

Definitions are turned into types from the top-levels down. A named record or union gets its place
in the store before its parts are read, so its parts may refer to it; named arrays, maps and
references are pending until they are read, and a reference to a pending name is an error. A name
is read at most once, so the number of definitions bounds the depth of references. -/

namespace ZigDecl

open TextLike (lit)

variable {τ : Type}

/-- A graph in the making: the types found for names, the names that are being read, and the next
unused mark. -/
structure Linking (τ : Type := String) where
  graph : TypeGraph τ
  resolved : List (τ × Ty)
  pending : List τ
  nextMark : Nat

namespace Linking

def start : Linking τ := ⟨.empty, [], [], 0⟩

variable [DecidableEq τ]

def find? (name : τ) : List (τ × Ty) → Option Ty
  | [] => none
  | (n, t) :: rest => if n == name then some t else find? name rest

def settle (l : Linking τ) (name : τ) (t : Ty) : Linking τ :=
  { l with resolved := (name, t) :: l.resolved, pending := l.pending.filter (· != name) }

end Linking

/-- A step in the making of a graph. -/
abbrev Link (τ α : Type) := StateT (Linking τ) (Except (GraphError τ)) α

namespace Link

def newMark : Link τ Nat :=
  modifyGet fun l => (l.nextMark, { l with nextMark := l.nextMark + 1 })

/-- Add a named type without parts; if it is defined under a name, references to that name lead to
it from now on. -/
def newType [DecidableEq τ] (t : NamedType τ) (reference : Option τ) : Link τ Nat :=
  modifyGet fun l =>
    let (graph, id) := l.graph.addType t
    let l := { l with graph }
    (id, match reference with
      | some name => l.settle name (.named id)
      | none => l)

def modifyGraph (f : TypeGraph τ → TypeGraph τ) : Link τ Unit :=
  modify fun l => { l with graph := f l.graph }

/-- The given name of a type, or the place where it stands if the name is missing or empty. -/
def nameOr [DecidableEq τ] [TextLike τ] (name : Value τ) (place : τ) : Value τ :=
  if name.isTruthy then name else .str place

variable [DecidableEq τ] [TextLike τ]

mutual

/-- The type that a definition at `place` stands for. `follow` follows references, and `reference`
is the name under which this very definition is written. -/
def type (follow : τ → Link τ Ty) (place : τ) (reference : Option τ) : Definition τ → Link τ Ty
  | .primitive p => pure (.primitive p)
  | .unknownPrimitive word => throw (.unknownPrimitive word place)
  | .invalid value => throw (.invalidDefinition place value)
  | .reference (.str name) => follow name
  | .reference target =>
    throw (if target.isKey then .unknownReference target else .fault .wrongType)
  | .array items => do
    let t ← type follow (place ++ lit " item") none items
    return .array (← newMark) t
  | .map values => do
    let t ← type follow (place ++ lit " value") none values
    return .map (← newMark) t
  | .record name description properties => do
    let name := nameOr name place
    let id ← newType ⟨name, description, .record []⟩ reference
    match properties with
    | none => throw (.propertiesNotAList name)
    | some list =>
      let properties ← propertyList follow name list
      modifyGraph fun g => g.setShape id (.record properties)
      return .named id
  | .enum name description cases =>
    match cases with
    | none => throw (.casesNotTexts (nameOr name place))
    | some cases => do
      let id ← newType ⟨nameOr name place, description, .enum cases⟩ none
      return .named id
  | .union name description members => do
    let name := nameOr name place
    let id ← newType ⟨name, description, .union []⟩ reference
    match members with
    | none => throw (.noMembers name)
    | some list =>
      let members ← memberList follow (name.display ++ lit " member") list
      modifyGraph fun g => g.setMembers id members
      return .named id
  | .unknownKind kind => throw (.unknownKind kind place)
  | .unusableKind => throw (.fault .wrongType)

def memberList (follow : τ → Link τ Ty) (place : τ) : List (Definition τ) → Link τ (List Ty)
  | [] => pure []
  | d :: rest => do
    let t ← type follow place none d
    return t :: (← memberList follow place rest)

def propertyList (follow : τ → Link τ Ty) (owner : Value τ) :
    List (Definition.Property τ) → Link τ (List (Property τ))
  | [] => pure []
  | .invalid value :: _ => throw (.invalidProperty owner value)
  | .valid name d isOptional description :: rest => do
    let t ← type follow (owner.display ++ lit " " ++ name.display) none d
    return ⟨name, t, isOptional, description⟩ :: (← propertyList follow owner rest)

end

/-- The type defined under a name; at most `fuel` names are read one inside the other. -/
def follow (definitions : List (τ × Value τ)) : Nat → τ → Link τ Ty
  | 0, name => throw (.unnamedCycle name)
  | fuel + 1, name => do
    let l ← get
    match Linking.find? name l.resolved with
    | some t => return t
    | none =>
      match Value.lookup name definitions with
      | none => throw (.unknownReference (.str name))
      | some value =>
        if l.pending.contains name then throw (.unnamedCycle name)
        set { l with pending := name :: l.pending }
        let t ← type (follow definitions fuel) name (some name) (Definition.ofValue value)
        modify (·.settle name t)
        return t

def topLevels (follow : τ → Link τ Ty) : List (τ × Value τ) → Link τ Unit
  | [] => pure ()
  | (name, value) :: rest => do
    let t ← type follow name none (Definition.ofValue value)
    match (← get).graph.addTopLevel? name t with
    | none => throw (.duplicateTopLevel name)
    | some graph =>
      modify fun l => { l with graph }
      topLevels follow rest

end Link

namespace TypeGraph

variable [DecidableEq τ] [TextLike τ]

/-- The parts of a document: its definitions and its top-levels. -/
def documentParts :
    Value τ → Except (GraphError τ) (List (τ × Value τ) × List (τ × Value τ))
  | .obj members =>
    match (Value.lookup (lit "types") members).getD (.obj []) with
    | .obj definitions =>
      match Value.lookup (lit "top_levels") members with
      | some (.obj (t :: ts)) => .ok (definitions, t :: ts)
      | _ => .error .noTopLevels
    | _ => .error .typesNotAnObject
  | _ => .error .notAnObject

def ofDocument (document : Value τ) : Except (GraphError τ) (TypeGraph τ) := do
  let (definitions, tops) ← documentParts document
  let follow := Link.follow definitions (definitions.length + 1)
  let (_, l) ← (Link.topLevels follow tops).run .start
  match l.graph.inlineCycle? with
  | some t => throw (.inlineCycle (l.graph.shown t))
  | none => return l.graph

end TypeGraph

end ZigDecl
