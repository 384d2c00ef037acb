import ZigDecl.Graph.Basic
import ZigDecl.Names.Basic

/-! # Proposals for the arms of a union

An arm is named after the type that it holds: after a named type by its name, after a container by
its content. An undeclared union is named after what it stands for. -/

namespace ZigDecl

/-- The word that stands for a primitive type. -/
def Primitive.proposal : Primitive → String
  | .any => "anything"
  | .null => "null"
  | .bool => "bool"
  | .integer => "integer"
  | .double => "double"
  | .string => "string"

/-- The proposal for a type, where `named` makes those for named types. -/
def Ty.proposal {ε : Type} (named : Nat → Except ε String) : Ty → Except ε String
  | .primitive p => .ok p.proposal
  | .array _ t => (· ++ " array") <$> t.proposal named
  | .map _ t => (· ++ " map") <$> t.proposal named
  | .named id => named id

namespace TypeGraph

/-- The proposal for a named type; at most `fuel` undeclared unions are entered one inside the
other. -/
def proposalOf (g : TypeGraph) (typeName : Nat → Except NameError String) :
    Nat → Nat → Except NameError String
  | 0, _ => .error (.fault .endless)
  | fuel + 1, id =>
    match g.shape? id with
    | some (.union members) =>
      match nullableOf members, nonNulls members with
      | some t, _ => ("nullable " ++ ·) <$> t.proposal (g.proposalOf typeName fuel)
      | none, [] => .ok "null"
      | none, [t] => t.proposal (g.proposalOf typeName fuel)
      | none, _ => typeName id
    | _ => typeName id

/-- The proposal for an arm that holds a type. -/
def memberProposal (g : TypeGraph) (typeName : Nat → Except NameError String) (t : Ty) :
    Except NameError String :=
  t.proposal (g.proposalOf typeName (g.types.size + 1))

end TypeGraph

end ZigDecl
