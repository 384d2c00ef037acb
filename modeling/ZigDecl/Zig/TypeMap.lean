import ZigDecl.Graph.Basic
import ZigDecl.Names.Basic
import ZigDecl.Zig.Options
import ZigDecl.Zig.TypeExpr

/-! # Zig types of a graph

Named types are referred to by their names and never written out. A union of null and one other
type is that type made optional, and other unions without a declaration stand for their only
member. -/

namespace ZigDecl.Zig

/-- The remark on a type about which the input says nothing. -/
def anyIssue : String :=
  "Type could not be inferred because there is no data about it in the input"

/-- The remark on a type of which the input has only nulls. -/
def nullIssue : String :=
  "The only value for this in the input is null, " ++
    "which means you probably need a more complete input sample"

/-- A type given by its text, with an issue if issues are wanted. -/
def annotated (withIssues : Bool) (name issue : String) : TypeExpr :=
  let t : TypeExpr := ⟨name, name.toList.head? == some '?', []⟩
  if withIssues then t.withIssue issue else t

def primitiveType (o : Options) (withIssues : Bool) : Primitive → Except NameError TypeExpr
  | .any =>
    match o.anyType with
    | .str name => .ok (annotated withIssues name anyIssue)
    | _ => .error (.fault .missingOperation)
  | .null => .ok (annotated withIssues ("?" ++ o.stringType) nullIssue)
  | .bool => .ok (.plain "bool")
  | .integer => .ok (.plain o.intType)
  | .double => .ok (.plain o.floatType)
  | .string => .ok (.plain o.stringType)

/-- The Zig type of a type, where `named` makes those of named types. -/
def typeWith (o : Options) (withIssues : Bool) (named : Nat → Except NameError TypeExpr) :
    Ty → Except NameError TypeExpr
  | .primitive p => primitiveType o withIssues p
  | .array _ t => (·.wrap "[]" "") <$> typeWith o withIssues named t
  | .map _ t => (·.wrap "std.StringHashMap(" ")") <$> typeWith o withIssues named t
  | .named id => named id

/-- How types of a graph are mapped: the names of declared types, and the types in use. -/
structure TypeMap where
  graph : TypeGraph
  typeName : Nat → Except NameError String
  options : Options

namespace TypeMap

/-- The Zig type of a named type; at most `fuel` undeclared unions are entered one inside the
other. -/
def namedType (m : TypeMap) (withIssues : Bool) : Nat → Nat → Except NameError TypeExpr
  | 0, _ => .error (.fault .endless)
  | fuel + 1, id =>
    match m.graph.shape? id with
    | some (.union members) =>
      let inner := typeWith m.options withIssues (m.namedType withIssues fuel)
      match nullableOf members, nonNulls members with
      | some t, _ => TypeExpr.asOptional <$> inner t
      | none, [] => primitiveType m.options withIssues .null
      | none, [t] => inner t
      | none, _ => do
        let t := TypeExpr.plain (← m.typeName id)
        return if hasNull members then t.asOptional else t
    | _ => TypeExpr.plain <$> m.typeName id

def type (m : TypeMap) (withIssues : Bool) (t : Ty) : Except NameError TypeExpr :=
  typeWith m.options withIssues (m.namedType withIssues (m.graph.types.size + 1)) t

/-- The Zig type of a type that may be missing. -/
def nullableType (m : TypeMap) (withIssues : Bool) (t : Ty) : Except NameError TypeExpr :=
  TypeExpr.asOptional <$> m.type withIssues t

def propertyType (m : TypeMap) (p : Property) : Except NameError TypeExpr :=
  if p.isOptional then m.nullableType true p.type else m.type true p.type

end TypeMap

end ZigDecl.Zig
