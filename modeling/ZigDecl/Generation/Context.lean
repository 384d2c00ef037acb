import ZigDecl.Failure
import ZigDecl.Names.Resolve
import ZigDecl.Rename
import ZigDecl.Template.Store
import ZigDecl.Zig.TypeMap

/-! # Declarations as text

One declaration at a time is turned into text, together with the warnings about the types in it. The
text is that of a template of the library, which gets to see the names, the types and the
descriptions that belong to the declaration. -/

namespace ZigDecl.Generation

open Zig (TypeExpr TypeMap)

/-- What every part of a rendering can look at. -/
structure Context where
  graph : TypeGraph
  names : Names
  config : Config
  options : Zig.Options

/-- Text, and the warnings that came up while it was made. -/
structure Rendered where
  text : String
  warnings : List String
  deriving DecidableEq, Repr

/-- What is declared: a name for the root of a top-level, or a named type. -/
inductive Declaration where
  | typeAlias (top : String) (root : Ty)
  | type (id : Nat)
  deriving DecidableEq, Repr

/-- The type whose mentions of other declarations count for a declaration. -/
def Declaration.node : Declaration → Ty
  | .typeAlias _ root => root
  | .type id => .named id

namespace Context

variable (c : Context)

def typeName (id : Nat) : Except Failure String :=
  (Names.typeName c.graph c.names id).mapError .naming

/-- How the types of the graph are mapped. -/
def typeMap : TypeMap := ⟨c.graph, Names.typeName c.graph c.names, c.options⟩

def leader : String := c.options.leader

/-- The lines of a description, none if there is no description or comments are not wanted. -/
def descriptionLines (description : Value) : Except Failure (List String) :=
  if !description.isTruthy || !c.config.addComments.isTruthy then .ok []
  else
    match description with
    | .str text =>
      .ok ((Text.lines (Text.trim text.toList)).map fun line => String.ofList (Text.trimEnd line))
    | _ => .error (.fault .missingOperation)

/-- The warnings about a type in a place. -/
def warningsAt (place : String) (t : TypeExpr) : List String :=
  t.issues.map fun issue => place ++ ": " ++ issue

def texts (lines : List String) : Value := .arr (lines.map Value.str)

/-- The text of a template of the library. -/
def fill (template : Template.Builtin) (scope : List (String × Value)) : Except Failure String :=
  Template.Store.empty.render template.name (.obj scope)

/-- The identifiers given to the members of a type. -/
def identifiersOf (id : Nat) (table : List (Nat × List String)) : Except Failure (List String) :=
  match entryFor? id table with
  | some identifiers => .ok identifiers
  | none => .error (.fault .missingKey)

/-- A renamed member as the template sees it. -/
def renameSlot (e : Rename.Entry) : Value :=
  .obj [("identifier", .str e.identifier), ("external_name", .str e.externalName)]

/-- The blocks of renamed members as the template sees them. -/
def renameSlots (entries : List Rename.Entry) : Value :=
  .arr ((Rename.blocks entries).map fun (direction, entries) =>
    .obj [("extension", .str (Zig.Layout.extension direction)),
      ("entries", .arr (entries.map renameSlot))])

def renderAlias (name : String) (root : Ty) : Except Failure Rendered := do
  let t ← (c.typeMap.type true root).mapError .naming
  let text ← fill .typeAlias [("prefix", .str c.leader), ("name", .str name), ("type", .str t.name),
    ("description", texts [])]
  return ⟨text, warningsAt name t⟩

/-- One field of a record as the template sees it, and the warnings about its type. -/
def fieldSlot (owner : String) (p : Property) (name : String) :
    Except Failure (Value × List String) := do
  let t ← (c.typeMap.propertyType p).mapError .naming
  let description ← c.descriptionLines p.description
  return (.obj [("name", .str name), ("type", .str t.name), ("description", texts description)],
    warningsAt (owner ++ "." ++ name) t)

/-- The fields of a record, one after the other. -/
def fieldSlots (owner : String) :
    List (Property × String) → Except Failure (List Value × List String)
  | [] => .ok ([], [])
  | (p, name) :: rest => do
    let (field, issues) ← c.fieldSlot owner p name
    let (fields, warnings) ← fieldSlots owner rest
    return (field :: fields, issues ++ warnings)

/-- The identifiers of members and their external names. -/
def renamesOf (identifiers : List String) (externalNames : List Value) : List Rename.Entry :=
  Rename.recordAll (identifiers.zip (externalNames.map Value.display))

def renderRecord (id : Nat) (properties : List Property) : Logged Failure Rendered := do
  let name ← c.typeName id
  let identifiers ← identifiersOf id c.names.fields
  let (fields, warnings) ← c.fieldSlots name (properties.zip identifiers)
  let renames := renamesOf identifiers (properties.map (·.name))
  if !renames.isEmpty then
    Logged.write .debug (name ++ " renames " ++ toString renames.length ++ " field(s)")
  let description ← c.descriptionLines (c.graph.descriptionOf id)
  let text ← fill .record [("prefix", .str c.leader), ("name", .str name),
    ("description", texts description), ("fields", .arr fields),
    ("rename_blocks", renameSlots renames)]
  return ⟨text, warnings⟩

def renderEnum (id : Nat) (cases : List String) : Except Failure Rendered := do
  let name ← c.typeName id
  let identifiers ← identifiersOf id c.names.cases
  let renames := renamesOf identifiers (cases.map Value.str)
  let description ← c.descriptionLines (c.graph.descriptionOf id)
  let text ← fill .enumeration [("prefix", .str c.leader), ("name", .str name),
    ("description", texts description), ("cases", texts identifiers),
    ("rename_blocks", renameSlots renames)]
  return ⟨text, []⟩

/-- The arms of a union as the template sees them, one after the other, and the warnings about their
types. -/
def armSlots (owner : String) :
    List (Ty × String) → Except Failure (List Value × List String)
  | [] => .ok ([], [])
  | (t, name) :: rest => do
    let t ← (c.typeMap.type true t).mapError .naming
    let (arms, warnings) ← armSlots owner rest
    return (.obj [("name", .str name), ("type", .str t.name)] :: arms,
      warningsAt (owner ++ "." ++ name) t ++ warnings)

def renderUnion (id : Nat) (members : List Ty) : Except Failure Rendered := do
  let name ← c.typeName id
  let identifiers ← identifiersOf id c.names.arms
  let (arms, warnings) ← c.armSlots name ((nonNulls members).zip identifiers)
  let description ← c.descriptionLines (c.graph.descriptionOf id)
  let text ← fill .union [("prefix", .str c.leader), ("name", .str name),
    ("description", texts description), ("members", .arr arms)]
  return ⟨text, warnings⟩

def render (name : String) : Declaration → Logged Failure Rendered
  | .typeAlias _ root => c.renderAlias name root
  | .type id =>
    match c.graph.shape? id with
    | some (.record properties) => c.renderRecord id properties
    | some (.enum cases) => c.renderEnum id cases
    | some (.union members) => c.renderUnion id members
    | none => .fail (.fault .missingKey)

/-- The declaration of a top-level, if it is declared as an alias. -/
def aliasOf (top : String × Ty) : Option (String × Declaration) :=
  (entryFor? top.1 c.names.aliases).map fun name => (name, .typeAlias top.1 top.2)

def declarationOf (id : Nat) : Except Failure (String × Declaration) := do
  return (← c.typeName id, .type id)

/-- The declarations with their names in the order of emission: aliases, records, unions,
enumerations. -/
def declarations : Except Failure (List (String × Declaration)) := do
  let types ← (c.graph.records ++ c.graph.unions ++ c.graph.enums).mapM c.declarationOf
  return c.graph.topLevels.filterMap c.aliasOf ++ types

def topLevelName (top : String) : Except Failure String :=
  match c.names.topLevelName? top with
  | some name => .ok name
  | none => .error (.fault .missingKey)

def header : Except Failure String :=
  match c.config.leadingComments, c.graph.topLevels with
  | .null, (top, _) :: _ => do fill .header [("top_level", .str (← c.topLevelName top))]
  | .null, [] => .error .noTopLevels
  | comments, _ => fill .leadingComments [("lines", comments)]

/-- The first lines of code of every file. -/
def renderPrelude : Except Failure String := fill .prelude []

def importOf (name : String) : Except Failure (String × String) :=
  match c.names.fileName? name with
  | some file => .ok (name, file)
  | none => .error (.fault .missingKey)

/-- The declarations that a declaration refers to, with their files. -/
def importsOf (d : Declaration) : Except Failure (List (String × String)) := do
  let ids ← (c.graph.referencedDeclarations d.node).mapError .fault
  let names ← ids.mapM c.typeName
  names.mapM c.importOf

def renderImports (imports : List (String × String)) : Except Failure String :=
  fill .imports [("imports", .arr (imports.map fun (name, file) =>
    .obj [("name", .str name), ("file", .str file)]))]

end Context

end ZigDecl.Generation
