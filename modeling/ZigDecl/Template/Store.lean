import ZigDecl.Template.Pattern
import ZigDecl.Zig.Layout

/-! # Named templates

The templates of the library lay declarations out from loose values, with the texts of
`Zig.Layout`. Patterns can be added under names of their own, and in place of a template of the
library: then they also stand in for it where another template includes it. -/

namespace ZigDecl.Template

/-- The templates of the library. -/
inductive Builtin where
  | header | leadingComments | prelude | imports | description | typeAlias | renameBlocks
  | record | enumeration | union
  deriving DecidableEq, Repr

namespace Builtin

/-- The name that a template is asked for by. -/
def name : Builtin → String
  | .header => "header.zig.j2"
  | .leadingComments => "leading_comments.zig.j2"
  | .prelude => "prelude.zig.j2"
  | .imports => "imports.zig.j2"
  | .description => "description.zig.j2"
  | .typeAlias => "alias.zig.j2"
  | .renameBlocks => "rename_blocks.zig.j2"
  | .record => "struct.zig.j2"
  | .enumeration => "enum.zig.j2"
  | .union => "union.zig.j2"

def all : List Builtin := [.header, .leadingComments, .prelude, .imports, .description, .typeAlias,
  .renameBlocks, .record, .enumeration, .union]

def ofName? (name : String) : Option Builtin := all.find? (·.name == name)

end Builtin

/-- Imports, each item with the name and the file of a declaration. -/
def renderImports (scope : Scope) : Except TemplateCause String :=
  forEach (scope.slot "imports") fun item => do
    let name ← memberText item "name"
    let file ← memberText item "file"
    return Zig.Layout.importLine name file

def renderDescription (scope : Scope) : Except TemplateCause String :=
  forEach (scope.slot "description") fun line => return Zig.Layout.description [line.display]

/-- Blocks of renamed members, each with its extension and its entries. -/
def renderRenameBlocks (scope : Scope) : Except TemplateCause String :=
  forEach (scope.slot "rename_blocks") fun block => do
    let leader ← scope.text "prefix"
    let extension ← memberText block "extension"
    let entries ← (← itemsOf (← memberOf block "entries")).mapM fun entry => do
      let identifier ← memberText entry "identifier"
      let externalName ← memberText entry "external_name"
      return (identifier, externalName)
    return Zig.Layout.renameBlock leader extension entries

def renderField (includes : Builtin → Scope → Except TemplateCause String) (scope : Scope)
    (item : Value) : Except TemplateCause String := do
  let inner := (scope.bind "field" (.ok item)).bind "description" (memberOf item "description")
  let description ← includes .description inner
  let name ← memberText item "name"
  let type ← memberText item "type"
  return Zig.Layout.field description name type

/-- A template of the library, where `includes` renders the templates inside it. -/
def Builtin.render (includes : Builtin → Scope → Except TemplateCause String) (scope : Scope) :
    Builtin → Except TemplateCause String
  | .header => Zig.Layout.header <$> scope.text "top_level"
  | .leadingComments =>
    forEach (scope.slot "lines") fun line => return Zig.Layout.leadingComments [line.display]
  | .prelude => .ok Zig.Layout.prelude
  | .imports => renderImports scope
  | .description => renderDescription scope
  | .renameBlocks => renderRenameBlocks scope
  | .typeAlias => do
    let description ← includes .description scope
    let leader ← scope.text "prefix"
    let name ← scope.text "name"
    let type ← scope.text "type"
    return Zig.Layout.typeAlias description leader name type
  | .record => do
    let description ← includes .description scope
    let leader ← scope.text "prefix"
    let name ← scope.text "name"
    let fields ← forEach (scope.slot "fields") (renderField includes scope)
    let renames ← includes .renameBlocks scope
    return Zig.Layout.record description leader name fields renames
  | .enumeration => do
    let description ← includes .description scope
    let leader ← scope.text "prefix"
    let name ← scope.text "name"
    let cases ← itemsOf (← scope.slot "cases")
    let renames ← includes .renameBlocks scope
    return Zig.Layout.enumeration description leader name (cases.map Value.display) renames
  | .union => do
    let description ← includes .description scope
    let leader ← scope.text "prefix"
    let name ← scope.text "name"
    let arms ← (← itemsOf (← scope.slot "members")).mapM fun member => do
      let name ← memberText member "name"
      let type ← memberText member "type"
      return (name, type)
    return Zig.Layout.union description leader name arms

/-- The templates that were added, the last one first. -/
structure Store where
  added : List (String × String)
  deriving Repr

namespace Store

def empty : Store := ⟨[]⟩

/-- Add a template, in place of an earlier one of that name. -/
def add (s : Store) (name text : String) : Store := ⟨(name, text) :: s.added⟩

/-- The text that was last added under a name. -/
def addedText? (s : Store) (name : String) : Option String :=
  (s.added.find? (·.1 == name)).map (·.2)

/-- Whether there is a template of a name. -/
def has (s : Store) (name : String) : Bool :=
  (s.addedText? name).isSome || (Builtin.ofName? name).isSome

/-- A template inside another one. Templates that are included include no others. -/
def included (s : Store) (b : Builtin) (scope : Scope) : Except TemplateCause String :=
  match s.addedText? b.name with
  | some text => do (← Pattern.ofText text).fill scope
  | none => b.render (fun _ _ => .ok "") scope

/-- The scope of a context: an object in which one name is reserved. -/
def scopeOf : Value → Except TemplateCause Scope
  | .obj members =>
    if (Value.lookup "self" members).isSome then .error (.fault .wrongType)
    else .ok (Scope.ofMembers members)
  | _ => .error (.fault .wrongType)

def render (s : Store) (name : String) (context : Value) : Except Failure String :=
  Except.mapError (.template (some name)) <|
    match s.addedText? name with
    | some text => do
      let pattern ← Pattern.ofText text
      pattern.fill (← scopeOf context)
    | none =>
      match Builtin.ofName? name with
      | some b => do b.render s.included (← scopeOf context)
      | none => .error (.notFound name)

/-- Render a text as a template without a name. -/
def renderText (text : String) (context : Value) : Except Failure String :=
  Except.mapError (.template none) do
    let pattern ← Pattern.ofText text
    pattern.fill (← scopeOf context)

end Store

end ZigDecl.Template
