import ZigDecl.Generation.Context
import ZigDecl.Proofs.Steps

/-! # The texts of declarations

Declarations are laid out by the templates of the library. Main statements: filled with the names,
types and descriptions of a declaration, every template gives the text that the layout says. -/

namespace ZigDecl

open Template (Builtin Scope)

/-! ## Lists in templates -/

namespace Template

theorem forEach_arr {α : Type} {f : α → Value} {body : Value → Except TemplateCause String}
    {h : α → String} {xs : List α} (hbody : ∀ x ∈ xs, body (f x) = .ok (h x)) :
    forEach (.ok (.arr (xs.map f))) body = .ok (String.join (xs.map h)) := by
  show (do return String.join (← (xs.map f).mapM body)) = _
  rw [mapM_map_ok hbody]
  rfl

theorem Builtin.ofName?_name (b : Builtin) : ofName? b.name = some b := by
  cases b <;> decide

end Template

namespace Generation.Context

/-- What the fields of a record look like in a template: name, type and description. -/
structure FieldText where
  name : String
  type : String
  description : List String
  deriving DecidableEq, Repr

/-- A field as a template sees it. -/
def FieldText.slot (f : FieldText) : Value :=
  .obj [("name", .str f.name), ("type", .str f.type), ("description", texts f.description)]

/-- A field as it is laid out. -/
def FieldText.layout (f : FieldText) : String :=
  Zig.Layout.field (Zig.Layout.description f.description) f.name f.type

/-- An arm as a template sees it. -/
def armSlot (arm : String × String) : Value :=
  .obj [("name", .str arm.1), ("type", .str arm.2)]

/-- The blocks of renamed members as they are laid out. -/
def renameTexts (entries : List Rename.Entry) : List (String × List (String × String)) :=
  (Rename.blocks entries).map fun (direction, entries) =>
    (Zig.Layout.extension direction, entries.map fun e => (e.identifier, e.externalName))

/-- A template sees the members of its scope. -/
theorem fill_eq (b : Builtin) {scope : List (String × Value)} {text : String}
    (hself : Value.lookup "self" scope = none)
    (h : b.render Template.Store.empty.included (Scope.ofMembers scope) = .ok text) :
    fill b scope = .ok text := by
  have hadded : Template.Store.empty.addedText? b.name = none := rfl
  simp only [fill, Template.Store.render, hadded, Builtin.ofName?_name, Template.Store.scopeOf,
    hself]
  show Except.mapError _ (b.render Template.Store.empty.included (Scope.ofMembers scope)) = _
  rw [h]
  rfl

theorem fill_header (topLevel : String) :
    fill .header [("top_level", .str topLevel)] = .ok (Zig.Layout.header topLevel) := rfl

theorem fill_prelude : fill .prelude [] = .ok Zig.Layout.prelude := rfl

theorem description_eq (lines : List String) :
    Zig.Layout.description lines =
      String.join (lines.map fun line => Zig.Layout.description [line]) := by
  rw [Zig.Layout.description]
  refine congrArg String.join (List.map_congr_left fun line _ => ?_)
  simp [Zig.Layout.description]

theorem leadingComments_eq (lines : List String) :
    Zig.Layout.leadingComments lines =
      String.join (lines.map fun line => Zig.Layout.leadingComments [line]) := by
  rw [Zig.Layout.leadingComments]
  refine congrArg String.join (List.map_congr_left fun line _ => ?_)
  simp [Zig.Layout.leadingComments]

theorem fill_leadingComments (lines : List String) :
    fill .leadingComments [("lines", .arr (lines.map .str))] =
      .ok (Zig.Layout.leadingComments lines) := by
  refine fill_eq _ rfl ?_
  rw [leadingComments_eq]
  exact Template.forEach_arr fun line _ => rfl

theorem fill_imports (items : List (String × String)) :
    fill .imports [("imports", .arr (items.map fun (name, file) =>
      .obj [("name", .str name), ("file", .str file)]))] = .ok (Zig.Layout.imports items) := by
  refine fill_eq _ rfl ?_
  exact Template.forEach_arr fun item _ => rfl

/-- A description that is included. -/
theorem included_description {scope : Scope} (lines : List String)
    (h : scope.slot "description" = .ok (texts lines)) :
    Template.Store.empty.included .description scope = .ok (Zig.Layout.description lines) := by
  rw [description_eq]
  show Template.forEach (scope.slot "description") _ = _
  rw [h]
  exact Template.forEach_arr fun line _ => rfl

/-- Blocks of renamed members that are included. -/
theorem included_renameBlocks {scope : Scope} (leader : String) (entries : List Rename.Entry)
    (hleader : scope.text "prefix" = .ok leader)
    (h : scope.slot "rename_blocks" = .ok (renameSlots entries)) :
    Template.Store.empty.included .renameBlocks scope =
      .ok (Zig.Layout.renameBlocks leader (renameTexts entries)) := by
  show Template.forEach (scope.slot "rename_blocks") _ = _
  rw [h, Zig.Layout.renameBlocks, renameTexts, List.map_map]
  refine Template.forEach_arr fun block _ => ?_
  have hentries : (block.2.map renameSlot).mapM (fun entry => do
      let identifier ← Template.memberText entry "identifier"
      let externalName ← Template.memberText entry "external_name"
      return (identifier, externalName)) =
        Except.ok (block.2.map fun e => (e.identifier, e.externalName)) :=
    mapM_map_ok fun e _ => rfl
  show (do
    let leader ← scope.text "prefix"
    let entries ← (block.2.map renameSlot).mapM _
    return Zig.Layout.renameBlock leader (Zig.Layout.extension block.1) entries) = _
  rw [hleader, ok_bind, hentries]
  rfl

/-! ## Declarations -/

theorem fill_typeAlias (leader name type : String) :
    fill .typeAlias [("prefix", .str leader), ("name", .str name), ("type", .str type),
      ("description", texts [])] = .ok (Zig.Layout.typeAlias "" leader name type) := rfl

/-- One field, with its description included. -/
theorem renderField_slot (scope : Scope) (f : FieldText) :
    Template.renderField Template.Store.empty.included scope f.slot = .ok f.layout := by
  show (do
    let description ← Template.Store.empty.included .description _
    return Zig.Layout.field description f.name f.type) = _
  rw [included_description f.description rfl]
  rfl

theorem fill_record (leader name : String) (lines : List String) (fields : List FieldText)
    (entries : List Rename.Entry) :
    fill .record [("prefix", .str leader), ("name", .str name), ("description", texts lines),
      ("fields", .arr (fields.map FieldText.slot)), ("rename_blocks", renameSlots entries)] =
      .ok (Zig.Layout.record (Zig.Layout.description lines) leader name
        (String.join (fields.map FieldText.layout))
        (Zig.Layout.renameBlocks leader (renameTexts entries))) := by
  refine fill_eq _ rfl ?_
  show (do
    let description ← Template.Store.empty.included .description _
    let fields ← Template.forEach (.ok (.arr (fields.map FieldText.slot))) _
    let renames ← Template.Store.empty.included .renameBlocks _
    return Zig.Layout.record description leader name fields renames) = _
  rw [included_description lines rfl, ok_bind,
    Template.forEach_arr fun f _ => renderField_slot _ f, ok_bind,
    included_renameBlocks leader entries rfl rfl]
  rfl

theorem map_display_str (lines : List String) :
    (lines.map Value.str).map Value.display = lines := by
  rw [List.map_map]
  exact List.map_id lines

theorem fill_enumeration (leader name : String) (lines cases : List String)
    (entries : List Rename.Entry) :
    fill .enumeration [("prefix", .str leader), ("name", .str name), ("description", texts lines),
      ("cases", texts cases), ("rename_blocks", renameSlots entries)] =
      .ok (Zig.Layout.enumeration (Zig.Layout.description lines) leader name cases
        (Zig.Layout.renameBlocks leader (renameTexts entries))) := by
  refine fill_eq _ rfl ?_
  show (do
    let description ← Template.Store.empty.included .description _
    let renames ← Template.Store.empty.included .renameBlocks _
    return Zig.Layout.enumeration description leader name ((cases.map Value.str).map Value.display)
      renames) = _
  rw [included_description lines rfl, ok_bind,
    included_renameBlocks leader entries rfl rfl, map_display_str]
  rfl

theorem fill_union (leader name : String) (lines : List String) (arms : List (String × String)) :
    fill .union [("prefix", .str leader), ("name", .str name), ("description", texts lines),
      ("members", .arr (arms.map armSlot))] =
      .ok (Zig.Layout.union (Zig.Layout.description lines) leader name arms) := by
  refine fill_eq _ rfl ?_
  have harms : (arms.map armSlot).mapM (fun member => do
      let name ← Template.memberText member "name"
      let type ← Template.memberText member "type"
      return (name, type)) = Except.ok (arms.map id) := mapM_map_ok fun arm _ => rfl
  show (do
    let description ← Template.Store.empty.included .description _
    let arms ← (arms.map armSlot).mapM _
    return Zig.Layout.union description leader name arms) = _
  rw [included_description lines rfl, ok_bind, harms, List.map_id]
  rfl

end Generation.Context

end ZigDecl
