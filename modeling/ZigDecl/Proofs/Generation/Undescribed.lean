import ZigDecl.Generation.Result
import ZigDecl.Proofs.Graph.Undescribed

/-! # Runs on graphs without their descriptions

Names, types, imports, warnings and facts are made from what a graph says besides its descriptions.
Main statement: if comments are not wanted, a run on a graph is a run on the graph without
descriptions. -/

namespace ZigDecl

/-! ## Names and types -/

namespace TypeGraph

variable (g : TypeGraph)

theorem proposalOf_undescribed (typeName : Nat → Except NameError String) (fuel : Nat) :
    g.undescribed.proposalOf typeName fuel = g.proposalOf typeName fuel := by
  induction fuel with
  | zero => rfl
  | succ fuel ih =>
    funext id
    rw [proposalOf, proposalOf, ih, shape?_undescribed]
    rcases g.shape? id with _ | _ | _ | _ <;> rfl

@[simp] theorem memberProposal_undescribed (typeName : Nat → Except NameError String) (t : Ty) :
    g.undescribed.memberProposal typeName t = g.memberProposal typeName t := by
  rw [memberProposal, memberProposal, proposalOf_undescribed, size_types_undescribed]

@[simp] theorem warnings_undescribed : g.undescribed.warnings = g.warnings := by
  simp only [warnings, records_undescribed, enums_undescribed, namedTypes_undescribed,
    nameOf_undescribed, shape?_undescribed]
  congr 2
  · congr 1
    funext id
    rcases g.shape? id with _ | (_ | _) | _ | _ <;> rfl
  · congr 1
    funext id
    rcases g.shape? id with _ | _ | _ | _ <;> rfl
  · funext id
    rcases g.shape? id with _ | _ | _ | _ <;> rfl

end TypeGraph

namespace Names

variable (g : TypeGraph)

@[simp] theorem rootTypesOf_undescribed : rootTypesOf g.undescribed = rootTypesOf g := by
  have hlend : lend g.undescribed = lend g := by
    funext found top
    obtain ⟨name, root⟩ := top
    cases root with
    | named id => rw [lend, lend, TypeGraph.isDeclared_undescribed]
    | _ => rfl
  rw [rootTypesOf, rootTypesOf, hlend, TypeGraph.topLevels_undescribed]

@[simp] theorem externalNames_undescribed (id : Nat) :
    externalNames g.undescribed id = externalNames g id := by
  rw [externalNames, externalNames, TypeGraph.shape?_undescribed]
  rcases g.shape? id with _ | _ | _ | _
  · rfl
  · simp [Shape.undescribed, Property.undescribed]
  · rfl
  · rfl

@[simp] theorem typeName_undescribed : typeName g.undescribed = typeName g := by
  funext names id
  rw [typeName, typeName, TypeGraph.shownNamed_undescribed]

theorem giveTypes_undescribed (ids : List Nat) (ns : Name.Namespace) (names : Names) :
    giveTypes g.undescribed ns names ids = giveTypes g ns names ids := by
  induction ids generalizing ns names with
  | nil => rfl
  | cons id rest ih => 
    rw [giveTypes, giveTypes, TypeGraph.nameOf_undescribed]
    simp only [ih]

theorem giveMembers_undescribed (names : Names) (what : String) (ids : List Nat) :
    giveMembers g.undescribed names what ids = giveMembers g names what ids := by
  induction ids with
  | nil => rfl
  | cons id rest ih =>
    rw [giveMembers, giveMembers, externalNames_undescribed, ih]

theorem giveArms_undescribed (names : Names) (label : String) (ts : List Ty)
    (ns : Name.Namespace) :
    giveArms g.undescribed names label ns ts = giveArms g names label ns ts := by
  induction ts generalizing ns with
  | nil => rfl
  | cons t ts ih =>
    rw [giveArms, giveArms, TypeGraph.memberProposal_undescribed, typeName_undescribed]
    simp only [ih]

theorem giveUnions_undescribed (names : Names) (ids : List Nat) :
    giveUnions g.undescribed names ids = giveUnions g names ids := by
  induction ids with
  | nil => rfl
  | cons id rest ih =>
    rw [giveUnions, giveUnions, TypeGraph.parts_undescribed, ih]
    simp only [giveArms_undescribed]

/-- Names do not come from descriptions. -/
@[simp] theorem resolve_undescribed : resolve g.undescribed = resolve g := by
  simp only [resolve, rootTypesOf_undescribed, TypeGraph.topLevels_undescribed,
    TypeGraph.declarations_undescribed, TypeGraph.records_undescribed,
    TypeGraph.enums_undescribed, TypeGraph.unions_undescribed, giveTypes_undescribed,
    giveMembers_undescribed, giveUnions_undescribed]

end Names

namespace Zig.TypeMap

variable (g : TypeGraph) (typeName : Nat → Except NameError String) (options : Options)

theorem namedType_undescribed (withIssues : Bool) (fuel : Nat) :
    namedType ⟨g.undescribed, typeName, options⟩ withIssues fuel =
      namedType ⟨g, typeName, options⟩ withIssues fuel := by
  induction fuel with
  | zero => rfl
  | succ fuel ih =>
    funext id
    rw [namedType, namedType, ih]
    simp only [TypeGraph.shape?_undescribed]
    rcases g.shape? id with _ | _ | _ | _ <;> rfl

theorem type_undescribed (withIssues : Bool) (t : Ty) :
    type ⟨g.undescribed, typeName, options⟩ withIssues t =
      type ⟨g, typeName, options⟩ withIssues t := by
  simp only [type, namedType_undescribed, TypeGraph.size_types_undescribed]

theorem propertyType_undescribed (p : Property) :
    propertyType ⟨g.undescribed, typeName, options⟩ p.undescribed =
      propertyType ⟨g, typeName, options⟩ p := by
  simp only [propertyType, nullableType, type_undescribed]
  rfl

end Zig.TypeMap

/-! ## Text -/

namespace Generation.Context

variable (c : Context)

/-- What a rendering can look at, without descriptions. -/
def undescribed : Context := { c with graph := c.graph.undescribed }

@[simp] theorem typeName_undescribed : c.undescribed.typeName = c.typeName := by
  funext id
  simp [typeName, undescribed]

@[simp] theorem typeMap_undescribed (withIssues : Bool) (t : Ty) :
    c.undescribed.typeMap.type withIssues t = c.typeMap.type withIssues t := by
  simp only [typeMap, undescribed, Zig.TypeMap.type_undescribed, Names.typeName_undescribed]

@[simp] theorem propertyType_undescribed (p : Property) :
    c.undescribed.typeMap.propertyType p.undescribed = c.typeMap.propertyType p := by
  simp only [typeMap, undescribed, Zig.TypeMap.propertyType_undescribed,
    Names.typeName_undescribed]

@[simp] theorem emitPreamble_undescribed (s : Output.Sink) :
    c.undescribed.emitPreamble s = c.emitPreamble s := rfl

@[simp] theorem streamName_undescribed : c.undescribed.streamName = c.streamName := rfl

@[simp] theorem importsOf_undescribed (d : Declaration) :
    c.undescribed.importsOf d = c.importsOf d := by
  simp only [importsOf, typeName_undescribed]
  simp only [undescribed, TypeGraph.referencedDeclarations_undescribed]
  rfl

@[simp] theorem declarations_undescribed : c.undescribed.declarations = c.declarations := by
  have hof : c.undescribed.declarationOf = c.declarationOf := by
    funext id
    rw [declarationOf, declarationOf, typeName_undescribed]
  simp only [declarations, hof]
  simp only [undescribed, TypeGraph.records_undescribed, TypeGraph.unions_undescribed,
    TypeGraph.enums_undescribed, TypeGraph.topLevels_undescribed]
  rfl

@[simp] theorem armSlots_undescribed (owner : String) (arms : List (Ty × String)) :
    c.undescribed.armSlots owner arms = c.armSlots owner arms := by
  induction arms with
  | nil => rfl
  | cons arm rest ih => rw [armSlots, armSlots, ih, typeMap_undescribed]

/-! ### Text without comments -/

section Uncommented

variable {c : Context} (h : c.config.addComments.isTruthy = false)

include h

/-- Where comments are not wanted, no description has lines. -/
theorem descriptionLines_of_uncommented (description : Value) :
    c.descriptionLines description = .ok [] := by
  simp [descriptionLines.eq_def, h]

theorem fieldSlots_undescribed (owner : String) (fields : List (Property × String)) :
    c.undescribed.fieldSlots owner (fields.map (Prod.map Property.undescribed id)) =
      c.fieldSlots owner fields := by
  induction fields with
  | nil => rfl
  | cons field rest ih =>
    obtain ⟨p, name⟩ := field
    rw [List.map_cons, Prod.map_apply, id, fieldSlots, fieldSlots, ih, fieldSlot, fieldSlot,
      propertyType_undescribed, descriptionLines_of_uncommented h,
      descriptionLines_of_uncommented (c := c.undescribed) h]

theorem renderRecord_undescribed (id : Nat) (properties : List Property) :
    c.undescribed.renderRecord id (properties.map Property.undescribed) =
      c.renderRecord id properties := by
  have hnames : (properties.map Property.undescribed).map (·.name) = properties.map (·.name) := by
    rw [List.map_map]
    rfl
  simp only [renderRecord, typeName_undescribed, descriptionLines_of_uncommented h,
    descriptionLines_of_uncommented (c := c.undescribed) h, List.zip_map_left,
    fieldSlots_undescribed h, hnames]
  rfl

theorem renderEnum_undescribed (id : Nat) (cases : List String) :
    c.undescribed.renderEnum id cases = c.renderEnum id cases := by
  simp only [renderEnum, typeName_undescribed, descriptionLines_of_uncommented h,
    descriptionLines_of_uncommented (c := c.undescribed) h]
  rfl

theorem renderUnion_undescribed (id : Nat) (members : List Ty) :
    c.undescribed.renderUnion id members = c.renderUnion id members := by
  simp only [renderUnion, typeName_undescribed, armSlots_undescribed,
    descriptionLines_of_uncommented h, descriptionLines_of_uncommented (c := c.undescribed) h]
  rfl

theorem render_undescribed (name : String) (d : Declaration) :
    c.undescribed.render name d = c.render name d := by
  cases d with
  | typeAlias top root => 
    simp only [render, renderAlias, typeMap_undescribed]
    rfl
  | type id =>
    have hshape : c.undescribed.graph.shape? id = (c.graph.shape? id).map Shape.undescribed :=
      c.graph.shape?_undescribed id
    rw [render, render, hshape]
    rcases c.graph.shape? id with _ | properties | cases | members
    · rfl
    · exact renderRecord_undescribed h id properties
    · exact congrArg _ (renderEnum_undescribed h id cases)
    · exact congrArg _ (renderUnion_undescribed h id members)

theorem emitAll_undescribed (declarations : List (String × Declaration)) (e : Emitted) :
    c.undescribed.emitAll declarations e = c.emitAll declarations e := by
  induction declarations generalizing e with
  | nil => rfl
  | cons declaration rest ih =>
    simp only [emitAll, render_undescribed h, ih]

theorem emitFile_undescribed (name : String) (d : Declaration) (s : Output.Sink)
    (warnings : List String) :
    c.undescribed.emitFile name d s warnings = c.emitFile name d s warnings := by
  simp only [emitFile, render_undescribed h, emitPreamble_undescribed, importsOf_undescribed]
  rfl

theorem emitFiles_undescribed (declarations : List (String × Declaration)) (e : Emitted) :
    c.undescribed.emitFiles declarations e = c.emitFiles declarations e := by
  induction declarations generalizing e with
  | nil => rfl
  | cons declaration rest ih =>
    simp only [emitFiles, emitFile_undescribed h, ih]

end Uncommented

end Generation.Context

/-! ## Runs -/

namespace Generator

open Generation

/-- If comments are not wanted, a run on a graph is a run on the graph without descriptions. -/
theorem run_undescribed {gen : Generator} (h : gen.config.addComments.isTruthy = false)
    (g : TypeGraph) : gen.run g.undescribed = gen.run g := by
  have hcontext (names : Names) :
      gen.context g.undescribed names = (gen.context g names).undescribed := rfl
  have hemission (names : Names) (s : Output.Sink) :
      gen.emission (gen.context g.undescribed names) s = gen.emission (gen.context g names) s := by
    rw [emission, emission, hcontext]
    split
    · simp only [Context.emitSplit, Context.declarations_undescribed,
        Context.emitFiles_undescribed (c := gen.context g names) h]
    · simp only [Context.emitSingle, Context.declarations_undescribed,
        Context.streamName_undescribed, Context.emitPreamble_undescribed,
        Context.emitAll_undescribed (c := gen.context g names) h]
  have hgenerate :
      gen.generateWith gen.emission g.undescribed = gen.generateWith gen.emission g := by
    simp only [generateWith, hemission, Names.resolve_undescribed, TypeGraph.topLevels_undescribed]
  have hfacts (files : List Output.File) : gen.facts g.undescribed files = gen.facts g files := by
    simp [facts]
  have hconclude : gen.conclude g.undescribed = gen.conclude g := by
    funext result
    unfold conclude
    simp only [hfacts, TypeGraph.topLevels_undescribed, TypeGraph.warnings_undescribed]
  rw [run, run, runWith, runWith, hgenerate, hconclude]

end Generator

end ZigDecl
