import ZigDecl.Proofs.Generation.Rendering
import ZigDecl.Proofs.Generation.Solid
import ZigDecl.Proofs.Generation.Undescribed
import ZigDecl.Proofs.Output.Comments

/-! # Declarations with and without comments

A declaration has its description in front, and so has each field of a record. Main statement: every
declaration rendered with comments has the warnings and the lines of code of the one rendered
without them, and if one of them cannot be rendered, neither can the other. -/

namespace ZigDecl

open Output (CommentedText codeLines isDocLine tidyLine)
open Text (IsLine Opens IsSolid blockLines)

/-! ## Layouts -/

namespace Zig

theorem isDocLine_docLine (line : String) : isDocLine (tidyLine (docLine line)) = true := by
  obtain ⟨rest, hrest⟩ := exists_tidyLine_docLine line
  rw [hrest, isDocLine]
  exact List.isPrefixOf_iff_prefix.mpr ⟨rest, rfl⟩

theorem isDocLine_memberDocLine (line : String) :
    isDocLine (tidyLine (memberDocLine line)) = true := by
  obtain ⟨rest, hrest⟩ := exists_tidyLine_memberDocLine line
  rw [hrest, isDocLine]
  exact List.isPrefixOf_iff_prefix.mpr ⟨rest, rfl⟩

theorem isBlank_of_isNameChar {c : Char} (h : Name.isNameChar c = true) :
    Text.isBlank c = false :=
  Name.forall_ascii (P := fun c => Name.isNameChar c = true → Text.isBlank c = false)
    (by decide +kernel) c (Name.toNat_lt_of_isNameChar h) h

theorem opens_of_isIdentifier {name : String} (h : isIdentifier name = true) : Opens name := by
  cases hcs : name.toList with
  | nil => simp [isIdentifier, hcs, hasIdentifierForm] at h
  | cons c cs =>
    exact ⟨c, cs, hcs, isBlank_of_isNameChar (Reader.isLegal_of_isIdentifier h c (by simp [hcs]))⟩

namespace Layout

/-- A declaration of a constant, with comments in front. -/
theorem commentedText_const {docs : List String} (hdocs : ∀ line ∈ docs, IsLine line)
    {leader : String} (hl : IsLeader leader) (opening : String) {body body' : String}
    (hbody : CommentedText body body') :
    CommentedText (description docs ++ (leader ++ ("const " ++ (opening ++ "\n") ++ body)))
      (description [] ++ (leader ++ ("const " ++ (opening ++ "\n") ++ body'))) := by
  have hline : CommentedText (leader ++ ("const " ++ (opening ++ "\n") ++ body))
      (leader ++ ("const " ++ (opening ++ "\n") ++ body')) := by
    simpa only [String.append_assoc] using
      (CommentedText.line (leader ++ ("const " ++ opening))).append hbody
  have hopens : Opens (leader ++ ("const " ++ (opening ++ "\n") ++ body)) :=
    opens_leader hl ((Opens.append ⟨'c', _, rfl, by decide⟩ _).append _)
  have hds : ∀ l ∈ docs.map docLine, isDocLine (tidyLine l) = true :=
    List.forall_mem_map.mpr fun line _ => isDocLine_docLine line
  have hempty : IsLine "" := by decide
  simpa [description] using
    CommentedText.docs (hasLines_description hdocs) hds hempty hopens (by simpa using hline)

/-- A field, with comments in front. -/
theorem commentedText_field {docs : List String} (hdocs : ∀ line ∈ docs, IsLine line)
    {name : String} (hname : isIdentifier name = true) (type : String) :
    CommentedText (field (description docs) name type) (field (description []) name type) := by
  have hmember : member name type = "    " ++ (name ++ (": " ++ type ++ ",\n")) := by
    simp [member, String.append_assoc]
  have hline : CommentedText (member name type) (member name type) := by
    rw [member_eq]
    exact .line _
  have hds : ∀ l ∈ docs.map memberDocLine, isDocLine (tidyLine l) = true :=
    List.forall_mem_map.mpr fun line _ => isDocLine_memberDocLine line
  have hempty : Text.indent 4 (description []) = "" := rfl
  rw [field, field, hempty, String.empty_append, hmember]
  exact .docs (hasLines_memberDocs hdocs) hds (by decide)
    ((opens_of_isIdentifier hname).append _) (hmember ▸ hline)

/-- Blocks of renamed members are lines, whatever is in them. -/
theorem commentedText_renameBlocks (leader : String)
    (blocks : List (String × List (String × String))) :
    CommentedText (renameBlocks leader blocks) (renameBlocks leader blocks) := by
  refine CommentedText.join (List.forall₂_same.mpr fun block _ => ?_)
  show CommentedText (renameBlock leader block.1 block.2) (renameBlock leader block.1 block.2)
  rw [renameBlock_eq, ← String.append_assoc]
  exact .line _

theorem commentedText_record {docs : List String} (hdocs : ∀ line ∈ docs, IsLine line)
    {leader : String} (hl : IsLeader leader) (name : String) {fields fields' : String}
    (hfields : CommentedText fields fields') (blocks : List (String × List (String × String))) :
    CommentedText (record (description docs) leader name fields (renameBlocks leader blocks))
      (record (description []) leader name fields' (renameBlocks leader blocks)) := by
  have hbody := (hfields.append (commentedText_renameBlocks leader blocks)).append (.line "\x7d;")
  simpa [record, String.append_assoc] using
    commentedText_const hdocs hl (name ++ " = struct \x7b") hbody

theorem commentedText_enumeration {docs : List String} (hdocs : ∀ line ∈ docs, IsLine line)
    {leader : String} (hl : IsLeader leader) (name : String) (cases : List String)
    (blocks : List (String × List (String × String))) :
    CommentedText (enumeration (description docs) leader name cases (renameBlocks leader blocks))
      (enumeration (description []) leader name cases (renameBlocks leader blocks)) := by
  have hcases : CommentedText (String.join (cases.map fun case => "    " ++ case ++ ",\n"))
      (String.join (cases.map fun case => "    " ++ case ++ ",\n")) :=
    .join (List.forall₂_same.mpr fun case _ => by rw [case_eq]; exact .line _)
  have hbody := (hcases.append (commentedText_renameBlocks leader blocks)).append (.line "\x7d;")
  simpa [enumeration, String.append_assoc] using
    commentedText_const hdocs hl (name ++ " = enum \x7b") hbody

theorem commentedText_union {docs : List String} (hdocs : ∀ line ∈ docs, IsLine line)
    {leader : String} (hl : IsLeader leader) (name : String) (arms : List (String × String)) :
    CommentedText (union (description docs) leader name arms)
      (union (description []) leader name arms) := by
  have harms : CommentedText (String.join (arms.map fun arm => member arm.1 arm.2))
      (String.join (arms.map fun arm => member arm.1 arm.2)) :=
    .join (List.forall₂_same.mpr fun arm _ => by rw [member_eq]; exact .line _)
  simpa [union, String.append_assoc] using
    commentedText_const hdocs hl (name ++ " = union(enum) \x7b") (harms.append (.line "\x7d;"))

end Layout

end Zig

/-! ## Renderings -/

namespace Generation

open Zig (TypeExpr)

/-- What is left of a rendering without its comments: the lines of code, and the warnings. -/
def Rendered.code (r : Rendered) : List (List Char) × List String :=
  (codeLines (blockLines r.text), r.warnings)

theorem Rendered.code_eq {r r' : Rendered} (h : CommentedText r.text r'.text)
    (hr : IsSolid r.text) (hr' : IsSolid r'.text) (hwarnings : r.warnings = r'.warnings) :
    r.code = r'.code := by
  rw [code, code, h.codeLines_eq hr.closes hr'.closes, hwarnings]

namespace Context

variable (c : Context)

/-- The context without comments. -/
def uncommented : Context := c.withConfig { c.config with addComments := .bool false }

/-- The lines of a description, none if it has none. -/
def docsOf (description : Value) : List String :=
  match c.descriptionLines description with
  | .ok lines => lines
  | .error _ => []

theorem descriptionLines_eq {description : Value} (h : description.isTextOrNull = true) :
    c.descriptionLines description = .ok (c.docsOf description) := by
  obtain ⟨lines, hlines⟩ := c.exists_descriptionLines h
  rw [docsOf, hlines]

theorem isLine_of_mem_docsOf {description : Value} :
    ∀ line ∈ c.docsOf description, IsLine line := by
  rw [docsOf]
  split
  · next h => exact isLine_of_descriptionLines h
  · exact nofun

theorem docsOf_uncommented (description : Value) : c.uncommented.docsOf description = [] := by
  have hlines := descriptionLines_of_uncommented (c := c.uncommented) rfl description
  rw [docsOf, hlines]

/-! ### Members -/

/-- The types of members with their identifiers. -/
def memberTypes {α : Type} (type : α → Except NameError TypeExpr) (members : List (α × String)) :
    Except Failure (List TypeExpr) :=
  members.mapM fun m => (type m.1).mapError .naming

theorem memberTypes_cons {α : Type} (type : α → Except NameError TypeExpr) (m : α × String)
    (members : List (α × String)) :
    memberTypes type (m :: members) = do
      let t ← (type m.1).mapError .naming
      let ts ← memberTypes type members
      return t :: ts := List.mapM_cons

/-- The warnings about members of given types. -/
def memberWarnings {α : Type} (owner : String) (members : List (α × String)) (ts : List TypeExpr) :
    List String :=
  (members.zip ts).flatMap fun e => warningsAt (owner ++ "." ++ e.1.2) e.2

/-- Fields of given types as they are laid out. -/
def fieldTexts (fields : List (Property × String)) (ts : List TypeExpr) : List FieldText :=
  (fields.zip ts).map fun e => ⟨e.1.2, e.2.name, c.docsOf e.1.1.description⟩

theorem fieldSlots_eq (owner : String) {fields : List (Property × String)}
    (h : ∀ f ∈ fields, f.1.description.isTextOrNull = true) :
    c.fieldSlots owner fields =
      (fun ts => ((c.fieldTexts fields ts).map FieldText.slot, memberWarnings owner fields ts)) <$>
        memberTypes c.typeMap.propertyType fields := by
  induction fields with
  | nil => rfl
  | cons f fields ih =>
    obtain ⟨p, name⟩ := f
    rw [fieldSlots, fieldSlot, ih fun f hf => h f (List.mem_cons_of_mem _ hf), memberTypes_cons,
      c.descriptionLines_eq (h (p, name) (by simp))]
    cases (c.typeMap.propertyType p).mapError Failure.naming with
    | error e => rfl
    | ok t => cases memberTypes c.typeMap.propertyType fields <;> rfl

/-- Arms of given types as they are laid out. -/
def armTexts (arms : List (Ty × String)) (ts : List TypeExpr) : List (String × String) :=
  (arms.zip ts).map fun e => (e.1.2, e.2.name)

theorem armSlots_eq (owner : String) (arms : List (Ty × String)) :
    c.armSlots owner arms =
      (fun ts => ((armTexts arms ts).map armSlot, memberWarnings owner arms ts)) <$>
        memberTypes (c.typeMap.type true) arms := by
  induction arms with
  | nil => rfl
  | cons a arms ih =>
    obtain ⟨t, name⟩ := a
    rw [armSlots, ih, memberTypes_cons]
    cases (c.typeMap.type true t).mapError Failure.naming with
    | error e => rfl
    | ok t => cases memberTypes (c.typeMap.type true) arms <;> rfl

/-! ### Declarations -/

/-- A record whose fields have given types. -/
def recordOf (id : Nat) (name : String) (identifiers : List String) (ps : List Property)
    (ts : List TypeExpr) : Rendered where
  text := Zig.Layout.record (Zig.Layout.description (c.docsOf (c.graph.descriptionOf id))) c.leader
    name (String.join ((c.fieldTexts (ps.zip identifiers) ts).map FieldText.layout))
    (Zig.Layout.renameBlocks c.leader (renameTexts (renamesOf identifiers (ps.map (·.name)))))
  warnings := memberWarnings name (ps.zip identifiers) ts

theorem result_renderRecord {id : Nat} {name : String} {identifiers : List String}
    {ps : List Property} (hname : c.names.typeName? id = some name)
    (hids : entryFor? id c.names.fields = some identifiers)
    (hd : (c.graph.descriptionOf id).isTextOrNull = true)
    (hps : ∀ p ∈ ps, p.description.isTextOrNull = true) :
    (c.renderRecord id ps).result = c.recordOf id name identifiers ps <$>
      memberTypes c.typeMap.propertyType (ps.zip identifiers) := by
  rw [renderRecord, typeName_eq hname, identifiersOf_eq hids]
  simp only [Logged.result_bind, Logged.result_liftM, ok_bind,
    c.fieldSlots_eq name fun f hf => hps f.1 (List.of_mem_zip hf).1]
  cases memberTypes c.typeMap.propertyType (ps.zip identifiers) with
  | error e => rfl
  | ok ts =>
    rw [map_ok, ok_bind]
    -- with or without a log entry about renamed fields, the rest is the same
    split
    all_goals
      simp only [Logged.result_bind, Logged.result_liftM, Logged.result_write, ok_bind,
        c.descriptionLines_eq hd, fill_record]
      rfl

/-- An enumeration whose cases were given identifiers. -/
def enumOf (id : Nat) (name : String) (identifiers cases : List String) : Rendered where
  text := Zig.Layout.enumeration (Zig.Layout.description (c.docsOf (c.graph.descriptionOf id)))
    c.leader name identifiers
    (Zig.Layout.renameBlocks c.leader (renameTexts (renamesOf identifiers (cases.map Value.str))))
  warnings := []

theorem renderEnum_eq {id : Nat} {name : String} {identifiers : List String}
    (hname : c.names.typeName? id = some name)
    (hids : entryFor? id c.names.cases = some identifiers)
    (hd : (c.graph.descriptionOf id).isTextOrNull = true) (cases : List String) :
    c.renderEnum id cases = .ok (c.enumOf id name identifiers cases) := by
  rw [renderEnum, typeName_eq hname, ok_bind, identifiersOf_eq hids]
  simp only [ok_bind, c.descriptionLines_eq hd, fill_enumeration]
  rfl

/-- A union whose arms have given types. -/
def unionOf (id : Nat) (name : String) (arms : List (Ty × String)) (ts : List TypeExpr) :
    Rendered where
  text := Zig.Layout.union (Zig.Layout.description (c.docsOf (c.graph.descriptionOf id))) c.leader
    name (armTexts arms ts)
  warnings := memberWarnings name arms ts

theorem renderUnion_eq {id : Nat} {name : String} {identifiers : List String}
    (hname : c.names.typeName? id = some name)
    (hids : entryFor? id c.names.arms = some identifiers)
    (hd : (c.graph.descriptionOf id).isTextOrNull = true) (ms : List Ty) :
    c.renderUnion id ms = c.unionOf id name ((nonNulls ms).zip identifiers) <$>
      memberTypes (c.typeMap.type true) ((nonNulls ms).zip identifiers) := by
  rw [renderUnion, typeName_eq hname, ok_bind, identifiersOf_eq hids, ok_bind, c.armSlots_eq]
  cases memberTypes (c.typeMap.type true) ((nonNulls ms).zip identifiers) with
  | error e => rfl
  | ok ts =>
    rw [map_ok, ok_bind]
    simp only [c.descriptionLines_eq hd, ok_bind, fill_union]
    rfl

/-! ### Lines of code -/

theorem commentedText_fieldTexts {fields : List (Property × String)}
    (h : ∀ f ∈ fields, Zig.isIdentifier f.2 = true) (ts : List TypeExpr) :
    CommentedText (String.join ((c.fieldTexts fields ts).map FieldText.layout))
      (String.join ((c.uncommented.fieldTexts fields ts).map FieldText.layout)) := by
  rw [fieldTexts, fieldTexts, List.map_map, List.map_map]
  refine .join (List.forall₂_same.mpr fun e he => ?_)
  simp only [Function.comp_apply, FieldText.layout, docsOf_uncommented]
  exact Zig.Layout.commentedText_field c.isLine_of_mem_docsOf (h e.1 (List.of_mem_zip he).1) _

theorem code_recordOf (id : Nat) (name : String) {identifiers : List String}
    (hids : ∀ i ∈ identifiers, Zig.isIdentifier i = true) (ps : List Property)
    (ts : List TypeExpr) :
    (c.recordOf id name identifiers ps ts).code =
      (c.uncommented.recordOf id name identifiers ps ts).code := by
  have hmembers : ∀ f ∈ ps.zip identifiers, Zig.isIdentifier f.2 = true :=
    fun f hf => hids f.2 (List.of_mem_zip hf).2
  have hfields := c.commentedText_fieldTexts hmembers ts
  refine Rendered.code_eq ?_ (Zig.Layout.isSolid_record _ c.isLeader_leader _ _ _)
    (Zig.Layout.isSolid_record _ c.isLeader_leader _ _ _) rfl
  simp only [recordOf, docsOf_uncommented]
  exact Zig.Layout.commentedText_record c.isLine_of_mem_docsOf c.isLeader_leader name hfields _

theorem code_enumOf (id : Nat) (name : String) (identifiers cases : List String) :
    (c.enumOf id name identifiers cases).code =
      (c.uncommented.enumOf id name identifiers cases).code := by
  refine Rendered.code_eq ?_ (Zig.Layout.isSolid_enumeration _ c.isLeader_leader _ _ _)
    (Zig.Layout.isSolid_enumeration _ c.isLeader_leader _ _ _) rfl
  simp only [enumOf, docsOf_uncommented]
  exact Zig.Layout.commentedText_enumeration c.isLine_of_mem_docsOf c.isLeader_leader name _ _

theorem code_unionOf (id : Nat) (name : String) (arms : List (Ty × String)) (ts : List TypeExpr) :
    (c.unionOf id name arms ts).code = (c.uncommented.unionOf id name arms ts).code := by
  refine Rendered.code_eq ?_ (Zig.Layout.isSolid_union _ c.isLeader_leader _ _)
    (Zig.Layout.isSolid_union _ c.isLeader_leader _ _) rfl
  simp only [unionOf, docsOf_uncommented]
  exact Zig.Layout.commentedText_union c.isLine_of_mem_docsOf c.isLeader_leader name _

variable {c}

theorem Named.map_code_renderRecord (hc : c.Named) (ht : c.graph.HasTextDescriptions) {id : Nat}
    {name : String} {ps : List Property} (hid : id ∈ c.graph.declarations)
    (hname : c.names.typeName? id = some name) (hs : c.graph.shape? id = some (.record ps)) :
    Rendered.code <$> (c.renderRecord id ps).result =
      Rendered.code <$> (c.uncommented.renderRecord id ps).result := by
  have hids := hc.names.fields_of_record (TypeGraph.mem_declarations.mp hid).1 hs
  have hlegal := (Names.legalMembers_memberNames (ps.map fun p => p.name.display)).identifiers
  have hps := ht.property id ps hs
  rw [c.result_renderRecord hname hids (ht.type id) hps,
    c.uncommented.result_renderRecord hname hids (ht.type id) hps]
  show _ = _ <$> _ <$> memberTypes c.typeMap.propertyType _
  cases memberTypes c.typeMap.propertyType (ps.zip _) with
  | error e => rfl
  | ok ts => exact congrArg Except.ok (c.code_recordOf id name hlegal ps ts)

theorem Named.map_code_renderEnum (hc : c.Named) (ht : c.graph.HasTextDescriptions) {id : Nat}
    {name : String} {cases : List String} (hid : id ∈ c.graph.declarations)
    (hname : c.names.typeName? id = some name) (hs : c.graph.shape? id = some (.enum cases)) :
    Rendered.code <$> c.renderEnum id cases =
      Rendered.code <$> c.uncommented.renderEnum id cases := by
  have hids := hc.names.cases_of_enum (TypeGraph.mem_declarations.mp hid).1 hs
  rw [c.renderEnum_eq hname hids (ht.type id),
    c.uncommented.renderEnum_eq hname hids (ht.type id)]
  exact congrArg Except.ok (c.code_enumOf id name _ cases)

theorem Named.map_code_renderUnion (hc : c.Named) (ht : c.graph.HasTextDescriptions) {id : Nat}
    {name : String} {ms : List Ty} (hid : id ∈ c.graph.declarations)
    (hname : c.names.typeName? id = some name) (hs : c.graph.shape? id = some (.union ms)) :
    Rendered.code <$> c.renderUnion id ms = Rendered.code <$> c.uncommented.renderUnion id ms := by
  obtain ⟨hr, hdeclared⟩ := TypeGraph.mem_declarations.mp hid
  obtain ⟨proposals, _, hids⟩ :=
    hc.names.arms_of_union hr hs (TypeGraph.length_of_isDeclared hs hdeclared)
  rw [c.renderUnion_eq hname hids (ht.type id),
    c.uncommented.renderUnion_eq hname hids (ht.type id)]
  show _ = _ <$> _ <$> memberTypes (c.typeMap.type true) _
  cases memberTypes (c.typeMap.type true) ((nonNulls ms).zip _) with
  | error e => rfl
  | ok ts => exact congrArg Except.ok (c.code_unionOf id name _ ts)

/-- A declaration has the same lines of code and the same warnings with comments and without. -/
theorem Named.map_code_render (hc : c.Named) (ht : c.graph.HasTextDescriptions) {name : String}
    {d : Declaration} (hd : d.HasName c name) :
    Rendered.code <$> (c.render name d).result =
      Rendered.code <$> (c.uncommented.render name d).result := by
  cases d with
  | typeAlias top root => rfl
  | type id =>
    obtain ⟨hid, hname⟩ := hd
    have hshape : c.uncommented.graph.shape? id = c.graph.shape? id := rfl
    rw [render, render, hshape]
    cases hs : c.graph.shape? id with
    | none => rfl
    | some shape =>
      cases shape with
      | record ps => exact hc.map_code_renderRecord ht hid hname hs
      | enum cases => exact hc.map_code_renderEnum ht hid hname hs
      | union ms => exact hc.map_code_renderUnion ht hid hname hs

/-- So have all declarations, one after the other. -/
theorem Named.map_code_renderAll (hc : c.Named) (ht : c.graph.HasTextDescriptions)
    {ds : List (String × Declaration)} (hds : ∀ e ∈ ds, e.2.HasName c e.1) :
    List.map Rendered.code <$> c.renderAll ds =
      List.map Rendered.code <$> c.uncommented.renderAll ds :=
  map_mapM_congr fun e he => hc.map_code_render ht (hds e he)

end Context

end Generation

end ZigDecl
