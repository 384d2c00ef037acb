import ZigDecl.Proofs.Generation.Comments
import ZigDecl.Proofs.Generation.FileImports
import ZigDecl.Proofs.Output.Published

/-! # Declarations with and without the modifier

The modifier stands in front of the constant that a declaration is, and of the constants in its
blocks of renamed members. No other line begins like a public constant: comments, members, entries
and imports all start with something else. Main statement: every declaration has the lines of the
one that is not public, but for the modifier, and the same warnings; if one of them cannot be
rendered, neither can the other. -/

namespace ZigDecl

open Output (Unpublished UnpublishedText forall₂_same_unpublished isPrivate_line isPublicLine
  isPublicLine_append isPublicLine_cons privateLine tidyBlock)
open Text (IsLine HasLines IsSolid hasLines_line hasLines_join)

/-! ## Lines -/

namespace Zig

theorem isPublicLine_docLine (line : String) : isPublicLine (docLine line).toList = false := by
  rw [docLine, String.toList_append]
  exact isPublicLine_cons (by decide) (by decide) _

theorem isPublicLine_memberDocLine (line : String) :
    isPublicLine (memberDocLine line).toList = false := by
  rw [memberDocLine, String.toList_append, isPublicLine_append rfl]
  exact isPublicLine_docLine line

theorem isPublicLine_entryLine (e : String × String) :
    isPublicLine (entryLine e).toList = false := by
  have hentry : (entryLine e).toList = "            ".toList ++
      '.' :: (e.1 ++ (" = .\x7b .rename = " ++ (stringLiteral e.2 ++ ", \x7d,"))).toList := by
    rw [entryLine, String.toList_append]
    rfl
  rw [hentry, isPublicLine_append rfl]
  exact isPublicLine_cons (by decide) (by decide) _

theorem word?_public (more : List Char) :
    Reader.word? ("pub const ".toList ++ more) = none := by
  have hname : ("pub const ".toList ++ more).takeWhile Name.isNameChar = "pub".toList := rfl
  rw [Reader.word?, hname]
  exact if_neg (by decide)

/-- The modifier is a keyword, so no member line can be read as a public constant. -/
theorem isPublicLine_memberLine {name : String} (hname : isIdentifier name = true)
    (type : Option String) : isPublicLine (memberLine name type).toList = false := by
  obtain ⟨c, cs, hsuffix, hc⟩ : ∃ c cs, (typeSuffix type).toList = c :: cs ∧
      Name.isNameChar c = false := by
    cases type with
    | none => exact ⟨',', [], rfl, by decide⟩
    | some type => exact ⟨':', _, by rw [typeSuffix, String.toList_append]; rfl, by decide⟩
  have hword := Reader.word?_append hname hc cs
  rw [memberLine, String.toList_append, isPublicLine_append rfl, String.toList_append, hsuffix]
  obtain ⟨first, rest, hfirst, hblank⟩ := opens_of_isIdentifier hname
  refine Bool.eq_false_iff.mpr fun hpublic => ?_
  rw [hfirst] at hword hpublic
  rw [isPublicLine, List.cons_append, List.dropWhile_cons_of_neg (by simp [hblank])] at hpublic
  obtain ⟨more, hmore⟩ := List.isPrefixOf_iff_prefix.mp hpublic
  rw [List.cons_append, ← hmore, word?_public] at hword
  cases hword

/-- A constant behind the modifier, and without it. -/
theorem unpublished_const (lead rest : String) (hlead : Text.allBlank lead.toList = true)
    (hrest : Text.allBlank rest.toList = false) :
    Unpublished (lead ++ ("pub " ++ ("const " ++ rest))) (lead ++ ("" ++ ("const " ++ rest))) := by
  rw [String.empty_append]
  exact .const hlead hrest

theorem allBlank_append_right {s t : String} (h : Text.allBlank t.toList = false) :
    Text.allBlank (s ++ t).toList = false := by
  rw [Text.allBlank] at h ⊢
  rw [String.toList_append, List.all_append, h, Bool.and_false]

theorem unpublished_blockLine (name : String) :
    Unpublished (blockLine "pub " name) (blockLine "" name) := by
  have h : Text.allBlank (name ++ "\" = struct \x7b").toList = false :=
    allBlank_append_right (by decide)
  have hrest : Text.allBlank ("@\"" ++ (name ++ "\" = struct \x7b")).toList = false :=
    allBlank_append_right h
  simpa [blockLine, ← String.append_assoc] using
    unpublished_const "    " _ (by decide) hrest

theorem unpublished_attributesLine :
    Unpublished (attributesLine "pub ") (attributesLine "") :=
  unpublished_const "        " "attributes = .\x7b" (by decide) (by decide)

theorem unpublished_blockLines (b : String × List (String × String)) :
    List.Forall₂ Unpublished (blockLines "pub " b) (blockLines "" b) := by
  have hentries : List.Forall₂ Unpublished
      (b.2.map entryLine ++ ["        \x7d;", "    \x7d;"])
      (b.2.map entryLine ++ ["        \x7d;", "    \x7d;"]) := by
    refine forall₂_same_unpublished fun l hl => ?_
    rcases List.mem_append.mp hl with hl | hl
    · obtain ⟨e, _, rfl⟩ := List.mem_map.mp hl
      exact isPublicLine_entryLine e
    · exact (by decide : ∀ l ∈ ["        \x7d;", "    \x7d;"],
        isPublicLine l.toList = false) l hl
  exact .cons (.same (by decide)) (.cons (unpublished_blockLine b.1)
    (.cons unpublished_attributesLine hentries))

/-! ## Layouts -/

namespace Layout

theorem unpublishedText_description {docs : List String} (h : ∀ line ∈ docs, IsLine line) :
    UnpublishedText (description docs) (description docs) :=
  .same ⟨_, hasLines_description h,
    List.forall_mem_map.mpr fun line _ => isPublicLine_docLine line⟩

/-- A line that declares a constant. -/
theorem unpublishedText_const {rest : String} (hline : IsLine rest)
    (hrest : Text.allBlank rest.toList = false) :
    UnpublishedText ("pub " ++ ("const " ++ rest) ++ "\n") ("" ++ ("const " ++ rest) ++ "\n") :=
  ⟨_, _, hasLines_line (IsLine.append (by decide) (IsLine.append (by decide) hline)),
    hasLines_line (IsLine.append (by decide) (IsLine.append (by decide) hline)),
    .cons (unpublished_const "" rest (by decide) hrest) .nil⟩

theorem unpublishedText_end : UnpublishedText ("\x7d;" ++ "\n") ("\x7d;" ++ "\n") :=
  .same (isPrivate_line (l := "\x7d;") (by decide) (by decide))

theorem unpublishedText_renameBlocks {blocks : List (String × List (String × String))}
    (h : ∀ b ∈ blocksOf blocks, IsLegalBlock b) :
    UnpublishedText (renameBlocks "pub " blocks) (renameBlocks "" blocks) := by
  refine ⟨_, _, hasLines_renameBlocks (.inr rfl) h, hasLines_renameBlocks (.inl rfl) h, ?_⟩
  refine List.rel_flatMap (R := Eq) (List.forall₂_refl _) ?_
  rintro b _ rfl
  exact unpublished_blockLines b

/-- Members are laid out the same with the modifier and without it. -/
theorem unpublishedText_members {text : String} {members : List MemberDraft}
    (h : HasLines text (members.flatMap MemberDraft.lines))
    (hnames : ∀ m ∈ members, isIdentifier m.name = true) : UnpublishedText text text := by
  refine .same ⟨_, h, fun l hl => ?_⟩
  obtain ⟨m, hm, hl⟩ := List.mem_flatMap.mp hl
  rcases List.mem_append.mp hl with hl | hl
  · obtain ⟨line, _, rfl⟩ := List.mem_map.mp hl
    exact isPublicLine_memberDocLine line
  · rw [List.mem_singleton.mp hl]
    exact isPublicLine_memberLine (hnames m hm) m.type

theorem union_eq (docs : List String) (leader name : String) (arms : List (String × String)) :
    union (description docs) leader name arms =
      description docs ++ (leader ++ ("const " ++ (name ++ " = union(enum) \x7b")) ++ "\n") ++
        String.join (arms.map fun arm => member arm.1 arm.2) ++ ("\x7d;" ++ "\n") := by
  simp [← String.toList_inj, union]

/-- The draft of an arm. -/
def armDraft (arm : String × String) : MemberDraft := ⟨[], arm.1, some arm.2⟩

theorem isLegal_armDraft {arm : String × String} (hname : isIdentifier arm.1 = true)
    (htype : IsLine arm.2) : (armDraft arm).IsLegal .struct where
  docs := nofun
  name := hname
  type := .field arm.2
  clean := by rintro _ ⟨⟩; exact htype

/-- The members of a union are laid out as arms. -/
theorem hasLines_arms {arms : List (String × String)}
    (h : ∀ arm ∈ arms, isIdentifier arm.1 = true ∧ IsLine arm.2) :
    HasLines (String.join (arms.map fun arm => member arm.1 arm.2))
      ((arms.map armDraft).flatMap MemberDraft.lines) := by
  rw [List.flatMap_map]
  refine hasLines_join fun arm harm => ?_
  have hlegal : (armDraft arm).IsLegal .struct := isLegal_armDraft (h arm harm).1 (h arm harm).2
  have hline := isLine_memberLine hlegal
  have hlines : (armDraft arm).lines = [memberLine arm.1 (some arm.2)] := rfl
  rw [member_eq, hlines]
  exact hasLines_line hline

section Enclosed

variable {docs : List String} {name : String} (hdocs : ∀ line ∈ docs, IsLine line)
  (hname : IsLine name)
include hdocs hname

/-- The description of a declaration and the line that it opens with. -/
theorem unpublishedText_opening (opening : String) (hline : IsLine opening)
    (hfull : Text.allBlank opening.toList = false) :
    UnpublishedText (description docs ++ ("pub " ++ ("const " ++ (name ++ opening)) ++ "\n"))
      (description docs ++ ("" ++ ("const " ++ (name ++ opening)) ++ "\n")) :=
  (unpublishedText_description hdocs).append
    (unpublishedText_const (hname.append hline) (allBlank_append_right hfull))

theorem unpublishedText_record {fields : String} (hfields : UnpublishedText fields fields)
    {blocks : List (String × List (String × String))}
    (hblocks : ∀ b ∈ blocksOf blocks, IsLegalBlock b) :
    UnpublishedText (record (description docs) "pub " name fields (renameBlocks "pub " blocks))
      (record (description docs) "" name fields (renameBlocks "" blocks)) := by
  rw [Generation.record_eq, Generation.record_eq]
  exact (((unpublishedText_opening hdocs hname Kind.struct.opening (by decide)
    (by decide)).append hfields).append (unpublishedText_renameBlocks hblocks)).append
    unpublishedText_end

theorem unpublishedText_enumeration {cases : List String}
    (hcases : ∀ case ∈ cases, isIdentifier case = true)
    {blocks : List (String × List (String × String))}
    (hblocks : ∀ b ∈ blocksOf blocks, IsLegalBlock b) :
    UnpublishedText (enumeration (description docs) "pub " name cases (renameBlocks "pub " blocks))
      (enumeration (description docs) "" name cases (renameBlocks "" blocks)) := by
  have hlines := unpublishedText_members (Generation.hasLines_cases fun case hcase =>
    Generation.isLegal_caseDraft (hcases case hcase)) (List.forall_mem_map.mpr hcases)
  rw [Generation.enumeration_eq, Generation.enumeration_eq]
  exact (((unpublishedText_opening hdocs hname Kind.enum.opening (by decide)
    (by decide)).append hlines).append (unpublishedText_renameBlocks hblocks)).append
    unpublishedText_end

theorem unpublishedText_union {arms : List (String × String)}
    (harms : ∀ arm ∈ arms, isIdentifier arm.1 = true ∧ IsLine arm.2) :
    UnpublishedText (union (description docs) "pub " name arms)
      (union (description docs) "" name arms) := by
  have hlines := unpublishedText_members (hasLines_arms harms)
    (List.forall_mem_map.mpr fun arm harm => (harms arm harm).1)
  rw [union_eq, union_eq]
  exact ((unpublishedText_opening hdocs hname _ (by decide) (by decide)).append hlines).append
    unpublishedText_end

end Enclosed

theorem unpublishedText_typeAlias {name type : String} (hname : IsLine name)
    (htype : IsLine type) :
    UnpublishedText (typeAlias "" "pub " name type) (typeAlias "" "" name type) := by
  have heq (leader : String) : typeAlias "" leader name type =
      leader ++ ("const " ++ (name ++ (" = " ++ (type ++ ";")))) ++ "\n" := by
    simp [← String.toList_inj, typeAlias]
  rw [heq, heq]
  exact unpublishedText_const
    (hname.append (IsLine.append (by decide) (htype.append (by decide))))
    (allBlank_append_right (allBlank_append_right (allBlank_append_right (by decide))))

end Layout

/-! ## Types -/

/-- The options with another choice of the modifier. -/
def Options.withPublic (o : Options) (v : Value) : Options := { o with isPublic := v }

theorem typeWith_withPublic (o : Options) (v : Value) (withIssues : Bool)
    (named : Nat → Except NameError TypeExpr) (t : Ty) :
    typeWith (o.withPublic v) withIssues named t = typeWith o withIssues named t := by
  induction t with
  | primitive p => cases p <;> rfl
  | array mark t ih => rw [typeWith, typeWith, ih]
  | map mark t ih => rw [typeWith, typeWith, ih]
  | named id => rfl

namespace TypeMap

variable (m : TypeMap) (v : Value)

def withPublic : TypeMap := { m with options := m.options.withPublic v }

theorem namedType_withPublic (withIssues : Bool) (fuel : Nat) :
    (m.withPublic v).namedType withIssues fuel = m.namedType withIssues fuel := by
  induction fuel with
  | zero => rfl
  | succ fuel ih =>
    funext id
    have hinner : typeWith (m.withPublic v).options withIssues
        ((m.withPublic v).namedType withIssues fuel) =
          typeWith m.options withIssues (m.namedType withIssues fuel) := by
      funext t
      rw [ih]
      exact typeWith_withPublic m.options v withIssues _ t
    rw [namedType, namedType, hinner]
    rfl

/-- Types are written the same with the modifier and without it. -/
theorem type_withPublic (withIssues : Bool) (t : Ty) :
    (m.withPublic v).type withIssues t = m.type withIssues t := by
  rw [type, type, namedType_withPublic]
  exact typeWith_withPublic m.options v withIssues _ t

theorem propertyType_withPublic (p : Property) :
    (m.withPublic v).propertyType p = m.propertyType p := by
  simp only [propertyType, nullableType, type_withPublic]

end TypeMap

end Zig

/-! ## Renderings -/

namespace Generation

open Zig (TypeExpr Leads MemberDraft)

/-- The lines of a rendering as they are tidied, and the warnings. -/
def Rendered.tidied (r : Rendered) : List (List Char) × List String :=
  (tidyBlock r.text, r.warnings)

/-- The lines of a rendering as they are tidied, without the modifier, and the warnings. -/
def Rendered.unpublished (r : Rendered) : List (List Char) × List String :=
  ((tidyBlock r.text).map privateLine, r.warnings)

theorem Rendered.unpublished_eq {r r' : Rendered} (h : UnpublishedText r.text r'.text)
    (hr : IsSolid r.text) (hr' : IsSolid r'.text) (hwarnings : r.warnings = r'.warnings) :
    r.unpublished = r'.tidied := by
  rw [unpublished, tidied, tidyBlock, tidyBlock, h.tidyLines_eq hr.closes hr'.closes, hwarnings]

namespace Context

variable (c : Context)

/-- The context with another choice of the modifier. -/
def withPublic (v : Value) : Context :=
  { c with config := { c.config with isPublic := v }, options := c.options.withPublic v }

/-- The context with the modifier. -/
def published : Context := c.withPublic (.bool true)

/-- The context without the modifier. -/
def hidden : Context := c.withPublic (.bool false)

theorem leader_published : c.published.leader = "pub " := rfl

theorem leader_hidden : c.hidden.leader = "" := rfl

theorem memberTypes_propertyType (v : Value) (fields : List (Property × String)) :
    memberTypes (c.withPublic v).typeMap.propertyType fields =
      memberTypes c.typeMap.propertyType fields :=
  congrArg (memberTypes · fields) (funext (c.typeMap.propertyType_withPublic v))

theorem memberTypes_type (v : Value) (arms : List (Ty × String)) :
    memberTypes ((c.withPublic v).typeMap.type true) arms =
      memberTypes (c.typeMap.type true) arms :=
  congrArg (memberTypes · arms) (funext (c.typeMap.type_withPublic v true))

theorem isLegal_of_mem_fieldTexts (fields : List (Property × String))
    (hnames : ∀ f ∈ fields, Zig.isIdentifier f.2 = true) {ts : List TypeExpr}
    (hts : ∀ t ∈ ts, IsLine t.name) :
    ∀ f ∈ c.fieldTexts fields ts, (fieldDraft f).IsLegal .struct := by
  intro f hf
  obtain ⟨e, he, rfl⟩ := List.mem_map.mp hf
  obtain ⟨hfield, htype⟩ := List.of_mem_zip he
  exact ⟨c.isLine_of_mem_docsOf, hnames _ hfield, .field _,
    by rintro _ ⟨⟩; exact hts _ htype⟩

theorem unpublished_recordOf (id : Nat) {name : String} (hname : IsLine name)
    {identifiers : List String} (hids : ∀ i ∈ identifiers, Zig.isIdentifier i = true)
    (ps : List Property) {ts : List TypeExpr} (hts : ∀ t ∈ ts, IsLine t.name) :
    (c.published.recordOf id name identifiers ps ts).unpublished =
      (c.hidden.recordOf id name identifiers ps ts).tidied := by
  refine Rendered.unpublished_eq ?_ (Zig.Layout.isSolid_record _ c.published.isLeader_leader _ _ _)
    (Zig.Layout.isSolid_record _ c.hidden.isLeader_leader _ _ _) rfl
  have hlegal := c.isLegal_of_mem_fieldTexts (ps.zip identifiers)
    (fun f hf => hids f.2 (List.of_mem_zip hf).2) hts
  have hfields := Zig.Layout.unpublishedText_members (hasLines_fields hlegal)
    (List.forall_mem_map.mpr fun f hf => (hlegal f hf).name)
  simp only [recordOf, leader_published, leader_hidden, renameTexts_renamesOf]
  exact Zig.Layout.unpublishedText_record c.isLine_of_mem_docsOf hname hfields
    (isLegalBlock_blocksFor fun e he => hids e.1 (mem_of_mem_renamed he))

theorem unpublished_enumOf (id : Nat) {name : String} (hname : IsLine name)
    {identifiers : List String} (hids : ∀ i ∈ identifiers, Zig.isIdentifier i = true)
    (cases : List String) :
    (c.published.enumOf id name identifiers cases).unpublished =
      (c.hidden.enumOf id name identifiers cases).tidied := by
  refine Rendered.unpublished_eq ?_
    (Zig.Layout.isSolid_enumeration _ c.published.isLeader_leader _ _ _)
    (Zig.Layout.isSolid_enumeration _ c.hidden.isLeader_leader _ _ _) rfl
  simp only [enumOf, leader_published, leader_hidden, renameTexts_renamesOf]
  exact Zig.Layout.unpublishedText_enumeration c.isLine_of_mem_docsOf hname hids
    (isLegalBlock_blocksFor fun e he => hids e.1 (mem_of_mem_renamed he))

theorem unpublished_unionOf (id : Nat) {name : String} (hname : IsLine name)
    {arms : List (Ty × String)} (hids : ∀ a ∈ arms, Zig.isIdentifier a.2 = true)
    {ts : List TypeExpr} (hts : ∀ t ∈ ts, IsLine t.name) :
    (c.published.unionOf id name arms ts).unpublished =
      (c.hidden.unionOf id name arms ts).tidied := by
  refine Rendered.unpublished_eq ?_ (Zig.Layout.isSolid_union _ c.published.isLeader_leader _ _)
    (Zig.Layout.isSolid_union _ c.hidden.isLeader_leader _ _) rfl
  have harms : ∀ arm ∈ armTexts arms ts, Zig.isIdentifier arm.1 = true ∧ IsLine arm.2 := by
    refine List.forall_mem_map.mpr fun e he => ?_
    obtain ⟨harm, htype⟩ := List.of_mem_zip he
    exact ⟨hids _ harm, hts _ htype⟩
  simp only [unionOf, leader_published, leader_hidden]
  exact Zig.Layout.unpublishedText_union c.isLine_of_mem_docsOf hname harms

variable {c}

/-! ### Types on one line -/

theorem OnLines.isLine_type (hc : c.OnLines) {t : Ty} (ht : Leads c.graph t) {x : TypeExpr}
    (h : c.typeMap.type true t = .ok x) : IsLine x.name := by
  obtain ⟨e, he⟩ := Zig.exists_spells hc.founded ht
  exact hc.write ((he.type_eq (m := c.typeMap) hc.founded true ht).symm.trans h)

theorem OnLines.isLine_propertyType (hc : c.OnLines) {p : Property} (hp : Leads c.graph p.type)
    {x : TypeExpr} (h : c.typeMap.propertyType p = .ok x) : IsLine x.name := by
  obtain ⟨e, he⟩ := Zig.exists_spells hc.founded hp
  exact hc.write ((hc.propertyType_eq he hp).symm.trans h)

theorem isLine_of_memberTypes {α : Type} {type : α → Except NameError TypeExpr}
    {members : List (α × String)} {ts : List TypeExpr} (h : memberTypes type members = .ok ts)
    (htype : ∀ m ∈ members, ∀ t, type m.1 = .ok t → IsLine t.name) : ∀ t ∈ ts, IsLine t.name := by
  intro t ht
  obtain ⟨m, hm, hok⟩ := forall_mem_of_forall₂ (forall₂_of_mapM h) t ht
  exact htype m hm t (eq_ok_of_mapError_eq_ok hok)

/-! ### Declarations -/

theorem OnLines.map_unpublished_renderAlias (hc : c.OnLines) {name : String}
    (hname : IsLine name) {root : Ty} (hroot : Leads c.graph root) :
    Rendered.unpublished <$> c.published.renderAlias name root =
      Rendered.tidied <$> c.hidden.renderAlias name root := by
  have htype (v : Value) : (c.withPublic v).typeMap.type true root = c.typeMap.type true root :=
    c.typeMap.type_withPublic v true root
  rw [renderAlias, renderAlias, published, hidden, htype, htype]
  cases h : c.typeMap.type true root with
  | error e => exact map_error_congr _ _ (Failure.naming e)
  | ok t =>
    have htext := Zig.Layout.unpublishedText_typeAlias hname (hc.isLine_type hroot h)
    have hlines : Rendered.unpublished ⟨_, warningsAt name t⟩ =
        Rendered.tidied ⟨_, warningsAt name t⟩ :=
      Rendered.unpublished_eq htext (Zig.Layout.isSolid_typeAlias (.inr rfl) name t.name)
        (Zig.Layout.isSolid_typeAlias (.inl rfl) name t.name) rfl
    exact congrArg Except.ok hlines

section Declared

variable (hc : c.OnLines) (ht : c.graph.HasTextDescriptions) {id : Nat} {name : String}
  (hid : id ∈ c.graph.declarations) (hname : c.names.typeName? id = some name)
include hc ht hid hname

theorem OnLines.map_unpublished_renderRecord {ps : List Property}
    (hs : c.graph.shape? id = some (.record ps)) :
    Rendered.unpublished <$> (c.published.renderRecord id ps).result =
      Rendered.tidied <$> (c.hidden.renderRecord id ps).result := by
  have hr := (TypeGraph.mem_declarations.mp hid).1
  have hids := hc.names.fields_of_record hr hs
  have hlegal := (Names.legalMembers_memberNames (ps.map fun p => p.name.display)).identifiers
  have hps := ht.property id ps hs
  rw [c.published.result_renderRecord hname hids (ht.type id) hps,
    c.hidden.result_renderRecord hname hids (ht.type id) hps, published, hidden,
    memberTypes_propertyType, memberTypes_propertyType]
  cases hts : memberTypes c.typeMap.propertyType (ps.zip _) with
  | error e => exact map_error_congr _ _ e
  | ok ts =>
    have hlines := isLine_of_memberTypes hts fun m hm t h =>
      hc.isLine_propertyType (leads_of_record hr hs m.1 (List.of_mem_zip hm).1) h
    exact congrArg Except.ok (c.unpublished_recordOf id
      (Zig.isLine_of_isIdentifier (hc.isIdentifier hname)) hlegal ps hlines)

theorem OnLines.map_unpublished_renderEnum {cases : List String}
    (hs : c.graph.shape? id = some (.enum cases)) :
    Rendered.unpublished <$> c.published.renderEnum id cases =
      Rendered.tidied <$> c.hidden.renderEnum id cases := by
  have hids := hc.names.cases_of_enum (TypeGraph.mem_declarations.mp hid).1 hs
  rw [c.published.renderEnum_eq hname hids (ht.type id),
    c.hidden.renderEnum_eq hname hids (ht.type id)]
  exact congrArg Except.ok (c.unpublished_enumOf id
    (Zig.isLine_of_isIdentifier (hc.isIdentifier hname))
    (Names.legalMembers_memberNames cases).identifiers cases)

theorem OnLines.map_unpublished_renderUnion {ms : List Ty}
    (hs : c.graph.shape? id = some (.union ms)) :
    Rendered.unpublished <$> c.published.renderUnion id ms =
      Rendered.tidied <$> c.hidden.renderUnion id ms := by
  obtain ⟨hr, hdeclared⟩ := TypeGraph.mem_declarations.mp hid
  obtain ⟨proposals, _, hids⟩ :=
    hc.names.arms_of_union hr hs (TypeGraph.length_of_isDeclared hs hdeclared)
  have hlegal := (Names.legalMembers_memberNames proposals).identifiers
  rw [c.published.renderUnion_eq hname hids (ht.type id),
    c.hidden.renderUnion_eq hname hids (ht.type id), published, hidden, memberTypes_type,
    memberTypes_type]
  cases hts : memberTypes (c.typeMap.type true) ((nonNulls ms).zip _) with
  | error e => exact map_error_congr _ _ e
  | ok ts =>
    have hlines := isLine_of_memberTypes hts fun m hm t h =>
      hc.isLine_type (leads_of_union hr hs m.1 (List.of_mem_zip hm).1) h
    exact congrArg Except.ok (c.unpublished_unionOf id
      (Zig.isLine_of_isIdentifier (hc.isIdentifier hname))
      (fun a ha => hlegal a.2 (List.of_mem_zip ha).2) hlines)

end Declared

/-- The names of declarations are identifiers. -/
theorem Named.isIdentifier_of_hasName (hc : c.Named) {name : String} {d : Declaration}
    (hd : d.HasName c name) : Zig.isIdentifier name = true := by
  cases d with
  | typeAlias top root =>
    exact (hc.names.legal.identifiers name
      (List.mem_append_left _ (List.mem_map_of_mem (mem_of_entryFor? hd.2)))).1
  | type id => exact hc.isIdentifier hd.2

/-- A declaration has the lines of the one that is not public, but for the modifier. -/
theorem OnLines.map_unpublished_render (hc : c.OnLines) (ht : c.graph.HasTextDescriptions)
    {name : String} {d : Declaration} (hd : d.HasName c name) :
    Rendered.unpublished <$> (c.published.render name d).result =
      Rendered.tidied <$> (c.hidden.render name d).result := by
  cases d with
  | typeAlias top root =>
    exact hc.map_unpublished_renderAlias
      (Zig.isLine_of_isIdentifier (hc.isIdentifier_of_hasName hd)) (Zig.leads_root hd.1)
  | type id =>
    obtain ⟨hid, hname⟩ := hd
    have hpublished : c.published.graph.shape? id = c.graph.shape? id := rfl
    have hhidden : c.hidden.graph.shape? id = c.graph.shape? id := rfl
    simp only [render, hpublished, hhidden]
    cases hs : c.graph.shape? id with
    | none => exact map_error_congr _ _ _
    | some shape =>
      cases shape with
      | record ps => exact hc.map_unpublished_renderRecord ht hid hname hs
      | enum cases => exact hc.map_unpublished_renderEnum ht hid hname hs
      | union ms => exact hc.map_unpublished_renderUnion ht hid hname hs

/-- So have all declarations, one after the other. -/
theorem OnLines.map_unpublished_renderAll (hc : c.OnLines) (ht : c.graph.HasTextDescriptions)
    {ds : List (String × Declaration)} (hds : ∀ e ∈ ds, e.2.HasName c e.1) :
    List.map Rendered.unpublished <$> c.published.renderAll ds =
      List.map Rendered.tidied <$> c.hidden.renderAll ds :=
  map_mapM_congr fun e he => hc.map_unpublished_render ht (hds e he)

end Context

end Generation

end ZigDecl
