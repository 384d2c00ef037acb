import Mathlib.Data.List.Basic
import ZigDecl.Proofs.Generation.Declares
import ZigDecl.Proofs.Generation.Renames
import ZigDecl.Proofs.Names.Legal
import ZigDecl.Proofs.Zig.DraftLines
import ZigDecl.Proofs.Zig.Options

/-! # Records and enumerations as drafts

What goes into a declaration stands on one line each: descriptions are cut at line breaks, names are
identifiers, and types are made of names and of what the options choose. Main statement: the text of
a record or an enumeration is the layout of a draft that is read back. -/

namespace ZigDecl

open Text (IsLine HasLines hasLines_join hasLines_line)

namespace Zig

/-! ## Types on one line -/

/-- Options of which no type goes over several lines. -/
structure Options.OnLines (o : Options) : Prop where
  intType : IsLine o.intType
  floatType : IsLine o.floatType
  stringType : IsLine o.stringType
  anyType : ∀ s, o.anyType = .str s → IsLine s

/-- Of the options of a configuration, only the type of unknown values can go over several lines. -/
theorem Options.onLines_of_ofConfig {config : Config} {o : Options} (h : ofConfig config = .ok o)
    (hany : ∀ s, o.anyType = .str s → IsLine s) : o.OnLines := by
  have hint : ∀ s ∈ intTypes, IsLine s := by decide
  have hfloat : ∀ s ∈ floatTypes, IsLine s := by decide
  have hstring : ∀ s ∈ stringTypes, IsLine s := by decide
  have hvalid := isValid_of_ofConfig h
  exact ⟨hint _ hvalid.intType, hfloat _ hvalid.floatType, hstring _ hvalid.stringType, hany⟩

theorem Options.OnLines.primitiveType {o : Options} (ho : o.OnLines) {withIssues : Bool}
    {p : Primitive} {t : TypeExpr} (h : primitiveType o withIssues p = .ok t) : IsLine t.name := by
  cases p with
  | any =>
    rw [Zig.primitiveType] at h
    split at h
    · next s hs =>
      cases h
      rw [name_annotated]
      exact ho.anyType s hs
    · cases h
  | null =>
    cases h
    rw [name_annotated]
    exact IsLine.append (by decide) ho.stringType
  | bool => cases h; exact (by decide : IsLine "bool")
  | integer => cases h; exact ho.intType
  | double => cases h; exact ho.floatType
  | string => cases h; exact ho.stringType

/-- A type is written on one line. -/
theorem Options.OnLines.write {m : TypeMap} (ho : m.options.OnLines)
    (hnames : ∀ id name, m.typeName id = .ok name → IsLine name) {withIssues : Bool} {e : Expr} :
    ∀ {t : TypeExpr}, e.write m withIssues = .ok t → IsLine t.name := by
  induction e with
  | builtin p => exact ho.primitiveType
  | ref id =>
    intro t h
    obtain ⟨name, hname, rfl⟩ := exists_of_map_eq_ok h
    exact hnames id name hname
  | slice e ih =>
    intro t h
    obtain ⟨inner, hinner, rfl⟩ := exists_of_map_eq_ok h
    exact (IsLine.append (by decide) (ih hinner)).append (by decide)
  | hashMap e ih =>
    intro t h
    obtain ⟨inner, hinner, rfl⟩ := exists_of_map_eq_ok h
    exact (IsLine.append (by decide) (ih hinner)).append (by decide)
  | optional e ih =>
    intro t h
    obtain ⟨inner, hinner, rfl⟩ := exists_of_map_eq_ok h
    rw [TypeExpr.asOptional]
    split
    · exact ih hinner
    · exact IsLine.append (by decide) (ih hinner)

end Zig

namespace Generation

open Rename (renamed)
open Zig (Kind Draft MemberDraft Transcript Expr IsLeader)

variable {c : Context}

namespace Context

/-- The lines of a description. -/
theorem isLine_of_descriptionLines {description : Value} {docs : List String}
    (h : c.descriptionLines description = .ok docs) : ∀ line ∈ docs, IsLine line := by
  unfold descriptionLines at h
  split at h
  · cases h
    exact nofun
  · cases description with
    | str text =>
      cases h
      intro line hline
      obtain ⟨piece, hpiece, rfl⟩ := List.mem_map.mp hline
      rw [IsLine, String.toList_ofList]
      exact fun hmem =>
        Text.not_mem_of_mem_lines hpiece (Text.dropEndWhile_subset _ piece hmem)
    | _ => cases h

theorem isLeader_leader (c : Context) : IsLeader c.leader := by
  rw [leader, Zig.Options.leader, Zig.Options.visibility]
  cases c.options.isPublic.isTruthy
  · exact .inl rfl
  · exact .inr rfl

/-- Names are given, and no type of the options goes over several lines. -/
structure OnLines (c : Context) : Prop extends Context.Named c where
  options : c.options.OnLines

theorem Named.isIdentifier (hc : c.Named) {id : Nat} {name : String}
    (h : c.names.typeName? id = some name) : Zig.isIdentifier name = true :=
  (hc.names.legal.identifiers name
    (List.mem_append_right _ (List.mem_map_of_mem (mem_of_entryFor? h)))).1

/-- A type is written on one line. -/
theorem OnLines.write (hc : c.OnLines) {withIssues : Bool} {e : Expr} {t : Zig.TypeExpr}
    (h : e.write c.typeMap withIssues = .ok t) : IsLine t.name := by
  refine hc.options.write (m := c.typeMap) (fun id name hname => ?_) h
  replace hname : Names.typeName c.graph c.names id = .ok name := hname
  rw [Names.typeName] at hname
  split at hname
  · next hgiven =>
    cases hname
    exact Zig.isLine_of_isIdentifier (hc.isIdentifier hgiven)
  · cases hname

end Context

/-! ## Drafts of declarations -/

/-- The draft of a field. -/
def fieldDraft (f : Context.FieldText) : MemberDraft := ⟨f.description, f.name, some f.type⟩

/-- The draft of a case. -/
def caseDraft (name : String) : MemberDraft := ⟨[], name, none⟩

/-- The draft of a declaration whose members were given identifiers for external names. -/
def draftOf (c : Context) (docs : List String) (kind : Kind) (name : String)
    (members : List MemberDraft) (externalNames : List String) : Draft where
  docs := docs
  leader := c.leader
  kind := kind
  name := name
  members := members
  blocks := Zig.blocksOf
    (Context.blocksFor (renamed ((members.map (·.name)).zip externalNames)))

/-- The blocks of a declaration are legal if the renamed members are. -/
theorem isLegalBlock_blocksFor {entries : List (String × String)}
    (h : ∀ e ∈ entries, Zig.isIdentifier e.1 = true) :
    ∀ b ∈ Zig.blocksOf (Context.blocksFor entries), Zig.IsLegalBlock b := by
  intro b hb
  rw [Zig.blocksOf, Context.blocksFor] at hb
  split at hb
  · cases hb
  · simp only [List.map_cons, List.map_nil, List.mem_cons, List.not_mem_nil, or_false] at hb
    rcases hb with rfl | rfl
    · exact ⟨show '"' ∉ ("getty." ++ "db").toList by decide,
        show IsLine ("getty." ++ "db") by decide, h⟩
    · exact ⟨show '"' ∉ ("getty." ++ "sb").toList by decide,
        show IsLine ("getty." ++ "sb") by decide, h⟩

/-- What is renamed is one of the given identifiers. -/
theorem mem_of_mem_renamed {identifiers externalNames : List String} {e : String × String}
    (h : e ∈ renamed (identifiers.zip externalNames)) : e.1 ∈ identifiers :=
  (List.of_mem_zip (List.mem_of_mem_filter h)).1

/-- Whatever the external names are, a declaration with legal members is read back. -/
theorem isLegal_draftOf (c : Context) {docs : List String} {kind : Kind} {name : String}
    {members : List MemberDraft} (hdocs : ∀ line ∈ docs, IsLine line)
    (hname : Zig.isIdentifier name = true) (hmembers : ∀ m ∈ members, m.IsLegal kind)
    (externalNames : List String) : (draftOf c docs kind name members externalNames).IsLegal where
  docs := hdocs
  leader := c.isLeader_leader
  name := hname
  members := hmembers
  blocks := isLegalBlock_blocksFor fun e he => by
    obtain ⟨m, hm, heq⟩ := List.mem_map.mp (mem_of_mem_renamed he)
    exact heq ▸ (hmembers m hm).name

/-- A text made of the parts of a declaration has the lines of its draft. -/
theorem hasLines_draftOf {docs : List String} {kind : Kind} {name : String}
    {members : List MemberDraft} {identifiers externalNames : List String}
    (hf : (draftOf c docs kind name members externalNames).IsLegal)
    (hids : members.map (·.name) = identifiers) {text : String}
    (hm : HasLines text (members.flatMap MemberDraft.lines)) :
    HasLines (Zig.Layout.description docs ++ (Zig.openingLine c.leader kind name ++ "\n") ++ text ++
      Zig.Layout.renameBlocks c.leader
        (Context.blocksFor (renamed (identifiers.zip externalNames))) ++
      ("\x7d;" ++ "\n")) (draftOf c docs kind name members externalNames).lines := by
  subst hids
  exact hf.hasLines hm (Zig.hasLines_renameBlocks c.isLeader_leader hf.blocks)

/-- The members of a record are laid out as fields. -/
theorem hasLines_fields {fields : List Context.FieldText}
    (h : ∀ f ∈ fields, (fieldDraft f).IsLegal .struct) :
    HasLines (String.join (fields.map Context.FieldText.layout))
      ((fields.map fieldDraft).flatMap MemberDraft.lines) := by
  rw [List.flatMap_map]
  refine hasLines_join fun f hf => ?_
  rw [Context.FieldText.layout, Zig.Layout.field, Zig.member_eq]
  exact (h f hf).hasLines

/-- The members of an enumeration are laid out as cases. -/
theorem hasLines_cases {names : List String} (h : ∀ n ∈ names, (caseDraft n).IsLegal .enum) :
    HasLines (String.join (names.map fun case => "    " ++ case ++ ",\n"))
      ((names.map caseDraft).flatMap MemberDraft.lines) := by
  have hlines : (names.map fun case => "    " ++ case ++ ",\n") =
      names.map fun case => Zig.memberLine case none ++ "\n" :=
    List.map_congr_left fun case _ => Zig.case_eq case
  rw [hlines, List.flatMap_map]
  exact hasLines_join fun n hn => hasLines_line (Zig.isLine_memberLine (m := caseDraft n) (h n hn))

theorem record_eq (docs : List String) (leader name fields renames : String) :
    Zig.Layout.record (Zig.Layout.description docs) leader name fields renames =
      Zig.Layout.description docs ++ (Zig.openingLine leader .struct name ++ "\n") ++ fields ++
        renames ++ ("\x7d;" ++ "\n") := by
  simp [← String.toList_inj, Zig.Layout.record, Zig.openingLine, Kind.opening]

theorem enumeration_eq (docs cases : List String) (leader name renames : String) :
    Zig.Layout.enumeration (Zig.Layout.description docs) leader name cases renames =
      Zig.Layout.description docs ++ (Zig.openingLine leader .enum name ++ "\n") ++
        String.join (cases.map fun case => "    " ++ case ++ ",\n") ++ renames ++
        ("\x7d;" ++ "\n") := by
  simp [← String.toList_inj, Zig.Layout.enumeration, Zig.openingLine, Kind.opening]

/-! ## Fields -/

theorem FieldTexts.map_name {ps : List Property} {names : List String} {es : List Expr}
    {fields : List Context.FieldText} (h : FieldTexts c ps names es fields) :
    fields.map (·.name) = names := by
  induction h with
  | nil => rfl
  | cons _ _ _ _ ih => rw [List.map_cons, ih]

/-- A field has the type that its property is mapped to. -/
structure FieldOf (c : Context) (p : Property) (f : Context.FieldText) : Prop where
  type : ∃ t, c.typeMap.propertyType p = .ok t ∧ t.name = f.type
  isLine : IsLine f.type
  docs : ∀ line ∈ f.description, IsLine line

theorem FieldTexts.fieldOf (hc : c.OnLines) {ps : List Property} {names : List String}
    {es : List Expr} {fields : List Context.FieldText} (h : FieldTexts c ps names es fields)
    (hleads : ∀ p ∈ ps, Zig.Leads c.graph p.type) : List.Forall₂ (FieldOf c) ps fields := by
  induction h with
  | nil => exact .nil
  | @cons p _ _ t _ _ _ _ _ he ht hl _ ih =>
    have htype := hc.propertyType_eq he (hleads p (by simp))
    exact .cons ⟨⟨t, htype.trans ht, rfl⟩, hc.write ht, Context.isLine_of_descriptionLines hl⟩
      (ih fun q hq => hleads q (List.mem_cons_of_mem p hq))

theorem isLegal_fieldDraft {p : Property} {f : Context.FieldText} (h : FieldOf c p f)
    (hname : Zig.isIdentifier f.name = true) : (fieldDraft f).IsLegal .struct where
  docs := h.docs
  name := hname
  type := .field f.type
  clean := by rintro _ ⟨⟩; exact h.isLine

theorem isLegal_caseDraft {name : String} (h : Zig.isIdentifier name = true) :
    (caseDraft name).IsLegal .enum where
  docs := nofun
  name := h
  type := .case
  clean := nofun

end Generation

end ZigDecl
