import ZigDecl.Proofs.Zig.Draft
import ZigDecl.Zig.Layout

/-! # The lines of a layout

Main statement: a text that is laid out part by part as a draft says has the lines of the draft, as
long as everything in it stands on one line. -/

namespace ZigDecl.Zig

open Text Reader

/-! ## Names and descriptions -/

theorem isLine_docLine {line : String} (h : IsLine line) : IsLine (docLine line) :=
  IsLine.append (by decide) h

theorem isLine_of_isIdentifier {name : String} (h : isIdentifier name = true) : IsLine name := by
  intro hmem
  have hname : Name.isNameChar '\n' = true := isLegal_of_isIdentifier h _ hmem
  cases hname

theorem IsLeader.isLine {leader : String} (h : IsLeader leader) : IsLine leader := by
  rcases h with rfl | rfl <;> decide

theorem hasLines_description {docs : List String} (h : ∀ line ∈ docs, IsLine line) :
    HasLines (Layout.description docs) (docs.map docLine) := by
  rw [Layout.description, List.map_eq_flatMap (f := docLine)]
  exact hasLines_join fun line hline => hasLines_line (isLine_docLine (h line hline))

theorem hasLines_memberDocs {docs : List String} (h : ∀ line ∈ docs, IsLine line) :
    HasLines (indent 4 (Layout.description docs)) (docs.map memberDocLine) := by
  have hindent := (hasLines_description h).indent fun l hl => by
    obtain ⟨line, _, rfl⟩ := List.mem_map.mp hl
    rw [docLine, String.toList_append]
    rfl
  rwa [List.map_map] at hindent

theorem member_eq (name type : String) :
    Layout.member name type = memberLine name (some type) ++ "\n" := by
  simp [← String.toList_inj, Layout.member, memberLine, typeSuffix]

theorem case_eq (name : String) :
    "    " ++ name ++ ",\n" = memberLine name none ++ "\n" := by
  simp [← String.toList_inj, memberLine, typeSuffix]

theorem isLine_memberLine {kind : Kind} {m : MemberDraft} (h : m.IsLegal kind) :
    IsLine (memberLine m.name m.type) := by
  have hsuffix : IsLine (typeSuffix m.type) := by
    cases hm : m.type with
    | none => decide
    | some type => exact IsLine.append (by decide) ((h.clean type hm).append (by decide))
  exact IsLine.append (by decide) ((isLine_of_isIdentifier h.name).append hsuffix)

theorem renameEntry_eq (e : String × String) :
    Layout.renameEntry e.1 e.2 = entryLine e ++ "\n" := by
  simp [← String.toList_inj, Layout.renameEntry, entryLine]

theorem isLine_entryLine {e : String × String} (h : isIdentifier e.1 = true) :
    IsLine (entryLine e) := by
  have hliteral : IsLine (stringLiteral e.2) := by
    rw [IsLine, stringLiteral, String.toList_ofList]
    exact not_mem_literalChars _
  exact IsLine.append (by decide) ((isLine_of_isIdentifier h).append
    (IsLine.append (by decide) (hliteral.append (by decide))))

theorem renameBlock_eq (leader extension : String) (entries : List (String × String)) :
    Layout.renameBlock leader extension entries =
      ("" ++ "\n") ++ (blockLine leader ("getty." ++ extension) ++ "\n") ++
        (attributesLine leader ++ "\n") ++
        String.join (entries.map fun e => entryLine e ++ "\n") ++ ("        \x7d;" ++ "\n") ++
        ("    \x7d;" ++ "\n") := by
  rw [Layout.renameBlock, List.map_congr_left (g := fun e => entryLine e ++ "\n")
    fun e _ => renameEntry_eq e]
  simp [← String.toList_inj, blockLine, attributesLine]

theorem hasLines_renameBlock {leader extension : String} (hl : IsLeader leader)
    {entries : List (String × String)} (h : IsLegalBlock ("getty." ++ extension, entries)) :
    HasLines (Layout.renameBlock leader extension entries)
      (blockLines leader ("getty." ++ extension, entries)) := by
  have hname : IsLine (blockLine leader ("getty." ++ extension)) :=
    IsLine.append (by decide) (hl.isLine.append (IsLine.append (by decide)
      (h.clean.append (by decide))))
  have hattributes : IsLine (attributesLine leader) :=
    IsLine.append (by decide) (hl.isLine.append (by decide))
  have hentries := hasLines_join (f := fun e => entryLine e ++ "\n") (g := fun e => [entryLine e])
    fun e he => hasLines_line (isLine_entryLine (h.entries e he))
  rw [← List.map_eq_flatMap] at hentries
  rw [renameBlock_eq, blockLines]
  have hall := (((((hasLines_line (l := "") (by decide)).append (hasLines_line hname)).append
    (hasLines_line hattributes)).append hentries).append
    (hasLines_line (l := "        \x7d;") (by decide))).append
    (hasLines_line (l := "    \x7d;") (by decide))
  simpa using hall

/-- The blocks of a declaration, each of them in the namespace of the library that reads them. -/
def blocksOf (blocks : List (String × List (String × String))) :
    List (String × List (String × String)) :=
  blocks.map fun (extension, entries) => ("getty." ++ extension, entries)

theorem hasLines_renameBlocks {leader : String} (hl : IsLeader leader)
    {blocks : List (String × List (String × String))} (h : ∀ b ∈ blocksOf blocks, IsLegalBlock b) :
    HasLines (Layout.renameBlocks leader blocks)
      ((blocksOf blocks).flatMap (blockLines leader)) := by
  rw [blocksOf, List.flatMap_map]
  exact hasLines_join fun b hb => hasLines_renameBlock hl (h _ (List.mem_map_of_mem hb))

theorem Draft.IsLegal.isLine_openingLine {f : Draft} (hf : f.IsLegal) :
    IsLine (openingLine f.leader f.kind f.name) := by
  have hkind : IsLine f.kind.opening := by cases f.kind <;> decide
  exact hf.leader.isLine.append (IsLine.append (by decide)
    ((isLine_of_isIdentifier hf.name).append hkind))

/-- A text made of the parts of a draft has its lines. -/
theorem Draft.IsLegal.hasLines {f : Draft} (hf : f.IsLegal) {members blocks : String}
    (hm : HasLines members (f.members.flatMap MemberDraft.lines))
    (hb : HasLines blocks (f.blocks.flatMap (blockLines f.leader))) :
    HasLines (Layout.description f.docs ++ (openingLine f.leader f.kind f.name ++ "\n") ++
      members ++ blocks ++ ("\x7d;" ++ "\n")) f.lines :=
  ((((hasLines_description hf.docs).append (hasLines_line hf.isLine_openingLine)).append hm).append
    hb).append (hasLines_line (by decide))

theorem MemberDraft.IsLegal.hasLines {kind : Kind} {m : MemberDraft} (h : m.IsLegal kind) :
    HasLines (indent 4 (Layout.description m.docs) ++ (memberLine m.name m.type ++ "\n")) m.lines :=
  (hasLines_memberDocs h.docs).append (hasLines_line (isLine_memberLine h))

end ZigDecl.Zig
