import ZigDecl.Proofs.Generation.Drafts
import ZigDecl.Proofs.Output.Blocks

/-! # Declarations start and end with something

Main statement: the text of a declaration has no blank line at either end, whatever names and types
are in it. The same holds for the prelude and for the imports of a file. -/

namespace ZigDecl

open Text

namespace Zig.Layout

theorem opens_description (lines : List String) {s : String} (h : Opens s) :
    Opens (description lines ++ s) := by
  cases lines with
  | nil => simpa [description] using h
  | cons line lines =>
    have hfirst : Opens "/// " := ⟨'/', _, rfl, by decide⟩
    have heq : description (line :: lines) ++ s =
        "/// " ++ (line ++ "\n" ++ description lines ++ s) := by
      simp [description, String.append_assoc]
    rw [heq]
    exact hfirst.append _

theorem opens_leader {leader : String} (h : IsLeader leader) {s : String} (hs : Opens s) :
    Opens (leader ++ s) := by
  rcases h with rfl | rfl
  · simpa using hs
  · exact Opens.append ⟨'p', _, rfl, by decide⟩ s

/-- A description and the declaration of a constant behind it. -/
theorem isSolid_const (lines : List String) {leader : String} (h : IsLeader leader)
    (body : String) {text : String}
    (heq : text = description lines ++ (leader ++ ("const " ++ (body ++ ";\n")))) :
    IsSolid text := by
  subst heq
  have hconst : Opens ("const " ++ (body ++ ";\n")) := Opens.append ⟨'c', _, rfl, by decide⟩ _
  refine ⟨opens_description lines (opens_leader h hconst), ?_⟩
  exact (((Closes.append ⟨[], rfl⟩ body).append "const ").append leader).append _

theorem isSolid_prelude : IsSolid prelude :=
  isSolid_const [] (.inl rfl) "std = @import(\"std\")" (by simp [description, prelude])

theorem isSolid_importLine (name file : String) : IsSolid (importLine name file) :=
  isSolid_const [] (.inl rfl)
    (name ++ " = @import(" ++ stringLiteral file ++ ")." ++ name)
    (by simp [description, importLine, String.append_assoc])

theorem isSolid_imports {items : List (String × String)} (h : items ≠ []) :
    IsSolid (imports items) := by
  constructor
  · obtain ⟨first, rest, rfl⟩ := List.exists_cons_of_ne_nil h
    rw [imports, List.map_cons, String.join_cons]
    exact (isSolid_importLine first.1 first.2).opens.append _
  · obtain ⟨init, last, rfl⟩ := (List.eq_nil_or_concat' items).resolve_left h
    have hsplit : imports (init ++ [last]) = imports init ++ importLine last.1 last.2 := by
      simp [imports]
    rw [hsplit]
    exact (isSolid_importLine last.1 last.2).closes.append _

theorem isSolid_typeAlias {leader : String} (h : IsLeader leader) (name type : String) :
    IsSolid (typeAlias "" leader name type) :=
  isSolid_const [] h (name ++ " = " ++ type)
    (by simp [description, typeAlias, String.append_assoc])

theorem isSolid_record (lines : List String) {leader : String} (h : IsLeader leader)
    (name fields renames : String) :
    IsSolid (record (description lines) leader name fields renames) :=
  isSolid_const lines h (name ++ " = struct \x7b\n" ++ fields ++ renames ++ "\x7d")
    (by simp [← String.toList_inj, record])

theorem isSolid_enumeration (lines : List String) {leader : String} (h : IsLeader leader)
    (name : String) (cases : List String) (renames : String) :
    IsSolid (enumeration (description lines) leader name cases renames) :=
  isSolid_const lines h (name ++ " = enum \x7b\n" ++
    String.join (cases.map fun case => "    " ++ case ++ ",\n") ++ renames ++ "\x7d")
    (by simp [← String.toList_inj, enumeration])

theorem isSolid_union (lines : List String) {leader : String} (h : IsLeader leader)
    (name : String) (arms : List (String × String)) :
    IsSolid (union (description lines) leader name arms) :=
  isSolid_const lines h (name ++ " = union(enum) \x7b\n" ++
    String.join (arms.map fun arm => member arm.1 arm.2) ++ "\x7d")
    (by simp [← String.toList_inj, union])

end Zig.Layout

namespace Generation

/-- The text of a declaration has no blank line at either end. -/
theorem Declares.isSolid {c : Context} {name text : String} {d : Declaration}
    {es : List Zig.Expr} (h : Declares c name d es text) : IsSolid text := by
  cases h with
  | typeAlias => exact Zig.Layout.isSolid_typeAlias c.isLeader_leader _ _
  | record => exact Zig.Layout.isSolid_record _ c.isLeader_leader _ _ _
  | enum => exact Zig.Layout.isSolid_enumeration _ c.isLeader_leader _ _ _
  | union => exact Zig.Layout.isSolid_union _ c.isLeader_leader _ _

end Generation

end ZigDecl
