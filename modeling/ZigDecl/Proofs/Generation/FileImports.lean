import ZigDecl.Proofs.Generation.Split
import ZigDecl.Proofs.Generation.Success
import ZigDecl.Proofs.Names.FileForm

/-! # Files and their imports

Main statement: where output is split, every declaration gets a file with a safe name of its own,
whatever the names in the document are; and what a file imports under a name comes from the one file
that declares this name. -/

namespace ZigDecl

open Generation
open Output (File Buffer block spaced tidyText)
open Text (IsLine HasLines ended)

namespace Generation

open Zig (Expr Spells)

variable {c : Context}

/-! ## The lines of imports -/

/-- The line that imports a name from a file. -/
def importText (item : String × String) : String :=
  "const " ++ item.1 ++ " = @import(\"" ++ item.2 ++ "\")." ++ item.1 ++ ";"

/-- The imports as they stand in a finished file, one on each line. -/
def importLines (lineEnding : String) (items : List (String × String)) : String :=
  String.join (items.map fun item => importText item ++ lineEnding)

/-- An import of a legal name from a safe file. -/
structure IsImport (item : String × String) : Prop where
  name : Zig.isIdentifier item.1 = true
  file : Names.IsSafeFile item.2

theorem importLine_eq {item : String × String} (h : IsImport item) :
    Zig.Layout.importLine item.1 item.2 = importText item ++ "\n" := by
  rw [Zig.Layout.importLine, h.file.stringLiteral_eq, ← String.toList_inj]
  simp [importText]

theorem isLine_importText {item : String × String} (h : IsImport item) :
    IsLine (importText item) := by
  have hname : IsLine item.1 := Zig.isLine_of_isIdentifier h.name
  have hfile : IsLine item.2 := h.file.isLine
  refine IsLine.append (IsLine.append (IsLine.append ?_ (by decide)) hname) (by decide)
  exact IsLine.append (IsLine.append (IsLine.append (by decide) hname) (by decide)) hfile

theorem hasLines_imports {items : List (String × String)} (h : ∀ item ∈ items, IsImport item) :
    HasLines (Zig.Layout.imports items) (items.map importText) := by
  rw [Zig.Layout.imports, List.map_eq_flatMap (f := importText)]
  refine Text.hasLines_join fun item hitem => ?_
  show HasLines (Zig.Layout.importLine item.1 item.2) [importText item]
  rw [importLine_eq (h item hitem)]
  exact Text.hasLines_line (isLine_importText (h item hitem))

/-- There is nothing to be tidied at the end of an import. -/
theorem tidyLine_importText (item : String × String) :
    Output.tidyLine (importText item) = (importText item).toList := by
  have hlast : (importText item).toList =
      ("const " ++ item.1 ++ " = @import(\"" ++ item.2 ++ "\")." ++ item.1).toList ++ [';'] := by
    simp [importText]
  rw [Output.tidyLine, hlast]
  exact Text.trimEnd_append (by decide) _

theorem importText_ne_empty (item : String × String) : importText item ≠ "" := by
  intro h
  simpa [importText] using congrArg String.length h

theorem splitLines_imports {items : List (String × String)} (hne : items ≠ [])
    (h : ∀ item ∈ items, IsImport item) :
    Text.splitLines (Text.stripLineFeeds (Zig.Layout.imports items)) = items.map importText := by
  have hlines := hasLines_imports h
  obtain ⟨init, last, rfl⟩ := (List.eq_nil_or_concat' items).resolve_left hne
  rw [List.map_append] at hlines ⊢
  exact hlines.splitLines_eq (importText_ne_empty last)

theorem tidyLines_importTexts (items : List (String × String)) :
    Output.tidyLines false ((items.map importText).map String.toList) =
      items.map fun item => (importText item).toList := by
  have hkept : Output.Kept (items.map importText) := Output.kept_of_forall fun l hl => by
    obtain ⟨item, _, rfl⟩ := List.mem_map.mp hl
    rw [tidyLine_importText]
    exact fun hnil => importText_ne_empty item (String.toList_eq_nil_iff.mp hnil)
  have htidy := hkept []
  rw [List.append_nil, Output.tidyLines, List.append_nil] at htidy
  rw [htidy, List.map_map]
  exact List.map_congr_left fun item _ => tidyLine_importText item

theorem toList_importLines (lineEnding : String) (items : List (String × String)) :
    (importLines lineEnding items).toList =
      ended lineEnding.toList (items.map fun item => (importText item).toList) := by
  induction items with
  | nil => rfl
  | cons item items ih =>
    rw [List.map_cons, Text.ended_cons, ← ih]
    simp [importLines]

/-- Imports stand in a finished file as they are. -/
theorem block_imports (lineEnding : String) {items : List (String × String)} (hne : items ≠ [])
    (h : ∀ item ∈ items, IsImport item) :
    block lineEnding (Zig.Layout.imports items) = importLines lineEnding items := by
  rw [block, tidyText, Text.blockLines, splitLines_imports hne h, tidyLines_importTexts,
    ← toList_importLines, String.ofList_toList]

/-- The block of the imports of a file, if it has any. -/
def importBlocks (lineEnding : String) (items : List (String × String)) : List String :=
  if items.isEmpty then [] else [importLines lineEnding items]

theorem map_block_importParts (lineEnding : String) {items : List (String × String)}
    (h : ∀ item ∈ items, IsImport item) :
    (importParts items).map (block lineEnding) = importBlocks lineEnding items := by
  rw [importParts, importBlocks]
  split
  · rfl
  · next hne => exact congrArg (fun b => [b]) (block_imports lineEnding (by simpa using hne) h)

/-! ## Files and what they declare -/

/-- Exactly one of several declarations in files goes by a name, and exactly one file has a file
name; they belong together. -/
def IsOnlyFile (linked : List ((String × Declaration) × File)) (item : String × String) : Prop :=
  ∃ p ∈ linked, p.1.1 = item.1 ∧ p.2.name = some item.2 ∧
    ∀ q ∈ linked, q.1.1 = item.1 ∨ q.2.name = some item.2 → q = p

/-- A file holds a declaration under a safe name, and imports every name from the only file that
declares it. -/
structure Linked (c : Context) (lineEnding : String)
    (linked : List ((String × Declaration) × File)) (e : String × Declaration) (file : File) :
    Prop where
  fileName : ∃ name, file.name = some name ∧ c.names.fileName? e.1 = some name ∧
    Names.IsSafeFile name
  text : ∃ header items es text, c.header = .ok header ∧ c.importsOf e.2 = .ok items ∧
    Declares c e.1 e.2 es text ∧
    file.text = spaced lineEnding (preamble lineEnding header)
      (importBlocks lineEnding items ++ [block lineEnding text]) ∧
    ∀ item ∈ items, IsOnlyFile linked item

variable {ds : List (String × Declaration)} {files : List File} {lineEnding : String}

theorem isSafeFile_of_fileName? (hc : c.Named) {name file : String}
    (h : c.names.fileName? name = some file) : Names.IsSafeFile file :=
  hc.names.isSafeFile (mem_of_entryFor? h)

/-- What is imported for a declaration: declared types, from their files. -/
theorem forall_importsOf (hc : c.Named) (hordered : Ordered c ds) {e : String × Declaration}
    (he : e ∈ ds) {items : List (String × String)} (h : c.importsOf e.2 = .ok items) :
    ∀ item ∈ items, IsImport item ∧ c.names.fileName? item.1 = some item.2 ∧
      ∃ d, (item.1, d) ∈ ds := by
  obtain ⟨other, hother⟩ := (hordered.named e he).importedFor hc.names
  have hleads := leads_of_mem hother
  obtain ⟨es, hes⟩ := exists_spelled hc.founded hleads
  obtain ⟨_, hitems, himports⟩ := hc.exists_importsOf (hordered.named e he) hes
  cases hitems.symm.trans h
  intro item hitem
  obtain ⟨id, hid, hname, hfile⟩ := forall_mem_of_forall₂ himports item hitem
  have hmem : id ∈ c.graph.declarations :=
    refsOf_mem hes hleads id (references_subset _ es hid)
  obtain ⟨ns, hd⟩ := hc.names.declared
  have hdeclared : item.1 ∈ c.names.declaredNames :=
    List.mem_append_right _ (List.mem_map_of_mem (mem_of_entryFor? hname))
  exact ⟨⟨(hd.isIdentifier hdeclared).1, isSafeFile_of_fileName? hc hfile⟩, hfile, .type id,
    hordered.mem (type_mem_inOrder_iff.mpr (TypeGraph.mem_declarations.mp hmem)) ⟨hmem, hname⟩⟩

/-- The name of a declaration and the name of its file determine each other. -/
theorem isOnlyFile_of_fileName? (hc : c.Named) (hordered : Ordered c ds)
    (hfiles : List.Forall₂ (fun e file => file.name = c.names.fileName? e.1) ds files)
    {item : String × String} (hfile : c.names.fileName? item.1 = some item.2)
    {d : Declaration} (hd : (item.1, d) ∈ ds) : IsOnlyFile (ds.zip files) item := by
  obtain ⟨hlen, hnames⟩ := List.forall₂_iff_zip.mp hfiles
  have hfst : (ds.zip files).map (·.1) = ds := List.map_fst_zip hlen.le
  have hnodup : ((ds.zip files).map (·.1.1)).Nodup := by
    have hds := hordered.nodup hc.wellFormed hc.names
    rwa [← hfst, List.map_map] at hds
  obtain ⟨p, hp, hpd⟩ := List.mem_map.mp (hfst.symm ▸ hd)
  have hname : p.1.1 = item.1 := congrArg Prod.fst hpd
  refine ⟨p, hp, hname, by rw [hnames hp, hname, hfile], fun q hq hor => ?_⟩
  have hsame : q.1.1 = item.1 := hor.elim id fun hqfile =>
    fileName?_inj hc.names ((hnames hq).symm.trans hqfile) hfile
  exact List.inj_on_of_nodup_map hnodup hq hp (hsame.trans hname.symm)

theorem linked_of_holdsOne (hc : c.Named) (hordered : Ordered c ds)
    (hending : c.config.lineEnding = .str lineEnding) (hsep : Text.IsEnding lineEnding.toList)
    (hfiles : List.Forall₂ (HoldsOne c) ds files) :
    List.Forall₂ (Linked c lineEnding (ds.zip files)) ds files := by
  have hnames : List.Forall₂ (fun e file => file.name = c.names.fileName? e.1) ds files :=
    hfiles.imp fun e file hone => by
      obtain ⟨name, _, hof, hholds⟩ := hone
      rw [hholds.name_eq, hof.fileName]
  refine ((List.forall₂_and_left _ _).mpr ⟨fun e he => he, hfiles⟩).imp ?_
  rintro e file ⟨he, name, parts, hof, hholds⟩
  refine ⟨⟨name, hholds.name_eq, hof.fileName, isSafeFile_of_fileName? hc hof.fileName⟩, ?_⟩
  obtain ⟨header, items, es, text, hheader, himports, hdecl, rfl⟩ := hof.parts
  have hitems := forall_importsOf hc hordered he himports
  obtain ⟨_, hother, htidy⟩ := hholds.tidy
  cases hother.symm.trans hending
  have hsolid : ∀ t ∈ importParts items ++ [text], Text.IsSolid t := by
    intro t ht
    rcases List.mem_append.mp ht with ht | ht
    · exact isSolid_of_mem_importParts t ht
    · exact List.mem_singleton.mp ht ▸ hdecl.isSolid
  have hends := Buffer.endsFull_ofParts [header] Zig.Layout.isSolid_prelude
  have hfinished := Output.tidy?_ofParts hsep hends hsolid
  rw [← List.append_assoc, List.map_append,
    map_block_importParts _ fun item hitem => (hitems item hitem).1] at hfinished
  have htext := Option.some.inj (htidy.symm.trans hfinished)
  refine ⟨header, items, es, text, hheader, himports, hdecl, htext, fun item hitem => ?_⟩
  obtain ⟨_, hfile, d, hd⟩ := hitems item hitem
  exact isOnlyFile_of_fileName? hc hordered hnames hfile hd

end Generation

namespace Generator

variable {gen : Generator} {g : TypeGraph}

/-- Every graph that was read from a document with texts for names has a file for each declaration
where output is split: its name is the first candidate that the files before it leave free, and is
safe. No two files of a run have the same name, and what a file imports under a name comes from the
only file that declares it. A run yields such files if all descriptions and the type of unknown
values are texts. -/
theorem exists_linked {document : Value} (hg : TypeGraph.ofDocument document = .ok g)
    (ht : g.HasTextNames) {config : Config} (hvalid : config.IsValid)
    (hsplit : config.splitFiles.isTruthy = true) (hgen : ofConfig config = .ok gen) :
    ∃ names ds lineEnding, (Names.resolve g).result = .ok names ∧
      Ordered (gen.context g names) ds ∧ config.lineEnding = .str lineEnding ∧
      (∀ before e after, names.files = before ++ e :: after →
        Names.IsFirstFree (before.map (·.2)) e.1 e.2 ∧ Names.IsSafeFile e.2) ∧
      (∀ files warnings facts, (gen.run g).result = .ok (.success files warnings facts) →
        (files.map (·.name)).Nodup ∧
        List.Forall₂ (Linked (gen.context g names) lineEnding (ds.zip files)) ds files) ∧
      (g.HasTextDescriptions → (∃ s, gen.options.anyType = .str s) →
        ∃ files warnings,
          (gen.run g).result = .ok (.success files warnings (gen.facts g files))) := by
  obtain ⟨rfl, -⟩ := ofConfig_eq_ok_iff.mp hgen
  have hw := TypeGraph.wellFormed_of_ofDocument hg
  obtain ⟨names, hnames, hresolved⟩ := Names.exists_resolve hw (Names.nameable_of_hasTextNames ht)
  have hc : (gen.context g names).Named := ⟨hw, hresolved⟩
  obtain ⟨ds, hds, hordered⟩ := exists_declarations hc.wellFormed hc.names
  obtain ⟨lineEnding, hending, _⟩ := exists_lineEnding hvalid.1
  have hsep : Text.IsEnding lineEnding.toList := isEnding_of_isLineEnding (hending ▸ hvalid.1)
  refine ⟨names, ds, lineEnding, hnames, hordered, hending, fun before e after h => ?_,
    fun files warnings facts hrun => ?_, fun hdescriptions hany => ?_⟩
  · exact ⟨hresolved.isFirstFree h, hresolved.isSafeFile (h ▸ by simp)⟩
  · obtain ⟨other, others, hother, hothers, _, hholds⟩ := files_of_run hw hrun
    cases hother.symm.trans hnames
    obtain rfl := hordered.unique hothers
    have hfiles := hholds hsplit
    refine ⟨?_, linked_of_holdsOne hc hordered hending hsep hfiles⟩
    rw [map_name_eq hfiles]
    exact nodup_fileNames hc hordered
  · exact exists_run hnames ⟨hc, hdescriptions, hany, hvalid.2.1⟩ hvalid.1

/-- Two records whose names differ in case only, and a top-level with a path for a name. -/
def pathDocument : Value := .obj [
  ("types", .obj [
    ("Node", .obj [("kind", .str "class"), ("name", .str "fooBar"), ("properties", .arr [
      .obj [("name", .str "next"), ("type", .obj [("$ref", .str "Other")])]])]),
    ("Other", .obj [("kind", .str "class"), ("name", .str "foobar"), ("properties", .arr [
      .obj [("name", .str "back"), ("type", .obj [("$ref", .str "Node")])]])])]),
  ("top_levels", .obj [
    ("../a/b", .obj [("kind", .str "array"), ("items", .obj [("$ref", .str "Node")])])])]

theorem exists_linked_paths : ∃ g gen names ds files warnings,
    TypeGraph.ofDocument pathDocument = .ok g ∧ g.HasTextNames ∧ gen.config.IsValid ∧
    gen.config.splitFiles.isTruthy = true ∧ ofConfig gen.config = .ok gen ∧
    names.files = [("AB", "ab.zig"), ("FooBar", "foobar.zig"), ("Foobar", "foobar_2.zig")] ∧
    (gen.run g).result = .ok (.success files warnings (gen.facts g files)) ∧
    (files.map (·.name)).Nodup ∧
    List.Forall₂ (Linked (gen.context g names) "\n" (ds.zip files)) ds files := by
  let g : TypeGraph := ⟨#[⟨.str "fooBar", .null, .record [⟨.str "next", .named 1, false, .null⟩]⟩,
    ⟨.str "foobar", .null, .record [⟨.str "back", .named 0, false, .null⟩]⟩],
    [("../a/b", .array 0 (.named 0))]⟩
  let gen : Generator := ⟨{ Config.default with splitFiles := .bool true }, .default⟩
  have hg : TypeGraph.ofDocument pathDocument = .ok g := by with_unfolding_all rfl
  have ht := TypeGraph.hasTexts_of_ofDocument (by with_unfolding_all rfl) hg
  have htn := ht.hasTextNames (TypeGraph.wellFormed_of_ofDocument hg).closed
  have hvalid : gen.config.IsValid := ⟨rfl, rfl, rfl, rfl, rfl⟩
  have hgen : ofConfig gen.config = .ok gen := by rfl
  obtain ⟨names, ds, lineEnding, hnames, _, hending, _, hlinked, hrun⟩ :=
    exists_linked hg htn hvalid rfl hgen
  obtain rfl : "\n" = lineEnding := Value.str.inj hending
  obtain ⟨files, warnings, hrun⟩ := hrun ht.hasTextDescriptions ⟨_, rfl⟩
  have hfiles : (Names.resolve g).result.map (·.files) =
      .ok [("AB", "ab.zig"), ("FooBar", "foobar.zig"), ("Foobar", "foobar_2.zig")] := by
    decide +kernel
  rw [hnames] at hfiles
  exact ⟨g, gen, names, ds, files, warnings, hg, htn, hvalid, rfl, hgen,
    Except.ok.inj hfiles, hrun, hlinked files warnings _ hrun⟩

end Generator

end ZigDecl
