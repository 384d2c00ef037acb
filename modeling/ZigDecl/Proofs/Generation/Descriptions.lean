import ZigDecl.Proofs.Generation.Comments
import ZigDecl.Proofs.Generation.Split

/-! # Descriptions do not reach the code

A run is compared with the run without comments on the graph without descriptions, of which nothing
but the comments is left to differ. Main statement: runs on documents that differ in descriptions
alone yield the same warnings and the same files but for doc comments; without comments they are the
same run. -/

namespace ZigDecl

open Generation
open Output (File codeLines block spaced Buffer)
open Text (IsEnding ended blockLines)

namespace Generation

/-! ## Finished files without comments -/

/-- What a file holds without doc comments: the lines of code of its preamble and of its parts, with
an empty line in front of each part. -/
def codeText (lineEnding header : String) (parts : List (List (List Char))) : String :=
  String.ofList (ended lineEnding.toList
    (codeLines (Buffer.ofParts [header, Zig.Layout.prelude]).charLines ++
      parts.flatMap fun part => [] :: part))

theorem withoutDocs_parts {lineEnding : String} (hsep : IsEnding lineEnding.toList)
    (header : String) (texts : List String) :
    Output.withoutDocs lineEnding
        (spaced lineEnding (preamble lineEnding header) (texts.map (block lineEnding))) =
      codeText lineEnding header (texts.map fun text => codeLines (blockLines text)) := by
  rw [preamble, Output.withoutDocs_spaced hsep (Buffer.clean_charLines _), codeText,
    List.flatMap_map]

/-- Without comments, files depend on lines of code only. -/
theorem files_withoutDocs {lineEnding : String} (hsep : IsEnding lineEnding.toList)
    (header : String) (targets : List Target) {rs rs' : List Rendered}
    (h : rs.map Rendered.code = rs'.map Rendered.code) (isSplit : Bool) :
    ((finished lineEnding header targets rs).files isSplit lineEnding).map
        (File.withoutDocs lineEnding) =
      ((finished lineEnding header targets rs').files isSplit lineEnding).map
        (File.withoutDocs lineEnding) := by
  have hcode := map_files_finished _ _ _ (withoutDocs_parts hsep header) targets
  exact (hcode rs isSplit).trans
    ((congrArg (filesOf _ _ targets isSplit) h).trans (hcode rs' isSplit).symm)

end Generation

/-! ## Runs -/

/-- An outcome without the doc comments of its files. -/
def RunResult.withoutDocs (lineEnding : String) : RunResult → RunResult :=
  .mapFiles (File.withoutDocs lineEnding)

namespace Generator

variable {g g' : TypeGraph} {gen : Generator} {lineEnding : String}

/-- The generator without comments. -/
def uncommented (gen : Generator) : Generator :=
  { gen with config := { gen.config with addComments := .bool false } }

/-- Files and warnings without the doc comments of the files. -/
def filesWithoutDocs (lineEnding : String) (done : List File × List String) :
    List File × List String :=
  (done.1.map (File.withoutDocs lineEnding), done.2)

/-- But for doc comments, what is generated with comments is what is generated without them. -/
theorem result_generate_uncommented (hw : g.WellFormed) (ht : g.HasTextDescriptions)
    (hending : gen.config.lineEnding = .str lineEnding) (hsep : IsEnding lineEnding.toList)
    (hcomments : Config.areComments gen.config.leadingComments = true) :
    filesWithoutDocs lineEnding <$> (gen.generate g).result =
      filesWithoutDocs lineEnding <$> (gen.uncommented.generate g).result := by
  cases hnames : (Names.resolve g).result with
  | error e =>
    rw [result_generate_error hw.hasTop hnames, result_generate_error hw.hasTop hnames]
  | ok names =>
    have hresolved := Names.resolved_of_resolve hw hnames
    have hc : (gen.context g names).Named := ⟨hw, hresolved⟩
    have hc' : (gen.uncommented.context g names).Named := ⟨hw, hresolved⟩
    obtain ⟨header, hheader⟩ := hc.exists_header hcomments
    obtain ⟨ds, hds, hordered⟩ := exists_declarations hc.wellFormed hc.names
    obtain ⟨targets, htargets⟩ := exists_forall₂ fun e he => hc.exists_target (hordered.named e he)
    have htargets' : List.Forall₂ (TargetOf (gen.uncommented.context g names)) ds targets :=
      htargets.imp fun _ _ ht => ⟨ht.fileName, ht.nonempty, ht.imports⟩
    have hcode : List.map Rendered.code <$> (gen.context g names).renderAll ds =
        List.map Rendered.code <$> (gen.uncommented.context g names).renderAll ds :=
      hc.map_code_renderAll ht hordered.named
    rw [result_generate_rendering hc hnames hsep hending hheader hds htargets,
      result_generate_rendering hc' hnames hsep hending hheader hds htargets']
    simp only [Functor.map_map]
    refine map_congr_of_map (fun rs rs' h => Prod.ext ?_ ?_) hcode
    · exact files_withoutDocs hsep header targets h _
    · exact warnings_finished_congr h lineEnding header targets

/-- But for doc comments, a run with comments ends like a run without them. -/
theorem result_run_uncommented (hw : g.WellFormed) (ht : g.HasTextDescriptions)
    (hending : gen.config.lineEnding = .str lineEnding) (hsep : IsEnding lineEnding.toList)
    (hcomments : Config.areComments gen.config.leadingComments = true) :
    RunResult.withoutDocs lineEnding <$> (gen.run g).result =
      RunResult.withoutDocs lineEnding <$> (gen.uncommented.run g).result := by
  have hconclude (other : Generator) (hsplit : gen.config.splitFiles = other.config.splitFiles) :
      RunResult.withoutDocs lineEnding <$> (other.run g).result =
        (gen.conclude g (filesWithoutDocs lineEnding <$> (other.generate g).result)).result :=
    (result_conclude_map (File.withoutDocs lineEnding) hsplit _).symm
  rw [hconclude gen rfl, hconclude gen.uncommented rfl,
    result_generate_uncommented hw ht hending hsep hcomments]

/-- Files that are the same but for their doc comments. -/
def SameCode (lineEnding : String) (file other : File) : Prop :=
  file.name = other.name ∧
    Output.withoutDocs lineEnding file.text = Output.withoutDocs lineEnding other.text

theorem sameCode_of_map_withoutDocs {files others : List File}
    (h : files.map (File.withoutDocs lineEnding) = others.map (File.withoutDocs lineEnding)) :
    List.Forall₂ (SameCode lineEnding) files others := by
  rw [← List.forall₂_eq_eq_eq, List.forall₂_map_left_iff, List.forall₂_map_right_iff] at h
  exact h.imp fun _ _ heq => ⟨(File.mk.inj heq).1, (File.mk.inj heq).2⟩

/-- Runs on graphs of documents that differ in descriptions alone end in the same way but for doc
comments, and they are the same run if comments are not wanted. They succeed if all names and the
type of unknown values are texts, with the same warnings and with files of the same names. -/
theorem result_run_withoutDocs {document document' : Value} {config : Config}
    (hsame : document.undescribedDocument = document'.undescribedDocument)
    (hg : TypeGraph.ofDocument document = .ok g) (hg' : TypeGraph.ofDocument document' = .ok g')
    (ht : g.HasTextDescriptions) (ht' : g'.HasTextDescriptions) (hvalid : config.IsValid)
    (hgen : ofConfig config = .ok gen) :
    ∃ lineEnding, config.lineEnding = .str lineEnding ∧
      RunResult.withoutDocs lineEnding <$> (gen.run g).result =
        RunResult.withoutDocs lineEnding <$> (gen.run g').result ∧
      (config.addComments.isTruthy = false → gen.run g = gen.run g') ∧
      (g.HasTextNames → (∃ s, gen.options.anyType = .str s) →
        ∃ files files' warnings facts,
          (gen.run g).result = .ok (.success files warnings facts) ∧
          (gen.run g').result = .ok (.success files' warnings facts) ∧
          List.Forall₂ (SameCode lineEnding) files files') := by
  obtain ⟨rfl, -⟩ := ofConfig_eq_ok_iff.mp hgen
  have hw := TypeGraph.wellFormed_of_ofDocument hg
  have hw' := TypeGraph.wellFormed_of_ofDocument hg'
  have hgraph := TypeGraph.undescribed_of_ofDocument hsame hg hg'
  obtain ⟨lineEnding, hending, _⟩ := exists_lineEnding hvalid.1
  have hsep : IsEnding lineEnding.toList := isEnding_of_isLineEnding (hending ▸ hvalid.1)
  have hoff : gen.uncommented.config.addComments.isTruthy = false := rfl
  have hrun : RunResult.withoutDocs lineEnding <$> (gen.run g).result =
      RunResult.withoutDocs lineEnding <$> (gen.run g').result := by
    rw [result_run_uncommented hw ht hending hsep hvalid.2.1,
      result_run_uncommented hw' ht' hending hsep hvalid.2.1,
      ← run_undescribed hoff g, ← run_undescribed hoff g', hgraph]
  refine ⟨lineEnding, hending, hrun, fun hnone => ?_, fun hn hany => ?_⟩
  · rw [← run_undescribed hnone g, ← run_undescribed hnone g', hgraph]
  · obtain ⟨names, hnames, hresolved⟩ := Names.exists_resolve hw (Names.nameable_of_hasTextNames hn)
    have hnames' : (Names.resolve g').result = .ok names := by
      rw [← Names.resolve_undescribed, ← hgraph, Names.resolve_undescribed, hnames]
    have hready : (gen.context g names).Ready := ⟨⟨hw, hresolved⟩, ht, hany, hvalid.2.1⟩
    have hready' : (gen.context g' names).Ready :=
      ⟨⟨hw', Names.resolved_of_resolve hw' hnames'⟩, ht', hany, hvalid.2.1⟩
    obtain ⟨files, warnings, hsuccess⟩ := exists_run hnames hready hvalid.1
    obtain ⟨files', warnings', hsuccess'⟩ := exists_run hnames' hready' hvalid.1
    rw [hsuccess, hsuccess', map_ok, map_ok] at hrun
    obtain ⟨hfiles, rfl, hfacts⟩ := RunResult.success.inj (Except.ok.inj hrun)
    exact ⟨files, files', warnings, _, hsuccess, hfacts ▸ hsuccess',
      sameCode_of_map_withoutDocs hfiles⟩

/-- A record and an enumeration with descriptions of the record and of a property. -/
def describedDocument (type property : Value) : Value := .obj [
  ("types", .obj [
    ("Node", .obj [("kind", .str "class"), ("name", .str "node"), ("description", type),
      ("properties", .arr [
        .obj [("name", .str "next item"), ("type", .obj [("$ref", .str "Node")]),
          ("description", property), ("optional", .bool true)],
        .obj [("name", .str "tone"), ("type", .obj [("$ref", .str "Tone")])]])]),
    ("Tone", .obj [("kind", .str "enum"), ("description", type),
      ("cases", .arr [.str "low", .str "high"])])]),
  ("top_levels", .obj [("List", .obj [("$ref", .str "Node")])])]

/-- Descriptions with line breaks of several kinds. -/
def brokenDocument : Value := describedDocument (.str "one\u2028\n\n///two\x0b\r\n") .null

/-- The same document with other descriptions. -/
def otherDocument : Value := describedDocument .null (.str " \u0085\x7d; const x = 1;\u2029\n")

theorem result_run_withoutDocs_broken : ∃ g g' gen files files' warnings facts,
    brokenDocument.undescribedDocument = otherDocument.undescribedDocument ∧
    TypeGraph.ofDocument brokenDocument = .ok g ∧ TypeGraph.ofDocument otherDocument = .ok g' ∧
    g.HasTextDescriptions ∧ g'.HasTextDescriptions ∧ gen.config.IsValid ∧
    ofConfig gen.config = .ok gen ∧
    (gen.run g).result = .ok (.success files warnings facts) ∧
    (gen.run g').result = .ok (.success files' warnings facts) ∧
    List.Forall₂ (SameCode "\n") files files' := by
  obtain ⟨g, hg⟩ : ∃ g, TypeGraph.ofDocument brokenDocument = .ok g :=
    exists_of_isOk (by with_unfolding_all rfl)
  obtain ⟨g', hg'⟩ : ∃ g, TypeGraph.ofDocument otherDocument = .ok g :=
    exists_of_isOk (by with_unfolding_all rfl)
  have ht := TypeGraph.hasTexts_of_ofDocument (by with_unfolding_all rfl) hg
  have ht' := TypeGraph.hasTexts_of_ofDocument (by with_unfolding_all rfl) hg'
  have hn := ht.hasTextNames (TypeGraph.wellFormed_of_ofDocument hg).closed
  let gen : Generator := ⟨{ Config.default with splitFiles := .bool true }, .default⟩
  have hvalid : gen.config.IsValid := by
    unfold Config.IsValid
    decide
  have hgen : ofConfig gen.config = .ok gen := by rfl
  have hsame : brokenDocument.undescribedDocument = otherDocument.undescribedDocument := by
    rfl
  obtain ⟨lineEnding, hending, _, _, hsuccess⟩ := result_run_withoutDocs hsame hg hg'
    ht.hasTextDescriptions ht'.hasTextDescriptions hvalid hgen
  obtain rfl : "\n" = lineEnding := Value.str.inj hending
  obtain ⟨files, files', warnings, facts, hrun, hrun', hfiles⟩ := hsuccess hn ⟨_, rfl⟩
  exact ⟨g, g', gen, files, files', warnings, facts, hsame, hg, hg', ht.hasTextDescriptions,
    ht'.hasTextDescriptions, hvalid, hgen, hrun, hrun', hfiles⟩

end Generator

end ZigDecl
