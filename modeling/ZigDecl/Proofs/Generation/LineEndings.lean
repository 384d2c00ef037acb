import ZigDecl.Proofs.Generation.Split
import ZigDecl.Proofs.Output.LineEndings

/-! # Runs that differ in line endings

Main statement: two runs whose configurations differ in the line ending alone yield the same files
but for a carriage return in front of every line feed, and the same warnings; if one of them fails,
so does the other, and for the same reason. -/

namespace ZigDecl

open Generation
open Output (File toCrlf block spaced)
open Text (IsEnding)

namespace Generation

theorem toCrlf_preamble (header : String) :
    toCrlf (preamble "\n" header) = preamble "\r\n" header :=
  Output.toCrlf_tidyText (Output.Buffer.clean_charLines _)

theorem map_toCrlf_block (texts : List String) :
    (texts.map (block "\n")).map toCrlf = texts.map (block "\r\n") := by
  rw [List.map_map]
  exact List.map_congr_left fun text _ => Output.toCrlf_block text

theorem files_crlf (header : String) (targets : List Target) (rs : List Rendered)
    (isSplit : Bool) : (finished "\r\n" header targets rs).files isSplit "\r\n" =
      ((finished "\n" header targets rs).files isSplit "\n").map File.toCrlf := by
  let laid (texts : List String) : String :=
    spaced "\r\n" (preamble "\r\n" header) (texts.map (block "\r\n"))
  have hcrlf (texts : List String) : toCrlf (spaced "\n" (preamble "\n" header)
      (texts.map (block "\n"))) = laid (texts.map id) := by
    rw [List.map_id, Output.toCrlf_spaced, toCrlf_preamble, map_toCrlf_block]
  have hsame (texts : List String) : spaced "\r\n" (preamble "\r\n" header)
      (texts.map (block "\r\n")) = laid (texts.map id) := by
    rw [List.map_id]
  exact (files_finished id laid hsame targets rs isSplit).trans
    (map_files_finished toCrlf id laid hcrlf targets rs isSplit).symm

end Generation

/-- An outcome with a carriage return in front of every line feed of its files. -/
def RunResult.toCrlf : RunResult → RunResult
  | .success files warnings facts => .success (files.map File.toCrlf) warnings facts
  | .failure message cause => .failure message cause

namespace Generator

variable {g : TypeGraph} {config : Config} {lf crlf : Generator}

/-- Generators that differ in the line ending have the same options. -/
theorem exists_options (hlf : ofConfig { config with lineEnding := .str "\n" } = .ok lf)
    (hcrlf : ofConfig { config with lineEnding := .str "\r\n" } = .ok crlf) :
    ∃ options, lf = ⟨{ config with lineEnding := .str "\n" }, options⟩ ∧
      crlf = ⟨{ config with lineEnding := .str "\r\n" }, options⟩ := by
  obtain ⟨hlfConfig, hlfOptions⟩ := ofConfig_eq_ok_iff.mp hlf
  obtain ⟨hcrlfConfig, hcrlfOptions⟩ := ofConfig_eq_ok_iff.mp hcrlf
  have hsame : crlf.options = lf.options := Except.ok.inj (hcrlfOptions.symm.trans hlfOptions)
  refine ⟨lf.options, ?_, ?_⟩
  · rw [← hlfConfig]
  · rw [← hcrlfConfig, ← hsame]

/-- Files and warnings with carriage returns in the files. -/
def filesToCrlf (done : List File × List String) : List File × List String :=
  (done.1.map File.toCrlf, done.2)

theorem result_generate_crlf (hw : g.WellFormed) (hn : Names.Nameable g)
    (hcomments : Config.areComments config.leadingComments = true) (options : Zig.Options) :
    (generate ⟨{ config with lineEnding := .str "\r\n" }, options⟩ g).result =
      filesToCrlf <$> (generate ⟨{ config with lineEnding := .str "\n" }, options⟩ g).result := by
  obtain ⟨names, hnames, hresolved⟩ := Names.exists_resolve hw hn
  let lf : Generator := ⟨{ config with lineEnding := .str "\n" }, options⟩
  let crlf : Generator := ⟨{ config with lineEnding := .str "\r\n" }, options⟩
  have hlf : (lf.context g names).Named := ⟨hw, hresolved⟩
  have hcrlf : (crlf.context g names).Named := ⟨hw, hresolved⟩
  obtain ⟨header, hheader⟩ := hlf.exists_header hcomments
  obtain ⟨ds, hds, hordered⟩ := exists_declarations hlf.wellFormed hlf.names
  obtain ⟨targets, htargets⟩ := exists_forall₂ fun e he => hlf.exists_target (hordered.named e he)
  have htargets' : List.Forall₂ (TargetOf (crlf.context g names)) ds targets :=
    htargets.imp fun _ _ ht => ⟨ht.fileName, ht.nonempty, ht.imports⟩
  have hall : (crlf.context g names).renderAll ds = (lf.context g names).renderAll ds :=
    Context.renderAll_withConfig (lf.context g names) crlf.config rfl ds
  have hsepLf : IsEnding "\n".toList := isEnding_of_isLineEnding rfl
  have hsepCrlf : IsEnding "\r\n".toList := isEnding_of_isLineEnding rfl
  show (crlf.generate g).result = filesToCrlf <$> (lf.generate g).result
  rw [result_generate_rendering hlf hnames hsepLf rfl hheader hds htargets,
    result_generate_rendering hcrlf hnames hsepCrlf rfl hheader hds htargets', hall]
  cases (lf.context g names).renderAll ds with
  | error e => rfl
  | ok rs => exact congrArg Except.ok (Prod.ext (files_crlf header targets rs _) rfl)

theorem result_conclude_crlf (options : Zig.Options)
    (done : Except Failure (List File × List String)) :
    (conclude ⟨{ config with lineEnding := .str "\r\n" }, options⟩ g
        (filesToCrlf <$> done)).result =
      RunResult.toCrlf <$>
        (conclude ⟨{ config with lineEnding := .str "\n" }, options⟩ g done).result := by
  have hmap : RunResult.toCrlf = RunResult.mapFiles File.toCrlf := by
    funext r
    cases r <;> rfl
  rw [hmap]
  exact result_conclude_map File.toCrlf rfl done

/-- Runs on a graph that was read from a document, with configurations that differ in the line
ending alone, end in the same way, but for a carriage return in front of every line feed of the
files where lines end with both; and they succeed if all descriptions and the type of unknown values
are texts. -/
theorem result_run_crlf {document : Value} (hg : TypeGraph.ofDocument document = .ok g)
    (ht : g.HasTextNames) (hvalid : config.IsValid)
    (hlf : ofConfig { config with lineEnding := .str "\n" } = .ok lf)
    (hcrlf : ofConfig { config with lineEnding := .str "\r\n" } = .ok crlf) :
    (crlf.run g).result = RunResult.toCrlf <$> (lf.run g).result ∧
      (g.HasTextDescriptions → (∃ s, lf.options.anyType = .str s) →
        ∃ files warnings facts, (lf.run g).result = .ok (.success files warnings facts) ∧
          (crlf.run g).result = .ok (.success (files.map File.toCrlf) warnings facts)) := by
  have hw := TypeGraph.wellFormed_of_ofDocument hg
  have hn := Names.nameable_of_hasTextNames ht
  obtain ⟨options, rfl, rfl⟩ := exists_options hlf hcrlf
  have hrun : (run ⟨{ config with lineEnding := .str "\r\n" }, options⟩ g).result =
      RunResult.toCrlf <$>
        (run ⟨{ config with lineEnding := .str "\n" }, options⟩ g).result := by
    rw [result_run, result_run, result_generate_crlf hw hn hvalid.2.1, result_conclude_crlf]
  refine ⟨hrun, fun hdescriptions hany => ?_⟩
  obtain ⟨names, hnames, hresolved⟩ := Names.exists_resolve hw hn
  have hready : (context ⟨{ config with lineEnding := .str "\n" }, options⟩ g names).Ready :=
    ⟨⟨hw, hresolved⟩, hdescriptions, hany, hvalid.2.1⟩
  obtain ⟨files, warnings, hsuccess⟩ := exists_run hnames hready rfl
  exact ⟨files, warnings, _, hsuccess, by rw [hrun, hsuccess]; rfl⟩

/-- A document with carriage returns and line feeds in its names and descriptions. -/
def returnsDocument : Value := .obj [
  ("types", .obj [
    ("Node", .obj [("kind", .str "class"), ("name", .str "no\rde\n"),
      ("description", .str "\r\none\r\r\ntwo\r"), ("properties", .arr [
        .obj [("name", .str "a\r\nb"), ("type", .str "any"),
          ("description", .str "x\n\r\ny")]])])]),
  ("top_levels", .obj [("\rList", .obj [("$ref", .str "Node")]), ("Rest", .str "any")])]

/-- A configuration with carriage returns and line feeds in its texts. -/
def returnsConfig : Config :=
  ⟨.bool true, .bool true, .arr [.str "one\r", .str "\r\ntwo\n\r"], .bool true, .str "\n",
    .obj [("any_type", .str "\rany\n\r\n")]⟩

theorem result_run_crlf_returns : ∃ g lf crlf files warnings facts,
    TypeGraph.ofDocument returnsDocument = .ok g ∧ g.HasTextNames ∧ returnsConfig.IsValid ∧
    ofConfig { returnsConfig with lineEnding := .str "\n" } = .ok lf ∧
    ofConfig { returnsConfig with lineEnding := .str "\r\n" } = .ok crlf ∧
    (lf.run g).result = .ok (.success files warnings facts) ∧
    (crlf.run g).result = .ok (.success (files.map File.toCrlf) warnings facts) := by
  obtain ⟨g, hg⟩ : ∃ g, TypeGraph.ofDocument returnsDocument = .ok g :=
    exists_of_isOk (by with_unfolding_all rfl)
  have ht := TypeGraph.hasTexts_of_ofDocument (by with_unfolding_all rfl) hg
  have htn := ht.hasTextNames (TypeGraph.wellFormed_of_ofDocument hg).closed
  have hvalid : returnsConfig.IsValid := ⟨rfl, rfl, rfl, rfl, rfl⟩
  let options : Zig.Options := ⟨.bool true, "i64", "f64", "[]u8", .str "\rany\n\r\n"⟩
  let lf : Generator := ⟨{ returnsConfig with lineEnding := .str "\n" }, options⟩
  let crlf : Generator := ⟨{ returnsConfig with lineEnding := .str "\r\n" }, options⟩
  have hlf : ofConfig { returnsConfig with lineEnding := .str "\n" } = .ok lf := by rfl
  have hcrlf : ofConfig { returnsConfig with lineEnding := .str "\r\n" } = .ok crlf := by rfl
  obtain ⟨files, warnings, facts, hrunLf, hrunCrlf⟩ :=
    (result_run_crlf hg htn hvalid hlf hcrlf).2 ht.hasTextDescriptions ⟨_, rfl⟩
  exact ⟨g, lf, crlf, files, warnings, facts, hg, htn, hvalid, hlf, hcrlf, hrunLf, hrunCrlf⟩

end Generator

end ZigDecl
