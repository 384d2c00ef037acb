import ZigDecl.Config.Saved
import ZigDecl.Proofs.Generation.Results

/-! # Runs that succeed

Main statement: a graph that was read from a document with texts for names, and a configuration that
was accepted, are all that a run needs in order to succeed, with one unnamed file or with one file a
declaration. -/

namespace ZigDecl

open Generation
open Output (Sink File)

namespace Generation

variable {c : Context}

theorem exists_tidied {lineEnding : String} (h : lineEnding ≠ "") (file : File) :
    ∃ done, tidied lineEnding file = .ok done := by
  obtain ⟨text, htext⟩ := Output.exists_tidy h file.text
  exact ⟨{ file with text }, by rw [tidied, htext]⟩

theorem exists_lineEnding {v : Value} (h : Config.isLineEnding v = true) :
    ∃ lineEnding, v = .str lineEnding ∧ lineEnding ≠ "" := by
  cases v with
  | str s =>
    refine ⟨s, rfl, ?_⟩
    rintro rfl
    cases h
  | _ => cases h

/-- What a sink holds can be tidied. -/
theorem exists_finishedFiles {v : Value} (h : Config.isLineEnding v = true) {s : Sink}
    {named : List (Option String × List String)} (hs : s.FinishedWith named) :
    ∃ files, finishedFiles s v = .ok files := by
  obtain ⟨lineEnding, rfl, hne⟩ := exists_lineEnding h
  obtain ⟨files, hfiles⟩ := exists_mapM_ok fun file _ => exists_tidied hne file
  exact ⟨files, by rw [finishedFiles, hs lineEnding, mapError_ok, ok_bind, hfiles]⟩

/-- Files that hold one declaration each have the names that belong to the declarations. -/
theorem map_name_eq {ds : List (String × Declaration)} {files : List File}
    (h : List.Forall₂ (HoldsOne c) ds files) :
    files.map (·.name) = ds.map fun e => c.names.fileName? e.1 := by
  induction h with
  | nil => rfl
  | cons hone _ ih =>
    obtain ⟨name, _, hof, hholds⟩ := hone
    rw [List.map_cons, List.map_cons, ih, hholds.name_eq, hof.fileName]

end Generation

namespace Generator

variable {gen : Generator} {g : TypeGraph} {names : Names}

/-- Where nothing is missing, an emission succeeds, be it into one stream or not. -/
theorem exists_emission (hc : (gen.context g names).Ready) :
    ∃ done named, (gen.emission (gen.context g names)
        (.new gen.config.splitFiles.isTruthy Names.fileExtension)).result = .ok done ∧
      done.1.FinishedWith named := by
  obtain ⟨ds, hds, _⟩ := exists_declarations hc.wellFormed hc.names
  rw [emission]
  cases hsplit : gen.config.splitFiles.isTruthy with
  | false =>
    obtain ⟨done, hrun⟩ := hc.exists_emitSingle Names.fileExtension
    obtain ⟨parts, _, hs⟩ := hc.parts_of_emitSingle hds hrun
    exact ⟨done, _, hrun, hs⟩
  | true =>
    obtain ⟨done, hrun⟩ := hc.exists_emitSplit Names.fileExtension
    obtain ⟨files, _, hs⟩ := hc.files_of_emitSplit hds hrun
    exact ⟨done, _, hrun, hs⟩

/-- Where nothing is missing, a run succeeds. -/
theorem exists_run (hnames : (Names.resolve g).result = .ok names)
    (hc : (gen.context g names).Ready)
    (hending : Config.isLineEnding gen.config.lineEnding = true) :
    ∃ files warnings,
      (gen.run g).result = .ok (.success files warnings (gen.facts g files)) := by
  obtain ⟨⟨s, warnings⟩, named, hemit, hs⟩ := exists_emission hc
  obtain ⟨files, hfiles⟩ := exists_finishedFiles hending hs
  have htops : g.topLevels ≠ [] := hc.wellFormed.hasTop
  have hgenerate : (gen.generateWith gen.emission g).result = .ok (files, warnings) := by
    rw [generateWith, if_neg (by simp [htops])]
    simp only [Logged.result_bind, Logged.result_mapError, Logged.result_liftM, Logged.result_pure,
      hnames, mapError_ok, ok_bind, hemit, hfiles]
  refine ⟨files, g.warnings ++ warnings, ?_⟩
  rw [run, runWith, hgenerate]
  rfl

/-- A graph that was read from a document with texts has all that is needed. -/
theorem exists_ready {document : Value} (hg : TypeGraph.ofDocument document = .ok g)
    (htexts : documentHasTexts document = true) (hvalid : gen.config.IsValid)
    (hany : ∃ s, gen.options.anyType = .str s) :
    ∃ names, (Names.resolve g).result = .ok names ∧ (gen.context g names).Ready := by
  have hw := TypeGraph.wellFormed_of_ofDocument hg
  have ht := TypeGraph.hasTexts_of_ofDocument htexts hg
  obtain ⟨names, hnames, hresolved⟩ := Names.exists_resolve hw
    (Names.nameable_of_hasTextNames (ht.hasTextNames hw.closed))
  exact ⟨names, hnames, ⟨hw, hresolved⟩, ht.hasTextDescriptions, hany, hvalid.2.1⟩

/-- Every run of an accepted configuration on the graph of an accepted document succeeds: with one
file, which has no name and holds all declarations, or with one file for each declaration, all of
which have names of their own. -/
theorem exists_success {document : Value} (hg : TypeGraph.ofDocument document = .ok g)
    (htexts : documentHasTexts document = true) {defaults : Config.Defaults} {d : Directory}
    {language : String} {overrides file : Value} {config : Config}
    (hconfig : Config.load defaults d language overrides file = .ok config)
    (hgen : ofConfig config = .ok gen) (hany : ∃ s, gen.options.anyType = .str s) :
    ∃ names ds files warnings, (Names.resolve g).result = .ok names ∧
      Ordered (gen.context g names) ds ∧
      (gen.run g).result = .ok (.success files warnings (gen.facts g files)) ∧
      (config.splitFiles.isTruthy = false → ∃ all, files = [all] ∧ all.name = none ∧
        HoldsAll (gen.context g names) ds all) ∧
      (config.splitFiles.isTruthy = true →
        files.map (·.name) = ds.map (fun e => names.fileName? e.1) ∧
        (files.map (·.name)).Nodup ∧
        List.Forall₂ (HoldsOne (gen.context g names)) ds files) := by
  obtain ⟨rfl, -⟩ := ofConfig_eq_ok_iff.mp hgen
  have hvalid := Config.isValid_of_load hconfig
  obtain ⟨names, hnames, hc⟩ := exists_ready hg htexts hvalid hany
  obtain ⟨files, warnings, hrun⟩ := exists_run hnames hc hvalid.1
  obtain ⟨other, ds, hother, hordered, hsingle, hsplit⟩ := files_of_run hc.wellFormed hrun
  obtain rfl : other = names := Except.ok.inj (hother.symm.trans hnames)
  refine ⟨other, ds, files, warnings, hnames, hordered, hrun, fun h => ?_, fun h => ?_⟩
  · obtain ⟨all, hfiles, hall⟩ := hsingle h
    obtain ⟨_, _, hholds⟩ := id hall
    exact ⟨all, hfiles, hholds.name_eq, hall⟩
  · have hfiles := map_name_eq (hsplit h)
    exact ⟨hfiles, hfiles ▸ nodup_fileNames hc.toNamed hordered, hsplit h⟩

/-- A record that refers to itself through an undeclared union and to a declared union, and two
top-levels with one root. -/
def sharedDocument : Value := .obj [
  ("types", .obj [
    ("Node", .obj [("kind", .str "class"), ("name", .str "node"), ("properties", .arr [
      .obj [("name", .str "next"), ("type", .obj [("kind", .str "union"),
        ("members", .arr [.obj [("$ref", .str "Node")], .str "null"])])],
      .obj [("name", .str "data"), ("type", .obj [("$ref", .str "Data")]),
        ("description", .str "what it holds")]])]),
    ("Data", .obj [("kind", .str "union"), ("members", .arr [.str "string",
      .obj [("kind", .str "array"), ("items", .obj [("$ref", .str "Node")])]])])]),
  ("top_levels", .obj [
    ("List", .obj [("$ref", .str "Node")]),
    ("Again", .obj [("$ref", .str "Node")])])]

theorem exists_sharedGraph : ∃ g, TypeGraph.ofDocument sharedDocument = .ok g :=
  exists_of_isOk (by decide +kernel)

theorem exists_success_shared : ∃ g gen names ds files warnings,
    TypeGraph.ofDocument sharedDocument = .ok g ∧
    Config.load Config.languageDefaults .empty "zig" (.obj [("split_files", .bool true)]) .null =
      .ok gen.config ∧
    ofConfig gen.config = .ok gen ∧ gen.options.anyType = .str "std.json.Value" ∧
    Ordered (gen.context g names) ds ∧
    (gen.run g).result = .ok (.success files warnings (gen.facts g files)) ∧
    List.Forall₂ (HoldsOne (gen.context g names)) ds files := by
  obtain ⟨g, hg⟩ := exists_sharedGraph
  let config : Config :=
    ⟨.bool true, .bool true, .null, .bool true, .str "\n", .obj [("int_type", .str "i64"),
      ("float_type", .str "f64"), ("string_type", .str "[]u8"),
      ("any_type", .str "std.json.Value")]⟩
  let gen : Generator :=
    ⟨config, ⟨.bool true, "i64", "f64", "[]u8", .str "std.json.Value"⟩⟩
  have hconfig : Config.load Config.languageDefaults .empty "zig"
      (.obj [("split_files", .bool true)]) .null = .ok config := by rfl
  have hgen : ofConfig config = .ok gen := by rfl
  obtain ⟨names, ds, files, warnings, _, hordered, hrun, _, hsplit⟩ :=
    exists_success hg (by with_unfolding_all rfl) hconfig hgen ⟨_, rfl⟩
  exact ⟨g, gen, names, ds, files, warnings, hg, hconfig, hgen, rfl, hordered, hrun,
    (hsplit rfl).2.2⟩

end Generator

end ZigDecl
