import ZigDecl.Proofs.Generation.ReadBack
import ZigDecl.Proofs.Generation.Rendering
import ZigDecl.Proofs.Generation.Solid

/-! # Splitting does not change the code

Main statement: a run into one stream and a run into one file a declaration are made of the same
preamble and the same declarations, with one empty line in front of each, and collect the same
warnings; if one of them fails, so does the other, and for the same reason. -/

namespace ZigDecl

open Generation
open Output (Sink Buffer File tidyText block spaced EndsInLine IsBlock)
open Text (IsSolid IsEnding)

namespace Generation

/-- The header and the prelude as they stand in front of every file. -/
def preamble (lineEnding header : String) : String :=
  tidyText lineEnding (Buffer.ofParts [header, Zig.Layout.prelude]).charLines

/-- The imports as a part of a file, if there are any. -/
def importParts (imports : List (String × String)) : List String :=
  if imports.isEmpty then [] else [Zig.Layout.imports imports]

/-- A declaration in the output: the file for it, the block of what is imported there, if there is
one, and the declaration itself. -/
structure Piece where
  file : String
  imports : List String
  body : String

/-- What is made of all declarations, and the warnings that came up. -/
structure Rendering where
  preamble : String
  pieces : List Piece
  warnings : List String

namespace Rendering

/-- The preamble and all declarations in one stream. -/
def inStream (r : Rendering) (lineEnding : String) : List File :=
  [⟨none, spaced lineEnding r.preamble (r.pieces.map (·.body))⟩]

/-- A file for each declaration, with the preamble and the imports in front of it. -/
def inFiles (r : Rendering) (lineEnding : String) : List File :=
  r.pieces.map fun p => ⟨some p.file, spaced lineEnding r.preamble (p.imports ++ [p.body])⟩

/-- One stream, or a file for each declaration. -/
def files (r : Rendering) (isSplit : Bool) (lineEnding : String) : List File :=
  if isSplit then r.inFiles lineEnding else r.inStream lineEnding

end Rendering

/-- A piece holds a declaration and what is imported for it, as blocks. -/
structure PieceOf (c : Context) (lineEnding : String) (e : String × Declaration) (p : Piece) :
    Prop where
  fileName : c.names.fileName? e.1 = some p.file
  imports : ∃ items, c.importsOf e.2 = .ok items ∧
    p.imports = (importParts items).map (block lineEnding)
  body : ∃ es text, Declares c e.1 e.2 es text ∧ p.body = block lineEnding text
  areBlocks : ∀ b ∈ p.imports ++ [p.body], IsBlock lineEnding b

/-- A rendering holds header and prelude, and a piece for every declaration. -/
structure Renders (c : Context) (lineEnding : String) (ds : List (String × Declaration))
    (r : Rendering) : Prop where
  preamble : ∃ header, c.header = .ok header ∧ r.preamble = preamble lineEnding header
  endsInLine : EndsInLine lineEnding r.preamble
  pieces : List.Forall₂ (PieceOf c lineEnding) ds r.pieces

variable {c : Context} {lineEnding : String}

/-! ## The finished text of solid parts -/

theorem isSolid_of_mem_importParts {imports : List (String × String)} :
    ∀ text ∈ importParts imports, IsSolid text := by
  intro text htext
  rw [importParts] at htext
  split at htext
  · cases htext
  · next hne =>
    rw [List.mem_singleton.mp htext]
    exact Zig.Layout.isSolid_imports (by simpa using hne)

/-- What is finished behind the preamble is the parts as blocks. -/
theorem finishedFiles_eq (hsep : IsEnding lineEnding.toList) {header : String} {s : Sink}
    {named : List (Option String × List String)}
    (hs : s.FinishedWith (named.map fun e => (e.1, [header, Zig.Layout.prelude] ++ e.2)))
    (hsolid : ∀ e ∈ named, ∀ text ∈ e.2, IsSolid text) :
    finishedFiles s (.str lineEnding) = .ok (named.map fun e =>
      ⟨e.1, spaced lineEnding (preamble lineEnding header) (e.2.map (block lineEnding))⟩) := by
  have hends := Buffer.endsFull_ofParts [header] Zig.Layout.isSolid_prelude
  rw [finishedFiles, hs lineEnding, mapError_ok, ok_bind, List.map_map]
  refine mapM_map_ok fun e he => ?_
  have htidy : Output.tidy? lineEnding
      ((Buffer.ofParts ([header, Zig.Layout.prelude] ++ e.2)).text lineEnding) = some
        (spaced lineEnding (preamble lineEnding header) (e.2.map (block lineEnding))) :=
    Output.tidy?_ofParts hsep hends (hsolid e he)
  simp only [Function.comp_apply, tidied, htidy]

/-! ## What a declaration becomes -/

theorem isSolid_of_declares {ds : List (String × Declaration)} {rs : List Rendered}
    (h : List.Forall₂ (fun e r => ∃ es, Declares c e.1 e.2 es r.text) ds rs) :
    ∀ r ∈ rs, IsSolid r.text := by
  intro r hr
  obtain ⟨_, _, _, hdecl⟩ := forall_mem_of_forall₂ h r hr
  exact hdecl.isSolid

/-- What a declaration becomes that is rendered for a target. -/
def Target.piece (lineEnding : String) (p : Target) (r : Rendered) : Piece where
  file := p.file
  imports := (importParts p.imports).map (block lineEnding)
  body := block lineEnding r.text

/-- What renderings become that are made for targets. -/
def finished (lineEnding header : String) (targets : List Target) (rs : List Rendered) :
    Rendering where
  preamble := preamble lineEnding header
  pieces := (targets.zip rs).map fun e => e.1.piece lineEnding e.2
  warnings := warningsAfter [] rs

theorem pieceOf_piece {e : String × Declaration} {p : Target} {r : Rendered} (hp : TargetOf c e p)
    (hr : ∃ es, Declares c e.1 e.2 es r.text) : PieceOf c lineEnding e (p.piece lineEnding r) := by
  obtain ⟨es, hdecl⟩ := hr
  refine ⟨hp.fileName, ⟨p.imports, hp.imports, rfl⟩, ⟨es, r.text, hdecl, rfl⟩, fun b hb => ?_⟩
  rcases List.mem_append.mp hb with hb | hb
  · obtain ⟨text, htext, rfl⟩ := List.mem_map.mp hb
    exact Output.isBlock_block lineEnding (isSolid_of_mem_importParts text htext)
  · rw [List.mem_singleton.mp hb]
    exact Output.isBlock_block lineEnding hdecl.isSolid

theorem renders_finished {header : String} (hheader : c.header = .ok header)
    {ds : List (String × Declaration)} {targets : List Target} {rs : List Rendered}
    (htargets : List.Forall₂ (TargetOf c) ds targets)
    (hrs : List.Forall₂ (fun e r => ∃ es, Declares c e.1 e.2 es r.text) ds rs) :
    Renders c lineEnding ds (finished lineEnding header targets rs) where
  preamble := ⟨header, hheader, rfl⟩
  endsInLine := Output.endsInLine_tidyText lineEnding
    (Buffer.endsFull_ofParts [header] Zig.Layout.isSolid_prelude)
  pieces := forall₂_zip (fun _ _ _ => pieceOf_piece) htargets hrs

/-- The files for targets: `part` is what becomes of the text of an import or a declaration, and
`laid` puts the parts of a file together. -/
def filesOf {β : Type} (part : String → β) (laid : List β → String) (targets : List Target)
    (isSplit : Bool) (bodies : List (β × List String)) : List File :=
  if isSplit then
    (targets.zip bodies).map fun e =>
      ⟨some e.1.file, laid ((importParts e.1.imports).map part ++ [e.2.1])⟩
  else [⟨none, laid ((targets.zip bodies).map fun e => e.2.1)⟩]

theorem filesOf_congr {β : Type} {part part' : String → β} (laid : List β → String)
    {targets : List Target}
    (h : ∀ t ∈ targets, ∀ text ∈ importParts t.imports, part text = part' text)
    (isSplit : Bool) (bodies : List (β × List String)) :
    filesOf part laid targets isSplit bodies = filesOf part' laid targets isSplit bodies := by
  rw [filesOf, filesOf]
  split
  · refine List.map_congr_left fun e he => ?_
    rw [List.map_congr_left (h e.1 (List.of_mem_zip he).1)]
  · rfl

/-- A change of finished texts that is one of their parts changes the parts of the files. -/
theorem map_files_finished {β : Type} (change : String → String) (part : String → β)
    (laid : List β → String) {header : String} (h : ∀ texts : List String,
      change (spaced lineEnding (preamble lineEnding header) (texts.map (block lineEnding))) =
        laid (texts.map part))
    (targets : List Target) (rs : List Rendered) (isSplit : Bool) :
    ((finished lineEnding header targets rs).files isSplit lineEnding).map
        (fun file => { file with text := change file.text }) =
      filesOf part laid targets isSplit (rs.map fun r => (part r.text, r.warnings)) := by
  cases isSplit with
  | false =>
    have hbodies : (finished lineEnding header targets rs).pieces.map (·.body) =
        ((targets.zip rs).map fun e => e.2.text).map (block lineEnding) := by
      simp only [finished, List.map_map]
      rfl
    have htext := h ((targets.zip rs).map fun e => e.2.text)
    rw [← hbodies, List.map_map] at htext
    rw [filesOf, if_neg (by decide), List.zip_map_right, List.map_map]
    exact congrArg (fun text => [(⟨none, text⟩ : File)]) htext
  | true =>
    rw [filesOf, if_pos rfl, List.zip_map_right, List.map_map]
    show List.map _ (List.map _ (List.map _ _)) = _
    rw [List.map_map, List.map_map]
    refine List.map_congr_left fun e _ => ?_
    have htext := h (importParts e.1.imports ++ [e.2.text])
    rw [List.map_append, List.map_append] at htext
    exact congrArg (File.mk (some e.1.file)) htext

theorem files_finished {β : Type} (part : String → β) (laid : List β → String) {header : String}
    (h : ∀ texts : List String,
      spaced lineEnding (preamble lineEnding header) (texts.map (block lineEnding)) =
        laid (texts.map part))
    (targets : List Target) (rs : List Rendered) (isSplit : Bool) :
    (finished lineEnding header targets rs).files isSplit lineEnding =
      filesOf part laid targets isSplit (rs.map fun r => (part r.text, r.warnings)) :=
  (List.map_id _).symm.trans (map_files_finished id part laid h targets rs isSplit)

/-- Renderings that agree in part with their warnings lead to the same warnings. -/
theorem warnings_finished_congr {β : Type} {part part' : Rendered → β} {rs rs' : List Rendered}
    (h : rs.map (fun r => (part r, r.warnings)) = rs'.map fun r => (part' r, r.warnings))
    (lineEnding header : String) (targets : List Target) :
    (finished lineEnding header targets rs).warnings =
      (finished lineEnding header targets rs').warnings := by
  have hwarnings (rs : List Rendered) : (finished lineEnding header targets rs).warnings =
      (rs.map (·.warnings)).foldl addWarnings [] := by
    rw [List.foldl_map]
    rfl
  have hsame := congrArg (List.map Prod.snd) h
  rw [List.map_map, List.map_map] at hsame
  rw [hwarnings, hwarnings]
  exact congrArg (List.foldl addWarnings []) hsame

/-! ## Both runs -/

section Runs

variable {header : String} {ds : List (String × Declaration)} {targets : List Target}
  {rs : List Rendered}

theorem finishedFiles_streamed (hsep : IsEnding lineEnding.toList) (extension : String)
    (hlen : rs.length ≤ targets.length) (hsolid : ∀ r ∈ rs, IsSolid r.text) :
    finishedFiles (Context.streamed extension ([header, Zig.Layout.prelude] ++ rs.map (·.text)))
      (.str lineEnding) = .ok ((finished lineEnding header targets rs).inStream lineEnding) := by
  have hbodies : (finished lineEnding header targets rs).pieces.map (·.body) =
      (rs.map (·.text)).map (block lineEnding) := by
    calc (finished lineEnding header targets rs).pieces.map (·.body)
        = ((targets.zip rs).map Prod.snd).map fun r => block lineEnding r.text := by
          rw [finished, List.map_map, List.map_map]
          rfl
      _ = (rs.map (·.text)).map (block lineEnding) := by
          rw [List.map_snd_zip hlen, List.map_map]
          rfl
  have hall : ∀ e ∈ [((none : Option String), rs.map (·.text))], ∀ text ∈ e.2, IsSolid text := by
    simpa using hsolid
  have hs := Context.finishedWith_streamed extension
    ([header, Zig.Layout.prelude] ++ rs.map (·.text))
  have hfinished := finishedFiles_eq hsep hs hall
  rw [hfinished, Rendering.inStream, hbodies]
  rfl

theorem finishedFiles_filed (hsep : IsEnding lineEnding.toList) (extension : String)
    (hsolid : ∀ r ∈ rs, IsSolid r.text) :
    finishedFiles
        (Context.filed extension ((targets.zip rs).map fun e => e.1.filled header e.2))
        (.str lineEnding) =
      .ok ((finished lineEnding header targets rs).inFiles lineEnding) := by
  have hs := Context.finishedWith_filed extension
    ((targets.zip rs).map fun e => e.1.filled header e.2)
  have hparts : ((targets.zip rs).map fun e => e.1.filled header e.2).map
      (fun file => (some file.1, file.2)) =
      ((targets.zip rs).map fun e => (some e.1.file, importParts e.1.imports ++ [e.2.text])).map
        fun e => (e.1, [header, Zig.Layout.prelude] ++ e.2) := by
    rw [List.map_map, List.map_map]
    refine List.map_congr_left fun e _ => ?_
    simp only [Function.comp_apply, Target.filled, partsOf, List.append_assoc]
    rfl
  rw [hparts] at hs
  have hall : ∀ e ∈ (targets.zip rs).map fun e =>
      (some e.1.file, importParts e.1.imports ++ [e.2.text]), ∀ text ∈ e.2, IsSolid text := by
    intro e he text htext
    obtain ⟨⟨p, r⟩, hmem, rfl⟩ := List.mem_map.mp he
    rcases List.mem_append.mp htext with htext | htext
    · exact isSolid_of_mem_importParts text htext
    · rw [List.mem_singleton.mp htext]
      exact hsolid r (List.of_mem_zip hmem).2
  rw [finishedFiles_eq hsep hs hall, Rendering.inFiles, finished, List.map_map, List.map_map]
  refine congrArg Except.ok (List.map_congr_left fun e _ => ?_)
  simp [Target.piece, List.map_append]

end Runs

end Generation

namespace Generator

variable {gen : Generator} {g : TypeGraph} {names : Names}

theorem result_generate (htops : g.topLevels ≠ []) (hnames : (Names.resolve g).result = .ok names) :
    (gen.generate g).result = do
      let done ← (gen.emission (gen.context g names)
        (.new gen.config.splitFiles.isTruthy Names.fileExtension)).result
      let files ← finishedFiles done.1 gen.config.lineEnding
      return (files, done.2) := by
  rw [generate, generateWith, if_neg (by simp [htops])]
  simp only [Logged.result_bind, Logged.result_mapError, Logged.result_liftM, Logged.result_pure,
    hnames, mapError_ok, ok_bind]
  rfl

section Renderings

variable {lineEnding header : String} {ds : List (String × Declaration)} {targets : List Target}
variable (hc : (gen.context g names).Named) (hnames : (Names.resolve g).result = .ok names)
  (hsep : IsEnding lineEnding.toList) (hending : gen.config.lineEnding = .str lineEnding)
  (hheader : (gen.context g names).header = .ok header)
  (hds : (gen.context g names).declarations = .ok ds)
include hc hnames hsep hending hheader hds

/-- A run into one stream finishes what is rendered. -/
theorem result_generate_stream (hsplit : gen.config.splitFiles.isTruthy = false)
    (hlen : targets.length = ds.length) :
    (gen.generate g).result =
      (fun r => (r.inStream lineEnding, r.warnings)) <$>
        finished lineEnding header targets <$> (gen.context g names).renderAll ds := by
  obtain ⟨label, hlabel⟩ := hc.exists_streamName
  have htops : g.topLevels ≠ [] := hc.wellFormed.hasTop
  rw [result_generate htops hnames, emission, hsplit, hending]
  show ((gen.context g names).emitSingle _).result >>= _ = _
  rw [Context.result_emitSingle hlabel hds, hheader, ok_bind]
  cases hrs : (gen.context g names).renderAll ds with
  | error e => rfl
  | ok rs =>
    have hdecl := hc.declares_of_renderAll (hc.ordered hds).named hrs
    have hcount : rs.length ≤ targets.length := (hdecl.length_eq.symm.trans hlen.symm).le
    show (finishedFiles _ _ >>= fun files => _) = _
    rw [finishedFiles_streamed hsep _ hcount (isSolid_of_declares hdecl)]
    rfl

/-- A run into files finishes what is rendered. -/
theorem result_generate_files (hsplit : gen.config.splitFiles.isTruthy = true)
    (htargets : List.Forall₂ (TargetOf (gen.context g names)) ds targets) :
    (gen.generate g).result =
      (fun r => (r.inFiles lineEnding, r.warnings)) <$>
        finished lineEnding header targets <$> (gen.context g names).renderAll ds := by
  have htops : g.topLevels ≠ [] := hc.wellFormed.hasTop
  rw [result_generate htops hnames, emission, hsplit, hending]
  show ((gen.context g names).emitSplit _).result >>= _ = _
  rw [Context.result_emitSplit hheader hds htargets
    (nodup_of_targetOf hc (hc.ordered hds) htargets)]
  cases hrs : (gen.context g names).renderAll ds with
  | error e => rfl
  | ok rs =>
    have hdecl := hc.declares_of_renderAll (hc.ordered hds).named hrs
    rw [map_ok, ok_bind, finishedFiles_filed hsep _ (isSolid_of_declares hdecl)]
    rfl

/-- A run finishes what is rendered, in one stream or in files as the configuration says. -/
theorem result_generate_rendering
    (htargets : List.Forall₂ (TargetOf (gen.context g names)) ds targets) :
    (gen.generate g).result =
      (fun r => (r.files gen.config.splitFiles.isTruthy lineEnding, r.warnings)) <$>
        finished lineEnding header targets <$> (gen.context g names).renderAll ds := by
  cases hsplit : gen.config.splitFiles.isTruthy with
  | false =>
    exact result_generate_stream hc hnames hsep hending hheader hds hsplit
      htargets.length_eq.symm
  | true => exact result_generate_files hc hnames hsep hending hheader hds hsplit htargets

end Renderings

/-- Whatever is generated, a run into one stream and a run into files put the same rendering
together and have the same warnings, or fail for the same reason; neither fails if all descriptions
and the type of unknown values are texts. -/
theorem exists_rendering {document : Value} (hg : TypeGraph.ofDocument document = .ok g)
    (ht : g.HasTextNames) {config : Config} (hvalid : config.IsValid) {single split : Generator}
    (hsingle : ofConfig { config with splitFiles := .bool false } = .ok single)
    (hsplit : ofConfig { config with splitFiles := .bool true } = .ok split) :
    ∃ names ds lineEnding, ∃ rendering : Except Failure Rendering,
      (Names.resolve g).result = .ok names ∧ Ordered (split.context g names) ds ∧
      config.lineEnding = .str lineEnding ∧
      (single.generate g).result =
        (fun r => (r.inStream lineEnding, r.warnings)) <$> rendering ∧
      (split.generate g).result =
        (fun r => (r.inFiles lineEnding, r.warnings)) <$> rendering ∧
      (∀ r, rendering = .ok r → Renders (split.context g names) lineEnding ds r) ∧
      (g.HasTextDescriptions → (∃ s, split.options.anyType = .str s) →
        ∃ r, rendering = .ok r) := by
  have hw := TypeGraph.wellFormed_of_ofDocument hg
  obtain ⟨names, hnames, hresolved⟩ := Names.exists_resolve hw (Names.nameable_of_hasTextNames ht)
  obtain ⟨lineEnding, hending, _⟩ := exists_lineEnding hvalid.1
  have hsep : IsEnding lineEnding.toList := isEnding_of_isLineEnding (hending ▸ hvalid.1)
  obtain ⟨hsingleConfig, hsingleOptions⟩ := ofConfig_eq_ok_iff.mp hsingle
  obtain ⟨hsplitConfig, hsplitOptions⟩ := ofConfig_eq_ok_iff.mp hsplit
  -- The options do not depend on whether the output is split.
  have hoptions : single.options = split.options :=
    Except.ok.inj (hsingleOptions.symm.trans hsplitOptions)
  have hsame : single.context g names = (split.context g names).withSplit (.bool false) := by
    rw [context, context, hoptions, hsingleConfig, hsplitConfig]
    rfl
  have hcomments : Config.areComments (split.context g names).config.leadingComments = true := by
    rw [context, hsplitConfig]
    exact hvalid.2.1
  have hc : (split.context g names).Named := ⟨hw, hresolved⟩
  have hc' : (single.context g names).Named := ⟨hw, hresolved⟩
  obtain ⟨header, hheader⟩ := hc.exists_header hcomments
  obtain ⟨ds, hds, hordered⟩ := exists_declarations hc.wellFormed hc.names
  obtain ⟨targets, htargets⟩ := exists_forall₂ fun e he => hc.exists_target (hordered.named e he)
  refine ⟨names, ds, lineEnding,
    finished lineEnding header targets <$> (split.context g names).renderAll ds, hnames, hordered,
    hending, ?_, ?_, ?_, ?_⟩
  · have hending' : single.config.lineEnding = .str lineEnding := by
      rw [hsingleConfig]
      exact hending
    have hunsplit : single.config.splitFiles.isTruthy = false := by
      rw [hsingleConfig]
      rfl
    have hheader' : (single.context g names).header = .ok header := hsame ▸ hheader
    have hds' : (single.context g names).declarations = .ok ds := hsame ▸ hds
    have hstream := result_generate_stream hc' hnames hsep hending' hheader' hds' hunsplit
      htargets.length_eq.symm
    rw [hsame, Context.renderAll_withSplit] at hstream
    exact hstream
  · exact result_generate_files hc hnames hsep
      (by rw [hsplitConfig]; exact hending) hheader hds
      (by rw [hsplitConfig]; rfl) htargets
  · intro r hr
    obtain ⟨rs, hrs, rfl⟩ := exists_of_map_eq_ok hr
    exact renders_finished hheader htargets (hc.declares_of_renderAll hordered.named hrs)
  · intro hdescriptions hany
    have hready : (split.context g names).Ready := ⟨hc, hdescriptions, hany, hcomments⟩
    obtain ⟨rs, hrs⟩ := hready.exists_renderAll hordered.named
    exact ⟨finished lineEnding header targets rs, by rw [hrs, map_ok]⟩

/-- Both runs on a graph with two top-levels of one root and a declared union. -/
theorem exists_rendering_shared : ∃ g single split, ∃ r : Rendering,
    TypeGraph.ofDocument sharedDocument = .ok g ∧
    ofConfig { Config.default with splitFiles := .bool false } = .ok single ∧
    ofConfig { Config.default with splitFiles := .bool true } = .ok split ∧
    (single.generate g).result = .ok (r.inStream "\n", r.warnings) ∧
    (split.generate g).result = .ok (r.inFiles "\n", r.warnings) := by
  obtain ⟨g, hg⟩ := exists_sharedGraph
  have hw := TypeGraph.wellFormed_of_ofDocument hg
  have ht := TypeGraph.hasTexts_of_ofDocument (by with_unfolding_all rfl) hg
  have hvalid : (Config.default : Config).IsValid := by
    unfold Config.IsValid
    decide
  let single : Generator := ⟨{ Config.default with splitFiles := .bool false }, .default⟩
  let split : Generator := ⟨{ Config.default with splitFiles := .bool true }, .default⟩
  have hsingle : ofConfig { Config.default with splitFiles := .bool false } = .ok single := by rfl
  have hsplit : ofConfig { Config.default with splitFiles := .bool true } = .ok split := by rfl
  obtain ⟨_, _, lineEnding, rendering, _, _, hending, hstream, hfiles, _, hok⟩ :=
    exists_rendering hg (ht.hasTextNames hw.closed) hvalid hsingle hsplit
  obtain rfl : "\n" = lineEnding := Value.str.inj hending
  obtain ⟨r, rfl⟩ := hok ht.hasTextDescriptions ⟨_, rfl⟩
  exact ⟨g, single, split, r, hg, hsingle, hsplit, hstream, hfiles⟩

end Generator

end ZigDecl
