import ZigDecl.Generation.Result
import ZigDecl.Proofs.Generation.Imports
import ZigDecl.Proofs.Output.Parts

/-! # An emission writes what is rendered

Both ways of emitting go through the declarations in the same order and stop at the first that
cannot be rendered. Main statements: what either of them leaves in a sink, and the warnings that it
collects, are made of the header and the renderings of the declarations alone, and these do not
depend on whether the output is split. -/

namespace ZigDecl.Generation

open Output (Sink Buffer)

variable {c : Context}

/-! ## The renderings of all declarations -/

namespace Context

/-- The declarations rendered one after the other, as long as each of them can be. -/
def renderAll (c : Context) (ds : List (String × Declaration)) : Except Failure (List Rendered) :=
  ds.mapM fun e => (c.render e.1 e.2).result

theorem renderAll_cons (c : Context) (e : String × Declaration) (ds : List (String × Declaration)) :
    c.renderAll (e :: ds) = do
      let r ← (c.render e.1 e.2).result
      let rs ← c.renderAll ds
      return r :: rs := List.mapM_cons

/-- The context with another configuration. -/
def withConfig (c : Context) (config : Config) : Context := { c with config }

section WithConfig

variable (c : Context) (config : Config) (h : config.addComments = c.config.addComments)
include h

theorem descriptionLines_withConfig (description : Value) :
    (c.withConfig config).descriptionLines description = c.descriptionLines description := by
  unfold descriptionLines
  rw [← h]
  rfl

theorem fieldSlot_withConfig (owner : String) (p : Property) (name : String) :
    (c.withConfig config).fieldSlot owner p name = c.fieldSlot owner p name := by
  simp only [fieldSlot, descriptionLines_withConfig c config h]
  rfl

theorem fieldSlots_withConfig (owner : String) (fields : List (Property × String)) :
    (c.withConfig config).fieldSlots owner fields = c.fieldSlots owner fields := by
  induction fields with
  | nil => rfl
  | cons f fields ih => simp only [fieldSlots, fieldSlot_withConfig c config h, ih]

omit h in
theorem armSlots_withConfig (owner : String) (arms : List (Ty × String)) :
    (c.withConfig config).armSlots owner arms = c.armSlots owner arms := by
  induction arms with
  | nil => rfl
  | cons a arms ih => rw [armSlots, armSlots, ih]; rfl

theorem renderRecord_withConfig (id : Nat) (ps : List Property) :
    (c.withConfig config).renderRecord id ps = c.renderRecord id ps := by
  simp only [renderRecord, fieldSlots_withConfig c config h, descriptionLines_withConfig c config h]
  rfl

theorem renderEnum_withConfig (id : Nat) (cases : List String) :
    (c.withConfig config).renderEnum id cases = c.renderEnum id cases := by
  simp only [renderEnum, descriptionLines_withConfig c config h]
  rfl

theorem renderUnion_withConfig (id : Nat) (ms : List Ty) :
    (c.withConfig config).renderUnion id ms = c.renderUnion id ms := by
  simp only [renderUnion, armSlots_withConfig, descriptionLines_withConfig c config h]
  rfl

/-- Of the configuration, a declaration shows only whether it has comments. -/
theorem render_withConfig (name : String) (d : Declaration) :
    (c.withConfig config).render name d = c.render name d := by
  cases d with
  | typeAlias top root => rfl
  | type id =>
    have hgraph : (c.withConfig config).graph = c.graph := rfl
    simp only [render, hgraph, renderRecord_withConfig c config h, renderEnum_withConfig c config h,
      renderUnion_withConfig c config h]

theorem renderAll_withConfig (ds : List (String × Declaration)) :
    (c.withConfig config).renderAll ds = c.renderAll ds := by
  simp only [renderAll, render_withConfig c config h]

end WithConfig

/-- The context with another choice between one stream and split output. -/
def withSplit (c : Context) (split : Value) : Context :=
  { c with config := { c.config with splitFiles := split } }

theorem renderAll_withSplit (c : Context) (split : Value) (ds : List (String × Declaration)) :
    (c.withSplit split).renderAll ds = c.renderAll ds :=
  renderAll_withConfig c { c.config with splitFiles := split } rfl ds

end Context

/-- The warnings of renderings behind those that are there. -/
def warningsAfter (present : List String) (rs : List Rendered) : List String :=
  rs.foldl (fun warnings r => addWarnings warnings r.warnings) present

/-! ## One stream -/

theorem result_sinkStep (x : Except Output.SinkError Sink) :
    (sinkStep x).result = x.mapError .sink := rfl

namespace Context

theorem emitPreamble_eq {header : String} (hheader : c.header = .ok header) (s : Sink) :
    c.emitPreamble s = .ok (s.modify fun b =>
      ((b.emit header).ensureBlankLine).emit Zig.Layout.prelude) := by
  rw [emitPreamble, hheader, ok_bind, renderPrelude, fill_prelude]
  rfl

theorem emitPreamble_error {e : Failure} (hheader : c.header = .error e) (s : Sink) :
    c.emitPreamble s = .error e := by
  rw [emitPreamble, hheader]
  rfl

theorem emitPart_streaming (extension label : String) (parts : List String) (text : String) :
    emitPart (.streaming extension label (.ofParts parts)) text =
      .streaming extension label (.ofParts (parts ++ [text])) := by
  rw [Buffer.ofParts_concat]
  rfl

theorem result_emitAll (c : Context) (extension label : String) :
    ∀ (ds : List (String × Declaration)) (parts warnings : List String),
      (c.emitAll ds (.streaming extension label (.ofParts parts), warnings)).result =
        (fun rs => (.streaming extension label (.ofParts (parts ++ rs.map (·.text))),
          warningsAfter warnings rs)) <$> c.renderAll ds
  | [], parts, warnings => by
    show _ = Except.ok (Sink.streaming extension label (.ofParts (parts ++ [])), warnings)
    rw [List.append_nil]
    rfl
  | (name, d) :: ds, parts, warnings => by
    simp only [emitAll, Logged.result_bind, Logged.result_write, ok_bind, renderAll_cons,
      emitPart_streaming]
    cases (c.render name d).result with
    | error e => rfl
    | ok r =>
      rw [ok_bind, ok_bind, result_emitAll c extension label ds]
      cases c.renderAll ds with
      | error e => rfl
      | ok rs =>
        refine congrArg Except.ok (Prod.ext ?_ rfl)
        exact congrArg (fun all => Sink.streaming extension label (.ofParts all))
          (List.append_assoc parts [r.text] (rs.map (·.text)))

/-- A sink that is closed, with everything in one stream. -/
def streamed (extension : String) (parts : List String) : Sink :=
  ⟨false, extension, .ofParts parts, [], none⟩

theorem finishedWith_streamed (extension : String) (parts : List String) :
    (streamed extension parts).FinishedWith [(none, parts)] := fun _ => rfl

theorem close_streaming (extension label : String) (parts : List String) :
    (Sink.streaming extension label (.ofParts parts)).close = .ok (streamed extension parts) := rfl

theorem result_emitSingle {label : String} (hlabel : c.streamName = .ok label)
    {ds : List (String × Declaration)} (hds : c.declarations = .ok ds) (extension : String) :
    (c.emitSingle (.new false extension)).result = do
      let header ← c.header
      let rs ← c.renderAll ds
      return (streamed extension ([header, Zig.Layout.prelude] ++ rs.map (·.text)),
        warningsAfter [] rs) := by
  simp only [emitSingle, Logged.result_bind, Logged.result_liftM, hlabel, ok_bind, Sink.open_new,
    result_sinkStep, mapError_ok, hds]
  cases hheader : c.header with
  | error e => rw [emitPreamble_error hheader]; rfl
  | ok header =>
    rw [emitPreamble_eq hheader, Sink.modify_streaming, ok_bind, ok_bind]
    show (c.emitAll ds (.streaming extension label
      (.ofParts [header, Zig.Layout.prelude]), [])).result >>= _ = _
    rw [result_emitAll]
    cases c.renderAll ds with
    | error e => rfl
    | ok rs => rw [map_ok, ok_bind, close_streaming, mapError_ok, ok_bind]; rfl

end Context

/-! ## Split output -/

/-- Header, prelude, imports if there are any, and the text of a declaration. -/
def partsOf (header : String) (imports : List (String × String)) (text : String) : List String :=
  [header, Zig.Layout.prelude] ++ (if imports.isEmpty then [] else [Zig.Layout.imports imports]) ++
    [text]

/-- A named buffer with some parts. -/
def bufferOf (file : String × List String) : String × Buffer := (file.1, .ofParts file.2)

/-- Where a declaration goes, and what is imported there. -/
structure Target where
  file : String
  imports : List (String × String)

/-- A target is that of a declaration. -/
structure TargetOf (c : Context) (e : String × Declaration) (t : Target) : Prop where
  fileName : c.names.fileName? e.1 = some t.file
  nonempty : t.file ≠ ""
  imports : c.importsOf e.2 = .ok t.imports

/-- The file of a declaration. -/
def Target.filled (header : String) (t : Target) (r : Rendered) : String × List String :=
  (t.file, partsOf header t.imports r.text)

theorem Context.Named.exists_target (hc : c.Named) {e : String × Declaration}
    (hd : e.2.HasName c e.1) : ∃ t, TargetOf c e t := by
  obtain ⟨file, hfile, hne⟩ := exists_fileName? hc.names hd
  obtain ⟨other, hother⟩ := hd.importedFor hc.names
  obtain ⟨_, hspelled⟩ := exists_spelled hc.founded (leads_of_mem hother)
  obtain ⟨imports, himports, _⟩ := hc.exists_importsOf hd hspelled
  exact ⟨⟨file, imports⟩, hfile, hne, himports⟩

/-- No two declarations have a file of one name. -/
theorem nodup_fileNames (hc : c.Named) {ds : List (String × Declaration)} (h : Ordered c ds) :
    (ds.map fun e => c.names.fileName? e.1).Nodup := by
  have hnames := h.nodup hc.wellFormed hc.names
  refine (hnames.of_map _).map_on fun a ha b hb heq => ?_
  obtain ⟨file, hfile, _⟩ := exists_fileName? hc.names (h.named a ha)
  exact List.inj_on_of_nodup_map hnames ha hb (fileName?_inj hc.names hfile (heq ▸ hfile))

theorem nodup_of_targetOf (hc : c.Named) {ds : List (String × Declaration)} (h : Ordered c ds)
    {targets : List Target} (htargets : List.Forall₂ (TargetOf c) ds targets) :
    (targets.map (·.file)).Nodup := by
  have hfiles : (targets.map (·.file)).map some = ds.map fun e => c.names.fileName? e.1 := by
    clear h
    induction htargets with
    | nil => rfl
    | cons ht _ ih => rw [List.map_cons, List.map_cons, List.map_cons, ih, ht.fileName]
  exact List.Nodup.of_map some (hfiles ▸ nodup_fileNames hc h)

namespace Context

theorem emitPart_writing {s : Sink} (hs : s.IsIdle) (file : String) (parts : List String)
    (text : String) : emitPart (s.writing file (.ofParts parts)) text =
      s.writing file (.ofParts (parts ++ [text])) := by
  rw [Buffer.ofParts_concat]
  exact hs.modify_writing _ file _

theorem emitImports_writing {s : Sink} (hs : s.IsIdle) (file : String)
    (parts : List String) (imports : List (String × String)) :
    emitImports (s.writing file (.ofParts parts)) imports = .ok (s.writing file (.ofParts
      (parts ++ if imports.isEmpty then [] else [Zig.Layout.imports imports]))) := by
  rw [emitImports]
  split
  · rw [List.append_nil]
  · rw [renderImports, fill_imports, ← emitPart_writing hs]
    rfl

theorem emitPreamble_writing {s : Sink} (hs : s.IsIdle) {header : String}
    (hheader : c.header = .ok header) (file : String) :
    c.emitPreamble (s.writing file .empty) =
      .ok (s.writing file (.ofParts [header, Zig.Layout.prelude])) := by
  rw [emitPreamble_eq hheader, hs.modify_writing]
  rfl

theorem result_emitFile {name : String} {d : Declaration} {t : Target}
    (ht : TargetOf c (name, d) t) {s : Sink} (hs : s.IsIdle) (hfree : t.file ∉ s.files.map (·.1))
    (warnings : List String) :
    (c.emitFile name d s warnings).result = do
      let header ← c.header
      let r ← (c.render name d).result
      return (s.withFile t.file (.ofParts (partsOf header t.imports r.text)),
        addWarnings warnings r.warnings) := by
  rw [emitFile, show c.names.fileName? name = some t.file from ht.fileName]
  simp only [Logged.result_bind, Logged.result_liftM, Logged.result_pure, Logged.result_write,
    ok_bind, hs.open_eq name ht.nonempty hfree, result_sinkStep, mapError_ok,
    show c.importsOf d = .ok t.imports from ht.imports]
  cases hheader : c.header with
  | error e => rw [emitPreamble_error hheader]; rfl
  | ok header =>
    simp only [emitPreamble_writing hs hheader, ok_bind, emitImports_writing hs,
      emitPart_writing hs, hs.close_writing, mapError_ok]
    rfl

theorem result_emitFiles {header : String} (hheader : c.header = .ok header)
    {ds : List (String × Declaration)} {targets : List Target}
    (htargets : List.Forall₂ (TargetOf c) ds targets) (hnodup : (targets.map (·.file)).Nodup)
    {s : Sink} (hs : s.IsIdle) (hfree : ∀ t ∈ targets, t.file ∉ s.files.map (·.1))
    (warnings : List String) :
    (c.emitFiles ds (s, warnings)).result =
      (fun rs => ({ s with
          files := s.files ++ (targets.zip rs).map fun e => bufferOf (e.1.filled header e.2) },
        warningsAfter warnings rs)) <$> c.renderAll ds := by
  induction htargets generalizing s warnings with
  | nil =>
    show _ = Except.ok ({ s with files := s.files ++ [] }, warnings)
    rw [List.append_nil]
    rfl
  | @cons e t ds targets ht htargets ih =>
    obtain ⟨hnot, hnodup⟩ := List.nodup_cons.mp hnodup
    rw [emitFiles, Logged.result_bind,
      result_emitFile ht hs (hfree t (by simp)), hheader, ok_bind, renderAll_cons]
    cases (c.render e.1 e.2).result with
    | error e => rfl
    | ok r =>
      -- The file that was just written is that of no later declaration.
      have hrest : ∀ u ∈ targets, u.file ∉ (s.withFile t.file
          (.ofParts (partsOf header t.imports r.text))).files.map (·.1) := by
        intro u hu hmem
        rw [Sink.withFile, List.map_append, List.mem_append] at hmem
        rcases hmem with hmem | hmem
        · exact hfree u (List.mem_cons_of_mem t hu) hmem
        · have heq : u.file = t.file := List.mem_singleton.mp hmem
          exact hnot (List.mem_map.mpr ⟨u, hu, heq⟩)
      show (c.emitFiles ds _).result = _
      rw [ih hnodup (hs.withFile t.file _) hrest, ok_bind]
      cases c.renderAll ds with
      | error e => rfl
      | ok rs =>
        show Except.ok _ = Except.ok _
        simp only [Sink.withFile, List.append_assoc]
        rfl

/-- A sink between two files, with some files that are finished. -/
def filed (extension : String) (files : List (String × List String)) : Sink :=
  { Sink.new true extension with files := files.map bufferOf }

theorem finishedWith_filed (extension : String) (files : List (String × List String)) :
    (filed extension files).FinishedWith (files.map fun file => (some file.1, file.2)) := by
  intro lineEnding
  rw [Sink.IsIdle.finished_eq ⟨rfl, rfl⟩, filed, List.map_map, List.map_map]
  rfl

theorem result_emitSplit {header : String} (hheader : c.header = .ok header)
    {ds : List (String × Declaration)} (hds : c.declarations = .ok ds) {targets : List Target}
    (htargets : List.Forall₂ (TargetOf c) ds targets) (hnodup : (targets.map (·.file)).Nodup)
    (extension : String) :
    (c.emitSplit (.new true extension)).result =
      (fun rs => (filed extension ((targets.zip rs).map fun e => e.1.filled header e.2),
        warningsAfter [] rs)) <$> c.renderAll ds := by
  rw [emitSplit, Logged.result_bind, Logged.result_liftM, hds, ok_bind,
    result_emitFiles hheader htargets hnodup (Sink.isIdle_new extension)
      (fun _ _ => List.not_mem_nil)]
  simp only [filed, List.map_map]
  rfl

end Context

end ZigDecl.Generation
