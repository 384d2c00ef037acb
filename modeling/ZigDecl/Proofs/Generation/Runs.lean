import ZigDecl.Proofs.Generation.Rendering

/-! # What an emission writes

Main statements: an emission into one stream leaves header, prelude and all declarations in order,
and one that splits its output leaves one file a declaration, with what the declaration imports.
Where nothing is missing, both succeed. -/

namespace ZigDecl.Generation

variable {c : Context} {ds : List (String × Declaration)}

/-- The declarations of a context are ordered. -/
theorem Context.Named.ordered (hc : c.Named) (h : c.declarations = .ok ds) : Ordered c ds := by
  obtain ⟨other, hother, hordered⟩ := exists_declarations hc.wellFormed hc.names
  cases hother.symm.trans h
  exact hordered

theorem Context.Named.exists_streamName (hc : c.Named) : ∃ name, c.streamName = .ok name := by
  obtain ⟨top, rest, htops⟩ := List.exists_cons_of_ne_nil hc.wellFormed.hasTop
  rw [streamName, htops]
  exact hc.exists_topLevelName (by simp [htops])

/-- What all declarations are rendered as declares them. -/
theorem Context.Named.declares_of_renderAll (hc : c.Named) (hnamed : ∀ e ∈ ds, e.2.HasName c e.1)
    {rs : List Rendered} (h : c.renderAll ds = .ok rs) :
    List.Forall₂ (fun e r => ∃ es, Declares c e.1 e.2 es r.text) ds rs :=
  ((List.forall₂_and_left _ _).mpr ⟨hnamed, forall₂_of_mapM h⟩).imp fun _ _ h =>
    hc.declares_of_render h.1 h.2

/-! ## What is written -/

/-- Texts declare the declarations of a list one by one. -/
def Texts (c : Context) (ds : List (String × Declaration)) (texts : List String) : Prop :=
  List.Forall₂ (fun e text => ∃ es, Declares c e.1 e.2 es text) ds texts

/-- What one stream consists of: header, prelude and all declarations. -/
def StreamParts (c : Context) (ds : List (String × Declaration)) (parts : List String) : Prop :=
  ∃ header texts, c.header = .ok header ∧ Texts c ds texts ∧
    parts = header :: Zig.Layout.prelude :: texts

/-- The file of a declaration has the name that belongs to it, and consists of the declaration and
what is imported for it. -/
structure FileOf (c : Context) (e : String × Declaration) (file : String × List String) : Prop where
  fileName : c.names.fileName? e.1 = some file.1
  parts : ∃ header imports es text, c.header = .ok header ∧ c.importsOf e.2 = .ok imports ∧
    Declares c e.1 e.2 es text ∧ file.2 = partsOf header imports text

/-- An emission into one stream leaves all declarations in order. -/
theorem Context.Named.parts_of_emitSingle (hc : c.Named) (hds : c.declarations = .ok ds)
    {extension : String} {done : Emitted}
    (h : (c.emitSingle (.new false extension)).result = .ok done) :
    ∃ parts, StreamParts c ds parts ∧ done.1.FinishedWith [(none, parts)] := by
  obtain ⟨label, hlabel⟩ := hc.exists_streamName
  rw [result_emitSingle hlabel hds] at h
  obtain ⟨header, hheader, h⟩ := exists_of_bind_eq_ok h
  obtain ⟨rs, hrs, h⟩ := exists_of_bind_eq_ok h
  cases h
  have htexts : Texts c ds (rs.map (·.text)) :=
    List.forall₂_map_right_iff.mpr (hc.declares_of_renderAll (hc.ordered hds).named hrs)
  exact ⟨_, ⟨header, _, hheader, htexts, rfl⟩, finishedWith_streamed extension _⟩

theorem fileOf_filled {header : String} (hheader : c.header = .ok header)
    {e : String × Declaration} {t : Target} {r : Rendered} (ht : TargetOf c e t)
    (hr : ∃ es, Declares c e.1 e.2 es r.text) : FileOf c e (t.filled header r) := by
  obtain ⟨es, hdecl⟩ := hr
  exact ⟨ht.fileName, header, t.imports, es, r.text, hheader, ht.imports, hdecl, rfl⟩

theorem Ordered.ne_nil (h : Ordered c ds) (hw : c.graph.WellFormed) : ds ≠ [] := by
  obtain ⟨top, rest, htops⟩ := List.exists_cons_of_ne_nil hw.hasTop
  have hmem : denotedBy c.graph top ∈ inOrder c.graph := denotedBy_mem_inOrder (by simp [htops])
  rintro rfl
  rw [← h.order] at hmem
  cases hmem

/-- Without a header not even the first file is written. -/
theorem Context.exists_header_of_emitSplit (hds : c.declarations = .ok ds) {targets : List Target}
    (htargets : List.Forall₂ (TargetOf c) ds targets) (hne : ds ≠ []) {extension : String}
    {done : Emitted} (h : (c.emitSplit (.new true extension)).result = .ok done) :
    ∃ header, c.header = .ok header := by
  cases hheader : c.header with
  | ok header => exact ⟨header, rfl⟩
  | error e =>
    rw [emitSplit, Logged.result_bind, Logged.result_liftM, hds, ok_bind] at h
    cases htargets with
    | nil => exact absurd rfl hne
    | cons ht _ =>
      rw [emitFiles, Logged.result_bind, result_emitFile ht (Output.Sink.isIdle_new extension)
        List.not_mem_nil, hheader] at h
      cases h

/-- An emission that splits its output leaves one file a declaration. -/
theorem Context.Named.files_of_emitSplit (hc : c.Named) (hds : c.declarations = .ok ds)
    {extension : String} {done : Emitted}
    (h : (c.emitSplit (.new true extension)).result = .ok done) :
    ∃ files, List.Forall₂ (FileOf c) ds files ∧
      done.1.FinishedWith (files.map fun file => (some file.1, file.2)) := by
  have hordered := hc.ordered hds
  obtain ⟨targets, htargets⟩ := exists_forall₂ fun e he => hc.exists_target (hordered.named e he)
  obtain ⟨header, hheader⟩ :=
    exists_header_of_emitSplit hds htargets (hordered.ne_nil hc.wellFormed) h
  rw [result_emitSplit hheader hds htargets (nodup_of_targetOf hc hordered htargets)] at h
  obtain ⟨rs, hrs, rfl⟩ := exists_of_map_eq_ok h
  have hdecl := hc.declares_of_renderAll hordered.named hrs
  exact ⟨_, forall₂_zip (fun _ _ _ => fileOf_filled hheader) htargets hdecl,
    finishedWith_filed extension _⟩

/-! ## Nothing is missing -/

namespace Context

theorem Ready.exists_renderAll (hc : c.Ready) (hnamed : ∀ e ∈ ds, e.2.HasName c e.1) :
    ∃ rs, c.renderAll ds = .ok rs :=
  exists_mapM_ok fun e he => hc.exists_render (hnamed e he)

theorem Ready.exists_emitSingle (hc : c.Ready) (extension : String) :
    ∃ done, (c.emitSingle (.new false extension)).result = .ok done := by
  obtain ⟨ds, hds, hordered⟩ := exists_declarations hc.wellFormed hc.names
  obtain ⟨header, hheader⟩ := hc.exists_header
  obtain ⟨label, hlabel⟩ := hc.exists_streamName
  obtain ⟨rs, hrs⟩ := hc.exists_renderAll hordered.named
  rw [result_emitSingle hlabel hds, hheader, ok_bind, hrs]
  exact ⟨_, rfl⟩

theorem Ready.exists_emitSplit (hc : c.Ready) (extension : String) :
    ∃ done, (c.emitSplit (.new true extension)).result = .ok done := by
  obtain ⟨ds, hds, hordered⟩ := exists_declarations hc.wellFormed hc.names
  obtain ⟨header, hheader⟩ := hc.exists_header
  obtain ⟨rs, hrs⟩ := hc.exists_renderAll hordered.named
  obtain ⟨targets, htargets⟩ := exists_forall₂ fun e he => hc.exists_target (hordered.named e he)
  rw [result_emitSplit hheader hds htargets (nodup_of_targetOf hc.toNamed hordered htargets), hrs]
  exact ⟨_, rfl⟩

end Context

end ZigDecl.Generation
