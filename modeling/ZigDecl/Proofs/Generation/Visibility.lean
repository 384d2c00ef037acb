import ZigDecl.Proofs.Generation.Published

/-! # Visibility only adds the modifier

Main statement: two runs whose configurations differ in the visibility alone yield the same files
but for the modifier on the lines that begin with a public constant, and the same warnings; if one
of them fails, so does the other, and for the same reason. -/

namespace ZigDecl

open Generation
open Output (File Buffer IsPrivate isPrivate_line isPrivate_of_splitAt isPublicLine
  isPublicLine_cons privateLine privateText spaced spacedLines block tidyBlock tidyLines)
open Text (IsEnding IsLine HasLines)

/-! ## In front of the declarations -/

namespace Zig.Layout

theorem isPrivate_prelude : IsPrivate prelude :=
  isPrivate_line (l := "const std = @import(\"std\");") (by decide) (by decide)

theorem isPrivate_header {topLevel : String} (h : IsLine topLevel) :
    IsPrivate (header topLevel) := by
  -- Only the line with the name of the top-level is not fixed.
  have hline : IsLine ("//    const model = try json.fromSlice(null, " ++
      (topLevel ++ ", json_string);")) := IsLine.append (by decide) (h.append (by decide))
  have hprivate : isPublicLine ("//    const model = try json.fromSlice(null, " ++
      (topLevel ++ ", json_string);")).toList = false := by
    rw [String.toList_append]
    exact isPublicLine_cons (by decide) (by decide) _
  have hpieces (start name : String) : start ++ name ++ ", json_string);\n" =
      start ++ (name ++ ", json_string);") ++ "\n" := by
    have hend : ", json_string);\n" = ", json_string);" ++ "\n" := by decide +kernel
    rw [hend]
    simp only [String.append_assoc]
  unfold header
  refine (((((((((?_ : IsPrivate _).append ?_).append ?_).append ?_).append ?_).append ?_).append
    ?_).append_line (hpieces _ _) hline hprivate).append ?_).append ?_
  all_goals exact isPrivate_of_splitAt (by decide +kernel) (by decide +kernel)

theorem isPrivate_leadingComments (lines : List String) : IsPrivate (leadingComments lines) := by
  refine IsPrivate.join fun line _ => ⟨_, Text.hasLines_comment (by decide) line, ?_⟩
  refine List.forall_mem_map.mpr fun l _ => ?_
  have hstart : Text.commentLine "//".toList l = '/' :: Text.trimEnd ('/' :: ' ' :: l) :=
    Text.trimEnd_cons (by decide) _
  rw [String.toList_ofList, hstart]
  exact isPublicLine_cons (by decide) (by decide) _

theorem isPrivate_imports {items : List (String × String)} (h : ∀ item ∈ items, IsImport item) :
    IsPrivate (imports items) := by
  refine ⟨_, hasLines_imports h, List.forall_mem_map.mpr fun item _ => ?_⟩
  rw [importText]
  simp only [String.append_assoc]
  rw [String.toList_append]
  exact isPublicLine_cons (by decide) (by decide) _

end Zig.Layout

namespace Generation

variable {c : Context}

theorem Context.Named.isPrivate_header (hc : c.Named)
    (hcomments : Config.areComments c.config.leadingComments = true) {header : String}
    (h : c.header = .ok header) : IsPrivate header := by
  rw [Context.header] at h
  cases hl : c.config.leadingComments with
  | null =>
    obtain ⟨top, rest, htops⟩ := List.exists_cons_of_ne_nil hc.wellFormed.hasTop
    have htop : top ∈ c.graph.topLevels := by simp [htops]
    obtain ⟨name, hname, hdenoted⟩ := exists_topLevelName? hc.wellFormed hc.names htop
    rw [hl, htops] at h
    simp only [Context.topLevelName, hname, ok_bind, Context.fill_header] at h
    cases h
    exact Zig.Layout.isPrivate_header
      (Zig.isLine_of_isIdentifier (hc.isIdentifier_of_hasName hdenoted))
  | arr items =>
    rw [hl] at hcomments h
    obtain ⟨lines, rfl⟩ := comments_eq hcomments
    cases (Context.fill_leadingComments lines).symm.trans h
    exact Zig.Layout.isPrivate_leadingComments lines
  | _ => rw [hl] at hcomments; cases hcomments

theorem map_privateLine_importParts {items : List (String × String)}
    (h : ∀ item ∈ items, IsImport item) : ∀ text ∈ importParts items,
      (tidyBlock text).map privateLine = tidyBlock text := by
  intro text htext
  have hsolid := isSolid_of_mem_importParts text htext
  rw [importParts] at htext
  split at htext
  · cases htext
  · rw [List.mem_singleton.mp htext] at hsolid ⊢
    exact Output.map_privateLine_tidyBlock (Zig.Layout.isPrivate_imports h) hsolid.closes

/-! ## Finished files -/

/-- The lines that every file starts with. -/
def preambleLines (header : String) : List (List Char) :=
  tidyLines false (Buffer.ofParts [header, Zig.Layout.prelude]).charLines

theorem map_privateLine_preambleLines {header : String} (h : IsPrivate header) :
    (preambleLines header).map privateLine = preambleLines header := by
  refine Output.map_privateLine_ofParts fun text htext => ?_
  rcases List.mem_cons.mp htext with rfl | htext
  · exact h
  · rw [List.mem_singleton.mp htext]
    exact Zig.Layout.isPrivate_prelude

section Finished

variable {lineEnding header : String} {targets : List Target} {rs rs' : List Rendered}

/-- Files without the modifier are made of the lines of their declarations without it. -/
theorem files_asPrivate (hsep : IsEnding lineEnding.toList) (hheader : IsPrivate header)
    (himports : ∀ t ∈ targets, ∀ item ∈ t.imports, IsImport item)
    (h : rs.map Rendered.unpublished = rs'.map Rendered.tidied) (isSplit : Bool) :
    ((finished lineEnding header targets rs).files isSplit lineEnding).map
        (File.asPrivate lineEnding) =
      (finished lineEnding header targets rs').files isSplit lineEnding := by
  let laid := spacedLines lineEnding (preambleLines header)
  let hidden (text : String) : List (List Char) := (tidyBlock text).map privateLine
  have hlaid (texts : List String) : spaced lineEnding (preamble lineEnding header)
      (texts.map (block lineEnding)) = laid (texts.map tidyBlock) :=
    Output.spaced_eq lineEnding _ texts
  have hhidden (texts : List String) : privateText lineEnding (spaced lineEnding
      (preamble lineEnding header) (texts.map (block lineEnding))) = laid (texts.map hidden) := by
    rw [preamble, Output.privateText_spaced hsep (Buffer.clean_charLines _), ← preambleLines,
      map_privateLine_preambleLines hheader]
  have himported : filesOf hidden laid targets isSplit (rs.map Rendered.unpublished) =
      filesOf tidyBlock laid targets isSplit (rs.map Rendered.unpublished) :=
    filesOf_congr laid (fun t ht => map_privateLine_importParts (himports t ht)) isSplit _
  calc ((finished lineEnding header targets rs).files isSplit lineEnding).map
        (File.asPrivate lineEnding)
      = filesOf hidden laid targets isSplit (rs.map Rendered.unpublished) :=
        map_files_finished (privateText lineEnding) hidden laid hhidden targets rs isSplit
    _ = filesOf tidyBlock laid targets isSplit (rs'.map Rendered.tidied) := by rw [himported, h]
    _ = (finished lineEnding header targets rs').files isSplit lineEnding :=
        (files_finished tidyBlock laid hlaid targets rs' isSplit).symm

end Finished

end Generation

namespace Zig

theorem Options.ofConfig_withPublic (config : Config) (v : Value) :
    ofConfig { config with isPublic := v } = (·.withPublic v) <$> ofConfig config := by
  have hcustom : customOf { config with isPublic := v } = customOf config := rfl
  rw [ofConfig, ofConfig, hcustom]
  simp only [map_bind, apply_ite (Functor.map _)]
  rfl

end Zig

/-! ## Runs -/

/-- An outcome without the modifier in its files. -/
def RunResult.asPrivate (lineEnding : String) : RunResult → RunResult :=
  .mapFiles (File.asPrivate lineEnding)

namespace Generator

variable {g : TypeGraph} {gen pub priv : Generator} {config : Config} {lineEnding : String}

/-- The generator with another choice of the modifier. -/
def withPublic (gen : Generator) (v : Value) : Generator :=
  ⟨{ gen.config with isPublic := v }, gen.options.withPublic v⟩

/-- Configurations that differ in the visibility make generators that differ in it. -/
theorem exists_withPublic (hpub : ofConfig { config with isPublic := .bool true } = .ok pub)
    (hpriv : ofConfig { config with isPublic := .bool false } = .ok priv) :
    ∃ gen : Generator, gen.config = config ∧ Zig.Options.ofConfig config = .ok gen.options ∧
      pub = gen.withPublic (.bool true) ∧ priv = gen.withPublic (.bool false) := by
  obtain ⟨hpubConfig, hpubOptions⟩ := ofConfig_eq_ok_iff.mp hpub
  obtain ⟨hprivConfig, hprivOptions⟩ := ofConfig_eq_ok_iff.mp hpriv
  rw [Zig.Options.ofConfig_withPublic] at hpubOptions hprivOptions
  obtain ⟨options, hoptions, htrue⟩ := exists_of_map_eq_ok hpubOptions
  rw [hoptions] at hprivOptions
  have hfalse : options.withPublic (.bool false) = priv.options := Except.ok.inj hprivOptions
  refine ⟨⟨config, options⟩, rfl, hoptions, ?_, ?_⟩
  · rw [withPublic, htrue, ← hpubConfig]
  · rw [withPublic, hfalse, ← hprivConfig]

/-- Files and warnings without the modifier in the files. -/
def filesAsPrivate (lineEnding : String) (done : List File × List String) :
    List File × List String :=
  (done.1.map (File.asPrivate lineEnding), done.2)

/-- But for the modifier, what is generated with it is what is generated without it. -/
theorem result_generate_private (hw : g.WellFormed) (ht : g.HasTextDescriptions)
    (ho : gen.options.OnLines) (hending : gen.config.lineEnding = .str lineEnding)
    (hsep : IsEnding lineEnding.toList)
    (hcomments : Config.areComments gen.config.leadingComments = true) :
    filesAsPrivate lineEnding <$> ((gen.withPublic (.bool true)).generate g).result =
      ((gen.withPublic (.bool false)).generate g).result := by
  cases hnames : (Names.resolve g).result with
  | error e =>
    rw [result_generate_error hw.hasTop hnames, result_generate_error hw.hasTop hnames]
    rfl
  | ok names =>
    have hresolved := Names.resolved_of_resolve hw hnames
    have hc : (gen.context g names).OnLines := ⟨⟨hw, hresolved⟩, ho⟩
    have hpub : ((gen.withPublic (.bool true)).context g names).Named := ⟨hw, hresolved⟩
    have hpriv : ((gen.withPublic (.bool false)).context g names).Named := ⟨hw, hresolved⟩
    obtain ⟨header, hheader⟩ := hc.exists_header hcomments
    obtain ⟨ds, hds, hordered⟩ := exists_declarations hc.wellFormed hc.names
    obtain ⟨targets, htargets⟩ := exists_forall₂ fun e he => hc.exists_target (hordered.named e he)
    have htargets' (v : Value) :
        List.Forall₂ (TargetOf ((gen.withPublic v).context g names)) ds targets :=
      htargets.imp fun _ _ ht => ⟨ht.fileName, ht.nonempty, ht.imports⟩
    have himports : ∀ t ∈ targets, ∀ item ∈ t.imports, IsImport item := by
      intro t ht item hitem
      obtain ⟨e, he, htarget⟩ := forall_mem_of_forall₂ htargets t ht
      exact (forall_importsOf hc.toNamed hordered he htarget.imports item hitem).1
    have hlines : List.map Rendered.unpublished <$>
        ((gen.withPublic (.bool true)).context g names).renderAll ds =
          List.map Rendered.tidied <$>
            ((gen.withPublic (.bool false)).context g names).renderAll ds :=
      hc.map_unpublished_renderAll ht hordered.named
    rw [result_generate_rendering hpub hnames hsep hending hheader hds (htargets' _),
      result_generate_rendering hpriv hnames hsep hending hheader hds (htargets' _)]
    simp only [Functor.map_map]
    refine map_congr_of_map (fun rs rs' h => Prod.ext ?_ ?_) hlines
    · exact files_asPrivate hsep (hc.isPrivate_header hcomments hheader) himports h _
    · exact warnings_finished_congr h lineEnding header targets

/-- Runs on a graph that was read from a document, with configurations that differ in the visibility
alone and with a type of unknown values that is on one line, end in the same way, but for the
modifier on the lines of the files that begin with a public constant; and they succeed if all names
and the type of unknown values are texts. -/
theorem result_run_private {document : Value} (hg : TypeGraph.ofDocument document = .ok g)
    (ht : g.HasTextDescriptions) (hvalid : config.IsValid)
    (hpub : ofConfig { config with isPublic := .bool true } = .ok pub)
    (hpriv : ofConfig { config with isPublic := .bool false } = .ok priv)
    (hany : ∀ s, pub.options.anyType = .str s → IsLine s) :
    ∃ lineEnding, config.lineEnding = .str lineEnding ∧
      (priv.run g).result = RunResult.asPrivate lineEnding <$> (pub.run g).result ∧
      (g.HasTextNames → (∃ s, pub.options.anyType = .str s) →
        ∃ files warnings facts, (pub.run g).result = .ok (.success files warnings facts) ∧
          (priv.run g).result =
            .ok (.success (files.map (File.asPrivate lineEnding)) warnings facts)) := by
  have hw := TypeGraph.wellFormed_of_ofDocument hg
  obtain ⟨gen, rfl, hoptions, rfl, rfl⟩ := exists_withPublic hpub hpriv
  obtain ⟨lineEnding, hending, _⟩ := exists_lineEnding hvalid.1
  have hsep : IsEnding lineEnding.toList := isEnding_of_isLineEnding (hending ▸ hvalid.1)
  have hrun : ((gen.withPublic (.bool false)).run g).result =
      RunResult.asPrivate lineEnding <$> ((gen.withPublic (.bool true)).run g).result := by
    rw [result_run, result_run, ← result_generate_private hw ht
      (Zig.Options.onLines_of_ofConfig hoptions hany) hending hsep hvalid.2.1]
    exact result_conclude_map (File.asPrivate lineEnding) rfl _
  refine ⟨lineEnding, hending, hrun, fun hn hunknown => ?_⟩
  obtain ⟨names, hnames, hresolved⟩ := Names.exists_resolve hw (Names.nameable_of_hasTextNames hn)
  have hready : ((gen.withPublic (.bool true)).context g names).Ready :=
    ⟨⟨hw, hresolved⟩, ht, hunknown, hvalid.2.1⟩
  obtain ⟨files, warnings, hsuccess⟩ := exists_run hnames hready hvalid.1
  exact ⟨files, warnings, _, hsuccess, by rw [hrun, hsuccess]; rfl⟩

/-- A document with declarations of all kinds, renamed members, and descriptions and names that look
like declarations. -/
def lookalikeDocument : Value := .obj [
  ("types", .obj [
    ("Node", .obj [("kind", .str "class"), ("name", .str "pub const node"),
      ("description", .str "pub const a = 1;\n  pub const b"), ("properties", .arr [
        .obj [("name", .str "pub const x"), ("type", .str "any"),
          ("description", .str "\npub const c")],
        .obj [("name", .str "tone"), ("type", .obj [("$ref", .str "Tone")])],
        .obj [("name", .str "either"), ("type", .obj [("$ref", .str "Either")])]])]),
    ("Tone", .obj [("kind", .str "enum"), ("name", .str "tone"),
      ("cases", .arr [.str "pub const low", .str "high"])]),
    ("Either", .obj [("kind", .str "union"), ("name", .str "either"),
      ("members", .arr [.str "string", .obj [("$ref", .str "Node")]])])]),
  ("top_levels", .obj [("Node", .obj [("$ref", .str "Node")]),
    ("pub const", .obj [("kind", .str "array"), ("items", .str "any")])])]

/-- A configuration with comments and a type of unknown values that look like declarations. -/
def lookalikeConfig : Config :=
  ⟨.bool true, .bool true, .arr [.str "pub const a\npub const b"], .bool true, .str "\r\n",
    .obj [("any_type", .str "pub const")]⟩

theorem result_run_private_lookalike : ∃ g pub priv files warnings facts,
    TypeGraph.ofDocument lookalikeDocument = .ok g ∧ g.HasTextDescriptions ∧
    lookalikeConfig.IsValid ∧
    ofConfig { lookalikeConfig with isPublic := .bool true } = .ok pub ∧
    ofConfig { lookalikeConfig with isPublic := .bool false } = .ok priv ∧
    (∀ s, pub.options.anyType = .str s → IsLine s) ∧
    (pub.run g).result = .ok (.success files warnings facts) ∧
    (priv.run g).result =
      .ok (.success (files.map (File.asPrivate "\r\n")) warnings facts) := by
  obtain ⟨g, hg⟩ : ∃ g, TypeGraph.ofDocument lookalikeDocument = .ok g :=
    exists_of_isOk (by decide +kernel)
  have ht := TypeGraph.hasTexts_of_ofDocument (by with_unfolding_all rfl) hg
  have hn := ht.hasTextNames (TypeGraph.wellFormed_of_ofDocument hg).closed
  have hvalid : lookalikeConfig.IsValid := ⟨rfl, rfl, rfl, rfl, rfl⟩
  let options (v : Value) : Zig.Options := ⟨v, "i64", "f64", "[]u8", .str "pub const"⟩
  let pub : Generator :=
    ⟨{ lookalikeConfig with isPublic := .bool true }, options (.bool true)⟩
  let priv : Generator :=
    ⟨{ lookalikeConfig with isPublic := .bool false }, options (.bool false)⟩
  have hpub : ofConfig { lookalikeConfig with isPublic := .bool true } = .ok pub := by rfl
  have hpriv : ofConfig { lookalikeConfig with isPublic := .bool false } = .ok priv := by rfl
  have hany : ∀ s, pub.options.anyType = .str s → IsLine s := by
    rintro _ ⟨⟩
    decide
  obtain ⟨lineEnding, hending, _, hsuccess⟩ :=
    result_run_private hg ht.hasTextDescriptions hvalid hpub hpriv hany
  obtain rfl : "\r\n" = lineEnding := Value.str.inj hending
  obtain ⟨files, warnings, facts, hrunPub, hrunPriv⟩ := hsuccess hn ⟨_, rfl⟩
  exact ⟨g, pub, priv, files, warnings, facts, hg, ht.hasTextDescriptions, hvalid, hpub, hpriv,
    hany, hrunPub, hrunPriv⟩

end Generator

end ZigDecl
