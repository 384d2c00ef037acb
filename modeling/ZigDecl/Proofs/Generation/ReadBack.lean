import ZigDecl.Proofs.Generation.Drafts
import ZigDecl.Proofs.Generation.Success

/-! # Declarations are read back

Main statement: every record and every enumeration of a run is read back from the lines of its file,
with its identifiers and types in order, and with entries that give back all external names. -/

namespace ZigDecl

open Output (File)

namespace Generation

open Zig (Kind Draft Transcript)
open Rename (renamed externalName)

variable {c : Context}

/-- Some of the lines of a file, one after the other, are read as a declaration. -/
def ReadsAs (c : Context) (file : File) (r : Transcript) : Prop :=
  ∃ lineEnding above lines below, c.config.lineEnding = .str lineEnding ∧
    Text.splitOn lineEnding.toList file.text.toList = above ++ lines ++ below ∧
    Zig.Reader.read lines = some r

/-- What is read of members that were given identifiers for external names: the identifiers in
order, and blocks for both directions, unless nothing is renamed. An entry stands for every
identifier that is not its external name, so that all external names are found again. -/
structure ReadsBack (r : Transcript) (identifiers externalNames : List String) : Prop where
  members : r.members.map (·.1) = identifiers
  blocks : ∃ entries, entries = (identifiers.zip externalNames).filter (fun e => e.1 != e.2) ∧
    r.blocks = (if entries.isEmpty then [] else [("getty.db", entries), ("getty.sb", entries)]) ∧
    identifiers.map (externalName entries) = externalNames

/-- What is read of a record. -/
structure ReadsRecord (c : Context) (id : Nat) (r : Transcript) : Prop where
  kind : r.kind = .struct
  name : c.names.typeName? id = some r.name
  members : ∃ ps identifiers externalNames, c.graph.shape? id = some (.record ps) ∧
    entryFor? id c.names.fields = some identifiers ∧
    ps.map (·.name) = externalNames.map Value.str ∧ ReadsBack r identifiers externalNames ∧
    List.Forall₂ (fun p m => ∃ t, c.typeMap.propertyType p = .ok t ∧ m.2 = some t.name)
      ps r.members

/-- What is read of an enumeration. -/
structure ReadsEnum (c : Context) (id : Nat) (r : Transcript) : Prop where
  kind : r.kind = .enum
  name : c.names.typeName? id = some r.name
  members : ∃ cases identifiers, c.graph.shape? id = some (.enum cases) ∧
    entryFor? id c.names.cases = some identifiers ∧ ReadsBack r identifiers cases

/-! ## What is read of a draft -/

theorem readsBack_transcript (docs : List String) (kind : Kind) (name : String)
    {members : List Zig.MemberDraft} {identifiers externalNames : List String}
    (hids : members.map (·.name) = identifiers) (hnodup : identifiers.Nodup)
    (hlen : identifiers.length = externalNames.length) :
    ReadsBack (draftOf c docs kind name members externalNames).transcript identifiers
      externalNames where
  members := by
    rw [Draft.transcript, draftOf, List.map_map, ← hids]
    rfl
  blocks := by
    refine ⟨renamed (identifiers.zip externalNames), rfl, ?_, Rename.map_externalName hnodup hlen⟩
    rw [Draft.transcript, draftOf, hids, Zig.blocksOf, Context.blocksFor]
    split <;> rfl

/-! ## Finished files -/

theorem isEnding_of_isLineEnding {lineEnding : String}
    (h : Config.isLineEnding (.str lineEnding) = true) : Text.IsEnding lineEnding.toList := by
  rw [Config.isLineEnding, Bool.or_eq_true, beq_iff_eq, beq_iff_eq] at h
  exact Text.isEnding_of_eq h

/-- A draft that is laid out as a part of a file is read back from it. -/
theorem Holds.readsAs {name : Option String} {before after : List String} {text : String}
    {file : File} (h : Holds c name (before ++ text :: after) file)
    (hending : Config.isLineEnding c.config.lineEnding = true) {f : Draft} (hf : f.IsLegal)
    (hlines : Text.HasLines text f.lines) : ReadsAs c file f.transcript := by
  obtain ⟨lineEnding, hconfig, htidy⟩ := h.tidy
  rw [hconfig] at hending
  obtain ⟨first, ls, heq, hfirst, hkept⟩ := f.exists_kept
  obtain ⟨above, below, hsplit⟩ := Output.exists_splitOn_tidy (isEnding_of_isLineEnding hending)
    (heq ▸ hlines) hfirst Zig.isTidy_end.tidyLine_ne_nil hkept htidy
  exact ⟨lineEnding, above, f.lines.map Output.tidyLine, below, hconfig, heq ▸ hsplit, hf.read_eq⟩

/-! ## Declarations -/

namespace Context

/-- The text that declares a record is the layout of a draft. -/
theorem OnLines.exists_draft_of_record (hc : c.OnLines) {id : Nat} {name text : String}
    {es : List Zig.Expr} {ps : List Property} (hid : id ∈ c.graph.declarations)
    (hname : c.names.typeName? id = some name) (hs : c.graph.shape? id = some (.record ps))
    (htexts : ∀ p ∈ ps, p.name.isText = true) (h : Declares c name (.type id) es text) :
    ∃ f : Draft, f.IsLegal ∧ Text.HasLines text f.lines ∧ ReadsRecord c id f.transcript := by
  obtain ⟨hr, _⟩ := TypeGraph.mem_declarations.mp hid
  cases h with
  | enum hs' => rw [hs] at hs'; cases hs'
  | union hs' => rw [hs] at hs'; cases hs'
  | @record _ _ identifiers docs _ fields hs' hids hf hl =>
    rw [hs] at hs'
    cases hs'
    let externalNames := ps.map fun p => p.name.display
    have hgiven : Names.LegalMembers externalNames identifiers := by
      cases hids.symm.trans (hc.names.fields_of_record hr hs)
      exact Names.legalMembers_memberNames externalNames
    have hfields := hf.fieldOf hc (leads_of_record hr hs)
    have hnames : (fields.map fieldDraft).map (·.name) = identifiers := by
      rw [← hf.map_name, List.map_map]
      rfl
    have hmembers : ∀ f ∈ fields, (fieldDraft f).IsLegal .struct := fun f hfield => by
      obtain ⟨p, _, hof⟩ := forall_mem_of_forall₂ hfields f hfield
      exact isLegal_fieldDraft hof
        (hgiven.identifiers _ (hf.map_name ▸ List.mem_map_of_mem hfield))
    have hlegal := isLegal_draftOf c (isLine_of_descriptionLines hl) (hc.isIdentifier hname)
      (List.forall_mem_map.mpr hmembers) externalNames
    refine ⟨_, hlegal, ?_, rfl, hname, ps, identifiers, externalNames, hs, hids, ?_,
      readsBack_transcript _ _ _ hnames hgiven.nodup hgiven.derives.length_eq.symm, ?_⟩
    · rw [record_eq, renameTexts_renamesOf, List.map_map]
      exact hasLines_draftOf hlegal hnames (hasLines_fields hmembers)
    · rw [List.map_map]
      exact List.map_congr_left fun p hp => Value.eq_str_display (htexts p hp)
    · show List.Forall₂ _ ps ((fields.map fieldDraft).map fun m => (m.name, m.type))
      rw [List.map_map, List.forall₂_map_right_iff]
      refine hfields.imp fun p f hof => ?_
      obtain ⟨t, ht, hname⟩ := hof.type
      exact ⟨t, ht, congrArg some hname.symm⟩

/-- The text that declares an enumeration is the layout of a draft. -/
theorem OnLines.exists_draft_of_enum (hc : c.OnLines) {id : Nat} {name text : String}
    {es : List Zig.Expr} {cases : List String} (hid : id ∈ c.graph.declarations)
    (hname : c.names.typeName? id = some name) (hs : c.graph.shape? id = some (.enum cases))
    (h : Declares c name (.type id) es text) :
    ∃ f : Draft, f.IsLegal ∧ Text.HasLines text f.lines ∧ ReadsEnum c id f.transcript := by
  obtain ⟨hr, _⟩ := TypeGraph.mem_declarations.mp hid
  cases h with
  | record hs' => rw [hs] at hs'; cases hs'
  | union hs' => rw [hs] at hs'; cases hs'
  | @enum _ _ identifiers docs hs' hids hl =>
    rw [hs] at hs'
    cases hs'
    have hgiven : Names.LegalMembers cases identifiers := by
      cases hids.symm.trans (hc.names.cases_of_enum hr hs)
      exact Names.legalMembers_memberNames cases
    have hnames : (identifiers.map caseDraft).map (·.name) = identifiers := by
      rw [List.map_map]
      exact List.map_id identifiers
    have hmembers : ∀ name ∈ identifiers, (caseDraft name).IsLegal .enum :=
      fun name h => isLegal_caseDraft (hgiven.identifiers name h)
    have hlegal := isLegal_draftOf c (isLine_of_descriptionLines hl) (hc.isIdentifier hname)
      (List.forall_mem_map.mpr hmembers) cases
    refine ⟨_, hlegal, ?_, rfl, hname, cases, identifiers, hs, hids,
      readsBack_transcript _ _ _ hnames hgiven.nodup hgiven.derives.length_eq.symm⟩
    rw [enumeration_eq, renameTexts_renamesOf, map_display_str]
    exact hasLines_draftOf hlegal hnames (hasLines_cases hmembers)

end Context

/-- A file holds the text of a declaration as one of its parts. -/
def HoldsText (c : Context) (e : String × Declaration) (file : File) : Prop :=
  ∃ name es before text after, Declares c e.1 e.2 es text ∧
    Holds c name (before ++ text :: after) file

theorem HoldsAll.holdsText {ds : List (String × Declaration)} {file : File}
    (h : HoldsAll c ds file) {e : String × Declaration} (he : e ∈ ds) : HoldsText c e file := by
  obtain ⟨parts, ⟨header, texts, _, htexts, rfl⟩, hholds⟩ := h
  obtain ⟨text, htext, es, hdecl⟩ := exists_mem_of_forall₂ htexts e he
  obtain ⟨before, after, rfl⟩ := List.append_of_mem htext
  exact ⟨_, es, header :: Zig.Layout.prelude :: before, text, after, hdecl, hholds⟩

theorem HoldsOne.holdsText {e : String × Declaration} {file : File} (h : HoldsOne c e file) :
    HoldsText c e file := by
  obtain ⟨name, parts, ⟨_, header, imports, es, text, _, _, hdecl, rfl⟩, hholds⟩ := h
  exact ⟨_, es, _, text, [], hdecl, hholds⟩

/-- A declaration whose text is always the layout of a draft is read back from its file. -/
theorem HoldsText.exists_reads {e : String × Declaration} {file : File} (h : HoldsText c e file)
    (hending : Config.isLineEnding c.config.lineEnding = true) {P : Transcript → Prop}
    (hdraft : ∀ {es text}, Declares c e.1 e.2 es text →
      ∃ f : Draft, f.IsLegal ∧ Text.HasLines text f.lines ∧ P f.transcript) :
    ∃ r, ReadsAs c file r ∧ P r := by
  obtain ⟨_, es, before, text, after, hdecl, hholds⟩ := h
  obtain ⟨f, hf, hlines, hp⟩ := hdraft hdecl
  exact ⟨f.transcript, hholds.readsAs hending hf hlines, hp⟩

end Generation

namespace Generator

open Generation

variable {gen : Generator} {g : TypeGraph}

/-- Every declared type has its text in one of the files of a successful run. -/
theorem exists_holdsText (hw : g.WellFormed) {files : List File} {warnings : List String}
    {facts : List (String × Value)} (h : (gen.run g).result = .ok (.success files warnings facts)) :
    ∃ names, (Names.resolve g).result = .ok names ∧ ∀ id ∈ g.declarations,
      ∃ name, names.typeName? id = some name ∧
        ∃ file ∈ files, HoldsText (gen.context g names) (name, .type id) file := by
  obtain ⟨names, ds, hnames, hordered, hsingle, hsplit⟩ := files_of_run hw h
  have hresolved := Names.resolved_of_resolve hw hnames
  refine ⟨names, hnames, fun id hid => ?_⟩
  obtain ⟨name, hname⟩ := hresolved.exists_typeName?_iff.mpr hid
  have hmem : (name, .type id) ∈ ds :=
    hordered.mem (type_mem_inOrder_iff.mpr (TypeGraph.mem_declarations.mp hid)) ⟨hid, hname⟩
  refine ⟨name, hname, ?_⟩
  cases hmode : gen.config.splitFiles.isTruthy with
  | false =>
    obtain ⟨all, rfl, hall⟩ := hsingle hmode
    exact ⟨all, by simp, hall.holdsText hmem⟩
  | true =>
    obtain ⟨file, hfile, hone⟩ := exists_mem_of_forall₂ (hsplit hmode) _ hmem
    exact ⟨file, hfile, hone.holdsText⟩

/-- Every record and every enumeration of a graph that was read from a document with texts is read
back from the lines of one of the files. -/
theorem exists_readBack {document : Value} (hg : TypeGraph.ofDocument document = .ok g)
    (htexts : documentHasTexts document = true) {config : Config} (hvalid : config.IsValid)
    (hgen : ofConfig config = .ok gen) {anyType : String}
    (hany : gen.options.anyType = .str anyType) (hline : '\n' ∉ anyType.toList) :
    ∃ names files warnings, (Names.resolve g).result = .ok names ∧
      (gen.run g).result = .ok (.success files warnings (gen.facts g files)) ∧
      (∀ id ∈ g.records, ∃ file ∈ files, ∃ r, ReadsAs (gen.context g names) file r ∧
        ReadsRecord (gen.context g names) id r) ∧
      (∀ id ∈ g.enums, ∃ file ∈ files, ∃ r, ReadsAs (gen.context g names) file r ∧
        ReadsEnum (gen.context g names) id r) := by
  obtain ⟨options, hoptions, hgen'⟩ := exists_of_bind_eq_ok hgen
  cases hgen'
  obtain ⟨names, hnames, hc⟩ := exists_ready hg htexts hvalid ⟨anyType, hany⟩
  obtain ⟨files, warnings, hrun⟩ := exists_run hnames hc hvalid.1
  obtain ⟨other, hother, hheld⟩ := exists_holdsText hc.wellFormed hrun
  obtain rfl : other = names := Except.ok.inj (hother.symm.trans hnames)
  have honLines : Context.OnLines (Generator.context ⟨config, options⟩ g other) :=
    ⟨hc.toNamed, Zig.Options.onLines_of_ofConfig hoptions fun s hs => by
      cases hs.symm.trans hany
      exact hline⟩
  have htextNames := (TypeGraph.hasTexts_of_ofDocument htexts hg).hasTextNames hc.wellFormed.closed
  refine ⟨other, files, warnings, hnames, hrun, fun id hid => ?_, fun id hid => ?_⟩
  · obtain ⟨hr, ps, hs⟩ := TypeGraph.mem_records.mp hid
    have hdeclared := TypeGraph.mem_declarations.mpr ⟨hr, TypeGraph.isDeclared_of_record hs⟩
    obtain ⟨name, hname, file, hfile, htext⟩ := hheld id hdeclared
    exact ⟨file, hfile, htext.exists_reads hvalid.1 fun hdecl =>
      honLines.exists_draft_of_record hdeclared hname hs (htextNames.property id ps hr hs) hdecl⟩
  · obtain ⟨hr, cases, hs⟩ := TypeGraph.mem_enums.mp hid
    have hdeclared := TypeGraph.mem_declarations.mpr ⟨hr, TypeGraph.isDeclared_of_enum hs⟩
    obtain ⟨name, hname, file, hfile, htext⟩ := hheld id hdeclared
    exact ⟨file, hfile, htext.exists_reads hvalid.1 fun hdecl =>
      honLines.exists_draft_of_enum hdeclared hname hs hdecl⟩

/-- A record and an enumeration whose external names hold quotation marks, backslashes, line breaks
and characters outside ASCII. -/
def escapedDocument : Value := .obj [
  ("types", .obj [
    ("Node", .obj [("kind", .str "class"), ("name", .str "node"),
      ("description", .str "first\n\nsecond"), ("properties", .arr [
        .obj [("name", .str "a \"b\"\n"), ("type", .obj [("$ref", .str "Kind")])],
        .obj [("name", .str "plain"), ("type", .str "integer"), ("description", .str "x\ry")],
        .obj [("name", .str "\\é\u2028"), ("type", .str "any"), ("optional", .bool true)]])]),
    ("Kind", .obj [("kind", .str "enum"), ("cases", .arr [.str "is \x7d", .str "", .str "\t"])])]),
  ("top_levels", .obj [("List", .obj [("$ref", .str "Node")])])]

def escapedConfig : Config :=
  ⟨.bool false, .bool true, .null, .bool true, .str "\r\n", .obj []⟩

theorem exists_readBack_escaped : ∃ g gen names files warnings,
    TypeGraph.ofDocument escapedDocument = .ok g ∧ documentHasTexts escapedDocument = true ∧
    escapedConfig.IsValid ∧ ofConfig escapedConfig = .ok gen ∧
    gen.options.anyType = .str "std.json.Value" ∧ '\n' ∉ "std.json.Value".toList ∧
    (gen.run g).result = .ok (.success files warnings (gen.facts g files)) ∧
    (∀ id ∈ g.records, ∃ file ∈ files, ∃ r, ReadsAs (gen.context g names) file r ∧
      ReadsRecord (gen.context g names) id r) ∧
    (∀ id ∈ g.enums, ∃ file ∈ files, ∃ r, ReadsAs (gen.context g names) file r ∧
      ReadsEnum (gen.context g names) id r) := by
  obtain ⟨g, hg⟩ : ∃ g, TypeGraph.ofDocument escapedDocument = .ok g :=
    exists_of_isOk (by with_unfolding_all rfl)
  have htexts : documentHasTexts escapedDocument = true := by with_unfolding_all rfl
  have hvalid : escapedConfig.IsValid := ⟨rfl, rfl, rfl, rfl, rfl⟩
  let gen : Generator :=
    ⟨escapedConfig, ⟨.bool false, "i64", "f64", "[]u8", .str "std.json.Value"⟩⟩
  have hgen : ofConfig escapedConfig = .ok gen := by rfl
  have hline : '\n' ∉ "std.json.Value".toList := by decide
  obtain ⟨names, files, warnings, _, hrun, hrecords, henums⟩ :=
    exists_readBack hg htexts hvalid hgen rfl hline
  exact ⟨g, gen, names, files, warnings, hg, htexts, hvalid, hgen, rfl, hline, hrun, hrecords,
    henums⟩

end Generator

end ZigDecl
