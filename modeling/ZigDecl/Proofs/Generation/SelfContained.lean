import ZigDecl.Proofs.Generation.Success

/-! # Files that are self-contained

A file is self-contained if it imports the names that its declaration mentions, apart from its own,
each once and in the order of first mention. Main statement: where output is split, this is so for
all files but those of aliases of declared types; such a file imports what the declaration of this
type mentions, and not the type. -/

namespace ZigDecl.Generation

open Zig (Expr Spells Leads)

variable {c : Context}

/-- The names that a declaration needs from other files, in the order of first mention, where its
types are spelled by some expressions. -/
def neededNames (c : Context) (name : String) (es : List Expr) : List String :=
  (((refsOf es).filterMap c.names.typeName?).filter fun other => other ≠ name).eraseDups

/-- A type is the declared one just if it goes by the declared name. -/
theorem Declaration.HasName.self?_iff (hc : c.Named) {name other : String} {d : Declaration}
    (hd : d.HasName c name) {id : Nat} (hid : id ∈ c.graph.declarations)
    (hother : c.names.typeName? id = some other) : d.self? = some id ↔ other = name := by
  have htype : (Declaration.type id).HasName c other := ⟨hid, hother⟩
  constructor
  · intro h
    cases d with
    | typeAlias top root => cases h
    | type j => cases h; exact htype.unique hd
  · rintro rfl
    rw [hd.inj hc.wellFormed hc.names htype]
    rfl

/-- The names of what a declaration refers to are the needed ones. -/
theorem filterMap_references (hc : c.Named) {name : String} {d : Declaration}
    (hd : d.HasName c name) {es : List Expr} (hes : ∀ id ∈ refsOf es, id ∈ c.graph.declarations) :
    (references d.self? es).filterMap c.names.typeName? = neededNames c name es := by
  rw [references, filterMap_eraseDups fun _ _ _ => hc.names.typeName?_inj, neededNames,
    List.filterMap_filter, List.filter_filterMap]
  refine congrArg List.eraseDups (List.filterMap_congr fun id hid => ?_)
  cases hname : c.names.typeName? id with
  | none => simp
  | some other =>
    have hiff := hd.self?_iff hc (hes id hid) hname
    by_cases hself : d.self? = some id
    · simp [hself, hiff.mp hself, Option.filter]
    · simp [hself, mt hiff.mpr hself, Option.filter]

theorem map_fst_imports {ids : List Nat} {items : List (String × String)}
    (h : List.Forall₂ (Imports c) ids items) :
    items.map (·.1) = ids.filterMap c.names.typeName? := by
  induction h with
  | nil => rfl
  | cons himport _ ih => rw [List.map_cons, List.filterMap_cons, himport.1, ih]

/-- The imports of a declaration are what the declaration that it is taken for needs. -/
theorem map_fst_importsOf (hc : c.Named) {name other : String} {d : Declaration}
    (hd : d.HasName c name) (hother : (d.importedFor c.graph).HasName c other) {es : List Expr}
    (hes : List.Forall₂ (Spells c.graph) ((d.importedFor c.graph).written c.graph) es)
    {imports : List (String × String)} (h : c.importsOf d = .ok imports) :
    imports.map (·.1) = neededNames c other es := by
  obtain ⟨items, hitems, himports⟩ := hc.exists_importsOf hd hes
  cases hitems.symm.trans h
  rw [map_fst_imports himports]
  exact filterMap_references hc hother (refsOf_mem hes (leads_of_mem hother))

theorem fileName?_of_importsOf (hc : c.Named) {name : String} {d : Declaration}
    (hd : d.HasName c name) {imports : List (String × String)} (h : c.importsOf d = .ok imports) :
    ∀ item ∈ imports, c.names.fileName? item.1 = some item.2 := by
  obtain ⟨other, hother⟩ := hd.importedFor hc.names
  obtain ⟨es, hes⟩ := exists_spelled hc.founded (leads_of_mem hother)
  obtain ⟨items, hitems, himports⟩ := hc.exists_importsOf hd hes
  cases hitems.symm.trans h
  intro item hitem
  obtain ⟨id, _, himport⟩ := forall_mem_of_forall₂ himports item hitem
  exact himport.2

/-- An alias of a declared type needs this type and nothing else. -/
theorem neededNames_of_aliasesDeclared (hc : c.Named) {name top other : String} {id : Nat}
    (hd : (Declaration.typeAlias top (.named id)).HasName c name)
    (hother : (Declaration.type id).HasName c other) (hdecl : c.graph.isDeclared id = true)
    {es : List Expr} (hes : List.Forall₂ (Spells c.graph) [.named id] es) :
    neededNames c name es = [other] := by
  cases hes with
  | @cons _ e _ _ he hnil =>
    cases hnil
    have hne : other ≠ name := by
      rintro rfl
      cases hd.inj hc.wellFormed hc.names hother
    have hrefs : refsOf [e] = [id] := by
      rw [refsOf, List.filterMap_cons, he.target?_of_isDeclared hdecl, List.filterMap_nil]
    rw [neededNames, hrefs, List.filterMap_cons, hother.2]
    simp [hne, List.eraseDups_cons]

/-- A declaration needs what is imported for it just if it is no alias of a declared type. -/
theorem map_fst_importsOf_iff (hc : c.Named) {name : String} {d : Declaration}
    (hd : d.HasName c name) {es : List Expr}
    (hes : List.Forall₂ (Spells c.graph) (d.written c.graph) es)
    {imports : List (String × String)} (h : c.importsOf d = .ok imports) :
    imports.map (·.1) = neededNames c name es ↔ d.aliasesDeclared c.graph = false := by
  constructor
  · intro heq
    cases halias : d.aliasesDeclared c.graph with
    | false => rfl
    | true =>
      obtain ⟨top, id, rfl, hdecl, himported⟩ := Declaration.exists_importedFor halias
      obtain ⟨other, hother⟩ := hd.importedFor hc.names
      obtain ⟨inside, hinside⟩ := exists_spelled hc.founded (leads_of_mem hother)
      rw [map_fst_importsOf hc hd hother hinside h,
        neededNames_of_aliasesDeclared hc hd (himported ▸ hother) hdecl hes] at heq
      -- The type is needed, but it is what is left out where it is looked at from inside.
      have hmem : other ∈ neededNames c other inside := by rw [heq]; exact List.mem_singleton_self _
      simp [neededNames] at hmem
  · intro halias
    have himported := Declaration.importedFor_eq halias
    exact map_fst_importsOf hc hd (himported.symm ▸ hd) (himported.symm ▸ hes) h

/-- A file holds a declaration in which some Zig types are written, and imports. -/
structure Contains (c : Context) (e : String × Declaration) (imports : List (String × String))
    (es : List Expr) (file : Output.File) : Prop where
  holds : ∃ header text, c.header = .ok header ∧ Declares c e.1 e.2 es text ∧
    Holds c (c.names.fileName? e.1) (partsOf header imports text) file
  files : ∀ item ∈ imports, c.names.fileName? item.1 = some item.2
  taken : ∀ other inside, (e.2.importedFor c.graph).HasName c other →
    List.Forall₂ (Spells c.graph) ((e.2.importedFor c.graph).written c.graph) inside →
    imports.map (·.1) = neededNames c other inside

theorem exists_contains (hc : c.Named) {e : String × Declaration} (he : e.2.HasName c e.1)
    {file : Output.File} (h : HoldsOne c e file) : ∃ imports es, Contains c e imports es file ∧
      (imports.map (·.1) = neededNames c e.1 es ↔ e.2.aliasesDeclared c.graph = false) := by
  obtain ⟨name, parts, hof, hholds⟩ := h
  obtain ⟨header, imports, es, text, hheader, himports, hdecl, rfl⟩ := hof.parts
  refine ⟨imports, es, ⟨⟨header, text, hheader, hdecl, ?_⟩, fileName?_of_importsOf hc he himports,
    fun other inside hother hinside => map_fst_importsOf hc he hother hinside himports⟩,
    map_fst_importsOf_iff hc he hdecl.spelled himports⟩
  rw [hof.fileName]
  exact hholds

/-- Where output is split, the file of a declaration is self-contained just if the declaration is no
alias of a type that is declared itself. -/
theorem selfContained_iff {document : Value} {g : TypeGraph} {gen : Generator}
    (hg : TypeGraph.ofDocument document = .ok g) (hsplit : gen.config.splitFiles.isTruthy = true)
    {files : List Output.File} {warnings : List String} {facts : List (String × Value)}
    (hrun : (gen.run g).result = .ok (.success files warnings facts)) :
    ∃ names ds, (Names.resolve g).result = .ok names ∧ Ordered (gen.context g names) ds ∧
      List.Forall₂ (fun e file => ∃ imports es, Contains (gen.context g names) e imports es file ∧
        (imports.map (·.1) = neededNames (gen.context g names) e.1 es ↔
          e.2.aliasesDeclared g = false)) ds files := by
  have hw := TypeGraph.wellFormed_of_ofDocument hg
  obtain ⟨names, ds, hnames, hordered, _, hfiles⟩ := Generator.files_of_run hw hrun
  have hc : (gen.context g names).Named := ⟨hw, Names.resolved_of_resolve hw hnames⟩
  refine ⟨names, ds, hnames, hordered, ?_⟩
  refine List.Forall₂.imp ?_ (List.forall₂_and_left _ _ |>.mpr ⟨hordered.named, hfiles hsplit⟩)
  rintro e file ⟨he, hone⟩
  exact exists_contains hc he hone

/-- A record without properties, and two top-levels with it as their root. -/
def aliasDocument : Value := .obj [
  ("types", .obj [("A", .obj [("kind", .str "class"), ("name", .str "A"),
    ("properties", .arr [])])]),
  ("top_levels", .obj [("A", .obj [("$ref", .str "A")]), ("B", .obj [("$ref", .str "A")])])]

/-- The file of the second top-level does not import the record that it is an alias of. -/
theorem not_selfContained_alias : ∃ g gen names ds files warnings facts,
    TypeGraph.ofDocument aliasDocument = .ok g ∧ gen.config.splitFiles.isTruthy = true ∧
    (Generator.run gen g).result = .ok (.success files warnings facts) ∧
    (Names.resolve g).result = .ok names ∧ Ordered (gen.context g names) ds ∧
    ∃ e ∈ ds, ∃ file ∈ files, ∃ imports es, Contains (gen.context g names) e imports es file ∧
      imports.map (·.1) ≠ neededNames (gen.context g names) e.1 es := by
  let g : TypeGraph := ⟨#[⟨.str "A", .null, .record []⟩], [("A", .named 0), ("B", .named 0)]⟩
  let gen : Generator := ⟨{ Config.default with splitFiles := .bool true }, .default⟩
  have hg : TypeGraph.ofDocument aliasDocument = .ok g := by with_unfolding_all rfl
  have horder : inOrder g = [.typeAlias "B" (.named 0), .type 0] := by rfl
  obtain ⟨_, hnames, hc⟩ : ∃ names, (Names.resolve g).result = .ok names ∧
      (gen.context g names).Ready :=
    Generator.exists_ready hg (by with_unfolding_all rfl) ⟨rfl, rfl, rfl, rfl, rfl⟩ ⟨_, rfl⟩
  obtain ⟨files, warnings, hrun⟩ := Generator.exists_run hnames hc rfl
  obtain ⟨names, ds, hnames, hordered, hfiles⟩ := selfContained_iff hg rfl hrun
  have hmem : .typeAlias "B" (.named 0) ∈ ds.map (·.2) := by
    rw [hordered.order]
    show _ ∈ inOrder g
    simp [horder]
  obtain ⟨e, he, hd⟩ := List.mem_map.mp hmem
  obtain ⟨file, hfile, imports, es, hcontains, hiff⟩ := forall_mem_of_forall₂ hfiles.flip e he
  have halias : e.2.aliasesDeclared g = true := by
    rw [hd]
    rfl
  refine ⟨g, gen, names, ds, files, _, _, hg, rfl, hrun, hnames, hordered, e, he, file, hfile,
    imports, es, hcontains, fun heq => ?_⟩
  exact Bool.false_ne_true ((hiff.mp heq).symm.trans halias)

end ZigDecl.Generation
