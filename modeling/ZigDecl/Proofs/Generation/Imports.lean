import ZigDecl.Proofs.Generation.Declares

/-! # Headers and imports

What stands in front of a declaration in its file. Main statements: in a context in which nothing is
missing, there is a header, and every declaration that another one refers to can be imported from
its file. -/

namespace ZigDecl.Generation

open Zig (Expr Spells Leads)

variable {c : Context}

/-! ## The header -/

theorem comments_eq {items : List Value}
    (h : Config.areComments (.arr items) = true) :
    ∃ lines : List String, items = lines.map Value.str := by
  refine ⟨items.map Value.display, (Value.map_str_display fun v hv => ?_).symm⟩
  have := List.all_eq_true.mp h v hv
  cases v with
  | str s => rfl
  | _ => cases this

theorem Context.Named.exists_topLevelName (hc : c.Named) {top : String × Ty}
    (ht : top ∈ c.graph.topLevels) : ∃ name, c.topLevelName top.1 = .ok name := by
  obtain ⟨name, hname, _⟩ := exists_topLevelName? hc.wellFormed hc.names ht
  exact ⟨name, by rw [Context.topLevelName, hname]⟩

theorem Context.Named.exists_header (hc : c.Named)
    (hcomments : Config.areComments c.config.leadingComments = true) :
    ∃ header, c.header = .ok header := by
  rw [Context.header]
  cases hl : c.config.leadingComments with
  | null =>
    obtain ⟨top, rest, htops⟩ := List.exists_cons_of_ne_nil hc.wellFormed.hasTop
    have htop : top ∈ c.graph.topLevels := by simp [htops]
    obtain ⟨name, hname⟩ := hc.exists_topLevelName htop
    refine ⟨Zig.Layout.header name, ?_⟩
    rw [htops]
    simp only [hname, ok_bind, Context.fill_header]
  | arr items =>
    rw [hl] at hcomments
    obtain ⟨lines, rfl⟩ := comments_eq hcomments
    exact ⟨Zig.Layout.leadingComments lines, Context.fill_leadingComments lines⟩
  | _ => rw [hl] at hcomments; cases hcomments

theorem Context.Ready.exists_header (hc : c.Ready) : ∃ header, c.header = .ok header :=
  hc.toNamed.exists_header hc.comments

/-! ## Files of declarations -/

theorem mem_declared {name : String} {d : Declaration} (hd : d.HasName c name) :
    name ∈ c.names.declared c.graph.declarations := by
  rw [Names.declared, List.mem_append]
  cases d with
  | typeAlias top root => exact Or.inl (List.mem_map_of_mem (mem_of_entryFor? hd.2))
  | type id => exact Or.inr (List.mem_filterMap.mpr ⟨id, hd.1, hd.2⟩)

/-- Every declaration has a file, and the name of the file is not empty. -/
theorem exists_fileName? (hn : Names.Resolved c.graph c.names) {name : String} {d : Declaration}
    (hd : d.HasName c name) : ∃ file, c.names.fileName? name = some file ∧ file ≠ "" := by
  have hkeys : c.names.files.map (·.1) = c.names.declared c.graph.declarations := by
    rw [hn.files, Names.map_fst_giveFiles]
  obtain ⟨file, hfile⟩ := exists_entryFor?_iff.mpr (hkeys ▸ mem_declared hd)
  refine ⟨file, hfile, ?_⟩
  have hmem := mem_of_entryFor? hfile
  rw [hn.files] at hmem
  exact ((Names.nodup_giveFiles _ []).2 file (List.mem_map_of_mem hmem)).2

/-- Declarations of different names have different files. -/
theorem fileName?_inj (hn : Names.Resolved c.graph c.names) {name other file : String}
    (h : c.names.fileName? name = some file) (h' : c.names.fileName? other = some file) :
    name = other := by
  have hnodup : (c.names.files.map (·.2)).Nodup := by
    rw [hn.files]
    exact (Names.nodup_giveFiles _ []).1
  exact congrArg Prod.fst (List.inj_on_of_nodup_map hnodup (mem_of_entryFor? h)
    (mem_of_entryFor? h') rfl)

/-! ## Imports -/

/-- The import of a type: its name and its file. -/
def Imports (c : Context) (id : Nat) (item : String × String) : Prop :=
  c.names.typeName? id = some item.1 ∧ c.names.fileName? item.1 = some item.2

theorem references_subset (self : Option Nat) (es : List Expr) : references self es ⊆ refsOf es :=
  fun _ hid => (List.mem_filter.mp (List.mem_eraseDups.mp hid)).1

theorem exists_importsOf_of_referenced (hn : Names.Resolved c.graph c.names) {ids : List Nat}
    (hids : ∀ id ∈ ids, id ∈ c.graph.declarations) {d : Declaration}
    (h : c.graph.referencedDeclarations d.node = .ok ids) :
    ∃ items, c.importsOf d = .ok items ∧ List.Forall₂ (Imports c) ids items := by
  have hname : ∀ id ∈ ids, ∃ name, c.typeName id = .ok name ∧
      (Declaration.type id).HasName c name := fun id hid => by
    obtain ⟨name, hname⟩ := hn.exists_typeName?_iff.mpr (hids id hid)
    exact ⟨name, Context.typeName_eq hname, hids id hid, hname⟩
  obtain ⟨names, hnames, hgiven⟩ := exists_mapM hname
  have hfile : ∀ name ∈ names, ∃ item, c.importOf name = .ok item ∧
      item.1 = name ∧ c.names.fileName? name = some item.2 := fun name hmem => by
    obtain ⟨id, _, hd⟩ := forall_mem_of_forall₂ hgiven name hmem
    obtain ⟨file, hfile, _⟩ := exists_fileName? hn hd
    exact ⟨(name, file), by rw [Context.importOf, hfile], rfl, hfile⟩
  obtain ⟨items, hitems, hfiles⟩ := exists_mapM hfile
  refine ⟨items, ?_, forall₂_trans (fun id name item hd hi => ?_) hgiven hfiles⟩
  · rw [Context.importsOf, h, mapError_ok, ok_bind, hnames, ok_bind, hitems]
  · obtain ⟨rfl, hfile⟩ := hi
    exact ⟨hd.2, hfile⟩

/-- Whether a declaration is an alias of a type that is declared itself. -/
def Declaration.aliasesDeclared (g : TypeGraph) : Declaration → Bool
  | .typeAlias _ root => g.needsDeclaration root
  | .type _ => false

/-- The declaration whose types are looked at for the imports of a declaration: an alias of a
declared type is taken for the declaration of this type. -/
def Declaration.importedFor (g : TypeGraph) : Declaration → Declaration
  | .typeAlias top (.named id) => if g.isDeclared id then .type id else .typeAlias top (.named id)
  | d => d

theorem Declaration.importedFor_eq {g : TypeGraph} {d : Declaration}
    (h : d.aliasesDeclared g = false) : d.importedFor g = d := by
  unfold importedFor
  split
  · next id => exact if_neg (by simpa [aliasesDeclared, TypeGraph.needsDeclaration] using h)
  · rfl

theorem Declaration.exists_importedFor {g : TypeGraph} {d : Declaration}
    (h : d.aliasesDeclared g = true) :
    ∃ top id, d = .typeAlias top (.named id) ∧ g.isDeclared id = true ∧
      d.importedFor g = .type id := by
  cases d with
  | type id => cases h
  | typeAlias top root =>
    cases root with
    | named id => exact ⟨top, id, rfl, h, if_pos h⟩
    | _ => cases h

/-- What a declaration is taken for has a name, too. -/
theorem Declaration.HasName.importedFor (hn : Names.Resolved c.graph c.names) {name : String}
    {d : Declaration} (hd : d.HasName c name) :
    ∃ other, (d.importedFor c.graph).HasName c other := by
  cases halias : d.aliasesDeclared c.graph with
  | false => exact ⟨name, by rwa [Declaration.importedFor_eq halias]⟩
  | true =>
    obtain ⟨top, id, rfl, hdecl, himported⟩ := Declaration.exists_importedFor halias
    have hid := TypeGraph.mem_declarations.mpr ⟨Zig.leads_root hd.1 id rfl, hdecl⟩
    obtain ⟨other, hother⟩ := hn.exists_typeName?_iff.mpr hid
    exact ⟨other, by rw [himported]; exact ⟨hid, hother⟩⟩

theorem leads_of_mem {name : String} {d : Declaration} (hd : d.HasName c name) :
    ∀ t ∈ d.written c.graph, Leads c.graph t := by
  cases d with
  | typeAlias top root =>
    intro t ht
    rw [List.mem_singleton.mp ht]
    exact Zig.leads_root hd.1
  | type id => exact fun t ht => leads_of_mem_written (TypeGraph.mem_declarations.mp hd.1).1 ht

/-- The references of what a declaration is taken for are imported. -/
theorem referencedDeclarations_eq (hw : c.graph.WellFormed) {name : String} {d : Declaration}
    (hd : d.HasName c name) {es : List Expr}
    (h : List.Forall₂ (Spells c.graph) ((d.importedFor c.graph).written c.graph) es) :
    c.graph.referencedDeclarations d.node = .ok (references (d.importedFor c.graph).self? es) := by
  cases halias : d.aliasesDeclared c.graph with
  | false =>
    rw [Declaration.importedFor_eq halias] at h ⊢
    cases d with
    | typeAlias top root =>
      cases h with
      | cons he h =>
        cases h
        exact referencedDeclarations_of_not_needsDeclaration hw.founded (Zig.leads_root hd.1)
          halias he
    | type id =>
      obtain ⟨hr, hdecl⟩ := TypeGraph.mem_declarations.mp hd.1
      exact referencedDeclarations_of_isDeclared hw.founded hr hdecl h
  | true =>
    obtain ⟨top, id, rfl, hdecl, himported⟩ := Declaration.exists_importedFor halias
    rw [himported] at h ⊢
    exact referencedDeclarations_of_isDeclared hw.founded (Zig.leads_root hd.1 id rfl) hdecl h

/-- The imports of every declaration can be found. -/
theorem Context.Named.exists_importsOf (hc : c.Named) {name : String} {d : Declaration}
    (hd : d.HasName c name) {es : List Expr}
    (h : List.Forall₂ (Spells c.graph) ((d.importedFor c.graph).written c.graph) es) :
    ∃ items, c.importsOf d = .ok items ∧
      List.Forall₂ (Imports c) (references (d.importedFor c.graph).self? es) items := by
  obtain ⟨other, hother⟩ := hd.importedFor hc.names
  exact exists_importsOf_of_referenced hc.names
    (fun id hid => refsOf_mem h (leads_of_mem hother) id (references_subset _ es hid))
    (referencedDeclarations_eq hc.wellFormed hd h)

end ZigDecl.Generation
