import ZigDecl.Proofs.Generation.Runs
import ZigDecl.Proofs.Names.Legal

/-! # One stream is closed

Main statement: the declarations of a graph are emitted in order, each of them once, every top-level
is denoted by one of them, and so is every name that is mentioned. -/

namespace ZigDecl.Generation

open Zig (Expr Spells)

variable {c : Context} {ds : List (String × Declaration)}

/-- A type is written as a Zig type with at most one name in it, and this is the name of exactly one
declaration in a list. -/
structure Mentions (c : Context) (ds : List (String × Declaration)) (t : Ty) (e : Expr) : Prop where
  spelled : Spells c.graph t e
  written : c.typeMap.type true t = e.write c.typeMap true
  declared : ∀ id, e.target? = some id → ∃ name, c.names.typeName? id = some name ∧
    (name, .type id) ∈ ds ∧ (ds.map (·.1)).count name = 1

/-- The declarations of a list are all that a graph needs, and they need nothing else. -/
structure Closed (c : Context) (ds : List (String × Declaration)) : Prop extends Ordered c ds where
  names_nodup : (ds.map (·.1)).Nodup
  nodup : (ds.map (·.2)).Nodup
  types : ∀ id, .type id ∈ ds.map (·.2) ↔
    c.graph.Reachable id ∧ c.graph.isDeclared id = true
  topLevels : ∀ top ∈ c.graph.topLevels, ∃ name, c.names.topLevelName? top.1 = some name ∧
    (name, denotedBy c.graph top) ∈ ds
  mentions : ∀ e ∈ ds, ∀ t ∈ e.2.written c.graph, ∃ x, Mentions c ds t x

/-- The declarations that are emitted are closed. -/
theorem Ordered.closed (h : Ordered c ds) (hw : c.graph.WellFormed)
    (hn : Names.Resolved c.graph c.names) : Closed c ds where
  toOrdered := h
  names_nodup := h.nodup hw hn
  nodup := h.order ▸ nodup_inOrder hw
  types id := h.order ▸ type_mem_inOrder_iff
  topLevels top ht := by
    obtain ⟨name, hname, hdenoted⟩ := exists_topLevelName? hw hn ht
    exact ⟨name, hname, h.mem (denotedBy_mem_inOrder ht) hdenoted⟩
  mentions e he t ht := by
    have hl := leads_of_mem (h.named e he) t ht
    obtain ⟨x, hx⟩ := Zig.exists_spells hw.founded hl
    refine ⟨x, hx, hx.type_eq hw.founded true hl, fun id hid => ?_⟩
    have hmem := hx.target_mem hl hid
    obtain ⟨name, hname⟩ := hn.exists_typeName?_iff.mpr hmem
    have hin : (name, .type id) ∈ ds :=
      h.mem (type_mem_inOrder_iff.mpr (TypeGraph.mem_declarations.mp hmem)) ⟨hmem, hname⟩
    exact ⟨name, hname, hin, List.count_eq_one_of_mem (h.nodup hw hn)
      (List.mem_map_of_mem (f := (·.1)) hin)⟩

/-- The declarations of a graph that was read from a document are closed, and they are what an
emission writes, one after the other into one stream or into one file each. -/
theorem exists_closed {document : Value} {g : TypeGraph} (h : TypeGraph.ofDocument document = .ok g)
    (ht : g.HasTextNames) (config : Config) (options : Zig.Options) :
    ∃ names ds, (Names.resolve g).result = .ok names ∧
      Context.declarations ⟨g, names, config, options⟩ = .ok ds ∧
      Closed ⟨g, names, config, options⟩ ds ∧
      (∀ extension done,
        (Context.emitSingle ⟨g, names, config, options⟩ (.new false extension)).result = .ok done →
        ∃ parts, StreamParts ⟨g, names, config, options⟩ ds parts ∧
          done.1.FinishedWith [(none, parts)]) ∧
      ∀ extension done,
        (Context.emitSplit ⟨g, names, config, options⟩ (.new true extension)).result = .ok done →
        ∃ files, List.Forall₂ (FileOf ⟨g, names, config, options⟩) ds files ∧
          done.1.FinishedWith (files.map fun file => (some file.1, file.2)) := by
  have hw := TypeGraph.wellFormed_of_ofDocument h
  obtain ⟨names, hnames, hresolved⟩ := Names.exists_resolve hw (Names.nameable_of_hasTextNames ht)
  have hc : Context.Named ⟨g, names, config, options⟩ := ⟨hw, hresolved⟩
  obtain ⟨ds, hds, hordered⟩ := exists_declarations hc.wellFormed hc.names
  exact ⟨names, ds, hnames, hds, hordered.closed hw hresolved,
    fun _ _ hdone => hc.parts_of_emitSingle hds hdone,
    fun _ _ hdone => hc.files_of_emitSplit hds hdone⟩

theorem exists_closed_crowded : ∃ g names ds,
    TypeGraph.ofDocument Names.crowdedDocument = .ok g ∧ g.HasTextNames ∧
    (Names.resolve g).result = .ok names ∧ Closed ⟨g, names, .default, .default⟩ ds := by
  obtain ⟨g, hg, ht⟩ := Names.exists_crowdedGraph
  obtain ⟨names, ds, hnames, _, hclosed, _⟩ := exists_closed hg ht .default .default
  exact ⟨g, names, ds, hg, ht, hnames, hclosed⟩

end ZigDecl.Generation
