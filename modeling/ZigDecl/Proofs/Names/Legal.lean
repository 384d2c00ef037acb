import ZigDecl.Proofs.Names.Resolved

/-! # Legal and distinct names

Main statement: a graph whose names are texts gets names that are identifiers of Zig, and no two of
them in one namespace are the same. -/

namespace ZigDecl.Names

open ZigDecl.Name

variable {g : TypeGraph} {names : Names}

/-- Names given for the proposals of one owner: one for each of them in order, all of them
identifiers, and no two the same. -/
structure LegalMembers (proposals given : List String) : Prop where
  derives : List.Forall₂ (Derives .snake) proposals given
  identifiers : ∀ name ∈ given, Zig.isIdentifier name = true
  nodup : given.Nodup

theorem legalMembers_memberNames (proposals : List String) :
    LegalMembers proposals (memberNames proposals) :=
  have h := given_memberNames proposals
  ⟨h.derives, h.isIdentifier (List.Subset.refl _), h.nodup⟩

/-- The names of a graph are legal and distinct: those of types and aliases together, and those of
the members of each type. -/
structure Legal (g : TypeGraph) (names : Names) : Prop where
  nodup : names.declaredNames.Nodup
  identifiers : ∀ name ∈ names.declaredNames, Zig.isIdentifier name = true ∧ name ≠ "std"
  fields : ∀ id ps, g.Reachable id → g.shape? id = some (.record ps) →
    ∃ given, entryFor? id names.fields = some given ∧
      LegalMembers (ps.map fun p => p.name.display) given
  cases : ∀ id cases, g.Reachable id → g.shape? id = some (.enum cases) →
    ∃ given, entryFor? id names.cases = some given ∧ LegalMembers cases given
  arms : ∀ id ms, g.Reachable id → g.shape? id = some (.union ms) → 2 ≤ (nonNulls ms).length →
    ∃ proposals given, List.Forall₂ (Proposes g names) (nonNulls ms) proposals ∧
      entryFor? id names.arms = some given ∧ LegalMembers proposals given

theorem Resolved.legal (h : Resolved g names) : Legal g names where
  nodup := by
    obtain ⟨ns, hd⟩ := h.declared
    exact hd.nodup
  identifiers name hname := by
    obtain ⟨ns, hd⟩ := h.declared
    obtain ⟨hid, hprelude⟩ := hd.isIdentifier hname
    exact ⟨hid, by simpa [Zig.preludeNames] using hprelude⟩
  fields id ps hr hs := ⟨_, h.fields_of_record hr hs, legalMembers_memberNames _⟩
  cases id cases hr hs := ⟨_, h.cases_of_enum hr hs, legalMembers_memberNames _⟩
  arms id ms hr hs hlen := by
    obtain ⟨proposals, hps, hgiven⟩ := h.arms_of_union hr hs hlen
    exact ⟨proposals, _, hps, hgiven, legalMembers_memberNames _⟩

/-- Every graph that is read from a document and whose names are texts gets names for all its types,
aliases and members, and they are legal and distinct, whatever the texts hold. -/
theorem legal_resolve {document : Value} {g : TypeGraph}
    (h : TypeGraph.ofDocument document = .ok g) (ht : g.HasTextNames) :
    ∃ names, (resolve g).result = .ok names ∧ Legal g names := by
  obtain ⟨names, hrun, hresolved⟩ := exists_resolve (TypeGraph.wellFormed_of_ofDocument h)
    (nameable_of_hasTextNames ht)
  exact ⟨names, hrun, hresolved.legal⟩

/-- A document whose names run into keywords, into the prelude and into each other. -/
def crowdedDocument : Value := .obj [
  ("types", .obj [
    ("Node", .obj [("kind", .str "class"), ("name", .str "std"), ("properties", .arr [
      .obj [("name", .str "if"), ("type", .str "string")],
      .obj [("name", .str "IF"), ("type", .obj [("$ref", .str "Node")]), ("optional", .bool true)],
      .obj [("name", .str "ﬁ→"), ("type", .obj [("$ref", .str "Choice")])]])]),
    ("Choice", .obj [("kind", .str "union"), ("members", .arr [
      .obj [("$ref", .str "Node")], .str "null", .str "integer",
      .obj [("kind", .str "enum"), ("cases", .arr [.str "a b", .str "a-b", .str ""])]])])]),
  ("top_levels", .obj [
    ("Node", .obj [("$ref", .str "Node")]),
    ("node", .obj [("$ref", .str "Node")]),
    ("Std", .obj [("kind", .str "array"), ("items", .obj [("$ref", .str "Node")])])])]

theorem exists_crowdedGraph : ∃ g, TypeGraph.ofDocument crowdedDocument = .ok g ∧
    g.HasTextNames := by
  obtain ⟨g, hg⟩ : ∃ g, TypeGraph.ofDocument crowdedDocument = .ok g :=
    exists_of_isOk (by decide +kernel)
  have ht := TypeGraph.hasTexts_of_ofDocument (by with_unfolding_all rfl) hg
  exact ⟨g, hg, ht.hasTextNames (TypeGraph.wellFormed_of_ofDocument hg).closed⟩

theorem legal_resolve_crowded : ∃ g names, TypeGraph.ofDocument crowdedDocument = .ok g ∧
    g.HasTextNames ∧ (resolve g).result = .ok names ∧ Legal g names := by
  obtain ⟨g, hg, ht⟩ := exists_crowdedGraph
  obtain ⟨names, hrun, hlegal⟩ := legal_resolve hg ht
  exact ⟨g, names, hg, ht, hrun, hlegal⟩

end ZigDecl.Names
