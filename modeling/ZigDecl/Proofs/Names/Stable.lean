import ZigDecl.Proofs.Names.Legal

/-! # Names that stay as they are

A name is given for its proposal and for those that came before it in the same namespace. The
top-levels come before everything else in theirs, and the members of a type have one of their own.
Main statement: the identifiers of top-levels, fields and cases depend on the external names in
front of them and on nothing else in the graph. -/

namespace ZigDecl

namespace Name

/-- What is given for some proposals does not depend on those that follow. -/
theorem assignAll_append (case : NamingCase) (ns : Namespace) (ps qs : List String) :
    (ns.assignAll case (ps ++ qs)).1 =
      (ns.assignAll case ps).1 ++ ((ns.assignAll case ps).2.assignAll case qs).1 := by
  induction ps generalizing ns with
  | nil => rfl
  | cons p ps ih =>
    simp only [List.cons_append, Namespace.assignAll]
    exact congrArg ((ns.assign case p).1 :: ·) (ih (ns.assign case p).2)

/-- The names given in a namespace for some proposals in a row. -/
def namesIn (ns : Namespace) (case : NamingCase) (proposals : List String) : List String :=
  (ns.assignAll case proposals).1.map (·.name)

theorem namesIn_cons (ns : Namespace) (case : NamingCase) (p : String) (ps : List String) :
    namesIn ns case (p :: ps) =
      (ns.assign case p).1.name :: namesIn (ns.assign case p).2 case ps := rfl

theorem namesIn_prefix {ns : Namespace} {case : NamingCase} {ps qs : List String} (h : ps <+: qs) :
    namesIn ns case ps <+: namesIn ns case qs := by
  obtain ⟨more, rfl⟩ := h
  rw [namesIn, namesIn, assignAll_append, List.map_append]
  exact List.prefix_append _ _

end Name

namespace Names

open ZigDecl.Name

variable {g : TypeGraph} {names names' : Names}

/-! ## Top-levels -/

/-- The identifiers of top-levels, which are the first in their namespace. -/
def topIdentifiers (tops : List String) : List String :=
  namesIn (.empty (Zig.keywords ++ Zig.preludeNames)) .pascal tops

/-- A name is kept for a top-level, under the type that it lends its name to or as an alias. -/
def KeepsTop (names : Names) (top name : String) : Prop :=
  match entryFor? top names.rootTypes with
  | some id => (id, name) ∈ names.types
  | none => (top, name) ∈ names.aliases

/-- More names of types and aliases than before, for the same top-levels. -/
structure Extends (names names' : Names) : Prop where
  types : names.types ⊆ names'.types
  aliases : names.aliases ⊆ names'.aliases
  rootTypes : names'.rootTypes = names.rootTypes

theorem Extends.refl (names : Names) : Extends names names :=
  ⟨List.Subset.refl _, List.Subset.refl _, rfl⟩

theorem Extends.trans {names'' : Names} (h : Extends names names') (h' : Extends names' names'') :
    Extends names names'' :=
  ⟨List.Subset.trans h.types h'.types, List.Subset.trans h.aliases h'.aliases,
    h'.rootTypes.trans h.rootTypes⟩

theorem extends_withType (names : Names) (entry : Nat × String) :
    Extends names { names with types := names.types ++ [entry] } :=
  ⟨List.subset_append_left _ _, List.Subset.refl _, rfl⟩

theorem extends_withAlias (names : Names) (entry : String × String) :
    Extends names { names with aliases := names.aliases ++ [entry] } :=
  ⟨List.Subset.refl _, List.subset_append_left _ _, rfl⟩

theorem KeepsTop.mono (h : Extends names names') {top name : String}
    (hk : names.KeepsTop top name) : names'.KeepsTop top name := by
  rw [KeepsTop, h.rootTypes]
  rw [KeepsTop] at hk
  split at hk
  · exact h.types hk
  · exact h.aliases hk

/-- Naming the top-levels keeps for each of them what the namespace gives. -/
theorem keepsTop_giveTops : ∀ (tops : List (String × Ty)) {names names' : Names}
    {ns ns' : Namespace}, (giveTops ns names tops).result = .ok (names', ns') →
    Extends names names' ∧
      List.Forall₂ names'.KeepsTop (tops.map (·.1)) (namesIn ns .pascal (tops.map (·.1)))
  | [], names, names', ns, ns', h => by
    cases h
    exact ⟨.refl names, .nil⟩
  | (top, root) :: rest, names, names', ns, ns', h => by
    rw [giveTops, Logged.result_bind, result_give, ok_bind] at h
    rw [List.map_cons, namesIn_cons]
    dsimp only at h
    split at h
    · next id hroot =>
      obtain ⟨hext, hrest⟩ := keepsTop_giveTops rest h
      refine ⟨(extends_withType names _).trans hext, .cons ?_ hrest⟩
      rw [KeepsTop, hext.rootTypes, hroot]
      exact hext.types (by simp)
    · next hroot =>
      obtain ⟨hext, hrest⟩ := keepsTop_giveTops rest h
      refine ⟨(extends_withAlias names _).trans hext, .cons ?_ hrest⟩
      rw [KeepsTop, hext.rootTypes, hroot]
      exact hext.aliases (by simp)

theorem extends_giveTypes : ∀ (ids : List Nat) {names names' : Names} {ns : Namespace},
    (giveTypes g ns names ids).result = .ok names' → Extends names names'
  | [], names, names', ns, h => by
    cases h
    exact .refl names
  | id :: rest, names, names', ns, h => by
    rw [giveTypes] at h
    split at h
    · exact extends_giveTypes rest h
    · obtain ⟨given, _, hrest⟩ := Logged.exists_of_result_bind h
      exact (extends_withType names _).trans (extends_giveTypes rest hrest)

/-- What is kept for a top-level is found under it. -/
theorem Resolved.topLevelName?_eq (h : Resolved g names) (hw : g.WellFormed) {top name : String}
    (hk : names.KeepsTop top name) : names.topLevelName? top = some name := by
  have haliases : (names.aliases.map (·.1)).Nodup := by
    rw [h.aliases]
    exact hw.nodup.filter _
  rw [KeepsTop] at hk
  rw [topLevelName?]
  split at hk
  · next id hroot =>
    have hnone : entryFor? top names.aliases = none := by
      rw [entryFor?_eq_none_iff, h.aliases, List.mem_filter, ← h.rootTypes, hroot]
      simp
    have htypes : (names.types.map (·.1)).Nodup :=
      h.types.nodup_iff.mpr (TypeGraph.nodup_declarations g)
    rw [hnone, hroot]
    exact entryFor?_of_mem htypes hk
  · rw [entryFor?_of_mem haliases hk]

/-- Top-levels have the identifiers that the names of top-levels alone determine. -/
theorem topLevelNames_of_resolve (hw : g.WellFormed) (h : (resolve g).result = .ok names) :
    List.Forall₂ (fun top name => names.topLevelName? top = some name) g.topNames
      (topIdentifiers g.topNames) := by
  have hresolved := resolved_of_resolve hw h
  rw [resolve] at h
  obtain ⟨⟨start, ns⟩, htops, h⟩ := Logged.exists_of_result_bind h
  obtain ⟨types, htypes, h⟩ := Logged.exists_of_result_bind h
  obtain ⟨fields, _, h⟩ := Logged.exists_of_result_bind h
  obtain ⟨cases, _, h⟩ := Logged.exists_of_result_bind h
  obtain ⟨arms, _, h⟩ := Logged.exists_of_result_bind h
  obtain ⟨-, hkept⟩ := keepsTop_giveTops g.topLevels htops
  have hext := extends_giveTypes g.declarations htypes
  cases h
  refine hkept.imp fun top name hk => hresolved.topLevelName?_eq hw ?_
  exact KeepsTop.mono hext hk

/-! ## Names in two graphs -/

/-- The names given to the members of two owners agree as far as their external names do. -/
structure Agree {α : Type} (externals others : List α) (given given' : List String) : Prop where
  length : given.length = externals.length
  same : externals = others → given = given'
  continued : externals <+: others → given <+: given'

theorem agree_memberNames {α : Type} (text : α → String) (externals others : List α) :
    Agree externals others (memberNames (externals.map text)) (memberNames (others.map text)) where
  length := by rw [length_memberNames, List.length_map]
  same h := by rw [h]
  continued h := namesIn_prefix (h.map text)

/-- In any two graphs that are read from documents and whose names are texts, top-levels have the
same identifiers as far as the top-levels are the same, and so have the fields of records and the
cases of enumerations, whatever else there is in the graphs. -/
theorem stable_resolve {document document' : Value} {g g' : TypeGraph}
    (h : TypeGraph.ofDocument document = .ok g) (h' : TypeGraph.ofDocument document' = .ok g')
    (ht : g.HasTextNames) (ht' : g'.HasTextNames) :
    ∃ names names', (resolve g).result = .ok names ∧ (resolve g').result = .ok names' ∧
      (g.topNames <+: g'.topNames → ∀ top ∈ g.topNames, ∃ name,
        names.topLevelName? top = some name ∧ names'.topLevelName? top = some name) ∧
      (∀ id id' ps ps', g.Reachable id → g.shape? id = some (.record ps) →
        g'.Reachable id' → g'.shape? id' = some (.record ps') →
        ∃ given given', entryFor? id names.fields = some given ∧
          entryFor? id' names'.fields = some given' ∧
          Agree (ps.map (·.name)) (ps'.map (·.name)) given given') ∧
      ∀ id id' cases cases', g.Reachable id → g.shape? id = some (.enum cases) →
        g'.Reachable id' → g'.shape? id' = some (.enum cases') →
        ∃ given given', entryFor? id names.cases = some given ∧
          entryFor? id' names'.cases = some given' ∧ Agree cases cases' given given' := by
  have hw := TypeGraph.wellFormed_of_ofDocument h
  have hw' := TypeGraph.wellFormed_of_ofDocument h'
  obtain ⟨names, hrun, hresolved⟩ := exists_resolve hw (nameable_of_hasTextNames ht)
  obtain ⟨names', hrun', hresolved'⟩ := exists_resolve hw' (nameable_of_hasTextNames ht')
  refine ⟨names, names', hrun, hrun', ?_, ?_, ?_⟩
  · rintro ⟨rest, hrest⟩ top htop
    have htops := topLevelNames_of_resolve hw hrun
    have htops' := topLevelNames_of_resolve hw' hrun'
    obtain ⟨more, hmore⟩ : topIdentifiers g.topNames <+: topIdentifiers g'.topNames :=
      namesIn_prefix ⟨rest, hrest⟩
    rw [← hmore, ← hrest] at htops'
    have hfirst := List.forall₂_take_append _ _ _ htops'
    rw [← htops.length_eq, List.take_left] at hfirst
    have hboth := forall₂_trans (fun _ name _ hn hn' => Exists.intro name (And.intro hn hn'))
      htops hfirst.flip
    exact List.forall₂_same.mp hboth top htop
  · intro id id' ps ps' hr hs hr' hs'
    refine ⟨_, _, hresolved.fields_of_record hr hs, hresolved'.fields_of_record hr' hs', ?_⟩
    have := agree_memberNames Value.display (ps.map (·.name)) (ps'.map (·.name))
    simpa only [List.map_map, Function.comp_def] using this
  · intro id id' cases cases' hr hs hr' hs'
    refine ⟨_, _, hresolved.cases_of_enum hr hs, hresolved'.cases_of_enum hr' hs', ?_⟩
    have := agree_memberNames (fun case : String => case) cases cases'
    rwa [List.map_id', List.map_id'] at this

/-- A document with the top-levels of `crowdedDocument` and other roots; its first record goes on
after the properties of the first one there. -/
def shiftedDocument : Value := .obj [
  ("types", .obj [
    ("Std", .obj [("kind", .str "class"), ("properties", .arr [
      .obj [("name", .str "if")], .obj [("name", .str "IF")], .obj [("name", .str "ﬁ→")],
      .obj [("name", .str "if_2"), ("type", .str "bool")]])])]),
  ("top_levels", .obj [
    ("Node", .obj [("kind", .str "map"), ("values", .obj [("$ref", .str "Std")])]),
    ("node", .str "string"),
    ("Std", .obj [("kind", .str "enum"), ("name", .str "Node"), ("cases", .arr [.str "a"])])])]

/-- The text that a property has for a name. -/
def textName? (p : Property) : Option String :=
  match p.name with
  | .str s => some s
  | _ => none

theorem name_of_textName? {p : Property} {s : String} (h : textName? p = some s) :
    p.name = .str s := by
  unfold textName? at h
  split at h <;> simp_all

/-- The names of the top-levels, the types that they lead to, and the properties of the first. -/
def outline (g : TypeGraph) : List String × List Nat × Option (List (Option String)) :=
  (g.topNames, g.namedTypes, match g.shape? 0 with
    | some (.record ps) => some (ps.map textName?)
    | _ => none)

theorem of_outline_eq {tops : List String} {rest : List Nat} {externals : List String}
    (h : outline g = (tops, 0 :: rest, some (externals.map some))) :
    g.topNames = tops ∧ g.Reachable 0 ∧
      ∃ ps, g.shape? 0 = some (.record ps) ∧ ps.map (·.name) = externals.map Value.str := by
  simp only [outline, Prod.mk.injEq] at h
  obtain ⟨htops, hnamed, hexternals⟩ := h
  refine ⟨htops, TypeGraph.mem_namedTypes_iff.mp (by simp [hnamed]), ?_⟩
  split at hexternals
  · next ps hs =>
    refine ⟨ps, hs, ?_⟩
    have hnames := Option.some.inj hexternals
    rw [← List.forall₂_eq_eq_eq, List.forall₂_map_left_iff, List.forall₂_map_right_iff] at hnames ⊢
    exact hnames.imp fun _ _ => name_of_textName?
  · cases hexternals

theorem stable_resolve_shifted : ∃ g g' names names',
    TypeGraph.ofDocument crowdedDocument = .ok g ∧ TypeGraph.ofDocument shiftedDocument = .ok g' ∧
    g.HasTextNames ∧ g'.HasTextNames ∧
    (resolve g).result = .ok names ∧ (resolve g').result = .ok names' ∧
    (∀ top ∈ ["Node", "node", "Std"], ∃ name,
      names.topLevelName? top = some name ∧ names'.topLevelName? top = some name) ∧
    ∃ given given', entryFor? 0 names.fields = some given ∧
      entryFor? 0 names'.fields = some given' ∧ given.length = 3 ∧ given <+: given' := by
  obtain ⟨g, hg, houtline⟩ := exists_of_any (x := TypeGraph.ofDocument crowdedDocument)
    (p := fun g => outline g = (["Node", "node", "Std"], [0, 1, 2],
      some (["if", "IF", "ﬁ→"].map some))) (by decide +kernel)
  obtain ⟨g', hg', houtline'⟩ := exists_of_any (x := TypeGraph.ofDocument shiftedDocument)
    (p := fun g => outline g = (["Node", "node", "Std"], [0, 1],
      some (["if", "IF", "ﬁ→", "if_2"].map some))) (by with_unfolding_all rfl)
  obtain ⟨htops, hr, ps, hs, hps⟩ := of_outline_eq (of_decide_eq_true houtline)
  obtain ⟨htops', hr', ps', hs', hps'⟩ := of_outline_eq (of_decide_eq_true houtline')
  have ht := (TypeGraph.hasTexts_of_ofDocument (by with_unfolding_all rfl) hg).hasTextNames
    (TypeGraph.wellFormed_of_ofDocument hg).closed
  have ht' := (TypeGraph.hasTexts_of_ofDocument (by with_unfolding_all rfl) hg').hasTextNames
    (TypeGraph.wellFormed_of_ofDocument hg').closed
  obtain ⟨names, names', hrun, hrun', htopNames, hfields, -⟩ := stable_resolve hg hg' ht ht'
  obtain ⟨given, given', hgiven, hgiven', hagree⟩ := hfields 0 0 ps ps' hr hs hr' hs'
  rw [hps, hps'] at hagree
  have hsame : g.topNames <+: g'.topNames := by
    rw [htops, htops']
  rw [htops] at htopNames hsame
  exact ⟨g, g', names, names', hg, hg', ht, ht', hrun, hrun', htopNames hsame, given, given',
    hgiven, hgiven', hagree.length, hagree.continued ⟨[.str "if_2"], rfl⟩⟩

end Names

end ZigDecl
