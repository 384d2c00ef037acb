import ZigDecl.Proofs.Generation.Mentions
import ZigDecl.Proofs.Names.Resolved
import ZigDecl.Proofs.Steps

/-! # The declarations of a graph in order

`inOrder` lists what has to be declared. Main statement: the declarations that are emitted are these
in this order, each under a name of its own; every top-level is denoted by one of the names, and so
is everything that a declaration refers to. -/

namespace ZigDecl.Generation

open Zig (Expr Spells Leads)

variable {g : TypeGraph} {c : Context}

/-- A declaration goes by a name: an alias by that of its top-level, and a type by its own. -/
def Declaration.HasName (c : Context) (name : String) : Declaration → Prop
  | .typeAlias top root =>
    (top, root) ∈ c.graph.topLevels ∧ entryFor? top c.names.aliases = some name
  | .type id => id ∈ c.graph.declarations ∧ c.names.typeName? id = some name

/-- Whether a top-level lends its name to its root: it is the first one with this root, and the root
is declared. -/
def lendsName (g : TypeGraph) (top : String × Ty) : Bool :=
  match top.2 with
  | .named id => g.isDeclared id && Names.firstRooted? g.topLevels id == some top
  | _ => false

/-- What is declared for a graph, in order: the top-levels that do not lend their names as aliases,
and then the records, the declared unions and the enumerations that the top-levels lead to. -/
def inOrder (g : TypeGraph) : List Declaration :=
  (g.topLevels.filter fun top => !lendsName g top).map (fun top => .typeAlias top.1 top.2) ++
    (g.records ++ g.unions ++ g.enums).map .type

/-- The declaration that a top-level is denoted by: that of its root if it lends its name to it, and
else an alias of its root. -/
def denotedBy (g : TypeGraph) (top : String × Ty) : Declaration :=
  match lendsName g top, top.2 with
  | true, .named id => .type id
  | _, root => .typeAlias top.1 root

/-! ## What has to be declared -/

theorem lendsName_iff {top : String × Ty} : lendsName g top = true ↔
    ∃ id, top.2 = .named id ∧ g.isDeclared id = true ∧
      Names.firstRooted? g.topLevels id = some top := by
  rw [lendsName]
  cases top.2 with
  | named id => simp
  | _ => simp

/-- A top-level lends its name just if it has an entry among those that do. -/
theorem lendsName_eq (hn : g.topNames.Nodup) {top : String × Ty} (ht : top ∈ g.topLevels) :
    lendsName g top = (entryFor? top.1 (Names.rootTypesOf g)).isSome := by
  rw [Bool.eq_iff_iff, lendsName_iff, Option.isSome_iff_exists]
  constructor
  · rintro ⟨id, hroot, hd, hfirst⟩
    refine ⟨id, (Names.entryFor?_rootTypesOf_iff hn).mpr ⟨hd, ?_⟩⟩
    rw [hfirst, ← hroot]
  · rintro ⟨id, h⟩
    obtain ⟨hd, hfirst⟩ := (Names.entryFor?_rootTypesOf_iff hn).mp h
    -- no other top-level has this name, so the one that lends it is this one
    have hsame : (top.1, Ty.named id) = top :=
      List.inj_on_of_nodup_map hn (List.mem_of_find?_eq_some hfirst) ht rfl
    exact ⟨id, by rw [← hsame], hd, by rw [hfirst, hsame]⟩

theorem nodup_types (g : TypeGraph) : (g.records ++ g.unions ++ g.enums).Nodup :=
  (TypeGraph.perm_declarations g).nodup_iff.mpr (TypeGraph.nodup_declarations g)

/-- Nothing is declared twice. -/
theorem nodup_inOrder (hw : g.WellFormed) : (inOrder g).Nodup := by
  refine List.Nodup.append ?_ ?_ ?_
  · have htops : g.topLevels.Nodup := hw.nodup.of_map _
    refine (htops.filter _).map_on fun a _ b _ h => ?_
    obtain ⟨h₁, h₂⟩ := Declaration.typeAlias.inj h
    exact Prod.ext h₁ h₂
  · exact (nodup_types g).map_on fun a _ b _ h => Declaration.type.inj h
  · intro d hd hd'
    obtain ⟨top, _, rfl⟩ := List.mem_map.mp hd
    obtain ⟨id, _, h⟩ := List.mem_map.mp hd'
    cases h

/-- A type is declared in order just if it needs a declaration and the top-levels lead to it. -/
theorem type_mem_inOrder_iff {id : Nat} :
    .type id ∈ inOrder g ↔ g.Reachable id ∧ g.isDeclared id = true := by
  rw [← TypeGraph.mem_declarations, ← (TypeGraph.perm_declarations g).mem_iff, inOrder,
    List.mem_append]
  constructor
  · rintro (h | h)
    · obtain ⟨top, _, h⟩ := List.mem_map.mp h
      cases h
    · obtain ⟨j, hj, h⟩ := List.mem_map.mp h
      cases h
      exact hj
  · exact fun h => Or.inr (List.mem_map_of_mem h)

theorem typeAlias_mem_inOrder_iff {top : String} {root : Ty} :
    .typeAlias top root ∈ inOrder g ↔
      (top, root) ∈ g.topLevels ∧ lendsName g (top, root) = false := by
  rw [inOrder, List.mem_append]
  constructor
  · rintro (h | h)
    · obtain ⟨e, he, h⟩ := List.mem_map.mp h
      cases h
      simpa using List.mem_filter.mp he
    · obtain ⟨j, _, h⟩ := List.mem_map.mp h
      cases h
  · rintro ⟨hmem, hlends⟩
    exact Or.inl (List.mem_map.mpr ⟨(top, root), by simp [hmem, hlends], rfl⟩)

/-! ## Every declaration has a name of its own -/

theorem entryFor?_aliases (hw : c.graph.WellFormed) (hn : Names.Resolved c.graph c.names)
    {top : String × Ty} (ht : top ∈ c.graph.topLevels) :
    (∃ name, entryFor? top.1 c.names.aliases = some name) ↔ lendsName c.graph top = false := by
  have hmem : top.1 ∈ c.graph.topNames := List.mem_map_of_mem ht
  rw [exists_entryFor?_iff, hn.aliases, List.mem_filter, lendsName_eq hw.nodup ht]
  simp [hmem]

theorem entryFor?_aliases_eq_none (hw : c.graph.WellFormed) (hn : Names.Resolved c.graph c.names)
    {top : String × Ty} (ht : top ∈ c.graph.topLevels) (hl : lendsName c.graph top = true) :
    entryFor? top.1 c.names.aliases = none := by
  have halias := entryFor?_aliases hw hn ht
  rw [← Option.not_isSome_iff_eq_none, Option.isSome_iff_exists, halias, hl]
  simp

theorem Declaration.HasName.unique {name other : String} {d : Declaration}
    (h : d.HasName c name) (h' : d.HasName c other) : name = other := by
  cases d with
  | typeAlias top root => exact Option.some.inj (h.2.symm.trans h'.2)
  | type id => exact Option.some.inj (h.2.symm.trans h'.2)

/-- A name belongs to one declaration only. -/
theorem Declaration.HasName.inj (hw : c.graph.WellFormed) (hn : Names.Resolved c.graph c.names)
    {name : String} {d d' : Declaration} (h : d.HasName c name) (h' : d'.HasName c name) :
    d = d' := by
  obtain ⟨ns, hd⟩ := hn.declared
  obtain ⟨haliases, _, hdisjoint⟩ := List.nodup_append.mp hd.nodup
  have hboth : ∀ {top : String} {id : Nat}, entryFor? top c.names.aliases = some name →
      c.names.typeName? id = some name → False := fun ha ht =>
    hdisjoint name (List.mem_map_of_mem (mem_of_entryFor? ha)) name
      (List.mem_map_of_mem (mem_of_entryFor? ht)) rfl
  cases d with
  | typeAlias top root =>
    cases d' with
    | typeAlias top' root' =>
      have htop : top = top' := congrArg Prod.fst (List.inj_on_of_nodup_map haliases
        (mem_of_entryFor? h.2) (mem_of_entryFor? h'.2) rfl)
      have hroot := List.inj_on_of_nodup_map hw.nodup h.1 h'.1 htop
      cases hroot
      rfl
    | type id => exact (hboth h.2 h'.2).elim
  | type id =>
    cases d' with
    | typeAlias top root => exact (hboth h'.2 h.2).elim
    | type id' => exact congrArg _ (hn.typeName?_inj h.2 h'.2)

/-- The name of a top-level is that of the declaration that it is denoted by. -/
theorem exists_topLevelName? (hw : c.graph.WellFormed) (hn : Names.Resolved c.graph c.names)
    {top : String × Ty} (ht : top ∈ c.graph.topLevels) :
    ∃ name, c.names.topLevelName? top.1 = some name ∧
      (denotedBy c.graph top).HasName c name := by
  cases hl : lendsName c.graph top with
  | false =>
    obtain ⟨name, hname⟩ := (entryFor?_aliases hw hn ht).mpr hl
    refine ⟨name, by rw [Names.topLevelName?, hname], ?_⟩
    rw [denotedBy, hl]
    exact ⟨ht, hname⟩
  | true =>
    have hnone := entryFor?_aliases_eq_none hw hn ht hl
    obtain ⟨id, hroot, hd, hfirst⟩ := lendsName_iff.mp hl
    have hlent : entryFor? top.1 c.names.rootTypes = some id := by
      rw [hn.rootTypes, Names.entryFor?_rootTypesOf_iff hw.nodup]
      exact ⟨hd, by rw [hfirst, ← hroot]⟩
    have hid : id ∈ c.graph.declarations := TypeGraph.mem_declarations.mpr
      ⟨⟨id, TypeGraph.mem_roots.mpr ⟨top, ht, by rw [hroot]; rfl⟩, .refl⟩, hd⟩
    obtain ⟨name, hname⟩ := hn.exists_typeName?_iff.mpr hid
    refine ⟨name, by rw [Names.topLevelName?, hnone, hlent]; exact hname, ?_⟩
    rw [denotedBy, hl, hroot]
    exact ⟨hid, hname⟩

theorem denotedBy_mem_inOrder {top : String × Ty} (ht : top ∈ g.topLevels) :
    denotedBy g top ∈ inOrder g := by
  cases hl : lendsName g top with
  | false =>
    rw [denotedBy, hl]
    exact typeAlias_mem_inOrder_iff.mpr ⟨ht, hl⟩
  | true =>
    obtain ⟨id, hroot, hd, _⟩ := lendsName_iff.mp hl
    rw [denotedBy, hl, hroot]
    exact type_mem_inOrder_iff.mpr
      ⟨⟨id, TypeGraph.mem_roots.mpr ⟨top, ht, by rw [hroot]; rfl⟩, .refl⟩, hd⟩

/-- The aliases that are declared are the top-levels that do not lend their names. -/
theorem aliases_inOrder (hw : c.graph.WellFormed) (hn : Names.Resolved c.graph c.names) :
    ∀ (tops : List (String × Ty)), (∀ top ∈ tops, top ∈ c.graph.topLevels) →
      (tops.filterMap c.aliasOf).map (·.2) =
        (tops.filter fun top => !lendsName c.graph top).map fun top => .typeAlias top.1 top.2
  | [], _ => rfl
  | top :: tops, h => by
    have ih := aliases_inOrder hw hn tops fun t ht => h t (List.mem_cons_of_mem _ ht)
    cases hl : lendsName c.graph top with
    | true =>
      have hnone := entryFor?_aliases_eq_none hw hn (h top (by simp)) hl
      rw [List.filterMap_cons, Context.aliasOf, hnone, List.filter_cons_of_neg (by simp [hl])]
      exact ih
    | false =>
      obtain ⟨name, hname⟩ := (entryFor?_aliases hw hn (h top (by simp))).mpr hl
      rw [List.filterMap_cons, Context.aliasOf, hname, List.filter_cons_of_pos (by simp [hl]),
        List.map_cons, ← ih]
      rfl

/-- Declarations under their names. -/
structure Ordered (c : Context) (ds : List (String × Declaration)) : Prop where
  order : ds.map (·.2) = inOrder c.graph
  named : ∀ e ∈ ds, e.2.HasName c e.1

theorem Context.typeName_eq {id : Nat} {name : String} (h : c.names.typeName? id = some name) :
    c.typeName id = .ok name := by
  rw [typeName, Names.typeName_eq h]
  rfl

theorem exists_declarationOf (hn : Names.Resolved c.graph c.names) {id : Nat}
    (hid : id ∈ c.graph.declarations) : ∃ e, c.declarationOf id = .ok e ∧
      e.2 = .type id ∧ c.names.typeName? id = some e.1 := by
  obtain ⟨name, hname⟩ := hn.exists_typeName?_iff.mpr hid
  refine ⟨(name, .type id), ?_, rfl, hname⟩
  rw [Context.declarationOf, Context.typeName_eq hname]
  rfl

theorem map_snd_declarationOf {ids : List Nat} {es : List (String × Declaration)}
    (h : List.Forall₂ (fun id e => e.2 = .type id ∧ c.names.typeName? id = some e.1) ids es) :
    es.map (·.2) = ids.map .type := by
  induction h with
  | nil => rfl
  | cons h _ ih => rw [List.map_cons, List.map_cons, ih, h.1]

/-- What has to be declared can be emitted in order. -/
theorem exists_declarations (hw : c.graph.WellFormed) (hn : Names.Resolved c.graph c.names) :
    ∃ ds, c.declarations = .ok ds ∧ Ordered c ds := by
  have hmem : ∀ id ∈ c.graph.records ++ c.graph.unions ++ c.graph.enums,
      id ∈ c.graph.declarations := fun id hid => (TypeGraph.perm_declarations c.graph).subset hid
  obtain ⟨types, hrun, htypes⟩ := exists_mapM fun id hid => exists_declarationOf hn (hmem id hid)
  refine ⟨c.graph.topLevels.filterMap c.aliasOf ++ types, ?_, ?_, ?_⟩
  · rw [Context.declarations, hrun]
    rfl
  · rw [List.map_append, aliases_inOrder hw hn _ fun _ h => h, inOrder]
    exact congrArg (_ ++ ·) (map_snd_declarationOf htypes)
  · intro e he
    rcases List.mem_append.mp he with he | he
    · obtain ⟨top, ht, halias⟩ := List.mem_filterMap.mp he
      obtain ⟨name, hname, rfl⟩ := Option.map_eq_some_iff.mp halias
      exact ⟨ht, hname⟩
    · obtain ⟨id, hid, hd, hname⟩ := forall_mem_of_forall₂ htypes e he
      rw [hd]
      exact ⟨hmem id hid, hname⟩

variable {ds : List (String × Declaration)}

/-- No two declarations have the same name. -/
theorem Ordered.nodup (h : Ordered c ds) (hw : c.graph.WellFormed)
    (hn : Names.Resolved c.graph c.names) : (ds.map (·.1)).Nodup := by
  have hds : (ds.map (·.2)).Nodup := h.order ▸ nodup_inOrder hw
  refine (hds.of_map _).map_on fun a ha b hb heq => ?_
  exact Prod.ext heq ((h.named a ha).inj hw hn (heq ▸ h.named b hb))

/-- A name with the declaration that goes by it is among the ordered ones. -/
theorem Ordered.mem (h : Ordered c ds) {name : String} {d : Declaration}
    (hd : d ∈ inOrder c.graph) (hname : d.HasName c name) : (name, d) ∈ ds := by
  rw [← h.order] at hd
  obtain ⟨⟨other, d⟩, he, rfl⟩ := List.mem_map.mp hd
  rwa [hname.unique (h.named _ he)]

theorem eq_of_named (h : ∀ e ∈ ds, e.2.HasName c e.1) : ∀ {others : List (String × Declaration)},
    (∀ e ∈ others, e.2.HasName c e.1) → ds.map (·.2) = others.map (·.2) → ds = others := by
  induction ds with
  | nil => exact fun _ heq => (List.map_eq_nil_iff.mp heq.symm).symm
  | cons e ds ih =>
    rintro (_ | ⟨e', others⟩) h' heq
    · cases heq
    · obtain ⟨(hd : e.2 = e'.2), hrest⟩ := List.cons.inj heq
      have hname : e.1 = e'.1 := (h e (by simp)).unique (hd ▸ h' e' (by simp))
      rw [Prod.ext hname hd, ih (fun x hx => h x (by simp [hx])) (fun x hx => h' x (by simp [hx]))
        hrest]

/-- There is one way to list the declarations under their names. -/
theorem Ordered.unique {others : List (String × Declaration)} (h : Ordered c ds)
    (h' : Ordered c others) : ds = others :=
  eq_of_named h.named h'.named (h.order.trans h'.order.symm)

end ZigDecl.Generation
