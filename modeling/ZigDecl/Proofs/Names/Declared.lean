import ZigDecl.Names.Resolve
import ZigDecl.Proofs.Graph.Texts
import ZigDecl.Proofs.Name.Assign
import ZigDecl.Proofs.Names.Entries

/-! # The names of types and aliases

`Clean` is what stays true of the namespace of declarations, and `Declared` says that it holds
exactly the names given so far. Main statement: naming the top-levels and then the types that are
left gives a name to every declared type that the top-levels lead to, and to no other. -/

namespace ZigDecl.Names

open ZigDecl.Name

variable {g : TypeGraph} {names : Names} {ns : Namespace}

/-- A proposal that is a text is given what the namespace assigns. -/
@[simp] theorem result_give (label : String) (case : NamingCase) (ns : Namespace) (text : String) :
    (give label case ns (.str text)).result =
      .ok ((ns.assign case text).1.name, (ns.assign case text).2) := by
  simp only [give]
  split <;> rfl

/-- Only a text is given a name. -/
theorem isText_of_give {label : String} {case : NamingCase} {ns : Namespace} {proposal : Value}
    {given : String × Namespace} (h : (give label case ns proposal).result = .ok given) :
    proposal.isText = true := by
  cases proposal with
  | str text => rfl
  | _ => cases h

/-! ## Top-levels that lend their names -/

/-- The first top-level that is rooted in a named type. -/
def firstRooted? (tops : List (String × Ty)) (id : Nat) : Option (String × Ty) :=
  tops.find? (·.2 == .named id)

/-- What is found after the first top-levels: each of them that is the first one with its declared
root, and no other. -/
structure Lends (g : TypeGraph) (tops : List (String × Ty)) (found : List (String × Nat)) :
    Prop where
  first : ∀ e ∈ found, g.isDeclared e.2 = true ∧ firstRooted? tops e.2 = some (e.1, .named e.2)
  all : ∀ top ∈ tops, ∀ id, top.2 = .named id → g.isDeclared id = true → id ∈ found.map (·.2)
  nodup : (found.map (·.2)).Nodup
  names : (found.map (·.1)).Sublist (tops.map (·.1))

/-- A top-level that lends nothing, for it has no declared root or not the first. -/
theorem Lends.skip {tops : List (String × Ty)} {found : List (String × Nat)}
    (h : Lends g tops found) {top : String × Ty}
    (hall : ∀ id, top.2 = .named id → g.isDeclared id = true → id ∈ found.map (·.2)) :
    Lends g (tops ++ [top]) found where
  first e he := by
    obtain ⟨hd, hfirst⟩ := h.first e he
    refine ⟨hd, ?_⟩
    rw [firstRooted?] at hfirst
    rw [firstRooted?, List.find?_append, hfirst, Option.some_or]
  all t ht := by
    rcases List.mem_append.mp ht with ht | ht
    · exact h.all t ht
    · rw [List.mem_singleton.mp ht]
      exact hall
  nodup := h.nodup
  names := by
    rw [List.map_append]
    exact h.names.trans (List.sublist_append_left _ _)

theorem Lends.take {tops : List (String × Ty)} {found : List (String × Nat)}
    (h : Lends g tops found) (name : String) {id : Nat} (hd : g.isDeclared id = true)
    (hid : id ∉ found.map (·.2)) :
    Lends g (tops ++ [(name, .named id)]) (found ++ [(name, id)]) where
  first e he := by
    rw [firstRooted?, List.find?_append]
    rcases List.mem_append.mp he with he | he
    · obtain ⟨hd, hfirst⟩ := h.first e he
      rw [firstRooted?] at hfirst
      exact ⟨hd, by rw [hfirst, Option.some_or]⟩
    · rw [List.mem_singleton.mp he]
      -- an earlier top-level rooted in the type would have lent its name
      have hnone : tops.find? (·.2 == .named id) = none := by
        rw [List.find?_eq_none]
        exact fun top htop heq => hid (h.all top htop id (beq_iff_eq.mp heq) hd)
      exact ⟨hd, by simp [hnone]⟩
  all t ht j hj hdj := by
    rw [List.map_append, List.mem_append]
    rcases List.mem_append.mp ht with ht | ht
    · exact Or.inl (h.all t ht j hj hdj)
    · rw [List.mem_singleton.mp ht] at hj
      cases hj
      exact Or.inr (by simp)
  nodup := by
    rw [List.map_append]
    exact h.nodup.append (by simp) (by simpa using hid)
  names := by
    rw [List.map_append, List.map_append]
    exact h.names.append (by simp)

theorem Lends.lend {tops : List (String × Ty)} {found : List (String × Nat)}
    (h : Lends g tops found) (top : String × Ty) : Lends g (tops ++ [top]) (lend g found top) := by
  obtain ⟨name, root⟩ := top
  cases root with
  | named id =>
    rw [Names.lend]
    by_cases hd : g.isDeclared id = true
    · by_cases hid : id ∈ found.map (·.2)
      · have hany : found.any (·.2 == id) = true := by
          obtain ⟨e, he, rfl⟩ := List.mem_map.mp hid
          exact List.any_eq_true.mpr ⟨e, he, by simp⟩
        rw [if_neg (by simp [hany])]
        exact h.skip fun j hj _ => by cases hj; exact hid
      · have hany : found.any (·.2 == id) = false := by
          rw [List.any_eq_false]
          intro e he heq
          exact hid (List.mem_map.mpr ⟨e, he, beq_iff_eq.mp heq⟩)
        rw [if_pos (by simp [hd, hany])]
        exact h.take name hd hid
    · rw [if_neg (by simp [hd])]
      exact h.skip fun j hj hdj => by cases hj; exact absurd hdj hd
  | _ => exact h.skip fun j hj => by cases hj

theorem lends_foldl : ∀ (rest : List (String × Ty)) {tops : List (String × Ty)}
    {found : List (String × Nat)}, Lends g tops found →
    Lends g (tops ++ rest) (rest.foldl (lend g) found)
  | [], tops, found, h => by simpa using h
  | top :: rest, tops, found, h => by
    have := lends_foldl rest (h.lend top)
    rwa [List.append_assoc] at this

theorem lends_nil (g : TypeGraph) : Lends g [] [] :=
  ⟨by simp, by simp, List.nodup_nil, List.Sublist.refl []⟩

theorem lends_rootTypesOf (g : TypeGraph) : Lends g g.topLevels (rootTypesOf g) :=
  lends_foldl g.topLevels (lends_nil g)

/-- The types that top-levels lend their names to, in the order of the top-levels. -/
def lentTypes (rootTypes : List (String × Nat)) (tops : List String) : List Nat :=
  tops.filterMap (entryFor? · rootTypes)

theorem mem_lentTypes {rootTypes : List (String × Nat)} {tops : List String} {id : Nat} :
    id ∈ lentTypes rootTypes tops ↔ ∃ top ∈ tops, entryFor? top rootTypes = some id := by
  simp only [lentTypes, List.mem_filterMap]

/-- No two top-levels lend their names to the same type. -/
theorem nodup_lentTypes (hn : g.topNames.Nodup) : (lentTypes (rootTypesOf g) g.topNames).Nodup := by
  refine hn.filterMap fun a b id ha hb => ?_
  have ha := mem_of_entryFor? ha
  have hb := mem_of_entryFor? hb
  exact congrArg Prod.fst (List.inj_on_of_nodup_map (lends_rootTypesOf g).nodup ha hb rfl)

/-- A top-level lends its name to a type if it is the first one rooted in it. -/
theorem entryFor?_rootTypesOf_iff (hn : g.topNames.Nodup) {top : String} {id : Nat} :
    entryFor? top (rootTypesOf g) = some id ↔
      g.isDeclared id = true ∧ firstRooted? g.topLevels id = some (top, .named id) := by
  have hl := lends_rootTypesOf g
  constructor
  · exact fun h => hl.first _ (mem_of_entryFor? h)
  · rintro ⟨hd, hfirst⟩
    have hmem : id ∈ (rootTypesOf g).map (·.2) :=
      hl.all _ (List.mem_of_find?_eq_some hfirst) id rfl hd
    obtain ⟨⟨other, j⟩, he, rfl⟩ := List.mem_map.mp hmem
    obtain ⟨_, hother⟩ := hl.first _ he
    rw [hfirst] at hother
    cases hother
    exact entryFor?_of_mem (hn.sublist hl.names) he

theorem mem_declarations_of_lentTypes (hn : g.topNames.Nodup) {id : Nat}
    (h : id ∈ lentTypes (rootTypesOf g) g.topNames) : id ∈ g.declarations := by
  obtain ⟨top, _, htop⟩ := mem_lentTypes.mp h
  obtain ⟨hd, hfirst⟩ := (entryFor?_rootTypesOf_iff hn).mp htop
  have hroot : id ∈ g.roots :=
    TypeGraph.mem_roots.mpr ⟨_, List.mem_of_find?_eq_some hfirst, rfl⟩
  exact TypeGraph.mem_declarations.mpr ⟨⟨id, hroot, .refl⟩, hd⟩

/-! ## The namespace of declarations -/

/-- What stays true of the namespace of declarations. -/
structure Clean (ns : Namespace) : Prop where
  forbidden : ns.forbidden = Zig.keywords ++ Zig.preludeNames
  nodup : ns.used.Nodup
  allowed : ∀ name ∈ ns.used, name ∉ ns.forbidden
  form : ∀ name ∈ ns.used, Zig.hasIdentifierForm name.toList = true

theorem Clean.assign (h : Clean ns) (case : NamingCase) (proposal : String) :
    Clean (ns.assign case proposal).2 := by
  obtain ⟨hallowed, hunused⟩ := isAvailable_iff.mp (isAvailable_assign ns case proposal)
  refine ⟨by rw [forbidden_assign, h.forbidden], ?_, ?_, ?_⟩
  · rw [used_assign]
    exact h.nodup.append (List.nodup_singleton _) (by simpa using hunused)
  · rw [used_assign, forbidden_assign]
    intro name hname
    rcases List.mem_append.mp hname with hname | hname
    · exact h.allowed name hname
    · rwa [List.mem_singleton.mp hname]
  · rw [used_assign]
    intro name hname
    rcases List.mem_append.mp hname with hname | hname
    · exact h.form name hname
    · rw [List.mem_singleton.mp hname]
      exact (derives_assign ns case proposal).hasIdentifierForm

/-- The declared names, those of the aliases first. -/
def declaredNames (names : Names) : List String :=
  names.aliases.map (·.2) ++ names.types.map (·.2)

/-- The namespace is clean and has in use the names given so far. -/
structure Declared (names : Names) (ns : Namespace) : Prop where
  clean : Clean ns
  used : names.declaredNames.Perm ns.used

theorem Declared.nodup (h : Declared names ns) : names.declaredNames.Nodup :=
  h.used.nodup_iff.mpr h.clean.nodup

theorem Declared.withAlias (h : Declared names ns) (top : String) (case : NamingCase)
    (proposal : String) :
    Declared { names with aliases := names.aliases ++ [(top, (ns.assign case proposal).1.name)] }
      (ns.assign case proposal).2 := by
  refine ⟨h.clean.assign case proposal, ?_⟩
  rw [used_assign, declaredNames, List.map_append, List.append_assoc]
  exact (List.perm_append_comm.append_left _).trans
    ((List.append_assoc _ _ _).symm ▸ h.used.append_right _)

theorem Declared.withType (h : Declared names ns) (id : Nat) (case : NamingCase)
    (proposal : String) :
    Declared { names with types := names.types ++ [(id, (ns.assign case proposal).1.name)] }
      (ns.assign case proposal).2 := by
  refine ⟨h.clean.assign case proposal, ?_⟩
  rw [used_assign, declaredNames, List.map_append, ← List.append_assoc]
  exact h.used.append_right _

/-- A declared name is an identifier, and not the one that the prelude binds. -/
theorem Declared.isIdentifier (h : Declared names ns) {name : String}
    (hname : name ∈ names.declaredNames) :
    Zig.isIdentifier name = true ∧ name ∉ Zig.preludeNames := by
  have hused := h.used.mem_iff.mp hname
  have hallowed := h.clean.allowed name hused
  rw [h.clean.forbidden, List.mem_append, not_or] at hallowed
  exact ⟨isIdentifier_iff.mpr ⟨h.clean.form name hused, hallowed.1⟩, hallowed.2⟩

/-! ## Naming the top-levels and the types -/

/-- Every top-level is named, as the type that it lends its name to or as an alias. -/
theorem giveTops_result : ∀ (tops : List (String × Ty)) {names : Names} {ns : Namespace},
    Declared names ns →
    ∃ names' ns', (giveTops ns names tops).result = .ok (names', ns') ∧ Declared names' ns' ∧
      names'.rootTypes = names.rootTypes ∧
      names'.types.map (·.1) =
        names.types.map (·.1) ++ lentTypes names.rootTypes (tops.map (·.1)) ∧
      names'.aliases.map (·.1) = names.aliases.map (·.1) ++
        (tops.map (·.1)).filter fun top => (entryFor? top names.rootTypes).isNone
  | [], names, ns, h => ⟨names, ns, rfl, h, rfl, by simp [lentTypes], by simp⟩
  | (top, root) :: rest, names, ns, h => by
    rw [giveTops, Logged.result_bind, result_give]
    cases hroot : entryFor? top names.rootTypes with
    | some id =>
      obtain ⟨names', ns', hrun, hd, hroots, htypes, haliases⟩ :=
        giveTops_result rest (h.withType id .pascal top)
      refine ⟨names', ns', hrun, hd, hroots, ?_, ?_⟩
      · rw [htypes]
        simp [lentTypes, hroot]
      · rw [haliases]
        simp [hroot]
    | none =>
      obtain ⟨names', ns', hrun, hd, hroots, htypes, haliases⟩ :=
        giveTops_result rest (h.withAlias top .pascal top)
      refine ⟨names', ns', hrun, hd, hroots, ?_, ?_⟩
      · rw [htypes]
        simp [lentTypes, hroot]
      · rw [haliases]
        simp [hroot]

theorem typeName?_eq_none_iff {id : Nat} :
    names.typeName? id = none ↔ id ∉ names.types.map (·.1) := entryFor?_eq_none_iff

/-- Every type that has no name yet is named. -/
theorem giveTypes_result : ∀ (ids : List Nat) {names : Names} {ns : Namespace}, ids.Nodup →
    (∀ id ∈ ids, id ∉ names.types.map (·.1) → (g.nameOf id).isText = true) → Declared names ns →
    ∃ names' ns', (giveTypes g ns names ids).result = .ok names' ∧ Declared names' ns' ∧
      names'.rootTypes = names.rootTypes ∧ names'.aliases = names.aliases ∧
      names'.types.map (·.1) =
        names.types.map (·.1) ++ ids.filter fun id => id ∉ names.types.map (·.1)
  | [], names, ns, _, _, h => ⟨names, ns, rfl, h, rfl, rfl, by simp⟩
  | id :: rest, names, ns, hnodup, htexts, h => by
    obtain ⟨hid, hrest⟩ := List.nodup_cons.mp hnodup
    have htexts' : ∀ j ∈ rest, j ∉ names.types.map (·.1) → (g.nameOf j).isText = true :=
      fun j hj => htexts j (List.mem_cons_of_mem id hj)
    rw [giveTypes]
    cases hname : names.typeName? id with
    | some name =>
      obtain ⟨names', ns', hrun, hd, hroots, haliases, htypes⟩ :=
        giveTypes_result rest hrest htexts' h
      have hmem : id ∈ names.types.map (·.1) := exists_entryFor?_iff.mp ⟨name, hname⟩
      refine ⟨names', ns', hrun, hd, hroots, haliases, ?_⟩
      rw [htypes, List.filter_cons_of_neg (by simpa using hmem)]
    | none =>
      have hnot := typeName?_eq_none_iff.mp hname
      rw [Value.eq_str_display (htexts id (by simp) hnot), Logged.result_bind, result_give]
      obtain ⟨names', ns', hrun, hd, hroots, haliases, htypes⟩ :=
        giveTypes_result rest hrest (fun j hj hj' => htexts' j hj (mt (by simp; tauto) hj'))
          (h.withType id .pascal (g.nameOf id).display)
      refine ⟨names', ns', hrun, hd, hroots, haliases, ?_⟩
      -- the type just named does not come again, so it takes nothing from the rest
      rw [htypes, List.filter_cons_of_pos (by simpa using hnot), List.map_append, List.append_assoc,
        List.map_singleton, List.singleton_append]
      refine congrArg (names.types.map (·.1) ++ id :: ·) (List.filter_congr fun j hj => ?_)
      have hne : j ≠ id := fun heq => hid (heq ▸ hj)
      simp [hne]

/-- Types are only named if the names that are used for them are texts. -/
theorem isText_of_giveTypes : ∀ (ids : List Nat) {names names' : Names} {ns : Namespace},
    ids.Nodup → (giveTypes g ns names ids).result = .ok names' →
    ∀ id ∈ ids, id ∉ names.types.map (·.1) → (g.nameOf id).isText = true
  | [], _, _, _, _, _ => by simp
  | id :: rest, names, names', ns, hnodup, h => by
    obtain ⟨hid, hrest⟩ := List.nodup_cons.mp hnodup
    rw [giveTypes] at h
    cases hname : names.typeName? id with
    | some name =>
      rw [hname] at h
      have hmem : id ∈ names.types.map (·.1) := exists_entryFor?_iff.mp ⟨name, hname⟩
      rintro j (_ | ⟨_, hj⟩) hnot
      · exact absurd hmem hnot
      · exact isText_of_giveTypes rest hrest h j hj hnot
    | none =>
      rw [hname] at h
      obtain ⟨given, hgiven, hrun⟩ := Logged.exists_of_result_bind h
      rintro j (_ | ⟨_, hj⟩) hnot
      · exact isText_of_give hgiven
      · have hne : j ≠ id := fun heq => hid (heq ▸ hj)
        exact isText_of_giveTypes rest hrest hrun j hj (by simpa [hne] using hnot)

/-- The names that have to be texts so that names can be given: those of properties, and those of
declared types that no top-level lends its name to. -/
structure Nameable (g : TypeGraph) : Prop where
  type : ∀ id ∈ g.declarations, id ∉ lentTypes (rootTypesOf g) g.topNames →
    (g.nameOf id).isText = true
  property : ∀ id ps, g.Reachable id → g.shape? id = some (.record ps) →
    ∀ p ∈ ps, p.name.isText = true

theorem nameable_of_hasTextNames (h : g.HasTextNames) : Nameable g :=
  ⟨fun id hid _ => h.type id (TypeGraph.mem_declarations.mp hid).1, h.property⟩

/-- What the names of types and aliases are like when all of them are given. -/
structure TypesNamed (g : TypeGraph) (names : Names) : Prop where
  declared : ∃ ns, Declared names ns
  rootTypes : names.rootTypes = rootTypesOf g
  types : (names.types.map (·.1)).Perm g.declarations
  aliases : names.aliases.map (·.1) =
    g.topNames.filter fun top => (entryFor? top (rootTypesOf g)).isNone

theorem declared_start (rootTypes : List (String × Nat)) :
    Declared { Names.empty with rootTypes } (.empty (Zig.keywords ++ Zig.preludeNames)) :=
  ⟨⟨rfl, List.nodup_nil, by simp [Namespace.empty], by simp [Namespace.empty]⟩,
    List.Perm.refl []⟩

/-- Types and aliases can all be named. -/
theorem exists_typesNamed (hw : g.WellFormed) (ht : Nameable g) :
    ∃ names ns names', (giveTops (.empty (Zig.keywords ++ Zig.preludeNames))
      { Names.empty with rootTypes := rootTypesOf g } g.topLevels).result = .ok (names, ns) ∧
      (giveTypes g ns names g.declarations).result = .ok names' ∧ TypesNamed g names' := by
  obtain ⟨names, ns, htops, hd, hroots, htypes, haliases⟩ :=
    giveTops_result g.topLevels (declared_start (rootTypesOf g))
  have hlent : names.types.map (·.1) = lentTypes (rootTypesOf g) g.topNames := htypes
  obtain ⟨names', ns', hrun, hd', hroots', haliases', htypes'⟩ :=
    giveTypes_result g.declarations (TypeGraph.nodup_declarations g)
      (fun id hid hnot => ht.type id hid (hlent ▸ hnot)) hd
  refine ⟨names, ns, names', htops, hrun, ⟨ns', hd'⟩, hroots'.trans hroots, ?_, ?_⟩
  · -- lent names come in the order of the top-levels, so only the set of types is the same
    have hnodup : (names'.types.map (·.1)).Nodup := by
      rw [htypes', hlent]
      refine (nodup_lentTypes hw.nodup).append ((TypeGraph.nodup_declarations g).filter _) ?_
      intro id hid hid'
      simpa [hid] using (List.mem_filter.mp hid').2
    refine (List.perm_ext_iff_of_nodup hnodup (TypeGraph.nodup_declarations g)).mpr fun id => ?_
    rw [htypes', hlent, List.mem_append, List.mem_filter]
    constructor
    · rintro (hid | hid)
      · exact mem_declarations_of_lentTypes hw.nodup hid
      · exact hid.1
    · intro hid
      by_cases hl : id ∈ lentTypes (rootTypesOf g) g.topNames
      · exact Or.inl hl
      · exact Or.inr ⟨hid, by simpa using hl⟩
  · rw [haliases', haliases]
    rfl

/-- A type has a name just if it is declared and the top-levels lead to it. -/
theorem TypesNamed.exists_typeName?_iff (h : TypesNamed g names) {id : Nat} :
    (∃ name, names.typeName? id = some name) ↔ id ∈ g.declarations :=
  exists_entryFor?_iff.trans h.types.mem_iff

/-- Different types have different names. -/
theorem TypesNamed.typeName?_inj (h : TypesNamed g names) {i j : Nat} {name : String}
    (hi : names.typeName? i = some name) (hj : names.typeName? j = some name) : i = j := by
  obtain ⟨ns, hd⟩ := h.declared
  have hnodup := (List.nodup_append.mp hd.nodup).2.1
  exact congrArg Prod.fst (List.inj_on_of_nodup_map hnodup (mem_of_entryFor? hi)
    (mem_of_entryFor? hj) rfl)

end ZigDecl.Names
