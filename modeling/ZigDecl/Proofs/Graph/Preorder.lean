import ZigDecl.Proofs.Graph.Cycle

/-! # Graph order is that of first visits

`Walks` is the walk that puts the named types in order, without a limit on how deep it goes: it
enters a named type only once. `Tours` is the walk in pre-order that keeps no list of what it has
visited: it goes down every way and turns back only at a type that it is inside of, so it comes to
most types many times. Main statement: the first walk ends, and graph order is what it visits, which
are the types in the order in which the tour first comes to them. -/

namespace ZigDecl.TypeGraph

variable {g : TypeGraph}

/-- What a walk through types and everything inside them makes of the list of visited types. -/
inductive Walks (g : TypeGraph) : List Nat → List Ty → List Nat → Prop
  | done (seen : List Nat) : Walks g seen [] seen
  | again {seen after : List Nat} {id : Nat} {ts : List Ty} (hid : id ∈ seen)
      (hts : Walks g seen ts after) : Walks g seen (.named id :: ts) after
  | enter {seen mid after : List Nat} {id : Nat} {ts : List Ty} (hid : id ∉ seen)
      (hparts : Walks g (seen ++ [id]) (g.parts id) mid) (hts : Walks g mid ts after) :
      Walks g seen (.named id :: ts) after
  | inside {seen mid after : List Nat} {t : Ty} {ts : List Ty} (ht : t.isNamed = false)
      (hparts : Walks g seen (g.children t) mid) (hts : Walks g mid ts after) :
      Walks g seen (t :: ts) after

/-- The named types that a tour through types and everything inside them comes to, each time that
it comes to them; `path` is what the types are inside of. -/
inductive Tours (g : TypeGraph) : List Nat → List Ty → List Nat → Prop
  | done (path : List Nat) : Tours g path [] []
  | back {path visits : List Nat} {id : Nat} {ts : List Ty} (hid : id ∈ path)
      (hts : Tours g path ts visits) : Tours g path (.named id :: ts) (id :: visits)
  | enter {path below visits : List Nat} {id : Nat} {ts : List Ty} (hid : id ∉ path)
      (hparts : Tours g (id :: path) (g.parts id) below) (hts : Tours g path ts visits) :
      Tours g path (.named id :: ts) (id :: below ++ visits)
  | inside {path below visits : List Nat} {t : Ty} {ts : List Ty} (ht : t.isNamed = false)
      (hparts : Tours g path (g.children t) below) (hts : Tours g path ts visits) :
      Tours g path (t :: ts) (below ++ visits)

/-! ## The walk ends -/

namespace Walks

variable {seen mid after after' : List Nat} {ts : List Ty}

theorem unique (h : g.Walks seen ts after) (h' : g.Walks seen ts after') : after = after' := by
  induction h generalizing after' with
  | done => cases h'; rfl
  | again hid _ ih =>
    cases h' with
    | again _ hts => exact ih hts
    | enter hnot => exact absurd hid hnot
    | inside hn => cases hn
  | enter hid _ _ ihparts ihts =>
    cases h' with
    | again hin => exact absurd hin hid
    | enter _ hparts hts => exact ihts (ihparts hparts ▸ hts)
    | inside hn => cases hn
  | inside hn _ _ ihparts ihts =>
    cases h' with
    | again => cases hn
    | enter => cases hn
    | inside _ hparts hts => exact ihts (ihparts hparts ▸ hts)

theorem subset (h : g.Walks seen ts after) : seen ⊆ after := by
  induction h with
  | done => exact List.Subset.refl _
  | again _ _ ih => exact ih
  | enter _ _ _ ihparts ihts =>
    exact List.Subset.trans (List.subset_append_left _ _) (List.Subset.trans ihparts ihts)
  | inside _ _ _ ihparts ihts => exact List.Subset.trans ihparts ihts

theorem cons {t : Ty} (h : g.Walks seen [t] mid) (hts : g.Walks mid ts after) :
    g.Walks seen (t :: ts) after := by
  cases h with
  | again hid hdone => cases hdone; exact .again hid hts
  | enter hid hparts hdone => cases hdone; exact .enter hid hparts hts
  | inside ht hparts hdone => cases hdone; exact .inside ht hparts hts

end Walks

section Limit

variable {fuel : Nat} {f : List Nat → Nat → List Nat}

/-- Down arrays and maps there is nothing to visit but the named type at the bottom. -/
theorem walks_type
    (hf : ∀ seen id, (g.unseen seen).length < fuel → g.Walks seen [.named id] (f seen id)) :
    ∀ (t : Ty) (seen : List Nat), (g.unseen seen).length < fuel →
      g.Walks seen [t] (t.target?.toList.foldl f seen)
  | .primitive _, seen, _ => .inside rfl (.done seen) (.done seen)
  | .array _ t, seen, h => .inside rfl (walks_type hf t seen h) (.done _)
  | .map _ t, seen, h => .inside rfl (walks_type hf t seen h) (.done _)
  | .named id, seen, h => hf seen id h

theorem walks_foldl
    (hf : ∀ seen id, (g.unseen seen).length < fuel → g.Walks seen [.named id] (f seen id)) :
    ∀ (ts : List Ty) (seen : List Nat), (g.unseen seen).length < fuel →
      g.Walks seen ts ((ts.filterMap Ty.target?).foldl f seen)
  | [], seen, _ => .done seen
  | t :: ts, seen, h => by
    have hfirst := walks_type hf t seen h
    have hle := Nat.lt_of_le_of_lt (length_unseen_le hfirst.subset) h
    have hsplit : (t :: ts).filterMap Ty.target? = t.target?.toList ++ ts.filterMap Ty.target? := by
      cases ht : t.target? <;> simp [ht]
    rw [hsplit, List.foldl_append]
    exact hfirst.cons (walks_foldl hf ts _ hle)

end Limit

/-- With fuel for every type that is not visited yet, the limit makes no difference. -/
theorem walks_visit : ∀ (fuel : Nat) (seen : List Nat) (id : Nat),
    (g.unseen seen).length < fuel → g.Walks seen [.named id] (g.visit fuel seen id)
  | 0, _, _, h => absurd h (Nat.not_lt_zero _)
  | fuel + 1, seen, id, h => by
    rw [visit]
    split
    · next hc => exact .again (by simpa using hc) (.done seen)
    · next hc =>
      have hid : id ∉ seen := by simpa using hc
      refine .enter hid ?_ (.done _)
      rcases Nat.lt_or_ge id g.types.size with hsize | hsize
      · have := length_unseen_lt (List.subset_append_left seen [id]) hsize hid (by simp)
        exact walks_foldl (walks_visit fuel) _ _ (by omega)
      · rw [successors_of_size_le hsize, parts_of_shape?_eq_none (shape?_eq_none_iff.mpr hsize)]
        exact .done _

/-- The walk from the top-levels ends with graph order. -/
theorem walks_namedTypes : g.Walks [] (g.topLevels.map (·.2)) g.namedTypes := by
  have hroots : g.roots = (g.topLevels.map (·.2)).filterMap Ty.target? := by
    rw [roots, List.filterMap_map]
    rfl
  rw [namedTypes, hroots]
  exact walks_foldl (walks_visit _) _ _ g.length_unseen_nil_lt

/-! ## The tour ends -/

section Enter

variable {path : List Nat}

/-- A tour goes on in front of what it comes to, if it ends below all types that it can enter. -/
theorem exists_tours_cons
    (henter : ∀ id ∉ path, ∃ below, g.Tours (id :: path) (g.parts id) below) (t : Ty)
    {ts : List Ty} {visits : List Nat} (hts : g.Tours path ts visits) :
    ∃ visits, g.Tours path (t :: ts) visits := by
  induction t generalizing ts visits with
  | primitive p => exact ⟨_, .inside rfl (.done path) hts⟩
  | array mark t ih =>
    obtain ⟨below, hbelow⟩ := ih (.done path)
    exact ⟨_, .inside rfl hbelow hts⟩
  | map mark t ih =>
    obtain ⟨below, hbelow⟩ := ih (.done path)
    exact ⟨_, .inside rfl hbelow hts⟩
  | named id =>
    by_cases hid : id ∈ path
    · exact ⟨_, .back hid hts⟩
    · obtain ⟨below, hbelow⟩ := henter id hid
      exact ⟨_, .enter hid hbelow hts⟩

theorem exists_tours_of_enter
    (henter : ∀ id ∉ path, ∃ below, g.Tours (id :: path) (g.parts id) below) (ts : List Ty) :
    ∃ visits, g.Tours path ts visits := by
  induction ts with
  | nil => exact ⟨[], .done path⟩
  | cons t ts ih =>
    obtain ⟨visits, hts⟩ := ih
    exact exists_tours_cons henter t hts

end Enter

/-- A tour of any types ends, as there are fewer types to go down to with each that it is in. -/
theorem exists_tours (path : List Nat) (ts : List Ty) : ∃ visits, g.Tours path ts visits := by
  induction hn : (g.unseen path).length using Nat.strongRecOn generalizing path ts with
  | _ n ih =>
    refine exists_tours_of_enter (fun id hid => ?_) ts
    rcases Nat.lt_or_ge id g.types.size with hsize | hsize
    · have hlt := length_unseen_lt (List.subset_cons_self id path) hsize hid (by simp)
      exact ih _ (hn ▸ hlt) _ _ rfl
    · rw [parts_of_shape?_eq_none (shape?_eq_none_iff.mpr hsize)]
      exact ⟨[], .done _⟩

/-! ## First visits -/

/-- The list with a type at its end, unless the type is in it. -/
def visitOnce (seen : List Nat) (id : Nat) : List Nat := if id ∈ seen then seen else seen ++ [id]

theorem visitOnce_of_mem {seen : List Nat} {id : Nat} (h : id ∈ seen) : visitOnce seen id = seen :=
  if_pos h

theorem visitOnce_of_not_mem {seen : List Nat} {id : Nat} (h : id ∉ seen) :
    visitOnce seen id = seen ++ [id] := if_neg h

theorem foldl_visitOnce_of_subset {visits seen : List Nat} (h : visits ⊆ seen) :
    visits.foldl visitOnce seen = seen := by
  induction visits with
  | nil => rfl
  | cons id visits ih =>
    obtain ⟨hid, hvisits⟩ := List.cons_subset.mp h
    rw [List.foldl_cons, visitOnce_of_mem hid, ih hvisits]

theorem foldl_visitOnce (visits seen : List Nat) :
    visits.foldl visitOnce seen = seen ++ (visits.filter (· ∉ seen)).eraseDups := by
  induction visits generalizing seen with
  | nil => simp
  | cons id visits ih =>
    rw [List.foldl_cons, ih]
    by_cases hid : id ∈ seen
    · rw [visitOnce_of_mem hid, List.filter_cons_of_neg (by simpa using hid)]
    · rw [visitOnce_of_not_mem hid, List.filter_cons_of_pos (by simpa using hid),
        List.eraseDups_cons, List.filter_filter, List.append_assoc, List.singleton_append]
      refine congrArg (seen ++ id :: List.eraseDups ·) (List.filter_congr fun j _ => ?_)
      by_cases hj : j = id <;> simp [hj]

/-- The named types at the bottom of types have been visited. -/
def Visited (ts : List Ty) (seen : List Nat) : Prop := ∀ t ∈ ts, ∀ j, t.target? = some j → j ∈ seen

/-- Whatever has been visited and is not on the path has been left, with all it mentions visited. -/
def Left (g : TypeGraph) (path seen : List Nat) : Prop :=
  ∀ i ∈ seen, i ∉ path → Visited (g.parts i) seen

theorem Visited.mono {ts : List Ty} {seen more : List Nat} (h : Visited ts seen)
    (hmore : seen ⊆ more) : Visited ts more := fun t ht j hj => hmore (h t ht j hj)

theorem visited_cons {t : Ty} {ts : List Ty} {seen : List Nat}
    (h : ∀ j, t.target? = some j → j ∈ seen) (hts : Visited ts seen) : Visited (t :: ts) seen :=
  List.forall_mem_cons.mpr ⟨h, hts⟩

theorem visited_named {id : Nat} {ts : List Ty} {seen : List Nat} (h : id ∈ seen)
    (hts : Visited ts seen) : Visited (.named id :: ts) seen :=
  visited_cons (fun j hj => by cases hj; exact h) hts

/-- What is not named and what is inside it have the same types at the bottom. -/
theorem visited_children_iff {t : Ty} (h : t.isNamed = false) {seen : List Nat} :
    Visited (g.children t) seen ↔ ∀ j, t.target? = some j → j ∈ seen := by
  cases t with
  | primitive p => exact iff_of_true nofun nofun
  | array mark t => exact List.forall_mem_singleton
  | map mark t => exact List.forall_mem_singleton
  | named id => cases h

namespace Left

variable {path seen : List Nat} {id : Nat}

theorem below (h : g.Left path seen) : g.Left (id :: path) seen :=
  fun i hi hn => h i hi fun hmem => hn (List.mem_cons_of_mem id hmem)

theorem enter (h : g.Left path seen) : g.Left (id :: path) (seen ++ [id]) := by
  intro i hi hn
  obtain ⟨hne, hpath⟩ := List.ne_and_not_mem_of_not_mem_cons hn
  have hi : i ∈ seen := (List.mem_append.mp hi).resolve_right fun h => hne (List.mem_singleton.mp h)
  exact (h i hi hpath).mono (List.subset_append_left seen [id])

theorem leave (h : g.Left (id :: path) seen) (hparts : Visited (g.parts id) seen) :
    g.Left path seen := by
  intro i hi hn
  by_cases heq : i = id
  · exact heq ▸ hparts
  · exact h i hi (List.not_mem_cons_of_ne_of_not_mem heq hn)

end Left

namespace Tours

variable {path visits seen : List Nat} {ts : List Ty}

/-- Below visited types, a tour comes to nothing new. -/
theorem subset (h : g.Tours path ts visits) (hleft : g.Left path seen) (hts : Visited ts seen) :
    visits ⊆ seen := by
  induction h with
  | done => exact List.nil_subset _
  | back _ _ ih =>
    obtain ⟨hid, hts⟩ := List.forall_mem_cons.mp hts
    exact List.cons_subset.mpr ⟨hid _ rfl, ih hleft hts⟩
  | enter hid _ _ ihparts ihts =>
    obtain ⟨hin, hts⟩ := List.forall_mem_cons.mp hts
    have hbelow := ihparts hleft.below (hleft _ (hin _ rfl) hid)
    exact List.cons_subset.mpr ⟨hin _ rfl, List.append_subset.mpr ⟨hbelow, ihts hleft hts⟩⟩
  | inside hn _ _ ihparts ihts =>
    obtain ⟨hin, hts⟩ := List.forall_mem_cons.mp hts
    exact List.append_subset.mpr
      ⟨ihparts hleft ((visited_children_iff hn).mpr hin), ihts hleft hts⟩

/-- The walk visits what the tour comes to, each type at the first time. Where it turns back at a
type that it has left, the tour goes on below it, and finds nothing new there. -/
theorem walks (h : g.Tours path ts visits) {seen : List Nat} (hpath : path ⊆ seen)
    (hleft : g.Left path seen) :
    g.Walks seen ts (visits.foldl visitOnce seen) ∧
      g.Left path (visits.foldl visitOnce seen) ∧ Visited ts (visits.foldl visitOnce seen) := by
  induction h generalizing seen with
  | done => exact ⟨.done seen, hleft, nofun⟩
  | back hid _ ih =>
    rw [List.foldl_cons, visitOnce_of_mem (hpath hid)]
    obtain ⟨hwalk, hleft, hts⟩ := ih hpath hleft
    exact ⟨.again (hpath hid) hwalk, hleft, visited_named (hwalk.subset (hpath hid)) hts⟩
  | @enter path below visits id ts hid hparts _ ihparts ihts =>
    rw [List.cons_append, List.foldl_cons, List.foldl_append]
    by_cases hin : id ∈ seen
    · have hbelow : below ⊆ seen := hparts.subset hleft.below (hleft id hin hid)
      rw [visitOnce_of_mem hin, foldl_visitOnce_of_subset hbelow]
      obtain ⟨hwalk, hleft, hts⟩ := ihts hpath hleft
      exact ⟨.again hin hwalk, hleft, visited_named (hwalk.subset hin) hts⟩
    · rw [visitOnce_of_not_mem hin]
      have hkept : seen ⊆ seen ++ [id] := List.subset_append_left seen [id]
      have hnew : id ∈ seen ++ [id] := by simp
      obtain ⟨hbelow, hleft, hvisited⟩ := ihparts
        (List.cons_subset.mpr ⟨hnew, List.Subset.trans hpath hkept⟩) hleft.enter
      obtain ⟨hwalk, hleft, hts⟩ := ihts
        (List.Subset.trans hpath (List.Subset.trans hkept hbelow.subset)) (hleft.leave hvisited)
      exact ⟨.enter hin hbelow hwalk, hleft,
        visited_named (hwalk.subset (hbelow.subset hnew)) hts⟩
  | inside hn _ _ ihparts ihts =>
    rw [List.foldl_append]
    obtain ⟨hbelow, hleft, hvisited⟩ := ihparts hpath hleft
    obtain ⟨hwalk, hleft, hts⟩ := ihts (List.Subset.trans hpath hbelow.subset) hleft
    refine ⟨.inside hn hbelow hwalk, hleft, visited_cons ?_ hts⟩
    exact (visited_children_iff hn).mp (hvisited.mono hwalk.subset)

end Tours

/-- The walk through the types of a graph ends and visits, each of them once, the named types that
the top-levels lead to, in the order in which a tour first comes to them; and the declarations among
them are the records, the declared unions and the enumerations. -/
theorem namedTypes_traversal (g : TypeGraph) :
    g.Walks [] (g.topLevels.map (·.2)) g.namedTypes ∧
    (∃ visits, g.Tours [] (g.topLevels.map (·.2)) visits ∧ g.namedTypes = visits.eraseDups) ∧
    g.namedTypes.Nodup ∧ (∀ id, id ∈ g.namedTypes ↔ g.Occurs (.named id)) ∧
    (g.records ++ g.unions ++ g.enums).Perm g.declarations := by
  obtain ⟨visits, htours⟩ := g.exists_tours [] (g.topLevels.map (·.2))
  obtain ⟨hwalk, -, -⟩ := htours.walks (List.nil_subset []) nofun
  have hfirst : g.namedTypes = visits.eraseDups := by
    rw [walks_namedTypes.unique hwalk, foldl_visitOnce]
    simp
  refine ⟨walks_namedTypes, ⟨visits, htours, hfirst⟩, nodup_namedTypes g, fun id => ?_,
    perm_declarations g⟩
  rw [mem_namedTypes_iff]
  exact ⟨Reachable.occurs, fun h => h.reachable rfl⟩

end ZigDecl.TypeGraph
