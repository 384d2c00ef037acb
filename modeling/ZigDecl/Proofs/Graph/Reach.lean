import Mathlib.Data.List.Basic
import Mathlib.Logic.Relation
import ZigDecl.Graph.Order

/-! # Graph order is reachability

The walk that puts the named types in order visits a type at most once. `Explores` says what a part
of the walk does to the list of visited types. Main statement: graph order lists, without
repetition, exactly the named types that the top-levels lead to. -/

namespace ZigDecl.TypeGraph

variable {g : TypeGraph}

/-- A named type mentions another one. -/
def Mentions (g : TypeGraph) (i j : Nat) : Prop := j ∈ g.successors i

/-- A named type that the top-levels lead to. -/
def Reachable (g : TypeGraph) (id : Nat) : Prop :=
  ∃ root ∈ g.roots, Relation.ReflTransGen g.Mentions root id

theorem Reachable.mentions {i j : Nat} (h : g.Reachable i) (hm : g.Mentions i j) :
    g.Reachable j := by
  obtain ⟨root, hr, hp⟩ := h
  exact ⟨root, hr, hp.tail hm⟩

/-! ## The shape of a named type -/

theorem shape?_eq_none_iff {id : Nat} : g.shape? id = none ↔ g.types.size ≤ id := by
  simp [shape?]

theorem parts_of_shape?_eq_none {id : Nat} (h : g.shape? id = none) : g.parts id = [] := by
  simp [parts, h]

theorem successors_of_size_le {id : Nat} (h : g.types.size ≤ id) : g.successors id = [] := by
  simp [successors, parts_of_shape?_eq_none (shape?_eq_none_iff.mpr h)]

/-! ## The walk -/

/-- The types of the store that are not visited yet. -/
def unseen (g : TypeGraph) (seen : List Nat) : List Nat :=
  (List.range g.types.size).filter fun id => !seen.contains id

theorem length_unseen_le {seen more : List Nat} (h : seen ⊆ more) :
    (g.unseen more).length ≤ (g.unseen seen).length := by
  simp only [unseen, ← List.countP_eq_length_filter]
  refine List.countP_mono_left fun id _ hm => ?_
  simp only [List.contains_eq_mem, Bool.not_eq_true', decide_eq_false_iff_not] at hm ⊢
  exact fun hs => hm (h hs)

theorem length_unseen_lt {seen more : List Nat} (h : seen ⊆ more) {id : Nat}
    (hid : id < g.types.size) (hs : id ∉ seen) (hm : id ∈ more) :
    (g.unseen more).length < (g.unseen seen).length := by
  have hsplit : g.unseen more = (g.unseen seen).filter fun id => !more.contains id := by
    simp only [unseen, List.filter_filter]
    refine List.filter_congr fun j _ => ?_
    by_cases hj : j ∈ more
    · simp [hj]
    · simpa [hj] using fun hs => hj (h hs)
  rw [hsplit]
  exact List.length_filter_lt_length_iff_exists.mpr ⟨id, by simp [unseen, hid, hs], by simp [hm]⟩

/-- At the start there are at most as many types to visit as the store has. -/
theorem length_unseen_nil_lt (g : TypeGraph) : (g.unseen []).length < g.types.size + 1 := by
  have := List.length_filter_le (fun id => !([] : List Nat).contains id) (List.range g.types.size)
  rw [List.length_range] at this
  exact Nat.lt_succ_of_le this

/-- What a walk from `starts` does to the list of visited types: it appends types that the starts
lead to, none twice, and does not leave before everything they mention is visited. -/
structure Explores (g : TypeGraph) (seen starts after : List Nat) : Prop where
  grows : seen <+: after
  nodup : seen.Nodup → after.Nodup
  visited : ∀ id ∈ starts, id ∈ after
  sound : ∀ j ∈ after, j ∈ seen ∨ ∃ id ∈ starts, Relation.ReflTransGen g.Mentions id j
  closed : ∀ j ∈ after, j ∈ seen ∨ ∀ k, g.Mentions j k → k ∈ after

theorem Explores.nil (seen : List Nat) : g.Explores seen [] seen :=
  ⟨List.prefix_refl seen, id, by simp, fun _ h => Or.inl h, fun _ h => Or.inl h⟩

theorem Explores.cons {seen mid after starts : List Nat} {id : Nat}
    (h : g.Explores seen [id] mid) (ht : g.Explores mid starts after) :
    g.Explores seen (id :: starts) after where
  grows := h.grows.trans ht.grows
  nodup hs := ht.nodup (h.nodup hs)
  visited := by
    rintro j (_ | ⟨_, hj⟩)
    · exact ht.grows.subset (h.visited _ (by simp))
    · exact ht.visited j hj
  sound j hj := by
    rcases ht.sound j hj with hj | ⟨start, hs, hp⟩
    · rcases h.sound j hj with hj | ⟨start, hs, hp⟩
      · exact Or.inl hj
      · exact Or.inr ⟨start, by simp_all, hp⟩
    · exact Or.inr ⟨start, by simp [hs], hp⟩
  closed j hj := by
    rcases ht.closed j hj with hj | hj
    · exact (h.closed j hj).imp_right fun hk k hm => ht.grows.subset (hk k hm)
    · exact Or.inr hj

/-- Entering a new type, and walking on to everything it mentions. -/
theorem Explores.enter {seen after : List Nat} {id : Nat} (hid : id ∉ seen)
    (h : g.Explores (seen ++ [id]) (g.successors id) after) : g.Explores seen [id] after where
  grows := (List.prefix_append seen [id]).trans h.grows
  nodup hs := h.nodup (by
    refine List.nodup_append.mpr ⟨hs, by simp, ?_⟩
    rintro a ha b hb rfl
    exact hid (List.mem_singleton.mp hb ▸ ha))
  visited := by
    intro j hj
    exact h.grows.subset (List.mem_append_right _ hj)
  sound j hj := by
    rcases h.sound j hj with hj | ⟨k, hk, hp⟩
    · rcases List.mem_append.mp hj with hj | hj
      · exact Or.inl hj
      · exact Or.inr ⟨j, hj, .refl⟩
    · exact Or.inr ⟨id, by simp, .head hk hp⟩
  closed j hj := by
    rcases h.closed j hj with hj | hj
    · rcases List.mem_append.mp hj with hj | hj
      · exact Or.inl hj
      · rw [List.mem_singleton.mp hj]
        exact Or.inr fun k hm => h.visited k hm
    · exact Or.inr hj

theorem explores_foldl {fuel : Nat} {f : List Nat → Nat → List Nat}
    (hf : ∀ seen id, (g.unseen seen).length < fuel → g.Explores seen [id] (f seen id)) :
    ∀ (ids seen : List Nat), (g.unseen seen).length < fuel → g.Explores seen ids (ids.foldl f seen)
  | [], seen, _ => .nil seen
  | id :: ids, seen, hlt => by
    have h := hf seen id hlt
    have hle := Nat.lt_of_le_of_lt (length_unseen_le h.grows.subset) hlt
    exact h.cons (explores_foldl hf ids (f seen id) hle)

/-- The walk has fuel enough as long as it is more than there are types left to visit. -/
theorem explores_visit : ∀ (fuel : Nat) (seen : List Nat) (id : Nat),
    (g.unseen seen).length < fuel → g.Explores seen [id] (g.visit fuel seen id)
  | 0, _, _, h => absurd h (Nat.not_lt_zero _)
  | fuel + 1, seen, id, h => by
    rw [visit]
    split
    · next hc =>
      have hmem : id ∈ seen := by simpa using hc
      exact ⟨List.prefix_refl seen, fun hs => hs, by simpa using hmem, fun _ hj => Or.inl hj,
        fun _ hj => Or.inl hj⟩
    · next hc =>
      have hmem : id ∉ seen := by simpa using hc
      apply Explores.enter hmem
      rcases Nat.lt_or_ge id g.types.size with hid | hid
      · have := length_unseen_lt (List.subset_append_left seen [id]) hid hmem (by simp)
        exact explores_foldl (explores_visit fuel) _ _ (by omega)
      · rw [successors_of_size_le hid]
        exact .nil _

theorem explores_namedTypes : g.Explores [] g.roots g.namedTypes :=
  explores_foldl (explores_visit _) _ _ g.length_unseen_nil_lt

theorem nodup_namedTypes (g : TypeGraph) : g.namedTypes.Nodup :=
  explores_namedTypes.nodup List.nodup_nil

/-- Graph order lists exactly the types that the top-levels lead to. -/
theorem mem_namedTypes_iff {id : Nat} : id ∈ g.namedTypes ↔ g.Reachable id := by
  constructor
  · intro h
    rcases explores_namedTypes.sound id h with h | h
    · cases h
    · exact h
  · rintro ⟨root, hr, hp⟩
    induction hp with
    | refl => exact explores_namedTypes.visited root hr
    | tail _ hm ih =>
      rcases explores_namedTypes.closed _ ih with h | h
      · cases h
      · exact h _ hm

/-! ## The kinds of declarations -/

theorem isDeclared_of_record {id : Nat} {ps : List Property} (h : g.shape? id = some (.record ps)) :
    g.isDeclared id = true := by simp [isDeclared, h]

theorem isDeclared_of_enum {id : Nat} {cases : List String} (h : g.shape? id = some (.enum cases)) :
    g.isDeclared id = true := by simp [isDeclared, h]

theorem isDeclared_of_union {id : Nat} {ms : List Ty} (h : g.shape? id = some (.union ms)) :
    g.isDeclared id = decide (2 ≤ (nonNulls ms).length) := by simp [isDeclared, h]

theorem length_of_isDeclared {id : Nat} {ms : List Ty} (h : g.shape? id = some (.union ms))
    (hd : g.isDeclared id = true) : 2 ≤ (nonNulls ms).length := by
  simpa [isDeclared_of_union h] using hd

theorem mem_declarations {id : Nat} :
    id ∈ g.declarations ↔ g.Reachable id ∧ g.isDeclared id = true := by
  rw [declarations, List.mem_filter, mem_namedTypes_iff]

theorem mem_records {id : Nat} :
    id ∈ g.records ↔ g.Reachable id ∧ ∃ ps, g.shape? id = some (.record ps) := by
  rw [records, List.mem_filter, mem_namedTypes_iff]
  cases hs : g.shape? id with
  | none => simp
  | some s => cases s <;> simp

theorem mem_enums {id : Nat} :
    id ∈ g.enums ↔ g.Reachable id ∧ ∃ cs, g.shape? id = some (.enum cs) := by
  rw [enums, List.mem_filter, mem_namedTypes_iff]
  cases hs : g.shape? id with
  | none => simp
  | some s => cases s <;> simp

theorem mem_unions {id : Nat} :
    id ∈ g.unions ↔ g.Reachable id ∧ ∃ ms, g.shape? id = some (.union ms) ∧
      2 ≤ (nonNulls ms).length := by
  rw [unions, List.mem_filter, mem_namedTypes_iff]
  cases hs : g.shape? id with
  | none => simp
  | some s => cases s <;> simp [isDeclared, hs]

theorem nodup_declarations (g : TypeGraph) : g.declarations.Nodup := (nodup_namedTypes g).filter _

/-- Records, declared unions and enumerations together are the declarations, each of them once. -/
theorem perm_declarations (g : TypeGraph) :
    (g.records ++ g.unions ++ g.enums).Perm g.declarations := by
  have hnodup : (g.records ++ g.unions ++ g.enums).Nodup := by
    refine List.nodup_append.mpr ⟨List.nodup_append.mpr ⟨(nodup_namedTypes g).filter _,
      (nodup_namedTypes g).filter _, ?_⟩, (nodup_namedTypes g).filter _, ?_⟩
    · rintro i hi j hj rfl
      obtain ⟨_, ps, hr⟩ := mem_records.mp hi
      obtain ⟨_, ms, hu, _⟩ := mem_unions.mp hj
      simp [hr] at hu
    · rintro i hi j hj rfl
      obtain ⟨_, cs, he⟩ := mem_enums.mp hj
      rcases List.mem_append.mp hi with hi | hi
      · obtain ⟨_, ps, hr⟩ := mem_records.mp hi
        simp [hr] at he
      · obtain ⟨_, ms, hu, _⟩ := mem_unions.mp hi
        simp [hu] at he
  refine (List.perm_ext_iff_of_nodup hnodup (nodup_declarations g)).mpr fun id => ?_
  rw [List.mem_append, List.mem_append, mem_records, mem_unions, mem_enums, mem_declarations]
  cases hs : g.shape? id with
  | none => simp [isDeclared, hs]
  | some s => cases s <;> simp [isDeclared, hs]

end ZigDecl.TypeGraph
