import Mathlib.Data.Finset.Card
import ZigDecl.Proofs.Graph.Reach

/-! # Types that are written out in place

An undeclared union is written out where it is used, with everything it mentions. In a graph without
inline cycles this comes to an end: `rank` counts the types below a type, and it drops with every
step of writing out. It never exceeds the number of types, which is why a recursion that enters at
most one type more than there are has fuel enough. -/

namespace ZigDecl.TypeGraph

open Relation (TransGen ReflTransGen)

variable {g : TypeGraph}

/-- To write out `i` in place, `j` has to be written. -/
def Inlines (g : TypeGraph) (i j : Nat) : Prop := g.isDeclared i = false ∧ g.Mentions i j

/-- No type that the top-levels lead to is needed to write out itself. -/
def IsInlineFree (g : TypeGraph) : Prop := ∀ id, g.Reachable id → ¬ TransGen g.Inlines id id

/-- All references lead into the store. -/
def IsClosed (g : TypeGraph) : Prop :=
  (∀ id ∈ g.roots, id < g.types.size) ∧ ∀ i j, g.Mentions i j → j < g.types.size

/-- Writing types out in place meets only types of the store and comes to an end. -/
structure IsFounded (g : TypeGraph) : Prop where
  closed : g.IsClosed
  inlineFree : g.IsInlineFree

theorem IsClosed.lt_size (h : g.IsClosed) {id : Nat} (hr : g.Reachable id) :
    id < g.types.size := by
  obtain ⟨root, hroot, hp⟩ := hr
  rcases ReflTransGen.cases_tail hp with rfl | ⟨j, _, hm⟩
  · exact h.1 _ hroot
  · exact h.2 j id hm

open Classical in
/-- How many types are needed to write out a type. -/
noncomputable def rank (g : TypeGraph) (id : Nat) : Nat :=
  ((Finset.range g.types.size).filter fun j => TransGen g.Inlines id j).card

open Classical in
theorem rank_le_size (g : TypeGraph) (id : Nat) : g.rank id ≤ g.types.size :=
  calc g.rank id ≤ (Finset.range g.types.size).card := Finset.card_filter_le _ _
    _ = g.types.size := Finset.card_range _

open Classical in
/-- Every step of writing out goes down in rank. -/
theorem rank_lt (hf : g.IsInlineFree) (hc : g.IsClosed) {i j : Nat} (hr : g.Reachable i)
    (h : g.Inlines i j) : g.rank j < g.rank i := by
  have hj : g.Reachable j := hr.mentions h.2
  refine Finset.card_lt_card (Finset.ssubset_iff_of_subset ?_ |>.mpr ⟨j, ?_, ?_⟩)
  · intro k hk
    obtain ⟨hsize, hk⟩ := Finset.mem_filter.mp hk
    exact Finset.mem_filter.mpr ⟨hsize, .head h hk⟩
  · exact Finset.mem_filter.mpr ⟨Finset.mem_range.mpr (hc.lt_size hj), .single h⟩
  · exact fun hjj => hf j hj (Finset.mem_filter.mp hjj).2

/-- What holds of a type as soon as it holds of all that it has to be written with, holds of every
type. -/
theorem rank_induction (hf : g.IsInlineFree) (hc : g.IsClosed) {P : Nat → Prop}
    (h : ∀ id, g.Reachable id → (∀ j, g.Inlines id j → P j) → P id) :
    ∀ id, g.Reachable id → P id := by
  have key : ∀ n id, g.Reachable id → g.rank id < n → P id := by
    intro n
    induction n with
    | zero => exact fun id _ hlt => absurd hlt (Nat.not_lt_zero _)
    | succ n ih =>
      intro id hr hlt
      refine h id hr fun j hj => ih j (hr.mentions hj.2) ?_
      have := rank_lt hf hc hr hj
      omega
  exact fun id hr => key _ id hr (Nat.lt_succ_self _)

/-! ## What the members of a union amount to -/

/-- A union is one other type made optional, nothing but null, one type, or a choice. -/
inductive MembersView (ms : List Ty) : Prop
  | nullable (t : Ty) (hnull : hasNull ms = true) (ht : nonNulls ms = [t])
  | nothing (h : nonNulls ms = [])
  | only (t : Ty) (hnull : hasNull ms = false) (ht : nonNulls ms = [t])
  | several (h : 2 ≤ (nonNulls ms).length)

theorem membersView (ms : List Ty) : MembersView ms := by
  match hms : nonNulls ms with
  | [] => exact .nothing hms
  | [t] =>
    cases hnull : hasNull ms with
    | true => exact .nullable t hnull hms
    | false => exact .only t hnull hms
  | s :: t :: rest => exact .several (by simp [hms])

theorem nonNulls_eq_of_length {ms : List Ty} (h : 2 ≤ (nonNulls ms).length) :
    ∃ s t rest, nonNulls ms = s :: t :: rest := by
  cases hms : nonNulls ms with
  | nil => simp [hms] at h
  | cons s more =>
    cases more with
    | nil => simp [hms] at h
    | cons t rest => exact ⟨s, t, rest, rfl⟩

theorem nullableOf_of_single {ms : List Ty} {t : Ty} (hnull : hasNull ms = true)
    (ht : nonNulls ms = [t]) : nullableOf ms = some t := by
  simp [nullableOf, hnull, ht]

theorem nullableOf_of_hasNull {ms : List Ty} (hnull : hasNull ms = false) :
    nullableOf ms = none := by
  simp [nullableOf, hnull]

theorem nullableOf_of_length {ms : List Ty} (h : (nonNulls ms).length ≠ 1) :
    nullableOf ms = none := by
  unfold nullableOf
  split
  · next ht => exact absurd (by rw [ht]; rfl) h
  · rfl

theorem parts_of_union {id : Nat} {ms : List Ty} (hs : g.shape? id = some (.union ms)) :
    g.parts id = ms := by simp [parts, hs]

theorem parts_of_record {id : Nat} {ps : List Property} (hs : g.shape? id = some (.record ps)) :
    g.parts id = ps.map (·.type) := by simp [parts, hs]

theorem parts_of_enum {id : Nat} {cs : List String} (hs : g.shape? id = some (.enum cs)) :
    g.parts id = [] := by simp [parts, hs]

theorem mentions_of_mem_parts {id j : Nat} {t : Ty} (ht : t ∈ g.parts id)
    (hj : t.target? = some j) : g.Mentions id j :=
  List.mem_filterMap.mpr ⟨t, ht, hj⟩

/-- To write out an undeclared union, what its only member leads to has to be written. -/
theorem inlines_of_single {id j : Nat} {ms : List Ty} {t : Ty}
    (hs : g.shape? id = some (.union ms)) (ht : nonNulls ms = [t]) (hj : t.target? = some j) :
    g.Inlines id j := by
  have hmem : t ∈ nonNulls ms := by simp [ht]
  refine ⟨by simp [isDeclared_of_union hs, ht], mentions_of_mem_parts (t := t) ?_ hj⟩
  rw [parts_of_union hs]
  exact (List.mem_filter.mp hmem).1

end ZigDecl.TypeGraph
