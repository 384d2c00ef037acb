import Mathlib.Data.Finset.Card
import Mathlib.Data.Finset.Image
import Mathlib.Data.Finset.Range
import ZigDecl.Proofs.Graph.Cycle

/-! # The nodes of a graph, and how far a recursion goes down them

A recursion that writes types out goes on from arrays, maps and undeclared unions to what is inside
and stops at everything else. Without an inline cycle it meets no node twice, so the number of nodes
that are still below falls with every step. -/

namespace ZigDecl

/-- A type with everything inside it that is written out in place. -/
def Ty.inside : Ty → List Ty
  | .primitive p => [.primitive p]
  | .array mark t => .array mark t :: t.inside
  | .map mark t => .map mark t :: t.inside
  | .named id => [.named id]

theorem Ty.mem_inside_self (t : Ty) : t ∈ t.inside := by cases t <;> simp [Ty.inside]

namespace TypeGraph

open Relation (TransGen ReflTransGen)

variable {g : TypeGraph}

/-- The distinct types that the top-levels lead to. -/
def nodes (g : TypeGraph) : Finset Ty :=
  ((g.topLevels.map (·.2) ++ g.namedTypes.flatMap g.parts).flatMap Ty.inside).toFinset

theorem mem_nodes {t : Ty} : t ∈ g.nodes ↔
    ∃ s, (s ∈ g.topLevels.map (·.2) ∨ ∃ id ∈ g.namedTypes, s ∈ g.parts id) ∧ t ∈ s.inside := by
  simp only [nodes, List.mem_toFinset, List.mem_flatMap, List.mem_append]

theorem Occurs.inside {s t : Ty} (hs : g.Occurs s) (ht : t ∈ s.inside) : g.Occurs t := by
  induction s with
  | primitive p => rw [List.mem_singleton.mp ht]; exact hs
  | array mark s ih =>
    rcases List.mem_cons.mp ht with rfl | ht
    · exact hs
    · exact ih (hs.child (by simp [children])) ht
  | map mark s ih =>
    rcases List.mem_cons.mp ht with rfl | ht
    · exact hs
    · exact ih (hs.child (by simp [children])) ht
  | named id => rw [List.mem_singleton.mp ht]; exact hs

/-- What is directly inside an array or map is among all that is inside around it. -/
theorem mem_inside_of_content {s t c : Ty} (ht : t ∈ s.inside)
    (hc : ∃ mark, t = .array mark c ∨ t = .map mark c) : c ∈ s.inside := by
  induction s with
  | primitive p => rw [List.mem_singleton.mp ht] at hc; simp at hc
  | array mark s ih =>
    rcases List.mem_cons.mp ht with rfl | ht
    · obtain ⟨_, hc | hc⟩ := hc <;> cases hc
      exact List.mem_cons_of_mem _ (Ty.mem_inside_self _)
    · exact List.mem_cons_of_mem _ (ih ht)
  | map mark s ih =>
    rcases List.mem_cons.mp ht with rfl | ht
    · obtain ⟨_, hc | hc⟩ := hc <;> cases hc
      exact List.mem_cons_of_mem _ (Ty.mem_inside_self _)
    · exact List.mem_cons_of_mem _ (ih ht)
  | named id => rw [List.mem_singleton.mp ht] at hc; simp at hc

theorem mem_nodes_iff {t : Ty} : t ∈ g.nodes ↔ g.Occurs t := by
  constructor
  · intro h
    obtain ⟨s, hs, ht⟩ := mem_nodes.mp h
    refine Occurs.inside ?_ ht
    rcases hs with hs | ⟨id, hid, hs⟩
    · obtain ⟨top, htop, rfl⟩ := List.mem_map.mp hs
      exact occurs_root htop
    · exact (mem_namedTypes_iff.mp hid).occurs.child hs
  · intro ⟨top, htop, hp⟩
    induction hp with
    | refl => exact mem_nodes.mpr ⟨_, .inl (List.mem_map_of_mem htop), Ty.mem_inside_self _⟩
    | @tail s c hs hc ih =>
      have hcontent : ∀ mark, s = .array mark c ∨ s = .map mark c → c ∈ g.nodes := by
        intro mark hmark
        obtain ⟨u, hu, hin⟩ := mem_nodes.mp ih
        exact mem_nodes.mpr ⟨u, hu, mem_inside_of_content hin ⟨mark, hmark⟩⟩
      cases s with
      | primitive p => cases hc
      | array mark s => rw [List.mem_singleton.mp hc] at hcontent ⊢; exact hcontent mark (.inl rfl)
      | map mark s => rw [List.mem_singleton.mp hc] at hcontent ⊢; exact hcontent mark (.inr rfl)
      | named id =>
        have hid : id ∈ g.namedTypes :=
          mem_namedTypes_iff.mpr (Occurs.reachable ⟨top, htop, hs⟩ rfl)
        exact mem_nodes.mpr ⟨c, .inr ⟨id, hid, hc⟩, c.mem_inside_self⟩

theorem isMarked_iff : g.IsMarked ↔
    ∀ s ∈ g.nodes, ∀ t ∈ g.nodes, s.key? = t.key? → s.key? = none ∨ s = t := by
  constructor
  · intro h s hs t ht hkey
    cases hk : s.key? with
    | none => exact .inl rfl
    | some key =>
      exact .inr (h s t key (mem_nodes_iff.mp hs) (mem_nodes_iff.mp ht) hk (hkey.symm.trans hk))
  · intro h s t key hs ht hsk htk
    rcases h s (mem_nodes_iff.mpr hs) t (mem_nodes_iff.mpr ht) (hsk.trans htk.symm) with hn | heq
    · rw [hsk] at hn; cases hn
    · exact heq

instance : Decidable g.IsMarked := decidable_of_iff _ isMarked_iff.symm

/-! ## Going down -/

/-- A step of a recursion that writes a type out: it stops at declared types. -/
def Descends (g : TypeGraph) (s t : Ty) : Prop :=
  g.needsDeclaration s = false ∧ t ∈ g.children s

theorem Descends.expands {s t : Ty} (h : g.Descends s t) (ht : g.isInline t = true) :
    g.Expands s t :=
  ⟨isInline_of_mem_children h.1 h.2, h.2, ht⟩

/-- Whatever goes down is inline, so a way down from a type to itself is an inline cycle. -/
theorem onInlineCycle_of_descends {t : Ty} (h : TransGen g.Descends t t) : g.OnInlineCycle t := by
  have hinline : ∀ {s}, TransGen g.Descends s t → g.isInline s = true := by
    intro s hs
    obtain ⟨_, hfirst, _⟩ := TransGen.head'_iff.mp hs
    exact isInline_of_mem_children hfirst.1 hfirst.2
  have hway : ∀ s, TransGen g.Descends s t → TransGen g.Expands s t := by
    intro s hs
    induction hs using TransGen.head_induction_on with
    | single hlast => exact .single (hlast.expands (hinline h))
    | head hfirst hrest ih => exact .head (hfirst.expands (hinline hrest)) ih
  exact hway t h

open Classical in
/-- How many of the listed types a recursion from a type may meet, itself included. -/
noncomputable def below (g : TypeGraph) (listed : Finset Ty) (t : Ty) : Nat :=
  (listed.filter fun s => ReflTransGen g.Descends t s).card

open Classical in
theorem below_le_card (g : TypeGraph) (listed : Finset Ty) (t : Ty) :
    g.below listed t ≤ listed.card := Finset.card_filter_le _ _

theorem below_pos {listed : Finset Ty} {t : Ty} (ht : t ∈ listed) : 0 < g.below listed t := by
  classical
  exact Finset.card_pos.mpr ⟨t, Finset.mem_filter.mpr ⟨ht, .refl⟩⟩

theorem below_le {listed : Finset Ty} {s t : Ty} (h : g.Descends s t) :
    g.below listed t ≤ g.below listed s := by
  classical
  refine Finset.card_le_card fun u hu => ?_
  obtain ⟨hlisted, hp⟩ := Finset.mem_filter.mp hu
  exact Finset.mem_filter.mpr ⟨hlisted, .head h hp⟩

/-- Without an inline cycle a step down leaves the listed type it comes from behind. -/
theorem below_lt (hfree : g.inlineCycle? = none) (hm : g.IsMarked) {listed : Finset Ty} {s t : Ty}
    (hs : g.Occurs s) (hlisted : s ∈ listed) (h : g.Descends s t) :
    g.below listed t < g.below listed s := by
  classical
  have hnot : ¬ ReflTransGen g.Descends t s := fun hback =>
    (inlineCycle?_eq_none_iff hm).mp hfree s hs (onInlineCycle_of_descends (.head' h hback))
  refine Finset.card_lt_card (Finset.ssubset_iff_of_subset ?_ |>.mpr ⟨s, ?_, ?_⟩)
  · intro u hu
    obtain ⟨hin, hp⟩ := Finset.mem_filter.mp hu
    exact Finset.mem_filter.mpr ⟨hin, .head h hp⟩
  · exact Finset.mem_filter.mpr ⟨hlisted, .refl⟩
  · exact fun hmem => hnot (Finset.mem_filter.mp hmem).2

end TypeGraph

end ZigDecl
