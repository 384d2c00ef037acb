import ZigDecl.Proofs.Zig.Nesting
import ZigDecl.Proofs.Zig.Spelling

/-! # The type map goes down step by step

The type map enters undeclared unions with a bound on how many of them may lie inside each other.
Main statements: without an inline cycle the bound plays no part, so the Zig type of a union with
one member besides null is made from that of this member; and what holds of a type as soon as it
holds of all types directly below it, holds of every type. -/

namespace ZigDecl

open TypeGraph
open Relation (ReflTransGen)

namespace TypeGraph

variable {g : TypeGraph} (hfree : g.inlineCycle? = none) (hm : g.IsMarked)
include hfree hm

theorem descends_induction {P : Ty → Prop}
    (h : ∀ t, g.Occurs t → (∀ u, g.Descends t u → P u) → P t) : ∀ t, g.Occurs t → P t := by
  have key : ∀ n t, g.Occurs t → g.below g.nodes t < n → P t := by
    intro n
    induction n with
    | zero => exact fun t _ hlt => absurd hlt (Nat.not_lt_zero _)
    | succ n ih =>
      intro t ht hlt
      refine h t ht fun u hu => ih u (ht.child hu.2) ?_
      have hless := below_lt hfree hm ht (mem_nodes_iff.mpr ht) hu
      omega
  exact fun t ht => key _ t ht (Nat.lt_succ_self _)

/-- A type is never needed below its own parts, so these need fewer types than there are. -/
theorem below_stored_lt_size {id : Nat} {t : Ty} (ht : g.Occurs t)
    (h : g.Descends (.named id) t) : g.below g.stored t < g.types.size := by
  classical
  have hnot : ¬ ReflTransGen g.Descends t (.named id) := fun hback =>
    (inlineCycle?_eq_none_iff hm).mp hfree t ht (onInlineCycle_of_descends (.tail' hback h))
  calc g.below g.stored t < g.stored.card :=
        Finset.card_lt_card (Finset.filter_ssubset.mpr ⟨_, mem_stored h.2, hnot⟩)
    _ ≤ g.types.size := g.card_stored_le

end TypeGraph

namespace Zig

/-- The type, made optional if `flag` says so. -/
def TypeExpr.optionalIf (flag : Bool) (e : TypeExpr) : TypeExpr :=
  if flag then e.asOptional else e

namespace TypeMap

variable {m : TypeMap}

theorem type_of_nothing {id : Nat} {ms : List Ty} (hs : m.graph.shape? id = some (.union ms))
    (hnil : nonNulls ms = []) (withIssues : Bool) :
    m.type withIssues (.named id) = primitiveType m.options withIssues .null := by
  have hlen : (nonNulls ms).length ≠ 1 := by simp [hnil]
  simp only [type, typeWith, namedType, hs, nullableOf_of_length hlen, hnil]

theorem type_of_isDeclared {id : Nat} (hd : m.graph.isDeclared id = true) (withIssues : Bool) :
    m.type withIssues (.named id) =
      (fun name => (TypeExpr.plain name).optionalIf (admitsNull m.graph id)) <$> m.typeName id :=
  namedType_of_isDeclared hd withIssues m.graph.types.size

theorem type_of_shape?_eq_none {id : Nat} (hs : m.graph.shape? id = none) (withIssues : Bool) :
    m.type withIssues (.named id) = TypeExpr.plain <$> m.typeName id := by
  simp only [type, typeWith, namedType, hs]

section

variable (hfree : m.graph.inlineCycle? = none) (hm : m.graph.IsMarked)
include hfree hm

/-- Any bound that is large enough for a type gives its Zig type. -/
theorem typeWith_eq_type {t : Ty} (ht : m.graph.Occurs t) {fuel : Nat}
    (hfuel : m.graph.below m.graph.stored t < fuel) (withIssues : Bool) :
    typeWith m.options withIssues (m.namedType withIssues fuel) t = m.type withIssues t := by
  have hample : m.graph.Ample m.graph.nodes.card fuel t :=
    ⟨ht, m.graph.below_le_card m.graph.nodes t, hfuel⟩
  have hgiven := typeWithin_eq hfree hm m.typeName m.options withIssues _ _ t hample
  have hwhole := typeWithin_eq hfree hm m.typeName m.options withIssues _ _ t (ht.ample le_rfl)
  exact Option.some.inj (hgiven.symm.trans hwhole)

/-- A union with one member besides null is that member, made optional if null is there. -/
theorem type_of_single {id : Nat} {ms : List Ty} {t : Ty}
    (hs : m.graph.shape? id = some (.union ms)) (hsingle : nonNulls ms = [t])
    (ht : m.graph.Occurs t) (withIssues : Bool) :
    m.type withIssues (.named id) =
      TypeExpr.optionalIf (hasNull ms) <$> m.type withIssues t := by
  have hdown := descends_of_single hs hsingle
  have hinner := typeWith_eq_type hfree hm ht
    (below_stored_lt_size hfree hm ht hdown) withIssues
  cases hnull : hasNull ms with
  | true =>
    rw [← hinner]
    simp only [type, typeWith, namedType, hs, nullableOf_of_single hnull hsingle]
    rfl
  | false =>
    rw [← hinner]
    simp only [type, typeWith, namedType, hs, nullableOf_of_hasNull hnull, hsingle]
    exact (id_map _).symm

end

end TypeMap

end Zig

end ZigDecl
