import ZigDecl.Names.Proposal
import ZigDecl.Proofs.Graph.Nodes
import ZigDecl.Zig.TypeMap

/-! # How deep the recursions over a graph go

The Zig type of a type, the proposal for an arm and the references of a declaration are found by
recursion over the graph, and none of them remembers where it has been. Each is given here once more
with a limit on how many calls may be open at the same time. Main statement: without an inline cycle
one call more than there are nodes is enough, and the results are those without the limit. -/

namespace ZigDecl

open TypeGraph

/-! ## Recursion with a limit -/

namespace Zig.TypeMap

/-- The Zig type of a type, unless more than `depth` calls are open at once. A union of nothing but
null is handed on to the null type, which need not be a node. -/
def typeWithin (m : TypeMap) (withIssues : Bool) : Nat → Ty → Option (Except NameError TypeExpr)
  | 0, _ => none
  | _ + 1, .primitive p => some (primitiveType m.options withIssues p)
  | depth + 1, .array _ t => (m.typeWithin withIssues depth t).map ((·.wrap "[]" "") <$> ·)
  | depth + 1, .map _ t =>
    (m.typeWithin withIssues depth t).map ((·.wrap "std.StringHashMap(" ")") <$> ·)
  | depth + 1, .named id =>
    match m.graph.shape? id with
    | some (.union members) =>
      match nullableOf members, nonNulls members with
      | some t, _ => (m.typeWithin withIssues depth t).map (TypeExpr.asOptional <$> ·)
      | none, [] => m.typeWithin withIssues depth (.primitive .null)
      | none, [t] => m.typeWithin withIssues depth t
      | none, _ => some do
        let t := TypeExpr.plain (← m.typeName id)
        return if hasNull members then t.asOptional else t
    | _ => some (TypeExpr.plain <$> m.typeName id)

end Zig.TypeMap

namespace TypeGraph

/-- The proposal for an arm that holds a type, unless more than `depth` calls are open at once. -/
def proposalWithin (g : TypeGraph) (typeName : Nat → Except NameError String) :
    Nat → Ty → Option (Except NameError String)
  | 0, _ => none
  | _ + 1, .primitive p => some (.ok p.proposal)
  | depth + 1, .array _ t => (g.proposalWithin typeName depth t).map ((· ++ " array") <$> ·)
  | depth + 1, .map _ t => (g.proposalWithin typeName depth t).map ((· ++ " map") <$> ·)
  | depth + 1, .named id =>
    match g.shape? id with
    | some (.union members) =>
      match nullableOf members, nonNulls members with
      | some t, _ => (g.proposalWithin typeName depth t).map (("nullable " ++ ·) <$> ·)
      | none, [] => some (.ok "null")
      | none, [t] => g.proposalWithin typeName depth t
      | none, _ => some (typeName id)
    | _ => some (typeName id)

/-- Add the declarations that a type refers to, other than `self`, unless more than `depth` calls
are open at once. -/
def collectWithin (g : TypeGraph) (self : Option Nat) : Nat → List Nat → Ty → Option (List Nat)
  | 0, _, _ => none
  | _ + 1, found, .primitive _ => some found
  | depth + 1, found, .array _ t => g.collectWithin self depth found t
  | depth + 1, found, .map _ t => g.collectWithin self depth found t
  | depth + 1, found, .named id =>
    if g.isDeclared id then
      some (if self = some id || found.contains id then found else found ++ [id])
    else (g.parts id).foldlM (g.collectWithin self depth) found

/-- The declarations that the declaration of a type refers to, unless more than `depth` calls are
open at once. -/
def referencesWithin (g : TypeGraph) : Nat → Ty → Option (List Nat)
  | 0, _ => none
  | depth + 1, t =>
    if g.needsDeclaration t then (g.children t).foldlM (g.collectWithin t.target? depth) []
    else g.collectWithin none depth [] t

end TypeGraph

/-! ## What a recursion has left -/

namespace TypeGraph

variable {g : TypeGraph} {depth fuel : Nat} {s t : Ty}

/-- The references into the store that lead somewhere. -/
def stored (g : TypeGraph) : Finset Ty := (Finset.range g.types.size).image Ty.named

theorem card_stored_le (g : TypeGraph) : g.stored.card ≤ g.types.size :=
  Finset.card_image_le.trans (Finset.card_range _).le

theorem mem_stored {id : Nat} (h : t ∈ g.parts id) : Ty.named id ∈ g.stored := by
  refine Finset.mem_image.mpr ⟨id, Finset.mem_range.mpr ?_, rfl⟩
  by_contra hlt
  rw [parts_of_shape?_eq_none (shape?_eq_none_iff.mpr (Nat.le_of_not_lt hlt))] at h
  cases h

/-- Room for a recursion from a type: a call for each node below it, and fuel for each named type
below it and one more. -/
structure Ample (g : TypeGraph) (depth fuel : Nat) (t : Ty) : Prop where
  occurs : g.Occurs t
  depth : g.below g.nodes t ≤ depth
  fuel : g.below g.stored t < fuel

/-- Without an inline cycle, a call for each node and fuel for each named type are enough. -/
theorem Occurs.ample (ht : g.Occurs t) (hdepth : g.nodes.card ≤ depth) :
    g.Ample depth (g.types.size + 1) t where
  occurs := ht
  depth := (g.below_le_card g.nodes t).trans hdepth
  fuel := Nat.lt_succ_of_le ((g.below_le_card g.stored t).trans g.card_stored_le)

theorem Ample.exists_depth (h : g.Ample depth fuel t) : ∃ less, depth = less + 1 := by
  have hpos := below_pos (g := g) (mem_nodes_iff.mpr h.occurs)
  have hle := h.depth
  exact Nat.exists_eq_add_one_of_ne_zero (by omega)

theorem Ample.exists_fuel (h : g.Ample depth fuel t) : ∃ less, fuel = less + 1 :=
  Nat.exists_eq_add_one_of_ne_zero (Nat.ne_zero_of_lt h.fuel)

/-- A union of one type and perhaps null is written with that type. -/
theorem descends_of_single {id : Nat} {ms : List Ty} (hs : g.shape? id = some (.union ms))
    (ht : nonNulls ms = [t]) : g.Descends (.named id) t := by
  refine ⟨by simp [needsDeclaration, isDeclared_of_union hs, ht], ?_⟩
  have hmem : t ∈ nonNulls ms := by simp [ht]
  rw [children, parts_of_union hs]
  exact (List.mem_filter.mp hmem).1

theorem descends_array (mark : Nat) (t : Ty) : g.Descends (.array mark t) t :=
  ⟨rfl, by simp [children]⟩

theorem descends_map (mark : Nat) (t : Ty) : g.Descends (.map mark t) t :=
  ⟨rfl, by simp [children]⟩

section Descending

variable (hfree : g.inlineCycle? = none) (hm : g.IsMarked)
include hfree hm

/-- A step down takes one call. -/
theorem Ample.content (h : g.Ample (depth + 1) fuel s) (hst : g.Descends s t) :
    g.Ample depth fuel t where
  occurs := h.occurs.child hst.2
  depth := by
    have hlt := below_lt hfree hm h.occurs (mem_nodes_iff.mpr h.occurs) hst
    have hle := h.depth
    omega
  fuel := (below_le hst).trans_lt h.fuel

/-- From a named type a step down takes one unit of fuel as well. -/
theorem Ample.member {id : Nat} (h : g.Ample (depth + 1) (fuel + 1) (.named id))
    (hst : g.Descends (.named id) t) : g.Ample depth fuel t := by
  refine ⟨h.occurs.child hst.2, (h.content hfree hm hst).depth, ?_⟩
  have hlt := below_lt hfree hm h.occurs (mem_stored hst.2) hst
  have hle := h.fuel
  omega

end Descending

end TypeGraph

/-! ## The limit is not reached -/

/-- What is collected from types in turn is what is collected from the named types at the bottom of
them. -/
theorem foldlM_collectWithin {g : TypeGraph} {self : Option Nat} {depth fuel : Nat} {ts : List Ty}
    (h : ∀ t ∈ ts, ∀ found, ∃ ids, g.collectWithin self depth found t = some ids ∧
      t.target?.toList.foldlM (g.collect self fuel) found = .ok ids) :
    ∀ found, ∃ ids, ts.foldlM (g.collectWithin self depth) found = some ids ∧
      (ts.filterMap Ty.target?).foldlM (g.collect self fuel) found = .ok ids := by
  induction ts with
  | nil => exact fun found => ⟨found, rfl, rfl⟩
  | cons t ts ih =>
    intro found
    obtain ⟨mid, hwithin, hmid⟩ := h t (by simp) found
    obtain ⟨ids, hrest, hids⟩ := ih (fun u hu => h u (List.mem_cons_of_mem t hu)) mid
    have hsplit : (t :: ts).filterMap Ty.target? = t.target?.toList ++ ts.filterMap Ty.target? := by
      cases ht : t.target? <;> simp [ht]
    refine ⟨ids, ?_, ?_⟩
    · rw [List.foldlM_cons, hwithin]
      exact hrest
    · rw [hsplit, List.foldlM_append, hmid]
      exact hids

theorem foldlM_toList_some {f : List Nat → Nat → Except Fault (List Nat)} {found : List Nat}
    {id : Nat} : (some id).toList.foldlM f found = f found id := by simp

section

variable {g : TypeGraph} (hfree : g.inlineCycle? = none) (hm : g.IsMarked)
include hfree hm

open Zig in
theorem typeWithin_eq (typeName : Nat → Except NameError String) (o : Options) (withIssues : Bool) :
    ∀ depth fuel t, g.Ample depth fuel t →
      TypeMap.typeWithin ⟨g, typeName, o⟩ withIssues (depth + 1) t =
        some (typeWith o withIssues (TypeMap.namedType ⟨g, typeName, o⟩ withIssues fuel) t) := by
  -- A call is open for each node on the way down; the one call more that the limit allows is for
  -- the null type, which a union of nothing but null is handed on to.
  intro depth
  induction depth with
  | zero => intro fuel t h; obtain ⟨_, hless⟩ := h.exists_depth; cases hless
  | succ depth ih =>
    intro fuel t h
    cases t with
    | primitive p => rfl
    | array mark t =>
      rw [TypeMap.typeWithin, ih fuel t (h.content hfree hm (descends_array mark t))]
      rfl
    | map mark t =>
      rw [TypeMap.typeWithin, ih fuel t (h.content hfree hm (descends_map mark t))]
      rfl
    | named id =>
      obtain ⟨fuel, rfl⟩ := h.exists_fuel
      simp only [TypeMap.typeWithin, typeWith, TypeMap.namedType]
      cases hs : g.shape? id with
      | none => rfl
      | some shape =>
        cases shape with
        | record ps => rfl
        | enum cs => rfl
        | union ms =>
          cases membersView ms with
          | nullable t hnull ht =>
            simp only [nullableOf_of_single hnull ht]
            rw [ih fuel t (h.member hfree hm (descends_of_single hs ht))]
            rfl
          | nothing hnil => simp [hnil, nullableOf_of_length]
          | only t hnull ht =>
            simp only [nullableOf_of_hasNull hnull, ht]
            exact ih fuel t (h.member hfree hm (descends_of_single hs ht))
          | several hlen =>
            obtain ⟨s, t, rest, hms⟩ := nonNulls_eq_of_length hlen
            simp [hms, nullableOf_of_length]

theorem proposalWithin_eq (typeName : Nat → Except NameError String) :
    ∀ depth fuel t, g.Ample depth fuel t →
      g.proposalWithin typeName depth t = some (t.proposal (g.proposalOf typeName fuel)) := by
  intro depth
  induction depth with
  | zero => intro fuel t h; obtain ⟨_, hless⟩ := h.exists_depth; cases hless
  | succ depth ih =>
    intro fuel t h
    cases t with
    | primitive p => rfl
    | array mark t =>
      rw [proposalWithin, ih fuel t (h.content hfree hm (descends_array mark t))]
      rfl
    | map mark t =>
      rw [proposalWithin, ih fuel t (h.content hfree hm (descends_map mark t))]
      rfl
    | named id =>
      obtain ⟨fuel, rfl⟩ := h.exists_fuel
      simp only [proposalWithin, Ty.proposal, proposalOf]
      cases hs : g.shape? id with
      | none => rfl
      | some shape =>
        cases shape with
        | record ps => rfl
        | enum cs => rfl
        | union ms =>
          cases membersView ms with
          | nullable t hnull ht =>
            simp only [nullableOf_of_single hnull ht]
            rw [ih fuel t (h.member hfree hm (descends_of_single hs ht))]
            rfl
          | nothing hnil => simp [hnil, nullableOf_of_length]
          | only t hnull ht =>
            simp only [nullableOf_of_hasNull hnull, ht]
            exact ih fuel t (h.member hfree hm (descends_of_single hs ht))
          | several hlen =>
            obtain ⟨s, t, rest, hms⟩ := nonNulls_eq_of_length hlen
            simp [hms, nullableOf_of_length]

theorem collectWithin_eq (self : Option Nat) : ∀ depth fuel t, g.Ample depth fuel t →
    ∀ found, ∃ ids, g.collectWithin self depth found t = some ids ∧
      t.target?.toList.foldlM (g.collect self fuel) found = .ok ids := by
  intro depth
  induction depth with
  | zero => intro fuel t h; obtain ⟨_, hless⟩ := h.exists_depth; cases hless
  | succ depth ih =>
    intro fuel t h found
    cases t with
    | primitive p => exact ⟨found, rfl, rfl⟩
    | array mark t => exact ih fuel t (h.content hfree hm (descends_array mark t)) found
    | map mark t => exact ih fuel t (h.content hfree hm (descends_map mark t)) found
    | named id =>
      obtain ⟨fuel, rfl⟩ := h.exists_fuel
      rw [show (Ty.named id).target? = some id from rfl, foldlM_toList_some, collectWithin, collect]
      by_cases hd : g.isDeclared id = true
      · rw [if_pos hd, if_pos hd]
        exact ⟨_, rfl, rfl⟩
      · rw [if_neg hd, if_neg hd]
        exact foldlM_collectWithin (fun t ht =>
          ih fuel t (h.member hfree hm ⟨Bool.eq_false_of_not_eq_true hd, ht⟩)) found

theorem referencesWithin_eq {depth : Nat} {t : Ty} (ht : g.Occurs t)
    (hdepth : g.nodes.card ≤ depth) :
    ∃ ids, g.referencesWithin (depth + 1) t = some ids ∧ g.referencedDeclarations t = .ok ids := by
  rw [referencesWithin, referencedDeclarations]
  by_cases hd : g.needsDeclaration t = true
  · rw [if_pos hd]
    cases t with
    | named id =>
      simp only [Ty.target?, Ty.leaf, if_pos hd]
      exact foldlM_collectWithin (fun c hc => collectWithin_eq hfree hm (some id) depth _ c
        ((ht.child hc).ample hdepth)) []
    | _ => cases hd
  · rw [if_neg hd]
    obtain ⟨ids, hwithin, hids⟩ := collectWithin_eq hfree hm none depth _ t (ht.ample hdepth) []
    refine ⟨ids, hwithin, ?_⟩
    cases htarget : t.target? with
    | none => rw [htarget] at hids; exact hids
    | some id =>
      rw [htarget, foldlM_toList_some] at hids
      simp only [if_neg hd]
      exact hids

/-- Without an inline cycle, no recursion has more calls open at once than there are nodes and one
more, although there may be cycles through declared types. -/
theorem nesting_le_card_nodes {t : Ty} (ht : g.Occurs t) {depth : Nat}
    (hdepth : g.nodes.card < depth) (typeName : Nat → Except NameError String) (o : Zig.Options)
    (withIssues : Bool) :
    Zig.TypeMap.typeWithin ⟨g, typeName, o⟩ withIssues depth t =
        some (Zig.TypeMap.type ⟨g, typeName, o⟩ withIssues t) ∧
      g.proposalWithin typeName depth t = some (g.memberProposal typeName t) ∧
      ∃ ids, g.referencesWithin depth t = some ids ∧ g.referencedDeclarations t = .ok ids := by
  obtain ⟨depth, rfl⟩ := Nat.exists_eq_add_one_of_ne_zero (Nat.ne_zero_of_lt hdepth)
  have hcalls : g.nodes.card ≤ depth := Nat.le_of_lt_succ hdepth
  refine ⟨?_, ?_, referencesWithin_eq hfree hm ht hcalls⟩
  · exact typeWithin_eq hfree hm typeName o withIssues depth _ t (ht.ample hcalls)
  · exact proposalWithin_eq hfree hm typeName (depth + 1) _ t (ht.ample hdepth.le)

end

/-- A record and a union, both declared, that lead to each other and to themselves. -/
def knotGraph : TypeGraph where
  types := #[
    ⟨.str "Node", .null, .record [⟨.str "items", .array 0 (.named 1), false, .null⟩,
      ⟨.str "named", .named 2, true, .null⟩]⟩,
    ⟨.str "Item", .null, .union [.named 0, .named 1, .primitive .string]⟩,
    ⟨.str "Named", .null, .union [.primitive .null, .map 1 (.array 0 (.named 1))]⟩]
  topLevels := [("Node", .named 0)]

/-- Seven nodes, so eight calls are enough for the union of null and a map of arrays. -/
theorem nesting_knotGraph : knotGraph.inlineCycle? = none ∧ knotGraph.nodes.card = 7 ∧
    Zig.TypeMap.typeWithin ⟨knotGraph, fun _ => .ok "Item", .default⟩ true 8 (.named 2) =
      some (.ok ⟨"?std.StringHashMap([]Item)", true, []⟩) ∧
    knotGraph.proposalWithin (fun _ => .ok "item") 8 (.named 2) =
      some (.ok "nullable item array map") ∧
    knotGraph.referencesWithin 8 (.named 0) = some [1] := by
  have hfree : knotGraph.inlineCycle? = none := by decide
  have hm : knotGraph.IsMarked := by decide
  have hcard : knotGraph.nodes.card = 7 := by decide
  have hnamed : knotGraph.Occurs (.named 2) := mem_nodes_iff.mp (by decide)
  have hroot : knotGraph.Occurs (.named 0) := mem_nodes_iff.mp (by decide)
  have hdepth : knotGraph.nodes.card < 8 := by rw [hcard]; decide
  obtain ⟨htype, -, -⟩ := nesting_le_card_nodes hfree hm hnamed hdepth
    (fun _ => .ok "Item") .default true
  obtain ⟨-, hproposal, -⟩ := nesting_le_card_nodes hfree hm hnamed hdepth
    (fun _ => .ok "item") .default true
  obtain ⟨-, -, ids, hwithin, hids⟩ := nesting_le_card_nodes hfree hm hroot hdepth
    (fun _ => .ok "item") .default true
  have hone : knotGraph.referencedDeclarations (.named 0) = .ok [1] := by rfl
  refine ⟨hfree, hcard, htype.trans ?_, hproposal.trans ?_, ?_⟩
  · rfl
  · rfl
  · rw [hwithin, Except.ok.inj (hids.symm.trans hone)]

end ZigDecl
