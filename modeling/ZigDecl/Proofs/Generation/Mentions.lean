import ZigDecl.Generation.Context
import ZigDecl.Proofs.Zig.Spelling

/-! # What declarations refer to

A declaration is written with the types of its fields, of its arms, or of its root. Main statement:
the declarations found for a declaration are those that its types refer to, without itself, each
once and in the order of first reference; only for an alias of a declared type they are those that
this type refers to from inside. -/

namespace ZigDecl.Generation

open Zig (Expr Spells Leads addReference suffices_size)

variable {g : TypeGraph}

/-- The types that are written in a declaration, in order. -/
def Declaration.written (g : TypeGraph) : Declaration → List Ty
  | .typeAlias _ root => [root]
  | .type id =>
    match g.shape? id with
    | some (.record ps) => ps.map (·.type)
    | some (.union ms) => nonNulls ms
    | _ => []

/-- The named type that a declaration declares. -/
def Declaration.self? : Declaration → Option Nat
  | .typeAlias _ _ => none
  | .type id => some id

/-- The references in a list of Zig types, in order. -/
def refsOf (es : List Expr) : List Nat := es.filterMap Expr.target?

theorem leads_of_mem_written {id : Nat} (hr : g.Reachable id) {t : Ty}
    (ht : t ∈ (Declaration.type id).written g) : Leads g t := by
  apply Zig.leads_of_mem_parts hr
  rw [Declaration.written] at ht
  cases hs : g.shape? id with
  | none => rw [hs] at ht; cases ht
  | some s =>
    rw [hs] at ht
    cases s with
    | record ps => rwa [TypeGraph.parts_of_record hs]
    | enum cs => cases ht
    | union ms =>
      rw [TypeGraph.parts_of_union hs]
      exact (List.mem_filter.mp ht).1

theorem exists_spelled (hg : g.IsFounded) {ts : List Ty} (h : ∀ t ∈ ts, Leads g t) :
    ∃ es, List.Forall₂ (Spells g) ts es := by
  induction ts with
  | nil => exact ⟨[], .nil⟩
  | cons t ts ih =>
    obtain ⟨e, he⟩ := Zig.exists_spells hg (h t (by simp))
    obtain ⟨es, hes⟩ := ih fun s hs => h s (List.mem_cons_of_mem t hs)
    exact ⟨e :: es, .cons he hes⟩

/-- What the types of a list refer to is declared. -/
theorem refsOf_mem {ts : List Ty} {es : List Expr} (h : List.Forall₂ (Spells g) ts es)
    (hl : ∀ t ∈ ts, Leads g t) : ∀ id ∈ refsOf es, id ∈ g.declarations := by
  induction h with
  | nil => simp [refsOf]
  | @cons t e ts es he _ ih =>
    intro id hid
    obtain ⟨e', he', htarget⟩ := List.mem_filterMap.mp hid
    rcases List.mem_cons.mp he' with rfl | he'
    · exact he.target_mem (hl t (by simp)) htarget
    · exact ih (fun s hs => hl s (List.mem_cons_of_mem t hs)) id
        (List.mem_filterMap.mpr ⟨e', he', htarget⟩)

/-! ## Without repetition -/

theorem foldl_addReference (self : Option Nat) : ∀ (ids found : List Nat),
    ids.foldl (fun found id => addReference self found (some id)) found =
      found ++ (ids.filter fun id => self ≠ some id ∧ id ∉ found).eraseDups
  | [], found => by simp
  | id :: ids, found => by
    rw [List.foldl_cons, foldl_addReference self ids, addReference]
    by_cases hskip : self = some id ∨ id ∈ found
    · rw [if_pos (by simpa using hskip), List.filter_cons_of_neg]
      rcases hskip with hself | hfound
      · simp [hself]
      · simp [hfound]
    · have hkeep : self ≠ some id ∧ id ∉ found := not_or.mp hskip
      rw [if_neg (by simpa using hskip), List.filter_cons_of_pos (by simpa using hkeep),
        List.eraseDups_cons, List.filter_filter, List.append_assoc, List.singleton_append]
      refine congrArg (found ++ id :: List.eraseDups ·) (List.filter_congr fun j _ => ?_)
      by_cases hj : j = id <;> simp [hj]

/-- A map that never takes two values to one keeps repetitions apart. -/
theorem filterMap_eraseDups {α β : Type} [BEq α] [LawfulBEq α] [BEq β] [LawfulBEq β]
    {f : α → Option β} (hf : ∀ a b c, f a = some c → f b = some c → a = b) :
    ∀ (as : List α), as.eraseDups.filterMap f = (as.filterMap f).eraseDups
  | [] => by simp
  | a :: as => by
    have ih := filterMap_eraseDups hf (as.filter fun b => !b == a)
    rw [List.eraseDups_cons, List.filterMap_cons, List.filterMap_cons, ih]
    cases ha : f a with
    | none =>
      simp only
      rw [List.filterMap_filter]
      refine congrArg List.eraseDups (List.filterMap_congr fun b _ => ?_)
      by_cases hb : b = a <;> simp [hb, ha]
    | some c =>
      simp only
      rw [List.eraseDups_cons, List.filterMap_filter, List.filter_filterMap]
      refine congrArg (c :: List.eraseDups ·) (List.filterMap_congr fun b _ => ?_)
      by_cases hb : b = a
      · simp [hb, ha, Option.filter]
      · cases hfb : f b with
        | none => simp
        | some d =>
          have hd : d ≠ c := fun h => hb (hf b a c (h ▸ hfb) ha)
          simp [hb, hd, Option.filter]
termination_by as => as.length
decreasing_by exact Nat.lt_succ_of_le (List.length_filter_le _ _)

/-! ## The declarations found for a declaration -/

/-- What is found for a list of types is what they refer to. -/
theorem collect_written (hg : g.IsFounded) (self : Option Nat) {ts : List Ty} {es : List Expr}
    (h : List.Forall₂ (Spells g) ts es) : ∀ (found : List Nat), (∀ t ∈ ts, Leads g t) →
    (ts.filterMap Ty.target?).foldlM (g.collect self (g.types.size + 1)) found =
      .ok ((refsOf es).foldl (fun found id => addReference self found (some id)) found) := by
  induction h with
  | nil => exact fun _ _ => rfl
  | @cons t e ts es he _ ih =>
    intro found hl
    have hsplit : (t :: ts).filterMap Ty.target? =
        t.target?.toList ++ ts.filterMap Ty.target? := by
      rw [List.filterMap_cons]
      cases t.target? <;> rfl
    have hcollect := he.collect_eq hg self found (hl t (by simp)) (suffices_size g t)
    rw [hsplit, List.foldlM_append, hcollect, ok_bind,
      ih _ fun s hs => hl s (List.mem_cons_of_mem t hs), refsOf, refsOf, List.filterMap_cons]
    cases e.target? <;> rfl

/-- The references of a list of types without repetition and without the declared type itself. -/
def references (self : Option Nat) (es : List Expr) : List Nat :=
  ((refsOf es).filter fun id => self ≠ some id).eraseDups

theorem foldl_addReference_nil (self : Option Nat) (es : List Expr) :
    (refsOf es).foldl (fun found id => addReference self found (some id)) [] =
      references self es := by
  rw [foldl_addReference, List.nil_append, references]
  refine congrArg List.eraseDups (List.filter_congr fun id _ => ?_)
  simp

theorem successors_eq_written {id : Nat} :
    g.successors id = ((Declaration.type id).written g).filterMap Ty.target? := by
  rw [TypeGraph.successors, Declaration.written]
  cases hs : g.shape? id with
  | none => rw [TypeGraph.parts_of_shape?_eq_none hs]
  | some s =>
    cases s with
    | record ps => rw [TypeGraph.parts_of_record hs]
    | enum cs => rw [TypeGraph.parts_of_enum hs]
    | union ms => rw [TypeGraph.parts_of_union hs, Zig.filterMap_target?_nonNulls]

/-- A declared type is looked at from inside, also where it is the root of an alias. -/
theorem referencedDeclarations_of_isDeclared (hg : g.IsFounded) {id : Nat} (hr : g.Reachable id)
    (hd : g.isDeclared id = true) {es : List Expr}
    (h : List.Forall₂ (Spells g) ((Declaration.type id).written g) es) :
    g.referencedDeclarations (.named id) = .ok (references (some id) es) := by
  have hneeds : g.needsDeclaration (.named id) = true := hd
  simp only [TypeGraph.referencedDeclarations, Ty.target?, Ty.leaf, hneeds, if_true]
  rw [successors_eq_written, collect_written hg _ h [] fun t ht => leads_of_mem_written hr ht,
    foldl_addReference_nil]

/-- Any other type is looked at as it is written. -/
theorem referencedDeclarations_of_not_needsDeclaration (hg : g.IsFounded) {t : Ty}
    (hl : Leads g t) (hd : g.needsDeclaration t = false) {e : Expr} (h : Spells g t e) :
    g.referencedDeclarations t = .ok (references none [e]) := by
  have hcollect := collect_written hg none (.cons h .nil) [] fun s hs => by
    rw [List.mem_singleton.mp hs]
    exact hl
  rw [foldl_addReference_nil] at hcollect
  rw [TypeGraph.referencedDeclarations, ← hcollect]
  cases ht : t.target? with
  | none => simp [ht, pure, Except.pure]
  | some id =>
    simp only [hd, List.filterMap_cons, ht, List.filterMap_nil, List.foldlM_cons, List.foldlM_nil,
      bind_pure]
    rfl

end ZigDecl.Generation
