import ZigDecl.Proofs.Graph.Loaded
import ZigDecl.Zig.TypeMap

/-! # How types are spelled

`Spells` relates a type of a graph to a Zig type in which references stand in place of names. Main
statements: every type that the top-levels lead to can be spelled, the type map writes what spells a
type, and the declarations collected for a type are those that its spelling refers to. -/

namespace ZigDecl.Zig

theorem name_annotated (withIssues : Bool) (name issue : String) :
    (annotated withIssues name issue).name = name := by
  cases withIssues <;> rfl

theorem exists_primitiveType {o : Options} (hany : ∃ s, o.anyType = .str s) (withIssues : Bool)
    (p : Primitive) : ∃ t, primitiveType o withIssues p = .ok t := by
  obtain ⟨s, hs⟩ := hany
  cases p with
  | any => exact ⟨annotated withIssues s anyIssue, by simp only [primitiveType, hs]⟩
  | _ => exact ⟨_, rfl⟩

/-- A Zig type before names are put in. -/
inductive Expr where
  | builtin (p : Primitive)
  | ref (id : Nat)
  | slice (items : Expr)
  | hashMap (values : Expr)
  | optional (inner : Expr)
  deriving DecidableEq, Repr

namespace Expr

/-- The declaration that a Zig type refers to. -/
def target? : Expr → Option Nat
  | .builtin _ => none
  | .ref id => some id
  | .slice e => target? e
  | .hashMap e => target? e
  | .optional e => target? e

/-- The text of a Zig type. -/
def write (m : TypeMap) (withIssues : Bool) : Expr → Except NameError TypeExpr
  | .builtin p => primitiveType m.options withIssues p
  | .ref id => TypeExpr.plain <$> m.typeName id
  | .slice e => (·.wrap "[]" "") <$> write m withIssues e
  | .hashMap e => (·.wrap "std.StringHashMap(" ")") <$> write m withIssues e
  | .optional e => TypeExpr.asOptional <$> write m withIssues e

/-- A type whose reference, if any, has a name can be written. -/
theorem exists_write {m : TypeMap} (hany : ∃ s, m.options.anyType = .str s) (withIssues : Bool)
    {e : Expr} (h : ∀ id, e.target? = some id → ∃ name, m.typeName id = .ok name) :
    ∃ t, e.write m withIssues = .ok t := by
  induction e with
  | builtin p => exact exists_primitiveType hany withIssues p
  | ref id =>
    obtain ⟨name, hn⟩ := h id rfl
    exact ⟨.plain name, by rw [write, hn]; rfl⟩
  | slice e ih =>
    obtain ⟨t, ht⟩ := ih h
    exact ⟨t.wrap "[]" "", by rw [write, ht]; rfl⟩
  | hashMap e ih =>
    obtain ⟨t, ht⟩ := ih h
    exact ⟨t.wrap "std.StringHashMap(" ")", by rw [write, ht]; rfl⟩
  | optional e ih =>
    obtain ⟨t, ht⟩ := ih h
    exact ⟨t.asOptional, by rw [write, ht]; rfl⟩

end Expr

/-- Whether a named type is a union with null among its members. -/
def admitsNull (g : TypeGraph) (id : Nat) : Bool :=
  match g.shape? id with
  | some (.union ms) => hasNull ms
  | _ => false

/-- What spells a type: a declared type is referred to, and an undeclared union is spelled as what
it amounts to. -/
inductive Spells (g : TypeGraph) : Ty → Expr → Prop
  | primitive (p : Primitive) : Spells g (.primitive p) (.builtin p)
  | array {mark : Nat} {t : Ty} {e : Expr} (h : Spells g t e) :
      Spells g (.array mark t) (.slice e)
  | map {mark : Nat} {t : Ty} {e : Expr} (h : Spells g t e) :
      Spells g (.map mark t) (.hashMap e)
  | declared {id : Nat} (hd : g.isDeclared id = true) (hnull : admitsNull g id = false) :
      Spells g (.named id) (.ref id)
  | declaredOrNull {id : Nat} (hd : g.isDeclared id = true) (hnull : admitsNull g id = true) :
      Spells g (.named id) (.optional (.ref id))
  | nothing {id : Nat} {ms : List Ty} (hs : g.shape? id = some (.union ms))
      (hnil : nonNulls ms = []) : Spells g (.named id) (.builtin .null)
  | nullable {id : Nat} {ms : List Ty} {t : Ty} {e : Expr} (hs : g.shape? id = some (.union ms))
      (hnull : hasNull ms = true) (ht : nonNulls ms = [t]) (h : Spells g t e) :
      Spells g (.named id) (.optional e)
  | only {id : Nat} {ms : List Ty} {t : Ty} {e : Expr} (hs : g.shape? id = some (.union ms))
      (hnull : hasNull ms = false) (ht : nonNulls ms = [t]) (h : Spells g t e) :
      Spells g (.named id) e

variable {g : TypeGraph}

/-! ## Every type is spelled -/

theorem exists_spells_of_target {t : Ty}
    (h : ∀ id, t.target? = some id → ∃ e, Spells g (.named id) e) : ∃ e, Spells g t e := by
  induction t with
  | primitive p => exact ⟨_, .primitive p⟩
  | array m t ih =>
    obtain ⟨e, he⟩ := ih h
    exact ⟨_, .array he⟩
  | map m t ih =>
    obtain ⟨e, he⟩ := ih h
    exact ⟨_, .map he⟩
  | named id => exact h id rfl

theorem exists_spells_declared {id : Nat} (hd : g.isDeclared id = true) :
    ∃ e, Spells g (.named id) e := by
  cases hnull : admitsNull g id with
  | true => exact ⟨_, .declaredOrNull hd hnull⟩
  | false => exact ⟨_, .declared hd hnull⟩

/-- Spelling comes to an end, for every step of writing out goes down in rank. -/
theorem exists_spells_named (hg : g.IsFounded) :
    ∀ id, g.Reachable id → ∃ e, Spells g (.named id) e := by
  refine TypeGraph.rank_induction hg.inlineFree hg.closed fun id hr ih => ?_
  cases hs : g.shape? id with
  | none =>
    exact absurd (hg.closed.lt_size hr) (Nat.not_lt.mpr (TypeGraph.shape?_eq_none_iff.mp hs))
  | some s =>
    cases s with
    | record ps => exact exists_spells_declared (TypeGraph.isDeclared_of_record hs)
    | enum cs => exact exists_spells_declared (TypeGraph.isDeclared_of_enum hs)
    | union ms =>
      have hinner : ∀ t, nonNulls ms = [t] → ∃ e, Spells g t e := fun t ht =>
        exists_spells_of_target fun j hj => ih j (TypeGraph.inlines_of_single hs ht hj)
      cases TypeGraph.membersView ms with
      | nullable t hnull ht =>
        obtain ⟨e, he⟩ := hinner t ht
        exact ⟨_, .nullable hs hnull ht he⟩
      | nothing hnil => exact ⟨_, .nothing hs hnil⟩
      | only t hnull ht =>
        obtain ⟨e, he⟩ := hinner t ht
        exact ⟨_, .only hs hnull ht he⟩
      | several hlen =>
        exact exists_spells_declared (by simp [TypeGraph.isDeclared_of_union hs, hlen])

/-- The named types at the bottom of a type are ones that the top-levels lead to. -/
def Leads (g : TypeGraph) (t : Ty) : Prop := ∀ id, t.target? = some id → g.Reachable id

theorem exists_spells (hg : g.IsFounded) {t : Ty} (ht : Leads g t) : ∃ e, Spells g t e :=
  exists_spells_of_target fun id hid => exists_spells_named hg id (ht id hid)

theorem leads_of_mem_parts {id : Nat} (hr : g.Reachable id) {t : Ty} (ht : t ∈ g.parts id) :
    Leads g t := fun _ hj => hr.mentions (TypeGraph.mentions_of_mem_parts ht hj)

theorem leads_root {top : String × Ty} (h : top ∈ g.topLevels) : Leads g top.2 :=
  fun id hid => ⟨id, TypeGraph.mem_roots.mpr ⟨top, h, hid⟩, .refl⟩

/-- What a type refers to is declared, and the top-levels lead to it. -/
theorem Spells.target_mem {t : Ty} {e : Expr} (h : Spells g t e) (ht : Leads g t) {id : Nat}
    (hid : e.target? = some id) : id ∈ g.declarations := by
  induction h with
  | primitive p => cases hid
  | array _ ih => exact ih ht hid
  | map _ ih => exact ih ht hid
  | declared hd =>
    cases hid
    exact TypeGraph.mem_declarations.mpr ⟨ht id rfl, hd⟩
  | declaredOrNull hd =>
    cases hid
    exact TypeGraph.mem_declarations.mpr ⟨ht id rfl, hd⟩
  | nothing => cases hid
  | @nullable j _ _ _ hs _ hm _ ih =>
    exact ih (fun k hk => (ht j rfl).mentions (TypeGraph.inlines_of_single hs hm hk).2) hid
  | @only j _ _ _ hs _ hm _ ih =>
    exact ih (fun k hk => (ht j rfl).mentions (TypeGraph.inlines_of_single hs hm hk).2) hid

/-- A declared type is spelled as a reference to it. -/
theorem Spells.target?_of_isDeclared {id : Nat} {e : Expr} (h : Spells g (.named id) e)
    (hd : g.isDeclared id = true) : e.target? = some id := by
  cases h with
  | declared => rfl
  | declaredOrNull => rfl
  | nothing hs hnil => simp [TypeGraph.isDeclared_of_union hs, hnil] at hd
  | nullable hs _ ht => simp [TypeGraph.isDeclared_of_union hs, ht] at hd
  | only hs _ ht => simp [TypeGraph.isDeclared_of_union hs, ht] at hd

/-- Fuel that suffices to write out a type: more than the types that are needed for it. -/
def Suffices (g : TypeGraph) (fuel : Nat) (t : Ty) : Prop :=
  ∀ id, t.target? = some id → g.rank id < fuel

theorem suffices_size (g : TypeGraph) (t : Ty) : Suffices g (g.types.size + 1) t :=
  fun id _ => Nat.lt_succ_of_le (g.rank_le_size id)

theorem Suffices.exists_less {fuel id : Nat} (h : Suffices g fuel (.named id)) :
    ∃ less, fuel = less + 1 :=
  Nat.exists_eq_add_one_of_ne_zero (Nat.ne_zero_of_lt (h id rfl))

/-- The only member of an undeclared union leads on, and less fuel suffices for it. -/
theorem Suffices.below (hg : g.IsFounded) {fuel id : Nat} {ms : List Ty} {t : Ty}
    (hfuel : Suffices g (fuel + 1) (.named id)) (hr : Leads g (.named id))
    (hs : g.shape? id = some (.union ms)) (ht : nonNulls ms = [t]) :
    Leads g t ∧ Suffices g fuel t := by
  have hin : ∀ j, t.target? = some j → g.Inlines id j :=
    fun j hj => TypeGraph.inlines_of_single hs ht hj
  refine ⟨fun j hj => (hr id rfl).mentions (hin j hj).2, fun j hj => ?_⟩
  have hrank := hfuel id rfl
  have hlt := TypeGraph.rank_lt hg.inlineFree hg.closed (hr id rfl) (hin j hj)
  omega

/-! ## The type map writes the spelling -/

/-- A declared type is written by its name. -/
theorem namedType_of_isDeclared {m : TypeMap} {id : Nat} (hd : m.graph.isDeclared id = true)
    (withIssues : Bool) (fuel : Nat) : m.namedType withIssues (fuel + 1) id =
      (fun name => if admitsNull m.graph id then (TypeExpr.plain name).asOptional
        else .plain name) <$> m.typeName id := by
  rw [TypeMap.namedType, admitsNull]
  cases hs : m.graph.shape? id with
  | none => simp [TypeGraph.isDeclared, hs] at hd
  | some s =>
    cases s with
    | record ps => rfl
    | enum cs => rfl
    | union ms =>
      have hlen := TypeGraph.length_of_isDeclared hs hd
      obtain ⟨t, u, rest, hms⟩ := TypeGraph.nonNulls_eq_of_length hlen
      have hne : (nonNulls ms).length ≠ 1 := by omega
      simp only [TypeGraph.nullableOf_of_length hne, hms]
      cases m.typeName id <;> rfl

theorem Spells.typeWith_eq {m : TypeMap} (hg : m.graph.IsFounded) (withIssues : Bool) {t : Ty}
    {e : Expr} (h : Spells m.graph t e) : ∀ {fuel : Nat}, Leads m.graph t →
    Suffices m.graph fuel t →
    typeWith m.options withIssues (m.namedType withIssues fuel) t = e.write m withIssues := by
  induction h with
  | primitive p => exact fun _ _ => rfl
  | array _ ih =>
    intro fuel ht hfuel
    rw [typeWith, ih ht hfuel, Expr.write]
  | map _ ih =>
    intro fuel ht hfuel
    rw [typeWith, ih ht hfuel, Expr.write]
  | @declared id hd hnull =>
    intro fuel _ hfuel
    obtain ⟨fuel, rfl⟩ := hfuel.exists_less
    rw [typeWith, namedType_of_isDeclared hd]
    simp only [hnull, Expr.write]
    rfl
  | @declaredOrNull id hd hnull =>
    intro fuel _ hfuel
    obtain ⟨fuel, rfl⟩ := hfuel.exists_less
    rw [typeWith, namedType_of_isDeclared hd]
    simp only [hnull, Expr.write]
    cases m.typeName id <;> rfl
  | @nothing id ms hs hnil =>
    intro fuel _ hfuel
    obtain ⟨fuel, rfl⟩ := hfuel.exists_less
    have hne : (nonNulls ms).length ≠ 1 := by simp [hnil]
    simp only [typeWith, TypeMap.namedType, hs, TypeGraph.nullableOf_of_length hne, hnil,
      Expr.write]
  | @nullable id ms t e hs hnull hm _ ih =>
    intro fuel ht hfuel
    obtain ⟨fuel, rfl⟩ := hfuel.exists_less
    obtain ⟨hleads, hless⟩ := hfuel.below hg ht hs hm
    simp only [typeWith, TypeMap.namedType, hs, TypeGraph.nullableOf_of_single hnull hm,
      ih hleads hless, Expr.write]
  | @only id ms t e hs hnull hm _ ih =>
    intro fuel ht hfuel
    obtain ⟨fuel, rfl⟩ := hfuel.exists_less
    obtain ⟨hleads, hless⟩ := hfuel.below hg ht hs hm
    simp only [typeWith, TypeMap.namedType, hs, TypeGraph.nullableOf_of_hasNull hnull, hm,
      ih hleads hless]

/-- The type map writes a type as it is spelled. -/
theorem Spells.type_eq {m : TypeMap} (hg : m.graph.IsFounded) (withIssues : Bool) {t : Ty}
    {e : Expr} (h : Spells m.graph t e) (ht : Leads m.graph t) :
    m.type withIssues t = e.write m withIssues :=
  h.typeWith_eq hg withIssues ht (suffices_size m.graph t)

/-! ## Collected declarations -/

/-- The list with a reference at its end, unless it has it already or the reference is to the type
that the list is for. -/
def addReference (self : Option Nat) (found : List Nat) : Option Nat → List Nat
  | none => found
  | some id => if self = some id || found.contains id then found else found ++ [id]

/-- Null leads to no named type. -/
theorem filterMap_target?_nonNulls (ms : List Ty) :
    (nonNulls ms).filterMap Ty.target? = ms.filterMap Ty.target? := by
  induction ms with
  | nil => rfl
  | cons t ms ih =>
    rw [nonNulls] at ih ⊢
    by_cases hnull : t.isNull = true
    · have htarget : t.target? = none := by
        cases t with
        | primitive p => rfl
        | _ => cases hnull
      rw [List.filter_cons_of_neg (by simp [hnull]), ih, List.filterMap_cons_none htarget]
    · rw [List.filter_cons_of_pos (by simp [hnull]), List.filterMap_cons, List.filterMap_cons, ih]

theorem successors_of_single {id : Nat} {ms : List Ty} {t : Ty}
    (hs : g.shape? id = some (.union ms)) (ht : nonNulls ms = [t]) :
    g.successors id = t.target?.toList := by
  rw [TypeGraph.successors, TypeGraph.parts_of_union hs, ← filterMap_target?_nonNulls, ht]
  cases htarget : t.target? <;> simp [htarget]

theorem successors_of_nothing {id : Nat} {ms : List Ty} (hs : g.shape? id = some (.union ms))
    (hnil : nonNulls ms = []) : g.successors id = [] := by
  rw [TypeGraph.successors, TypeGraph.parts_of_union hs, ← filterMap_target?_nonNulls, hnil]
  rfl

theorem collect_of_isDeclared {self : Option Nat} {fuel id : Nat} (hd : g.isDeclared id = true)
    (found : List Nat) : (Ty.named id).target?.toList.foldlM (g.collect self (fuel + 1)) found =
      .ok (addReference self found (some id)) := by
  show g.collect self (fuel + 1) found id >>= pure = _
  rw [TypeGraph.collect, if_pos hd, addReference]
  rfl

theorem collect_of_not_isDeclared {self : Option Nat} {fuel id : Nat}
    (hd : g.isDeclared id = false) (found : List Nat) :
    (Ty.named id).target?.toList.foldlM (g.collect self (fuel + 1)) found =
      (g.successors id).foldlM (g.collect self fuel) found := by
  show g.collect self (fuel + 1) found id >>= pure = _
  rw [TypeGraph.collect, if_neg (by simp [hd]), bind_pure]

/-- What is collected for a type is what its spelling refers to. -/
theorem Spells.collect_eq (hg : g.IsFounded) (self : Option Nat) {t : Ty} {e : Expr}
    (h : Spells g t e) : ∀ {fuel : Nat} (found : List Nat), Leads g t → Suffices g fuel t →
    t.target?.toList.foldlM (g.collect self fuel) found =
      .ok (addReference self found e.target?) := by
  induction h with
  | primitive p => exact fun _ _ _ => rfl
  | array _ ih => exact ih
  | map _ ih => exact ih
  | @declared id hd hnull =>
    intro fuel found _ hfuel
    obtain ⟨fuel, rfl⟩ := hfuel.exists_less
    exact collect_of_isDeclared hd found
  | @declaredOrNull id hd hnull =>
    intro fuel found _ hfuel
    obtain ⟨fuel, rfl⟩ := hfuel.exists_less
    exact collect_of_isDeclared hd found
  | @nothing id ms hs hnil =>
    intro fuel found _ hfuel
    obtain ⟨fuel, rfl⟩ := hfuel.exists_less
    have hd : g.isDeclared id = false := by simp [TypeGraph.isDeclared_of_union hs, hnil]
    rw [collect_of_not_isDeclared hd, successors_of_nothing hs hnil]
    rfl
  | @nullable id ms t e hs hnull hm _ ih =>
    intro fuel found ht hfuel
    obtain ⟨fuel, rfl⟩ := hfuel.exists_less
    obtain ⟨hleads, hless⟩ := hfuel.below hg ht hs hm
    have hd : g.isDeclared id = false := by simp [TypeGraph.isDeclared_of_union hs, hm]
    rw [collect_of_not_isDeclared hd, successors_of_single hs hm]
    exact ih found hleads hless
  | @only id ms t e hs hnull hm _ ih =>
    intro fuel found ht hfuel
    obtain ⟨fuel, rfl⟩ := hfuel.exists_less
    obtain ⟨hleads, hless⟩ := hfuel.below hg ht hs hm
    have hd : g.isDeclared id = false := by simp [TypeGraph.isDeclared_of_union hs, hm]
    rw [collect_of_not_isDeclared hd, successors_of_single hs hm]
    exact ih found hleads hless

end ZigDecl.Zig
