import ZigDecl.Proofs.Steps
import ZigDecl.Proofs.Zig.Spelling

/-! # What is remarked on a type

A Zig type is a makeshift where nothing is known about the values at its bottom. Main statements: a
type has one leaf, the issue of a Zig type is that of its leaf, and whether issues are wanted
changes nothing but the issues. -/

namespace ZigDecl.Zig

/-- The leaf of a type: what is reached through the items of arrays, the values of maps and the only
other member of undeclared unions, which are null if null is all there is in them. -/
inductive Leaf (g : TypeGraph) : Ty → Ty → Prop
  | primitive (p : Primitive) : Leaf g (.primitive p) (.primitive p)
  | array {mark : Nat} {t l : Ty} (h : Leaf g t l) : Leaf g (.array mark t) l
  | map {mark : Nat} {t l : Ty} (h : Leaf g t l) : Leaf g (.map mark t) l
  | declared {id : Nat} (hd : g.isDeclared id = true) : Leaf g (.named id) (.named id)
  | nothing {id : Nat} {ms : List Ty} (hs : g.shape? id = some (.union ms))
      (hnil : nonNulls ms = []) : Leaf g (.named id) (.primitive .null)
  | only {id : Nat} {ms : List Ty} {t l : Ty} (hs : g.shape? id = some (.union ms))
      (ht : nonNulls ms = [t]) (h : Leaf g t l) : Leaf g (.named id) l

/-- The issue of a type that is a leaf. -/
def issueOf : Ty → Option String
  | .primitive .any => some anyIssue
  | .primitive .null => some nullIssue
  | _ => none

variable {g : TypeGraph}

/-! ## One leaf -/

/-- A type has at most one leaf. -/
theorem Leaf.unique {t l l' : Ty} (h : Leaf g t l) (h' : Leaf g t l') : l = l' := by
  induction h generalizing l' with
  | primitive p =>
    cases h'
    rfl
  | array _ ih =>
    cases h' with
    | array h' => exact ih h'
  | map _ ih =>
    cases h' with
    | map h' => exact ih h'
  | declared hd =>
    cases h' with
    | declared => rfl
    | nothing hs hnil => simp [TypeGraph.isDeclared_of_union hs, hnil] at hd
    | only hs ht => simp [TypeGraph.isDeclared_of_union hs, ht] at hd
  | nothing hs hnil =>
    cases h' with
    | declared hd => simp [TypeGraph.isDeclared_of_union hs, hnil] at hd
    | nothing => rfl
    | only hs' ht =>
      cases hs.symm.trans hs'
      cases hnil.symm.trans ht
  | only hs ht _ ih =>
    cases h' with
    | declared hd => simp [TypeGraph.isDeclared_of_union hs, ht] at hd
    | nothing hs' hnil =>
      cases hs.symm.trans hs'
      cases ht.symm.trans hnil
    | only hs' ht' h' =>
      cases hs.symm.trans hs'
      cases ht.symm.trans ht'
      exact ih h'

/-- The leaf of what is spelled by a Zig type. -/
def Expr.leaf : Expr → Ty
  | .builtin p => .primitive p
  | .ref id => .named id
  | .slice e => leaf e
  | .hashMap e => leaf e
  | .optional e => leaf e

theorem Spells.leaf {t : Ty} {e : Expr} (h : Spells g t e) : Leaf g t e.leaf := by
  induction h with
  | primitive p => exact .primitive p
  | array _ ih => exact .array ih
  | map _ ih => exact .map ih
  | declared hd => exact .declared hd
  | declaredOrNull hd => exact .declared hd
  | nothing hs hnil => exact .nothing hs hnil
  | nullable hs _ ht _ ih => exact .only hs ht ih
  | only hs _ ht _ ih => exact .only hs ht ih

/-- Every type that the top-levels lead to has a leaf. -/
theorem exists_leaf (hw : g.WellFormed) {t : Ty} (ht : Leads g t) : ∃ l, Leaf g t l := by
  obtain ⟨e, he⟩ := exists_spells hw.founded ht
  exact ⟨e.leaf, he.leaf⟩

/-! ## The issue of a type -/

theorem issues_asOptional (e : TypeExpr) : e.asOptional.issues = e.issues := by
  rw [TypeExpr.asOptional]
  split <;> rfl

/-- Nothing that is put around a type adds an issue or takes one away. -/
theorem Expr.issues_write {m : TypeMap} {e : Expr} : ∀ {t : TypeExpr}, e.write m true = .ok t →
    t.issues = (issueOf e.leaf).toList := by
  induction e with
  | builtin p =>
    intro t h
    rw [write, primitiveType.eq_def] at h
    cases p with
    | any =>
      cases hany : m.options.anyType with
      | str name => simp only [hany] at h; cases h; rfl
      | _ => simp [hany] at h
    | _ => cases h; rfl
  | ref id =>
    intro t h
    obtain ⟨name, _, rfl⟩ := exists_of_map_eq_ok h
    rfl
  | slice e ih =>
    intro t h
    obtain ⟨inner, hinner, rfl⟩ := exists_of_map_eq_ok h
    show inner.issues = _
    exact ih hinner
  | hashMap e ih =>
    intro t h
    obtain ⟨inner, hinner, rfl⟩ := exists_of_map_eq_ok h
    show inner.issues = _
    exact ih hinner
  | optional e ih =>
    intro t h
    obtain ⟨inner, hinner, rfl⟩ := exists_of_map_eq_ok h
    rw [issues_asOptional, ih hinner]
    rfl

namespace TypeMap

variable {m : TypeMap}

/-- The issue of a type is that of its leaf. -/
theorem issues_type (hw : m.graph.WellFormed) {t l : Ty} (ht : Leads m.graph t)
    (hl : Leaf m.graph t l) {e : TypeExpr} (h : m.type true t = .ok e) :
    e.issues = (issueOf l).toList := by
  obtain ⟨spelling, hspells⟩ := exists_spells hw.founded ht
  rw [hspells.type_eq hw.founded true ht] at h
  rw [Expr.issues_write h, hspells.leaf.unique hl]

theorem issues_propertyType (hw : m.graph.WellFormed) {p : Property} {l : Ty}
    (hp : Leads m.graph p.type) (hl : Leaf m.graph p.type l) {e : TypeExpr}
    (h : m.propertyType p = .ok e) : e.issues = (issueOf l).toList := by
  rw [propertyType] at h
  split at h
  · obtain ⟨inner, hinner, rfl⟩ := exists_of_map_eq_ok h
    rw [issues_asOptional, issues_type hw hp hl hinner]
  · exact issues_type hw hp hl h

end TypeMap

/-! ## Without issues -/

def TypeExpr.withoutIssues (e : TypeExpr) : TypeExpr := { e with issues := [] }

theorem withoutIssues_asOptional (e : TypeExpr) :
    e.asOptional.withoutIssues = e.withoutIssues.asOptional := by
  rw [TypeExpr.asOptional, TypeExpr.asOptional]
  show (if e.isOptional then _ else _ : TypeExpr).withoutIssues =
    if e.isOptional then _ else _
  split <;> rfl

theorem primitiveType_withoutIssues (o : Options) (p : Primitive) :
    primitiveType o false p = TypeExpr.withoutIssues <$> primitiveType o true p := by
  cases p with
  | any =>
    simp only [primitiveType]
    cases o.anyType <;> rfl
  | _ => rfl

/-- If named types keep all but their issues, all types do. -/
theorem typeWith_withoutIssues (o : Options) {named named' : Nat → Except NameError TypeExpr}
    (h : ∀ id, named' id = TypeExpr.withoutIssues <$> named id) (t : Ty) :
    typeWith o false named' t = TypeExpr.withoutIssues <$> typeWith o true named t := by
  induction t with
  | primitive p => exact primitiveType_withoutIssues o p
  | array mark t ih =>
    rw [typeWith, typeWith, ih]
    cases typeWith o true named t <;> rfl
  | map mark t ih =>
    rw [typeWith, typeWith, ih]
    cases typeWith o true named t <;> rfl
  | named id => exact h id

namespace TypeMap

theorem namedType_withoutIssues (m : TypeMap) : ∀ (fuel id : Nat),
    m.namedType false fuel id = TypeExpr.withoutIssues <$> m.namedType true fuel id
  | 0, _ => rfl
  | fuel + 1, id => by
    have hinner := typeWith_withoutIssues m.options (namedType_withoutIssues m fuel)
    rw [namedType, namedType]
    cases m.graph.shape? id with
    | none => cases m.typeName id <;> rfl
    | some s =>
      cases s with
      | union ms =>
        simp only [hinner]
        cases nullableOf ms with
        | some t =>
          dsimp only
          cases typeWith m.options true (m.namedType true fuel) t with
          | error e => rfl
          | ok e => exact congrArg Except.ok (withoutIssues_asOptional e).symm
        | none =>
          obtain _ | ⟨t, _ | ⟨u, rest⟩⟩ := nonNulls ms
          · exact primitiveType_withoutIssues m.options .null
          · rfl
          · cases hasNull ms <;> cases m.typeName id <;> rfl
      | _ => cases m.typeName id <;> rfl

/-- Whether issues are wanted or not, a type has the same text and the same flag, or there is the
same reason why it has none. -/
theorem type_withoutIssues (m : TypeMap) (t : Ty) :
    m.type false t = TypeExpr.withoutIssues <$> m.type true t :=
  typeWith_withoutIssues m.options (m.namedType_withoutIssues (m.graph.types.size + 1)) t

end TypeMap

end ZigDecl.Zig
