import Mathlib.Data.List.Chain
import ZigDecl.Graph.Build
import ZigDecl.Proofs.Zig.Descent
import ZigDecl.Proofs.Zig.Options

/-! # Optional types

Whether a Zig type is optional is kept as a flag next to its text. Main statement: the flag is set
just if the text starts with a question mark, and just for the types for which `IsOptional` says so;
no type is marked twice, and an optional property has the type of a union with null. -/

namespace ZigDecl.Zig

open TypeGraph

/-! ## Question marks in a text -/

/-- No two question marks stand side by side. -/
def Undoubled (text : String) : Prop := ¬ ['?', '?'] <:+: text.toList

instance (text : String) : Decidable (Undoubled text) := inferInstanceAs (Decidable (¬ _))

theorem undoubled_iff {text : String} :
    Undoubled text ↔ text.toList.IsChain fun c d => ¬ (c = '?' ∧ d = '?') := by
  rw [List.isChain_iff_forall_rel_of_append_cons_cons]
  constructor
  · rintro h c d before after heq ⟨rfl, rfl⟩
    exact h ⟨before, after, by simp [heq]⟩
  · rintro h ⟨before, after, heq⟩
    have hsplit : text.toList = before ++ '?' :: '?' :: after := by simp [← heq]
    exact h hsplit ⟨rfl, rfl⟩

theorem undoubled_of_not_mem {text : String} (h : '?' ∉ text.toList) : Undoubled text :=
  fun hpiece => h (hpiece.subset (by simp))

/-- Two texts put together have no two question marks side by side if none is at the seam. -/
theorem Undoubled.append {s t : String} (hs : Undoubled s) (ht : Undoubled t)
    (hseam : ¬ (s.toList.getLast? = some '?' ∧ t.toList.head? = some '?')) :
    Undoubled (s ++ t) := by
  rw [undoubled_iff, String.toList_append]
  refine (undoubled_iff.mp hs).append (undoubled_iff.mp ht) ?_
  rintro c hc d hd ⟨rfl, rfl⟩
  exact hseam ⟨hc, hd⟩

/-! ## The flag and the text of a Zig type -/

namespace TypeExpr

/-- The flag of a Zig type agrees with its text, in which nothing is marked twice. -/
structure IsExact (e : TypeExpr) : Prop where
  flag : e.isOptional = true ↔ e.name.toList.head? = some '?'
  undoubled : Undoubled e.name

theorem isExact_plain {name : String} (h : '?' ∉ name.toList) : (plain name).IsExact where
  flag := by
    refine ⟨nofun, fun hhead => (h ?_).elim⟩
    exact List.mem_of_mem_head? hhead
  undoubled := undoubled_of_not_mem h

theorem IsExact.wrap {e : TypeExpr} (h : e.IsExact) {before after : String}
    (hbefore : '?' ∉ before.toList) (hne : before.toList ≠ []) (hafter : '?' ∉ after.toList) :
    (e.wrap before after).IsExact where
  flag := by
    obtain ⟨c, rest, hcons⟩ := List.exists_cons_of_ne_nil hne
    refine ⟨nofun, fun hhead => (hbefore ?_).elim⟩
    simp only [TypeExpr.wrap, String.toList_append, hcons, List.cons_append, List.head?_cons]
      at hhead
    rw [hcons, Option.some.inj hhead]
    exact List.mem_cons_self
  undoubled := by
    have hfront : Undoubled (before ++ e.name) :=
      (undoubled_of_not_mem hbefore).append h.undoubled
        fun hseam => hbefore (List.mem_of_mem_getLast? hseam.1)
    exact hfront.append (undoubled_of_not_mem hafter)
      fun hseam => hafter (List.mem_of_mem_head? hseam.2)

/-- A mark is only put where there is none, and the flag knows. -/
theorem IsExact.asOptional {e : TypeExpr} (h : e.IsExact) : e.asOptional.IsExact := by
  rw [TypeExpr.asOptional]
  split
  · exact h
  · next hflag =>
    have hhead : e.name.toList.head? ≠ some '?' := fun hhead => hflag (h.flag.mpr hhead)
    refine ⟨by simp, ?_⟩
    have hmark : Undoubled "?" := by decide
    exact hmark.append h.undoubled fun hseam => hhead hseam.2

theorem IsExact.optionalIf {e : TypeExpr} (h : e.IsExact) (flag : Bool) :
    (e.optionalIf flag).IsExact := by
  cases flag with
  | true => exact h.asOptional
  | false => exact h

theorem isOptional_asOptional (e : TypeExpr) : e.asOptional.isOptional = true := by
  rw [TypeExpr.asOptional]
  split
  · assumption
  · rfl

theorem isOptional_optionalIf (flag : Bool) (e : TypeExpr) :
    (e.optionalIf flag).isOptional = (flag || e.isOptional) := by
  cases flag with
  | true => exact e.isOptional_asOptional
  | false => rfl

end TypeExpr

theorem isExact_annotated {name : String} (h : Undoubled name) (withIssues : Bool)
    (issue : String) : (annotated withIssues name issue).IsExact := by
  cases withIssues <;> exact ⟨by simp [annotated, TypeExpr.withIssue], h⟩

/-! ## The types that are optional -/

theorem eq_null_of_isNull {t : Ty} (h : t.isNull = true) : t = .primitive .null := by
  cases t with
  | primitive p =>
    cases p with
    | null => rfl
    | _ => cases h
  | _ => cases h

theorem hasNull_iff {ms : List Ty} : hasNull ms = true ↔ .primitive .null ∈ ms := by
  rw [hasNull, List.any_eq_true]
  constructor
  · rintro ⟨t, ht, hnull⟩
    exact eq_null_of_isNull hnull ▸ ht
  · exact fun h => ⟨_, h, rfl⟩

theorem nonNulls_of_hasNull {ms : List Ty} (h : hasNull ms = false) : nonNulls ms = ms := by
  refine List.filter_eq_self.mpr fun t ht => ?_
  simpa using List.any_eq_false.mp h t ht

namespace TypeMap

/-- The types that are optional as they stand: null, unknown values if their type is marked, unions
with null or without members, and unions whose only member is such a type. -/
inductive IsOptional (m : TypeMap) : Ty → Prop
  | null : IsOptional m (.primitive .null)
  | any {name : String} (hname : m.options.anyType = .str name)
      (hmark : name.toList.head? = some '?') : IsOptional m (.primitive .any)
  | withNull {id : Nat} {ms : List Ty} (hs : m.graph.shape? id = some (.union ms))
      (hnull : .primitive .null ∈ ms) : IsOptional m (.named id)
  | empty {id : Nat} (hs : m.graph.shape? id = some (.union [])) : IsOptional m (.named id)
  | only {id : Nat} {t : Ty} (hs : m.graph.shape? id = some (.union [t])) (h : IsOptional m t) :
      IsOptional m (.named id)

variable {m : TypeMap}

theorem isOptional_union_iff {id : Nat} {ms : List Ty}
    (hs : m.graph.shape? id = some (.union ms)) :
    m.IsOptional (.named id) ↔
      .primitive .null ∈ ms ∨ ms = [] ∨ ∃ t, ms = [t] ∧ m.IsOptional t := by
  constructor
  · intro h
    cases h with
    | withNull hs' hnull => cases hs.symm.trans hs'; exact .inl hnull
    | empty hs' => cases hs.symm.trans hs'; exact .inr (.inl rfl)
    | only hs' h => cases hs.symm.trans hs'; exact .inr (.inr ⟨_, rfl, h⟩)
  · rintro (hnull | rfl | ⟨t, rfl, h⟩)
    · exact .withNull hs hnull
    · exact .empty hs
    · exact .only hs h

/-- Of the named types only unions are optional. -/
theorem exists_union_of_isOptional {id : Nat} (h : m.IsOptional (.named id)) :
    ∃ ms, m.graph.shape? id = some (.union ms) := by
  cases h with
  | withNull hs _ => exact ⟨_, hs⟩
  | empty hs => exact ⟨_, hs⟩
  | only hs _ => exact ⟨_, hs⟩

theorem isOptional_of_nothing {id : Nat} {ms : List Ty}
    (hs : m.graph.shape? id = some (.union ms)) (hnil : nonNulls ms = []) :
    m.IsOptional (.named id) := by
  cases hnull : hasNull ms with
  | true => exact .withNull hs (hasNull_iff.mp hnull)
  | false =>
    rw [nonNulls_of_hasNull hnull] at hnil
    exact .empty (hnil ▸ hs)

theorem isOptional_single_iff {id : Nat} {ms : List Ty} {t : Ty}
    (hs : m.graph.shape? id = some (.union ms)) (hsingle : nonNulls ms = [t]) :
    m.IsOptional (.named id) ↔ hasNull ms = true ∨ m.IsOptional t := by
  rw [isOptional_union_iff hs, ← hasNull_iff]
  cases hnull : hasNull ms with
  | true => simp
  | false =>
    rw [nonNulls_of_hasNull hnull] at hsingle
    simp [hsingle]

/-- A type that goes by its name is optional just if null is among its members. -/
theorem isOptional_iff_of_isDeclared {id : Nat} (hd : m.graph.isDeclared id = true) :
    m.IsOptional (.named id) ↔ admitsNull m.graph id = true := by
  rw [admitsNull]
  cases hs : m.graph.shape? id with
  | none => simp [TypeGraph.isDeclared, hs] at hd
  | some shape =>
    cases shape with
    | union ms =>
      have hlen := length_of_isDeclared hs hd
      have hfew : ¬ (ms = [] ∨ ∃ t, ms = [t] ∧ m.IsOptional t) := by
        rintro (rfl | ⟨t, rfl, -⟩)
        · simp [nonNulls] at hlen
        · have hle := hlen.trans (List.length_filter_le _ _)
          simp at hle
      rw [isOptional_union_iff hs, or_iff_left hfew, hasNull_iff]
    | _ =>
      refine ⟨fun hopt => ?_, fun hnull => absurd hnull Bool.false_ne_true⟩
      obtain ⟨ms, hs'⟩ := exists_union_of_isOptional hopt
      cases hs.symm.trans hs'

end TypeMap

/-- What is left of a union of null and a type. -/
theorem distinctTypes_null {t : Ty} {ms : List Ty}
    (h : ms = [.primitive .null, t] ∨ ms = [t, .primitive .null]) :
    hasNull (distinctTypes ms) = true ∧
      nonNulls (distinctTypes ms) = if t.isNull then [] else [t] := by
  cases t with
  | primitive p => rcases h with rfl | rfl <;> cases p <;> exact ⟨rfl, rfl⟩
  | _ => rcases h with rfl | rfl <;> exact ⟨rfl, rfl⟩

namespace TypeMap

variable {m : TypeMap}

/-- Null is optional as it stands. -/
theorem nullableType_null (withIssues : Bool) :
    m.nullableType withIssues (.primitive .null) = m.type withIssues (.primitive .null) := by
  have hmark : (annotated withIssues ("?" ++ m.options.stringType) nullIssue).isOptional = true :=
    by cases withIssues <;> simp [annotated, TypeExpr.withIssue]
  exact congrArg Except.ok (if_pos hmark)

/-- A type that may be missing is written as a union of null and the type. -/
theorem nullableType_eq_type (hfree : m.graph.inlineCycle? = none) (hm : m.graph.IsMarked) {t : Ty}
    (ht : m.graph.Occurs t) {id : Nat} {ms : List Ty}
    (hs : m.graph.shape? id = some (.union (distinctTypes ms)))
    (hms : ms = [.primitive .null, t] ∨ ms = [t, .primitive .null]) (withIssues : Bool) :
    m.nullableType withIssues t = m.type withIssues (.named id) := by
  obtain ⟨hnull, hrest⟩ := distinctTypes_null hms
  cases hisNull : t.isNull with
  | true =>
    obtain rfl := eq_null_of_isNull hisNull
    rw [type_of_nothing hs hrest, nullableType_null]
    rfl
  | false =>
    rw [hisNull, if_neg Bool.false_ne_true] at hrest
    rw [type_of_single hfree hm hs hrest ht, hnull]
    rfl

end TypeMap

/-! ## Every type is exact -/

namespace TypeMap

/-- Every name is given and has no question mark, and the options are valid and mark the type of
unknown values at most once. -/
structure Unmarked (m : TypeMap) : Prop where
  options : m.options.IsValid
  anyType : ∃ name, m.options.anyType = .str name ∧ Undoubled name
  names : ∀ id, ∃ name, m.typeName id = .ok name ∧ '?' ∉ name.toList

/-- The Zig type of a type is there, it is exact, and it is optional just if the type is. -/
def IsMapped (m : TypeMap) (withIssues : Bool) (t : Ty) : Prop :=
  ∃ e, m.type withIssues t = .ok e ∧ e.IsExact ∧ (e.isOptional = true ↔ m.IsOptional t)

variable {m : TypeMap} {withIssues : Bool}

theorem IsMapped.wrap {s t : Ty} (h : m.IsMapped withIssues t) {before after : String}
    (hbefore : '?' ∉ before.toList) (hne : before.toList ≠ []) (hafter : '?' ∉ after.toList)
    (hs : m.type withIssues s = (·.wrap before after) <$> m.type withIssues t)
    (hnot : ¬ m.IsOptional s) : m.IsMapped withIssues s := by
  obtain ⟨e, he, hexact, -⟩ := h
  exact ⟨e.wrap before after, by rw [hs, he]; rfl, hexact.wrap hbefore hne hafter,
    nofun, fun hopt => absurd hopt hnot⟩

theorem IsMapped.plain {t : Ty} {name : String} (hname : '?' ∉ name.toList)
    (htype : m.type withIssues t = .ok (.plain name)) (hnot : ¬ m.IsOptional t) :
    m.IsMapped withIssues t :=
  ⟨_, htype, TypeExpr.isExact_plain hname, nofun, fun hopt => absurd hopt hnot⟩

theorem Unmarked.primitive (h : m.Unmarked) (withIssues : Bool) (p : Primitive) :
    m.IsMapped withIssues (.primitive p) := by
  have hint : ∀ s ∈ intTypes, '?' ∉ s.toList := by decide
  have hfloat : ∀ s ∈ floatTypes, '?' ∉ s.toList := by decide
  have hstring : ∀ s ∈ stringTypes, '?' ∉ s.toList := by decide
  have hvalid := h.options
  cases p with
  | any =>
    obtain ⟨name, hname, hundoubled⟩ := h.anyType
    have hexact := isExact_annotated hundoubled withIssues anyIssue
    refine ⟨_, by simp only [type, typeWith, primitiveType, hname], hexact, ?_⟩
    rw [hexact.flag, name_annotated]
    constructor
    · exact fun hmark => .any hname hmark
    · rintro ⟨⟩
      next hname' hmark => cases hname.symm.trans hname'; exact hmark
  | null =>
    have hmark : Undoubled "?" := by decide
    have htext : Undoubled ("?" ++ m.options.stringType) :=
      hmark.append (undoubled_of_not_mem (hstring _ hvalid.stringType))
        fun hseam => hstring _ hvalid.stringType (List.mem_of_mem_head? hseam.2)
    have hexact := isExact_annotated htext withIssues nullIssue
    refine ⟨_, rfl, hexact, ?_⟩
    rw [hexact.flag, name_annotated]
    simp [IsOptional.null]
  | bool => exact .plain (by decide : '?' ∉ "bool".toList) rfl (by rintro ⟨⟩)
  | integer => exact .plain (hint _ hvalid.intType) rfl (by rintro ⟨⟩)
  | double => exact .plain (hfloat _ hvalid.floatType) rfl (by rintro ⟨⟩)
  | string => exact .plain (hstring _ hvalid.stringType) rfl (by rintro ⟨⟩)

theorem Unmarked.declared (h : m.Unmarked) (withIssues : Bool) {id : Nat}
    (hd : m.graph.isDeclared id = true) : m.IsMapped withIssues (.named id) := by
  obtain ⟨name, hname, hmark⟩ := h.names id
  have htype := type_of_isDeclared hd withIssues
  rw [hname] at htype
  refine ⟨_, htype, (TypeExpr.isExact_plain hmark).optionalIf _, ?_⟩
  rw [TypeExpr.isOptional_optionalIf, isOptional_iff_of_isDeclared hd]
  simp [TypeExpr.plain]

/-- A union without a declaration has at most one member besides null. -/
theorem Unmarked.undeclared (h : m.Unmarked) (hfree : m.graph.inlineCycle? = none)
    (hm : m.graph.IsMarked) (withIssues : Bool) {id : Nat} {ms : List Ty}
    (hs : m.graph.shape? id = some (.union ms)) (hd : m.graph.isDeclared id = false)
    (ht : m.graph.Occurs (.named id))
    (ih : ∀ t, m.graph.Descends (.named id) t → m.IsMapped withIssues t) :
    m.IsMapped withIssues (.named id) := by
  match hms : nonNulls ms with
  | [] =>
    obtain ⟨e, he, hexact, hiff⟩ := h.primitive withIssues .null
    refine ⟨e, (type_of_nothing hs hms withIssues).trans he, hexact, hiff.trans ?_⟩
    exact iff_of_true .null (isOptional_of_nothing hs hms)
  | [t] =>
    have hdown := descends_of_single hs hms
    have htype := type_of_single hfree hm hs hms (ht.child hdown.2) withIssues
    obtain ⟨e, he, hexact, hiff⟩ := ih t hdown
    refine ⟨e.optionalIf (hasNull ms), by rw [htype, he]; rfl, hexact.optionalIf _, ?_⟩
    rw [TypeExpr.isOptional_optionalIf, isOptional_single_iff hs hms, ← hiff, Bool.or_eq_true]
  | _ :: _ :: _ => simp [isDeclared_of_union hs, hms] at hd

theorem Unmarked.isMapped (h : m.Unmarked) (hfree : m.graph.inlineCycle? = none)
    (hm : m.graph.IsMarked) (withIssues : Bool) :
    ∀ t, m.graph.Occurs t → m.IsMapped withIssues t := by
  refine descends_induction hfree hm fun t ht ih => ?_
  cases t with
  | primitive p => exact h.primitive withIssues p
  | array mark t =>
    exact (ih t (descends_array mark t)).wrap (by decide) (by decide) (by decide) rfl nofun
  | map mark t =>
    exact (ih t (descends_map mark t)).wrap (by decide) (by decide) (by decide) rfl nofun
  | named id =>
    cases hd : m.graph.isDeclared id with
    | true => exact h.declared withIssues hd
    | false =>
      cases hs : m.graph.shape? id with
      | none =>
        obtain ⟨name, hname, hmark⟩ := h.names id
        have htype := type_of_shape?_eq_none hs withIssues
        rw [hname] at htype
        refine .plain hmark htype fun hopt => ?_
        obtain ⟨ms, hs'⟩ := exists_union_of_isOptional hopt
        cases hs.symm.trans hs'
      | some shape =>
        cases shape with
        | record ps => simp [isDeclared_of_record hs] at hd
        | enum cs => simp [isDeclared_of_enum hs] at hd
        | union ms => exact h.undeclared hfree hm withIssues hs hd ht ih

/-- In a graph without inline cycles, with valid options, names without question marks and a type of
unknown values that is not marked twice: every type has a Zig type, whose flag says whether its text
starts with a question mark, which it does just for the types that are optional, and nowhere in the
text are there two question marks side by side. An optional property has the type that a required
one has whose type is a union of null and the type of the property. -/
theorem type_optional_iff (hfree : m.graph.inlineCycle? = none) (hm : m.graph.IsMarked)
    (h : m.Unmarked) {t : Ty} (ht : m.graph.Occurs t) :
    (∀ withIssues, ∃ e, m.type withIssues t = .ok e ∧
      (e.isOptional = true ↔ e.name.toList.head? = some '?') ∧
      (e.isOptional = true ↔ m.IsOptional t) ∧ ¬ ['?', '?'] <:+: e.name.toList) ∧
    ∀ (p q : Property) (id : Nat) (ms : List Ty), p.isOptional = true → p.type = t →
      q.isOptional = false → q.type = .named id →
      m.graph.shape? id = some (.union (distinctTypes ms)) →
      (ms = [.primitive .null, t] ∨ ms = [t, .primitive .null]) →
      m.propertyType p = m.propertyType q := by
  constructor
  · intro withIssues
    obtain ⟨e, he, hexact, hiff⟩ := h.isMapped hfree hm withIssues t ht
    exact ⟨e, he, hexact.flag, hiff, hexact.undoubled⟩
  · rintro p q id ms hp rfl hq hqt hs hms
    simp only [propertyType, hp, hq, hqt, if_true, Bool.false_eq_true, if_false]
    exact nullableType_eq_type hfree hm ht hs hms true

/-- A map of unions that are optional for one reason or another, in an optional property; the last
union is that of null and the type of the property. -/
def optionalGraph : TypeGraph where
  types := #[
    ⟨.str "Root", .null, .record [⟨.str "notes", .map 0 (.named 1), true, .null⟩]⟩,
    ⟨.str "MaybeNote", .null, .union [.primitive .null, .named 2]⟩,
    ⟨.str "Note", .null, .union [.named 3]⟩,
    ⟨.str "MaybeTexts", .null, .union [.array 1 (.primitive .any), .primitive .null]⟩,
    ⟨.str "MaybeNotes", .null, .union [.primitive .null, .map 0 (.named 1)]⟩]
  topLevels := [("Root", .named 0)]

theorem type_optional_iff_optionalGraph :
    let m : TypeMap :=
      ⟨optionalGraph, fun _ => .ok "T", { Options.default with anyType := .str "?Any" }⟩
    m.graph.inlineCycle? = none ∧ m.graph.IsMarked ∧ m.Unmarked ∧ m.graph.Occurs (.named 1) ∧
    m.type true (.named 1) = .ok ⟨"?[]?Any", true, [anyIssue]⟩ ∧ m.IsOptional (.named 1) ∧
    m.propertyType ⟨.str "notes", .map 0 (.named 1), true, .null⟩ =
      m.propertyType ⟨.str "notes", .named 4, false, .null⟩ := by
  intro m
  have hfree : m.graph.inlineCycle? = none := by decide
  have hm : m.graph.IsMarked := by decide
  have hunion : m.graph.Occurs (.named 1) := mem_nodes_iff.mp (by decide)
  have hmap : m.graph.Occurs (.map 0 (.named 1)) := mem_nodes_iff.mp (by decide)
  have hunmarked : m.Unmarked := ⟨⟨by decide, by decide, by decide, by decide⟩,
    ⟨_, rfl, by decide⟩, fun _ => ⟨_, rfl, by decide⟩⟩
  have htype : m.type true (.named 1) = .ok ⟨"?[]?Any", true, [anyIssue]⟩ := by rfl
  obtain ⟨hexact, -⟩ := type_optional_iff hfree hm hunmarked hunion
  obtain ⟨-, hproperty⟩ := type_optional_iff hfree hm hunmarked hmap
  obtain ⟨e, he, -, hiff, -⟩ := hexact true
  obtain rfl : ⟨"?[]?Any", true, [anyIssue]⟩ = e := Except.ok.inj (htype.symm.trans he)
  exact ⟨hfree, hm, hunmarked, hunion, htype, hiff.mp rfl,
    hproperty _ _ 4 [.primitive .null, .map 0 (.named 1)] rfl rfl rfl rfl rfl (.inl rfl)⟩

end TypeMap

end ZigDecl.Zig
