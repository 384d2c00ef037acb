import ZigDecl.Proofs.Document.Faithful
import ZigDecl.Proofs.Graph.Cycle

/-! # Inline cycles of a document

Which definitions are written out in place, and whether they lead back to themselves, can be told
from the document alone. Main statement: the search in a loaded graph finds nothing just if no
definition that the top-levels lead to is on an inline cycle of the document; so it finds the same
in whatever order the graph was made. -/

namespace ZigDecl

open Relation (TransGen ReflTransGen)

/-- The entries of a list without repetitions. -/
def distinctForms (forms : List Form) : List Form :=
  (firstPositions forms).filterMap (forms[·]?)

namespace Document

variable (d : Document)

/-- A definition is written out in place with what is inside it. -/
inductive IsInline : Place → Prop
  | array {p : Place} {v : Value} (hv : d.at? p = some v) (hk : v.kind? = some "array") : IsInline p
  | map {p : Place} {v : Value} (hv : d.at? p = some v) (hk : v.kind? = some "map") : IsInline p
  | union {p : Place} {v : Value} {forms : List Form} (hf : d.MemberForms p v forms)
      (hfew : ((distinctForms forms).filter (· ≠ .primitive .null)).length < 2) : IsInline p

/-- A step from a definition written out in place to one directly inside it. -/
def Expands (p q : Place) : Prop :=
  d.IsInline p ∧ d.IsInline q ∧ ∃ s r, d.Inside p s r ∧ d.Denotes r q

/-- The top-levels lead to a definition. -/
def Occurs (p : Place) : Prop :=
  ∃ top ∈ d.tops, ∃ path q, d.Arrives (.ofTop top.1) path q ∧ d.Denotes q p

end Document

namespace TypeGraph

/-- What is directly inside a type is what a step leads to. -/
theorem mem_children_iff {g : TypeGraph} {t c : Ty} :
    c ∈ g.children t ↔ ∃ s, g.inside? t s = some c := by
  cases t with
  | primitive k =>
    refine ⟨fun h => absurd h List.not_mem_nil, ?_⟩
    rintro ⟨_ | _, h⟩ <;> cases h
  | array m t =>
    refine ⟨fun h => ⟨.items, by rw [List.mem_singleton.mp h]; rfl⟩, ?_⟩
    rintro ⟨_ | _, h⟩ <;> cases h
    exact List.mem_singleton_self c
  | map m t =>
    refine ⟨fun h => ⟨.values, by rw [List.mem_singleton.mp h]; rfl⟩, ?_⟩
    rintro ⟨_ | _, h⟩ <;> cases h
    exact List.mem_singleton_self c
  | named id =>
    simp only [children, parts]
    cases hshape : g.shape? id with
    | none =>
      refine ⟨fun h => absurd h List.not_mem_nil, ?_⟩
      rintro ⟨_ | _, h⟩ <;> simp [inside?, hshape] at h
    | some shape =>
      cases shape with
      | record ps =>
        constructor
        · intro h
          obtain ⟨i, hi⟩ := List.mem_iff_getElem?.mp h
          exact ⟨.property i, by simpa [inside?, hshape] using hi⟩
        · rintro ⟨_ | _ | i, h⟩ <;> simp only [inside?, hshape] at h <;> try cases h
          rw [← List.getElem?_map] at h
          exact List.mem_of_getElem? h
      | enum cases =>
        refine ⟨fun h => absurd h List.not_mem_nil, ?_⟩
        rintro ⟨_ | _, h⟩ <;> simp [inside?, hshape] at h
      | union ms =>
        constructor
        · intro h
          obtain ⟨i, hi⟩ := List.mem_iff_getElem?.mp h
          exact ⟨.member i, by simpa [inside?, hshape] using hi⟩
        · rintro ⟨_ | _ | _ | i, h⟩ <;> simp only [inside?, hshape] at h <;> try cases h
          exact List.mem_of_getElem? h

/-- What is somewhere inside a type is what a path leads to. -/
theorem exists_walk?_iff {g : TypeGraph} {s t : Ty} :
    ReflTransGen (fun s c => c ∈ g.children s) s t ↔ ∃ path, g.walk? s path = some t := by
  constructor
  · intro h
    induction h using ReflTransGen.head_induction_on with
    | refl => exact ⟨[], rfl⟩
    | head hc _ ih =>
      obtain ⟨step, hstep⟩ := mem_children_iff.mp hc
      obtain ⟨path, hpath⟩ := ih
      refine ⟨step :: path, ?_⟩
      rw [walk?, List.foldlM_cons, hstep]
      exact hpath
  · rintro ⟨path, hpath⟩
    induction path generalizing s with
    | nil => cases hpath; exact .refl
    | cons step path ih =>
      rw [walk?, List.foldlM_cons] at hpath
      obtain ⟨c, hc, hpath⟩ := Option.bind_eq_some_iff.mp hpath
      exact .head (mem_children_iff.mpr ⟨step, hc⟩) (ih hpath)

end TypeGraph

namespace Document

variable {d : Document} {made : Made} {g : TypeGraph}

theorem IsInline.denotes {p : Place} (h : d.IsInline p) : d.Denotes p p := by
  cases h with
  | array hv hk | map hv hk => exact .self hv (Value.reference?_of_kind? hk)
  | union hf => exact .self hf.here (Value.reference?_of_kind? hf.kind)

theorem IsInline.primitive?_eq_none {p : Place} (h : d.IsInline p) {v : Value}
    (hv : d.at? p = some v) : v.primitive? = none := by
  cases hk : v.primitive? with
  | none => rfl
  | some k =>
    cases h with
    | union hf => have hv' := hf.here; have hk' := hf.kind; grind
    | _ => grind

/-- Types that are kept, without the null type, are as many as their forms. -/
theorem length_nonNulls {ts : List Ty}
    (h : (distinctTypes ts).map some =
      (firstPositions (ts.map (Ty.form made.placeOf))).map (ts[·]?)) :
    (nonNulls (distinctTypes ts)).length =
      ((distinctForms (ts.map (Ty.form made.placeOf))).filter (· ≠ .primitive .null)).length := by
  have hforms : distinctForms (ts.map (Ty.form made.placeOf)) =
      (distinctTypes ts).map (Ty.form made.placeOf) := by
    have hmap := congrArg (List.filterMap (Option.map (Ty.form made.placeOf))) h
    simp only [List.filterMap_map, Function.comp_def, Option.map_some] at hmap
    simp only [distinctForms, List.getElem?_map, ← hmap, List.filterMap_eq_map']
  have hnull : ∀ t : Ty, decide (t.form made.placeOf ≠ .primitive .null) = !t.isNull := by
    intro t
    cases t with
    | primitive k => cases k <;> rfl
    | _ => simp [Ty.form, Ty.isNull]
  rw [hforms, List.filter_map, List.length_map, nonNulls]
  simp only [Function.comp_def, hnull]

namespace IsReadAs

variable (hr : d.IsReadAs made g)
include hr

/-- A type is inline just if the definition in its place is. -/
theorem isInline_iff {p : Place} {t : Ty} (h : d.Reads made p t) (hp : d.Denotes p p) :
    g.isInline t = true ↔ d.IsInline p := by
  obtain ⟨w, hw, href⟩ := hp.exists_at?
  cases h with
  | reference => grind
  | primitive hv hk =>
    refine ⟨fun h => absurd h Bool.false_ne_true, fun hin => ?_⟩
    cases hin with
    | union hf => have hv' := hf.here; have hk' := hf.kind; grind
    | _ => grind
  | array hv hk => exact ⟨fun _ => .array hv hk, fun _ => rfl⟩
  | map hv hk => exact ⟨fun _ => .map hv hk, fun _ => rfl⟩
  | named hv hk hid =>
    obtain ⟨v, shape, hv', hnamed, _, hshape, hf⟩ := hr.types _ _ hid
    simp only [TypeGraph.isInline, hshape]
    cases hf with
    | record hk' =>
      refine ⟨fun h => absurd h Bool.false_ne_true, fun hin => ?_⟩
      cases hin with
      | union hf => have hv' := hf.here; have hk' := hf.kind; grind
      | _ => grind
    | enum hk' =>
      refine ⟨fun h => absurd h Bool.false_ne_true, fun hin => ?_⟩
      cases hin with
      | union hf => have hv' := hf.here; have hk' := hf.kind; grind
      | _ => grind
    | @union ts hk' hlength hparts =>
      obtain ⟨hforms, hdistinct⟩ := hr.memberForms hv' hk' hlength hparts
      rw [decide_eq_true_eq, length_nonNulls hdistinct]
      refine ⟨fun hfew => .union hforms hfew, fun hin => ?_⟩
      cases hin with
      | union hf hfew => rwa [← (hf.unique hforms).2]
      | _ => grind

/-- A step between inline types is one between inline definitions. -/
theorem exists_expands {p : Place} {t u : Ty} (h : d.Reads made p t) (hp : d.Denotes p p)
    (hs : g.Expands t u) : ∃ q, d.Expands p q ∧ d.Reads made q u ∧ d.Denotes q q := by
  obtain ⟨ht, hin, hu⟩ := hs
  obtain ⟨s, hs⟩ := TypeGraph.mem_children_iff.mp hin
  obtain ⟨p', r, hp', hs, hread⟩ := hr.exists_inside h hs
  cases hp.unique hp'
  obtain ⟨q, hq, hread⟩ := hread.exists_denotes
  have hpin := (hr.isInline_iff h hp).mp ht
  have hqin := (hr.isInline_iff hread hq.refl).mp hu
  exact ⟨q, ⟨hpin, hqin, s, r, hs, hq⟩, hread, hq.refl⟩

/-- A step between inline definitions is one between inline types. -/
theorem exists_expands_type {p q : Place} {t : Ty} (h : d.Reads made p t)
    (hs : d.Expands p q) : ∃ u, g.Expands t u ∧ d.Reads made q u := by
  obtain ⟨hp, hq, s, r, hs, hr'⟩ := hs
  obtain ⟨u, hu, hread⟩ := hr.exists_inside? h hp.denotes hs
  have hread' := hread.denoted hr'
  refine ⟨u, ⟨(hr.isInline_iff h hp.denotes).mpr hp, ?_, ?_⟩, hread'⟩
  · exact TypeGraph.mem_children_iff.mpr ⟨s, hu⟩
  · exact (hr.isInline_iff hread' hq.denotes).mpr hq

theorem exists_transGen {p : Place} {t u : Ty} (h : d.Reads made p t) (hp : d.Denotes p p)
    (hs : TransGen g.Expands t u) :
    ∃ q, TransGen d.Expands p q ∧ d.Reads made q u ∧ d.Denotes q q := by
  induction hs with
  | single hs =>
    obtain ⟨q, hq, hread, hd⟩ := hr.exists_expands h hp hs
    exact ⟨q, .single hq, hread, hd⟩
  | tail _ hs ih =>
    obtain ⟨q, hq, hread, hd⟩ := ih
    obtain ⟨r, hr', hread', hd'⟩ := hr.exists_expands hread hd hs
    exact ⟨r, hq.tail hr', hread', hd'⟩

theorem exists_transGen_type {p q : Place} {t : Ty} (h : d.Reads made p t)
    (hs : TransGen d.Expands p q) : ∃ u, TransGen g.Expands t u ∧ d.Reads made q u := by
  induction hs with
  | single hs =>
    obtain ⟨u, hu, hread⟩ := hr.exists_expands_type h hs
    exact ⟨u, .single hu, hread⟩
  | tail _ hs ih =>
    obtain ⟨u, hu, hread⟩ := ih
    obtain ⟨w, hw, hread'⟩ := hr.exists_expands_type hread hs
    exact ⟨w, hu.tail hw, hread'⟩

/-- A type is on an inline cycle just if the definition in its place is. -/
theorem onInlineCycle_iff {p : Place} {t : Ty} (h : d.Reads made p t) (hp : d.Denotes p p) :
    g.OnInlineCycle t ↔ TransGen d.Expands p p := by
  constructor
  · intro hs
    obtain ⟨q, hq, hread, hd⟩ := hr.exists_transGen h hp hs
    obtain ⟨_, ⟨hpin, _⟩, _⟩ := TransGen.head'_iff.mp hq
    obtain ⟨w, hw, _⟩ := hp.exists_at?
    rwa [← h.place_unique hread hp hd hw (hpin.primitive?_eq_none hw)] at hq
  · intro hs
    obtain ⟨u, hu, hread⟩ := hr.exists_transGen_type h hs
    rwa [← h.unique hr.nodupIds hr.nodupMarks hread] at hu

/-- The search finds nothing just if the document has no inline cycle. -/
theorem inlineCycle?_eq_none_iff (hm : g.IsMarked)
    (hnames : ∀ name, name ∈ g.topNames ↔ name ∈ d.tops.map (·.1)) :
    g.inlineCycle? = none ↔ ∀ p, d.Occurs p → ¬ TransGen d.Expands p p := by
  rw [TypeGraph.inlineCycle?_eq_none_iff hm]
  constructor
  · rintro h p ⟨top, htop, path, q, hq, hp⟩ hcycle
    obtain ⟨root, hroot, hname⟩ := List.mem_map.mp
      ((hnames top.1).mpr (List.mem_map.mpr ⟨top, htop, rfl⟩))
    rw [← hname] at hq
    obtain ⟨t, ht, hread⟩ := hr.exists_walk? hq (hr.roots root hroot)
    refine h t ⟨root, hroot, TypeGraph.exists_walk?_iff.mpr ⟨path, ht⟩⟩ ?_
    exact (hr.onInlineCycle_iff (hread.denoted hp) hp.refl).mpr hcycle
  · rintro h t ⟨root, hroot, ht⟩ hcycle
    obtain ⟨path, hpath⟩ := TypeGraph.exists_walk?_iff.mp ht
    obtain ⟨q, hq, hread⟩ := hr.exists_arrives (hr.roots root hroot) hpath
    obtain ⟨p, hp, hread⟩ := hread.exists_denotes
    obtain ⟨top, htop, hname⟩ := List.mem_map.mp
      ((hnames root.1).mp (List.mem_map.mpr ⟨root, hroot, rfl⟩))
    rw [← hname] at hq
    exact h p ⟨top, htop, path, q, hq, hp⟩ ((hr.onInlineCycle_iff hread hp.refl).mp hcycle)

end IsReadAs

end Document

end ZigDecl
