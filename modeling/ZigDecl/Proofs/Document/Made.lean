import ZigDecl.Proofs.Document.Spelled
import ZigDecl.Proofs.Graph.Entered
import ZigDecl.Proofs.Graph.Loaded

/-! # Where every type was made

While a document is read, two ghost lists keep the place where each named type and each array or map
was written: one entry for every place in the store, and one for every mark. Main statements: each
step of the reader keeps every type in the graph what the document says in the place where it was
made. -/

namespace ZigDecl

/-- The places where all named types were made, in the order of the store, and those where all
arrays and maps were made, in the order of their marks. -/
structure Made where
  ids : List Place
  marks : List Place

namespace Made

def places (made : Made) : List Place := made.ids ++ made.marks

/-- Nothing is lost from one list to the other. -/
structure Extends (made more : Made) : Prop where
  ids : made.ids <+: more.ids
  marks : made.marks <+: more.marks

variable {made mid more : Made}

theorem Extends.refl (made : Made) : made.Extends made :=
  ⟨List.prefix_refl _, List.prefix_refl _⟩

theorem Extends.getElem?_ids (h : made.Extends more) {id : Nat} {p : Place}
    (hid : made.ids[id]? = some p) : more.ids[id]? = some p := by
  obtain ⟨new, hnew⟩ := h.ids
  rw [← hnew, List.getElem?_append_left (List.getElem?_eq_some_iff.mp hid).1, hid]

theorem Extends.getElem?_marks (h : made.Extends more) {mark : Nat} {p : Place}
    (hmark : made.marks[mark]? = some p) : more.marks[mark]? = some p := by
  obtain ⟨new, hnew⟩ := h.marks
  rw [← hnew, List.getElem?_append_left (List.getElem?_eq_some_iff.mp hmark).1, hmark]

theorem Extends.trans (h : made.Extends mid) (h' : mid.Extends more) : made.Extends more :=
  ⟨h.ids.trans h'.ids, h.marks.trans h'.marks⟩

/-- A named type was made in a place. -/
def addId (made : Made) (p : Place) : Made := { made with ids := made.ids ++ [p] }

/-- An array or a map was made in a place. -/
def addMark (made : Made) (p : Place) : Made := { made with marks := made.marks ++ [p] }

theorem extends_addId (made : Made) (p : Place) : made.Extends (made.addId p) :=
  ⟨List.prefix_append _ _, List.prefix_refl _⟩

theorem extends_addMark (made : Made) (p : Place) : made.Extends (made.addMark p) :=
  ⟨List.prefix_refl _, List.prefix_append _ _⟩

theorem getElem?_addId (made : Made) (p : Place) :
    (made.addId p).ids[made.ids.length]? = some p := by simp [addId]

theorem getElem?_addMark (made : Made) (p : Place) :
    (made.addMark p).marks[made.marks.length]? = some p := by simp [addMark]

theorem mem_places_addId {p q : Place} : q ∈ (made.addId p).places ↔ q ∈ made.places ∨ q = p := by
  simp only [places, addId, List.mem_append, List.mem_singleton]
  tauto

theorem mem_places_addMark {p q : Place} :
    q ∈ (made.addMark p).places ↔ q ∈ made.places ∨ q = p := by
  simp only [places, addMark, List.mem_append, List.mem_singleton, or_assoc]

end Made

/-! ## What a type says -/

namespace Document

variable (d : Document)

/-- A type is what the document says in a place, where every named type is known by the place it was
made in, and so is every array and map. -/
inductive Reads (made : Made) : Place → Ty → Prop
  | reference {p : Place} {v : Value} {name : String} {t : Ty} (hv : d.at? p = some v)
      (href : v.reference? = some name) (h : Reads made (.ofName name) t) : Reads made p t
  | primitive {p : Place} {v : Value} {k : Primitive} (hv : d.at? p = some v)
      (hk : v.primitive? = some k) : Reads made p (.primitive k)
  | array {p : Place} {v : Value} {mark : Nat} {t : Ty} (hv : d.at? p = some v)
      (hk : v.kind? = some "array") (hmark : made.marks[mark]? = some p)
      (h : Reads made (p.inside .items) t) : Reads made p (.array mark t)
  | map {p : Place} {v : Value} {mark : Nat} {t : Ty} (hv : d.at? p = some v)
      (hk : v.kind? = some "map") (hmark : made.marks[mark]? = some p)
      (h : Reads made (p.inside .values) t) : Reads made p (.map mark t)
  | named {p : Place} {v : Value} {id : Nat} (hv : d.at? p = some v)
      (hk : v.definesNamed = true) (hid : made.ids[id]? = some p) : Reads made p (.named id)

/-- A shape is what a value says in a place. -/
inductive Fills (made : Made) (p : Place) (v : Value) : Shape → Prop
  | record {ps : List Property} (hk : v.kind? = some "class")
      (hlabels : ps.map Property.label = (v.entries "properties").map Value.label)
      (hparts : ∀ i q, ps[i]? = some q → Reads d made (p.inside (.property i)) q.type) :
      Fills made p v (.record ps)
  | enum {cases : List String} (hk : v.kind? = some "enum")
      (hcases : v.entries "cases" = cases.map .str) : Fills made p v (.enum cases)
  | union {ts : List Ty} (hk : v.kind? = some "union")
      (hlength : ts.length = (v.entries "members").length)
      (hparts : ∀ i t, ts[i]? = some t → Reads d made (p.inside (.member i)) t) :
      Fills made p v (.union (distinctTypes ts))

variable {d} {made more : Made}

theorem Reads.mono (hm : made.Extends more) {p : Place} {t : Ty} (h : d.Reads made p t) :
    d.Reads more p t := by
  induction h with
  | reference hv href _ ih => exact .reference hv href ih
  | primitive hv hk => exact .primitive hv hk
  | array hv hk hmark _ ih => exact .array hv hk (hm.getElem?_marks hmark) ih
  | map hv hk hmark _ ih => exact .map hv hk (hm.getElem?_marks hmark) ih
  | named hv hk hid => exact .named hv hk (hm.getElem?_ids hid)

theorem Fills.mono (hm : made.Extends more) {p : Place} {v : Value} {s : Shape}
    (h : d.Fills made p v s) : d.Fills more p v s := by
  cases h with
  | record hk hlabels hparts => exact .record hk hlabels fun i q hq => (hparts i q hq).mono hm
  | enum hk hcases => exact .enum hk hcases
  | union hk hlength hparts => exact .union hk hlength fun i t ht => (hparts i t ht).mono hm

end Document

/-! ## Places within places -/

namespace Place

/-- A place is another one or somewhere inside it. -/
def IsWithin (q p : Place) : Prop := q.origin = p.origin ∧ p.steps <:+ q.steps

theorem IsWithin.refl (p : Place) : p.IsWithin p := ⟨rfl, List.suffix_refl _⟩

theorem IsWithin.of_inside {q p : Place} {s : Step} (h : q.IsWithin (p.inside s)) :
    q.IsWithin p := ⟨h.1, (List.suffix_cons s p.steps).trans h.2⟩

theorem not_isWithin_inside (p : Place) (s : Step) : ¬ p.IsWithin (p.inside s) := by
  intro h
  have := h.2.length_le
  simp only [inside, List.length_cons] at this
  omega

/-- A place does not lie behind two different steps. -/
theorem IsWithin.step_eq {q p : Place} {s s' : Step} (h : q.IsWithin (p.inside s))
    (h' : q.IsWithin (p.inside s')) : s = s' := by
  have hsuffix : s :: p.steps <:+ s' :: p.steps :=
    List.suffix_of_suffix_length_le h.2 h'.2 (Nat.le_refl _)
  exact (List.cons.inj (hsuffix.eq_of_length rfl)).1

end Place

/-! ## A graph in the making -/

namespace TypeGraph

theorem descriptionOf_addType (g : TypeGraph) (t : NamedType) (id : Nat) :
    (g.addType t).1.descriptionOf id =
      if id = g.types.size then t.description else g.descriptionOf id := by
  simp only [addType, descriptionOf, Array.getElem?_push]
  split <;> rfl

theorem descriptionOf_setShape (g : TypeGraph) (id : Nat) (s : Shape) (j : Nat) :
    (g.setShape id s).descriptionOf j = g.descriptionOf j := by
  simp only [setShape, descriptionOf, Array.getElem?_modify]
  split
  · cases g.types[j]? <;> rfl
  · rfl

end TypeGraph

namespace Linking

/-- Every type so far was made in a place of its own and is what the document says there, apart from
the shapes of the named types that are still to be filled. -/
structure IsMade (d : Document) (made : Made) (unfilled : List Nat) (l : Linking) : Prop where
  size : made.ids.length = l.graph.types.size
  marks : made.marks.length = l.nextMark
  nodupIds : made.ids.Nodup
  nodupMarks : made.marks.Nodup
  resolved : ∀ e ∈ l.resolved, d.Reads made (.ofName e.1) e.2
  entered : ∀ q ∈ made.places, ∀ name, q.origin = .type name → l.Entered name
  types : ∀ id p, made.ids[id]? = some p → ∃ v, d.at? p = some v ∧ v.definesNamed = true ∧
    l.graph.descriptionOf id = v.describedAs ∧
    (id ∉ unfilled → ∃ s, l.graph.shape? id = some s ∧ d.Fills made p v s)

namespace IsMade

variable {d : Document} {made : Made} {unfilled : List Nat} {l : Linking}

/-- A named type is put into the store, to be filled later. -/
theorem withType (h : l.IsMade d made unfilled) {p : Place} {v : Value} (hv : d.at? p = some v)
    (hk : v.definesNamed = true) (hp : p ∉ made.places)
    (hentered : ∀ name, p.origin = .type name → l.Entered name) {t : NamedType}
    (ht : t.description = v.describedAs) {reference : Option String}
    (href : ∀ name, reference = some name → p = .ofName name) :
    (l.withType t reference).IsMade d (made.addId p) (l.graph.types.size :: unfilled) := by
  have hext := made.extends_addId p
  have hid : (made.addId p).ids[l.graph.types.size]? = some p := h.size ▸ made.getElem?_addId p
  refine ⟨?_, ?_, ?_, h.nodupMarks, ?_, ?_, ?_⟩
  · rw [size_withType, Made.addId, List.length_append, h.size]; rfl
  · rw [nextMark_withType]; exact h.marks
  · refine List.nodup_append.mpr ⟨h.nodupIds, List.nodup_singleton p, ?_⟩
    rintro a ha b hb rfl
    exact hp (List.mem_append_left _ (List.mem_singleton.mp hb ▸ ha))
  · intro e he
    cases reference with
    | none => exact (h.resolved e he).mono hext
    | some name =>
      rcases List.mem_cons.mp he with rfl | he
      · obtain rfl := href name rfl
        exact .named hv hk hid
      · exact (h.resolved e he).mono hext
  · intro q hq name hname
    rcases Made.mem_places_addId.mp hq with hq | rfl
    · exact (h.entered q hq name hname).withType t reference
    · exact (hentered name hname).withType t reference
  · intro id q hq
    rw [graph_withType, TypeGraph.descriptionOf_addType, TypeGraph.shape?_addType]
    by_cases hnew : id = l.graph.types.size
    · rw [hnew, hid] at hq
      cases hq
      exact ⟨v, hv, hk, by rw [if_pos hnew, ht], fun hmem => absurd (by simp [hnew]) hmem⟩
    · have hold : made.ids[id]? = some q := by
        have hlt := (List.getElem?_eq_some_iff.mp hq).1
        rw [Made.addId, List.length_append, h.size, List.length_singleton] at hlt
        rwa [Made.addId, List.getElem?_append_left (by rw [h.size]; omega)] at hq
      obtain ⟨w, hw, hkw, hdesc, hfill⟩ := h.types id q hold
      refine ⟨w, hw, hkw, by rw [if_neg hnew, hdesc], fun hmem => ?_⟩
      obtain ⟨s, hs, hf⟩ := hfill fun hin => hmem (List.mem_cons_of_mem _ hin)
      exact ⟨s, by rw [if_neg hnew, hs], hf.mono hext⟩

/-- The first of the types that were to be filled has its shape. -/
theorem filled {id : Nat} (h : l.IsMade d made (id :: unfilled)) {p : Place} {v : Value}
    (hid : made.ids[id]? = some p) (hv : d.at? p = some v) {s : Shape}
    (hs : l.graph.shape? id = some s) (hf : d.Fills made p v s) : l.IsMade d made unfilled := by
  refine { h with types := fun j q hq => ?_ }
  obtain ⟨w, hw, hk, hdesc, hfill⟩ := h.types j q hq
  refine ⟨w, hw, hk, hdesc, fun hj => ?_⟩
  by_cases heq : j = id
  · subst heq
    cases hid.symm.trans hq
    cases hv.symm.trans hw
    exact ⟨s, hs, hf⟩
  · exact hfill (by simp [heq, hj])

/-- The first of the types that were to be filled gets its shape. -/
theorem setShape {id : Nat} (h : l.IsMade d made (id :: unfilled)) {p : Place} {v : Value}
    (hid : made.ids[id]? = some p) (hv : d.at? p = some v) {s : Shape}
    (hf : d.Fills made p v s) :
    IsMade d made unfilled { l with graph := l.graph.setShape id s } := by
  have hshape : (l.graph.setShape id s).shape? id = some s := by
    have hlt := (List.getElem?_eq_some_iff.mp hid).1
    rw [TypeGraph.shape?_setShape, if_pos rfl, TypeGraph.shape?,
      Array.getElem?_eq_getElem (by rw [← h.size]; exact hlt)]
    rfl
  suffices IsMade d made (id :: unfilled) { l with graph := l.graph.setShape id s } from
    this.filled hid hv hshape hf
  refine ⟨by rw [TypeGraph.size_setShape]; exact h.size, h.marks, h.nodupIds, h.nodupMarks,
    h.resolved, h.entered, fun j q hq => ?_⟩
  obtain ⟨w, hw, hk, hdesc, hfill⟩ := h.types j q hq
  refine ⟨w, hw, hk, by rw [TypeGraph.descriptionOf_setShape, hdesc], fun hj => ?_⟩
  obtain ⟨s', hs', hf'⟩ := hfill hj
  refine ⟨s', ?_, hf'⟩
  rw [TypeGraph.shape?_setShape, if_neg (fun heq => hj (by simp [heq])), hs']

/-- An array or a map gets the next mark. -/
theorem newMark (h : l.IsMade d made unfilled) {p : Place} (hp : p ∉ made.places)
    (hentered : ∀ name, p.origin = .type name → l.Entered name) :
    IsMade d (made.addMark p) unfilled { l with nextMark := l.nextMark + 1 } := by
  have hext := made.extends_addMark p
  refine ⟨h.size, ?_, h.nodupIds, ?_, fun e he => (h.resolved e he).mono hext, ?_, ?_⟩
  · rw [Made.addMark, List.length_append, h.marks]; rfl
  · refine List.nodup_append.mpr ⟨h.nodupMarks, List.nodup_singleton p, ?_⟩
    rintro a ha b hb rfl
    exact hp (List.mem_append_right _ (List.mem_singleton.mp hb ▸ ha))
  · intro q hq name hname
    rcases Made.mem_places_addMark.mp hq with hq | rfl
    · exact h.entered q hq name hname
    · exact hentered name hname
  · intro id q hq
    obtain ⟨w, hw, hk, hdesc, hfill⟩ := h.types id q hq
    refine ⟨w, hw, hk, hdesc, fun hmem => ?_⟩
    obtain ⟨s, hs, hf⟩ := hfill hmem
    exact ⟨s, hs, hf.mono hext⟩

/-- A name is taken up. -/
theorem enter (h : l.IsMade d made unfilled) (name : String) :
    IsMade d made unfilled { l with pending := name :: l.pending } :=
  { h with
    entered := fun q hq n hn => (h.entered q hq n hn).enter name }

/-- A name is settled. -/
theorem settle (h : l.IsMade d made unfilled) {name : String} {t : Ty}
    (ht : d.Reads made (.ofName name) t) : (l.settle name t).IsMade d made unfilled :=
  { h with
    resolved := by
      rintro e (_ | ⟨_, he⟩)
      · exact ht
      · exact h.resolved e he
    entered := fun q hq n hn => (h.entered q hq n hn).settle name t }

theorem withTopLevel (h : l.IsMade d made unfilled) (name : String) (t : Ty) :
    (l.withTopLevel name t).IsMade d made unfilled := { h with }

end IsMade

end Linking

end ZigDecl
