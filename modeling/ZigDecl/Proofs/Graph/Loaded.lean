import ZigDecl.Proofs.Graph.Loads
import ZigDecl.Proofs.Graph.Search

/-! # What every loaded graph is like

While a document is read, references lead into the store only, and every array or map has a mark of
its own: a ghost list has at each mark the type that was made with it. Main statement: a loaded
graph is well formed, that is closed, coherent, free of inline cycles, and with top-levels of
different names. -/

namespace ZigDecl

/-! ## The store -/

/-- The types that a shape is made of, in order. -/
def Shape.types : Shape → List Ty
  | .record ps => ps.map (·.type)
  | .enum _ => []
  | .union ts => ts

namespace TypeGraph

theorem parts_eq (g : TypeGraph) (id : Nat) :
    g.parts id = ((g.shape? id).map Shape.types).getD [] := by
  unfold parts
  cases g.shape? id with
  | none => rfl
  | some s => cases s <;> rfl

theorem shape?_addType (g : TypeGraph) (t : NamedType) (id : Nat) :
    (g.addType t).1.shape? id = if id = g.types.size then some t.shape else g.shape? id := by
  simp only [addType, shape?, Array.getElem?_push]
  split <;> rfl

theorem shape?_setShape (g : TypeGraph) (id : Nat) (s : Shape) (j : Nat) :
    (g.setShape id s).shape? j = if id = j then (g.shape? j).map fun _ => s else g.shape? j := by
  simp only [setShape, shape?, Array.getElem?_modify]
  split
  · cases g.types[j]? <;> rfl
  · rfl

@[simp] theorem size_setShape (g : TypeGraph) (id : Nat) (s : Shape) :
    (g.setShape id s).types.size = g.types.size := by simp [setShape]

@[simp] theorem topLevels_setShape (g : TypeGraph) (id : Nat) (s : Shape) :
    (g.setShape id s).topLevels = g.topLevels := rfl

end TypeGraph

theorem mem_distinctTypes {ts : List Ty} {t : Ty} (h : t ∈ distinctTypes ts) : t ∈ ts := by
  have key : ∀ (ts kept : List Ty),
      t ∈ ts.foldl (fun kept t => if kept.any (·.same t) then kept else kept ++ [t]) kept →
      t ∈ kept ∨ t ∈ ts := by
    intro ts
    induction ts with
    | nil => exact fun kept h => Or.inl h
    | cons u us ih =>
      intro kept h
      rcases ih _ h with h | h
      · dsimp only at h
        split at h
        · exact Or.inl h
        · simp only [List.mem_append, List.mem_singleton] at h
          rcases h with h | rfl
          · exact Or.inl h
          · exact Or.inr (by simp)
      · exact Or.inr (List.mem_cons_of_mem u h)
  simpa using key ts [] h

namespace Linking

@[simp] theorem size_withType (l : Linking) (t : NamedType) (reference : Option String) :
    (l.withType t reference).graph.types.size = l.graph.types.size + 1 := by
  cases reference <;> simp [withType, settle, TypeGraph.addType]

@[simp] theorem topLevels_withType (l : Linking) (t : NamedType) (reference : Option String) :
    (l.withType t reference).graph.topLevels = l.graph.topLevels := by
  cases reference <;> rfl

@[simp] theorem nextMark_withType (l : Linking) (t : NamedType) (reference : Option String) :
    (l.withType t reference).nextMark = l.nextMark := by
  cases reference <;> rfl

theorem graph_withType (l : Linking) (t : NamedType) (reference : Option String) :
    (l.withType t reference).graph = (l.graph.addType t).1 := by
  cases reference <;> rfl

theorem mem_resolved_withType {l : Linking} {t : NamedType} {reference : Option String}
    {e : String × Ty} (h : e ∈ (l.withType t reference).resolved) :
    e ∈ l.resolved ∨ e.2 = .named l.graph.types.size := by
  cases reference with
  | none => exact Or.inl h
  | some name =>
    rcases List.mem_cons.mp h with rfl | h
    · exact Or.inr rfl
    · exact Or.inl h

end Linking

/-! ## Types that are known -/

/-- All references of a type lead into a store of the given size, and its arrays and maps are those
that the list of all arrays and maps ever made has at their marks. -/
def Ty.IsKnown (made : List Ty) (size : Nat) : Ty → Prop
  | .primitive _ => True
  | .array mark t => made[mark]? = some (.array mark t) ∧ IsKnown made size t
  | .map mark t => made[mark]? = some (.map mark t) ∧ IsKnown made size t
  | .named id => id < size

theorem Ty.IsKnown.mono {made more : List Ty} {size larger : Nat} (hm : made <+: more)
    (hs : size ≤ larger) {t : Ty} (h : t.IsKnown made size) : t.IsKnown more larger := by
  obtain ⟨new, rfl⟩ := hm
  have hget : ∀ {mark : Nat} {u : Ty}, made[mark]? = some u → (made ++ new)[mark]? = some u :=
    fun h => by rw [List.getElem?_append_left (List.getElem?_eq_some_iff.mp h).1, h]
  induction t with
  | primitive p => trivial
  | array m t ih => exact ⟨hget h.1, ih h.2⟩
  | map m t ih => exact ⟨hget h.1, ih h.2⟩
  | named id => exact Nat.lt_of_lt_of_le h hs

theorem Ty.IsKnown.target {made : List Ty} {size : Nat} {t : Ty} (h : t.IsKnown made size)
    {id : Nat} (ht : t.target? = some id) : id < size := by
  induction t with
  | primitive p => cases ht
  | array m t ih => exact ih h.2 ht
  | map m t ih => exact ih h.2 ht
  | named j => cases ht; exact h

/-- Everything that a reading yields is known. -/
def Reading.IsKnown (made : List Ty) (size : Nat) : Reading → Prop
  | .type t => t.IsKnown made size
  | .members ts => ∀ t ∈ ts, t.IsKnown made size
  | .properties ps => ∀ p ∈ ps, p.type.IsKnown made size

theorem Reading.IsKnown.mono {made more : List Ty} {size larger : Nat} (hm : made <+: more)
    (hs : size ≤ larger) {r : Reading} (h : r.IsKnown made size) : r.IsKnown more larger := by
  cases r with
  | type t => exact Ty.IsKnown.mono hm hs h
  | members ts => exact fun t ht => (h t ht).mono hm hs
  | properties ps => exact fun p hp => (h p hp).mono hm hs

/-- Everything in a graph in the making is known. -/
structure Linking.IsKnown (made : List Ty) (l : Linking) : Prop where
  marks : l.nextMark = made.length
  parts : ∀ id, ∀ t ∈ l.graph.parts id, t.IsKnown made l.graph.types.size
  resolved : ∀ e ∈ l.resolved, e.2.IsKnown made l.graph.types.size
  roots : ∀ top ∈ l.graph.topLevels, top.2.IsKnown made l.graph.types.size

namespace Linking.IsKnown

variable {made : List Ty} {l : Linking}

theorem withType (h : l.IsKnown made) {t : NamedType} (ht : t.shape.types = [])
    (reference : Option String) : (l.withType t reference).IsKnown made where
  marks := by rw [nextMark_withType, h.marks]
  parts id u hu := by
    rw [TypeGraph.parts_eq, graph_withType, TypeGraph.shape?_addType] at hu
    split at hu
    · rw [Option.map_some, ht] at hu; cases hu
    · rw [← TypeGraph.parts_eq] at hu
      exact (h.parts id u hu).mono (List.prefix_refl made) (by simp)
  resolved e he := by
    rcases mem_resolved_withType he with he | he
    · exact (h.resolved e he).mono (List.prefix_refl made) (by simp)
    · rw [he]; simp [Ty.IsKnown]
  roots top htop := by
    rw [topLevels_withType] at htop
    exact (h.roots top htop).mono (List.prefix_refl made) (by simp)

theorem setShape (h : l.IsKnown made) (id : Nat) {s : Shape}
    (hs : ∀ t ∈ s.types, t.IsKnown made l.graph.types.size) :
    Linking.IsKnown made { l with graph := l.graph.setShape id s } where
  marks := h.marks
  parts j t ht := by
    rw [TypeGraph.parts_eq, TypeGraph.shape?_setShape] at ht
    rw [TypeGraph.size_setShape]
    split at ht
    · cases hj : l.graph.shape? j with
      | none => rw [hj] at ht; cases ht
      | some s' => rw [hj] at ht; exact hs t ht
    · rw [← TypeGraph.parts_eq] at ht
      exact h.parts j t ht
  resolved e he := by rw [TypeGraph.size_setShape]; exact h.resolved e he
  roots top htop := by rw [TypeGraph.size_setShape]; exact h.roots top htop

/-- A new array or map gets the next mark. -/
theorem newMark (h : l.IsKnown made) (t : Ty) :
    Linking.IsKnown (made ++ [t]) { l with nextMark := l.nextMark + 1 } where
  marks := by simp [h.marks]
  parts id u hu := (h.parts id u hu).mono (List.prefix_append made [t]) (Nat.le_refl _)
  resolved e he := (h.resolved e he).mono (List.prefix_append made [t]) (Nat.le_refl _)
  roots top htop := (h.roots top htop).mono (List.prefix_append made [t]) (Nat.le_refl _)

theorem settle (h : l.IsKnown made) (name : String) {t : Ty}
    (ht : t.IsKnown made l.graph.types.size) : (l.settle name t).IsKnown made where
  marks := h.marks
  parts := h.parts
  resolved := by
    rintro e (_ | ⟨_, he⟩)
    · exact ht
    · exact h.resolved e he
  roots := h.roots

theorem withTopLevel (h : l.IsKnown made) (name : String) {t : Ty}
    (ht : t.IsKnown made l.graph.types.size) : (l.withTopLevel name t).IsKnown made where
  marks := h.marks
  parts := h.parts
  resolved := h.resolved
  roots top htop := by
    rcases List.mem_append.mp htop with htop | htop
    · exact h.roots top htop
    · rw [List.mem_singleton.mp htop]
      exact ht

/-- In a finished graph in which everything is known, a key stands for one type only. -/
theorem coherent (h : l.IsKnown made) :
    l.graph.Coherent fun t => t.IsKnown made l.graph.types.size where
  root := h.roots
  child t ht c hc := by
    cases t with
    | primitive p => cases hc
    | array m t => rw [List.mem_singleton.mp hc]; exact ht.2
    | map m t => rw [List.mem_singleton.mp hc]; exact ht.2
    | named id => exact h.parts id c hc
  unique s t key hs ht hsk htk := by
    cases s with
    | primitive p => cases hsk
    | array m s =>
      cases hsk
      cases t with
      | array m' t => cases htk; exact Option.some.inj (hs.1.symm.trans ht.1)
      | map m' t => cases htk; exact Option.some.inj (hs.1.symm.trans ht.1)
      | _ => cases htk
    | map m s =>
      cases hsk
      cases t with
      | array m' t => cases htk; exact Option.some.inj (hs.1.symm.trans ht.1)
      | map m' t => cases htk; exact Option.some.inj (hs.1.symm.trans ht.1)
      | _ => cases htk
    | named id =>
      cases hsk
      cases t with
      | named j => cases htk; rfl
      | _ => cases htk

theorem isClosed (h : l.IsKnown made) : l.graph.IsClosed := by
  constructor
  · intro id hid
    obtain ⟨top, htop, ht⟩ := TypeGraph.mem_roots.mp hid
    exact (h.roots top htop).target ht
  · intro i j hm
    obtain ⟨t, ht, hj⟩ := TypeGraph.mentions_iff.mp hm
    exact (h.parts i t ht).target hj

end Linking.IsKnown

/-- How a graph in the making grows while a part of a document is read. -/
structure Linking.Grows (l l' : Linking) (made more : List Ty) (r : Reading) : Prop where
  made : made <+: more
  size : l.graph.types.size ≤ l'.graph.types.size
  known : l'.IsKnown more
  reading : r.IsKnown more l'.graph.types.size
  topLevels : l'.graph.topLevels = l.graph.topLevels

namespace Linking.Grows

variable {l l' l'' : Linking} {made mid more : List Ty} {r rs : Reading}

theorem refl (h : l.IsKnown made) (hr : r.IsKnown made l.graph.types.size) :
    l.Grows l made made r :=
  ⟨List.prefix_refl made, Nat.le_refl _, h, hr, rfl⟩

/-- Two parts read one after the other: what the first yields is still known after the second. -/
theorem trans (hg : l.Grows l' made mid r) (hgs : l'.Grows l'' mid more rs) {both : Reading}
    (hboth : r.IsKnown more l''.graph.types.size → rs.IsKnown more l''.graph.types.size →
      both.IsKnown more l''.graph.types.size) : l.Grows l'' made more both where
  made := hg.made.trans hgs.made
  size := Nat.le_trans hg.size hgs.size
  known := hgs.known
  reading := hboth (hg.reading.mono hgs.made hgs.size) hgs.reading
  topLevels := hgs.topLevels.trans hg.topLevels

/-- An array or map `u` of what was read, made with the next mark. -/
theorem newMark (hg : l.Grows l' made more r) {u : Ty}
    (hu : (more ++ [u])[l'.nextMark]? = some u →
      r.IsKnown (more ++ [u]) l'.graph.types.size → u.IsKnown (more ++ [u]) l'.graph.types.size) :
    l.Grows { l' with nextMark := l'.nextMark + 1 } made (more ++ [u]) (.type u) where
  made := hg.made.trans (List.prefix_append more [u])
  size := hg.size
  known := hg.known.newMark u
  reading := by
    refine hu ?_ (hg.reading.mono (List.prefix_append more [u]) (Nat.le_refl _))
    rw [hg.known.marks, List.getElem?_append_right (Nat.le_refl _), Nat.sub_self]
    rfl
  topLevels := hg.topLevels

/-- A type put into the store before its parts are read gets its shape after them. -/
theorem setShape {t : NamedType} {reference : Option String}
    (hg : (l.withType t reference).Grows l' made more r) {s : Shape}
    (hs : ∀ u ∈ s.types, u.IsKnown more l'.graph.types.size) :
    l.Grows { l' with graph := l'.graph.setShape l.graph.types.size s } made more
      (.type (.named l.graph.types.size)) := by
  have hsize := hg.size
  rw [size_withType] at hsize
  refine ⟨hg.made, ?_, hg.known.setShape _ hs, ?_, ?_⟩
  · rw [TypeGraph.size_setShape]; omega
  · simp only [Reading.IsKnown, Ty.IsKnown, TypeGraph.size_setShape]; omega
  · rw [TypeGraph.topLevels_setShape, hg.topLevels, topLevels_withType]

end Linking.Grows

/-- Reading keeps everything known. -/
theorem Loads.grows {definitions : List (String × Value)} {k : Task} {l l' : Linking} {r : Reading}
    (h : Loads definitions k l r l') :
    ∀ {made : List Ty}, l.IsKnown made → ∃ more, l.Grows l' made more r := by
  induction h with
  | primitive place reference p l => exact fun hl => ⟨_, .refl hl trivial⟩
  | reference _ ih => exact ih
  | array _ ih =>
    intro made hl
    obtain ⟨more, hg⟩ := ih hl
    exact ⟨_, hg.newMark And.intro⟩
  | map _ ih =>
    intro made hl
    obtain ⟨more, hg⟩ := ih hl
    exact ⟨_, hg.newMark And.intro⟩
  | @record _ reference _ _ _ l l' ps _ ih =>
    intro made hl
    -- The type is in the store, still without properties, while they are read.
    obtain ⟨more, hg⟩ := ih (hl.withType rfl reference)
    refine ⟨more, hg.setShape ?_⟩
    intro t ht
    obtain ⟨p, hp, rfl⟩ := List.mem_map.mp ht
    exact hg.reading p hp
  | enum place reference name description cases l =>
    intro made hl
    refine ⟨made, List.prefix_refl made, ?_, hl.withType rfl none, ?_, ?_⟩
    · rw [Linking.size_withType]; omega
    · simp [Reading.IsKnown, Ty.IsKnown]
    · rw [Linking.topLevels_withType]
  | @union _ reference _ _ _ l l' ts _ ih =>
    intro made hl
    obtain ⟨more, hg⟩ := ih (hl.withType rfl reference)
    exact ⟨more, hg.setShape fun t ht => hg.reading t (mem_distinctTypes ht)⟩
  | noMembers place l => exact fun hl => ⟨_, .refl hl (by simp [Reading.IsKnown])⟩
  | member _ _ ih ihs =>
    intro made hl
    obtain ⟨mid, hg⟩ := ih hl
    obtain ⟨more, hgs⟩ := ihs hg.known
    refine ⟨more, hg.trans hgs fun ht hts => ?_⟩
    rintro t (_ | ⟨_, hmem⟩)
    · exact ht
    · exact hts t hmem
  | noProperties owner l => exact fun hl => ⟨_, .refl hl (by simp [Reading.IsKnown])⟩
  | property _ _ ih ihs =>
    intro made hl
    obtain ⟨mid, hg⟩ := ih hl
    obtain ⟨more, hgs⟩ := ihs hg.known
    refine ⟨more, hg.trans hgs fun ht hps => ?_⟩
    rintro p (_ | ⟨_, hmem⟩)
    · exact ht
    · exact hps p hmem
  | found h => exact fun hl => ⟨_, .refl hl (hl.resolved _ (Linking.mem_of_find? h))⟩
  | @enter name _ l' t _ _ _ _ _ ih =>
    intro made hl
    -- The names that are being read are no part of what is known.
    obtain ⟨more, hg⟩ := ih ⟨hl.marks, hl.parts, hl.resolved, hl.roots⟩
    exact ⟨more, hg.made, hg.size, hg.known.settle name hg.reading, hg.reading, hg.topLevels⟩

/-! ## Top-levels and the whole graph -/

namespace TypeGraph

/-- The names of the top-levels in order. -/
def topNames (g : TypeGraph) : List String := g.topLevels.map (·.1)

theorem hasTopLevel_eq_false_iff {g : TypeGraph} {name : String} :
    g.hasTopLevel name = false ↔ name ∉ g.topNames := by
  rw [hasTopLevel, topNames, List.any_eq_false, List.mem_map, not_exists]
  simp only [beq_iff_eq, not_and]

/-- What reading a document establishes. -/
structure WellFormed (g : TypeGraph) : Prop where
  closed : g.IsClosed
  inlineFree : g.IsInlineFree
  hasTop : g.topLevels ≠ []
  nodup : g.topNames.Nodup

theorem WellFormed.founded {g : TypeGraph} (hw : g.WellFormed) : g.IsFounded :=
  ⟨hw.closed, hw.inlineFree⟩

end TypeGraph

/-- Reading the top-levels keeps everything known, and appends their names, none of them twice. -/
theorem LoadsTops.grows {definitions tops : List (String × Value)} {l l' : Linking}
    (h : LoadsTops definitions tops l l') : ∀ {made : List Ty}, l.IsKnown made →
    l.graph.topNames.Nodup → (∃ more, l'.IsKnown more) ∧ l'.graph.topNames.Nodup ∧
      l'.graph.topNames = l.graph.topNames ++ tops.map (·.1) := by
  induction h with
  | nil l => exact fun hl hnodup => ⟨⟨_, hl⟩, hnodup, by simp⟩
  | @cons name value rest l l' l'' t h hnew _ ih =>
    intro made hl hnodup
    obtain ⟨more, hg⟩ := h.grows hl
    have hsame : l'.graph.topNames = l.graph.topNames := by
      rw [TypeGraph.topNames, hg.topLevels, TypeGraph.topNames]
    have hnames : (l'.withTopLevel name t).graph.topNames = l.graph.topNames ++ [name] := by
      rw [← hsame]
      simp [TypeGraph.topNames, Linking.withTopLevel]
    have hnotin := TypeGraph.hasTopLevel_eq_false_iff.mp hnew
    have hnodup' : (l'.withTopLevel name t).graph.topNames.Nodup := by
      rw [hnames, ← hsame]
      refine List.nodup_append.mpr ⟨hsame ▸ hnodup, List.nodup_singleton name, ?_⟩
      rintro a ha b hb rfl
      exact hnotin (List.mem_singleton.mp hb ▸ ha)
    obtain ⟨hknown, hlast, heq⟩ := ih (hg.known.withTopLevel name hg.reading) hnodup'
    exact ⟨hknown, hlast, by rw [heq, hnames]; simp⟩

theorem Linking.isKnown_start : Linking.start.IsKnown [] :=
  ⟨rfl, by simp [Linking.start, TypeGraph.empty, TypeGraph.parts, TypeGraph.shape?],
    by simp [Linking.start], by simp [Linking.start, TypeGraph.empty]⟩

/-- A document has at least one top-level. -/
theorem TypeGraph.tops_ne_nil {document : Value} {definitions tops : List (String × Value)}
    (h : documentParts document = .ok (definitions, tops)) : tops ≠ [] := by
  unfold documentParts at h
  split at h
  · split at h
    · split at h
      · cases h; simp
      · cases h
    · cases h
  · cases h

/-- Every graph that a document describes is well formed. -/
theorem TypeGraph.wellFormed_of_ofDocument {document : Value} {g : TypeGraph}
    (h : ofDocument document = .ok g) : g.WellFormed := by
  obtain ⟨definitions, tops, l, hparts, hloads, rfl, hnone⟩ := loadsTops_of_ofDocument h
  obtain ⟨⟨made, hknown⟩, hnodup, hnames⟩ := hloads.grows Linking.isKnown_start List.nodup_nil
  refine ⟨hknown.isClosed, isInlineFree_of_inlineCycle? hknown.coherent hnone, ?_, hnodup⟩
  intro hnil
  have : tops.map (·.1) = [] := by
    rw [topNames, hnil] at hnames
    simpa [Linking.start, TypeGraph.empty, topNames] using hnames.symm
  exact tops_ne_nil hparts (List.map_eq_nil_iff.mp this)

end ZigDecl
