import ZigDecl.Proofs.Graph.Loaded
import ZigDecl.Proofs.Value.Members
import ZigDecl.Value.Shown

/-! # Graphs whose names and descriptions are texts

A document may hold any value in the place of a name or a description, and no name at all for a
type. Main statement: where a document holds texts, so does the graph that is read from it. -/

namespace ZigDecl

/-- Whether a value is a text. -/
def Value.isText : Value → Bool
  | .str _ => true
  | _ => false

/-- Whether a value is a text or null. -/
def Value.isTextOrNull : Value → Bool
  | .null => true
  | v => v.isText

/-- A text is what it is displayed as. -/
theorem Value.eq_str_display {v : Value} (h : v.isText = true) : v = .str v.display := by
  cases v with
  | str s => rfl
  | _ => cases h

theorem Value.map_str_display {vs : List Value} (h : ∀ v ∈ vs, v.isText = true) :
    (vs.map display).map .str = vs := by
  rw [List.map_map]
  conv_rhs => rw [← List.map_id vs]
  exact List.map_congr_left fun v hv => (eq_str_display (h v hv)).symm

/-! ## Documents -/

mutual

/-- Whether the names and descriptions that a definition gives are texts. -/
def Definition.hasTexts : Definition → Bool
  | .array d => d.hasTexts
  | .map d => d.hasTexts
  | .record name description properties =>
    name.isTextOrNull && description.isTextOrNull &&
      match properties with
      | none => true
      | some ps => propertiesHaveTexts ps
  | .enum name description _ => name.isTextOrNull && description.isTextOrNull
  | .union name description members =>
    name.isTextOrNull && description.isTextOrNull &&
      match members with
      | none => true
      | some ds => membersHaveTexts ds
  | _ => true

/-- Whether the members of a union have texts. -/
def Definition.membersHaveTexts : List Definition → Bool
  | [] => true
  | d :: ds => d.hasTexts && membersHaveTexts ds

/-- Whether the properties of a record have texts. -/
def Definition.propertiesHaveTexts : List Definition.Property → Bool
  | [] => true
  | .invalid _ :: ps => propertiesHaveTexts ps
  | .valid name d _ description :: ps =>
    name.isText && description.isTextOrNull && d.hasTexts && propertiesHaveTexts ps

end

/-- Whether all definitions of a list have texts. -/
def definitionsHaveTexts (definitions : List (String × Value)) : Bool :=
  definitions.all fun (_, v) => (Definition.ofValue v).hasTexts

/-- Whether the names and descriptions that a document gives are texts. -/
def documentHasTexts (document : Value) : Bool :=
  match TypeGraph.documentParts document with
  | .ok (definitions, tops) => definitionsHaveTexts definitions && definitionsHaveTexts tops
  | .error _ => true

/-! ## Graphs -/

/-- Whether a property has a text for a name, and none but a text for a description. -/
def Property.hasTexts (p : Property) : Bool := p.name.isText && p.description.isTextOrNull

/-- Whether all names and descriptions inside a shape are texts. -/
def Shape.hasTexts : Shape → Bool
  | .record ps => ps.all Property.hasTexts
  | _ => true

/-- Whether all names and descriptions of a named type are texts. -/
def NamedType.hasTexts (t : NamedType) : Bool :=
  t.name.isText && t.description.isTextOrNull && t.shape.hasTexts

namespace TypeGraph

variable {g : TypeGraph}

/-- All names and descriptions in the store are texts. -/
def HasTexts (g : TypeGraph) : Prop :=
  ∀ (id : Nat) (t : NamedType), g.types[id]? = some t → t.hasTexts = true

theorem HasTexts.addType (h : g.HasTexts) {t : NamedType} (ht : t.hasTexts = true) :
    (g.addType t).1.HasTexts := by
  intro id u hu
  simp only [TypeGraph.addType, Array.getElem?_push] at hu
  split at hu
  · cases hu; exact ht
  · exact h id u hu

theorem HasTexts.setShape (h : g.HasTexts) (id : Nat) {s : Shape} (hs : s.hasTexts = true) :
    (g.setShape id s).HasTexts := by
  intro j u hu
  simp only [TypeGraph.setShape, Array.getElem?_modify] at hu
  split at hu
  · cases hj : g.types[j]? with
    | none => rw [hj] at hu; cases hu
    | some t =>
      rw [hj] at hu
      cases hu
      have ht := h j t hj
      simp only [NamedType.hasTexts, Bool.and_eq_true] at ht ⊢
      exact ⟨ht.1, hs⟩
  · exact h j u hu

/-- The names in a graph are texts, as far as the top-levels lead. -/
structure HasTextNames (g : TypeGraph) : Prop where
  type : ∀ id, g.Reachable id → (g.nameOf id).isText = true
  property : ∀ id ps, g.Reachable id → g.shape? id = some (.record ps) →
    ∀ p ∈ ps, p.name.isText = true

/-- The descriptions in a graph are texts or null. -/
structure HasTextDescriptions (g : TypeGraph) : Prop where
  type : ∀ id, (g.descriptionOf id).isTextOrNull = true
  property : ∀ id ps, g.shape? id = some (.record ps) →
    ∀ p ∈ ps, p.description.isTextOrNull = true

theorem HasTexts.property (h : g.HasTexts) {id : Nat} {ps : List Property}
    (hs : g.shape? id = some (.record ps)) : ∀ p ∈ ps, p.hasTexts = true := by
  obtain ⟨t, ht, hps⟩ := Option.map_eq_some_iff.mp hs
  have htexts := h id t ht
  simp only [NamedType.hasTexts, Bool.and_eq_true] at htexts
  rw [hps] at htexts
  exact List.all_eq_true.mp htexts.2

theorem HasTexts.hasTextNames (h : g.HasTexts) (hc : g.IsClosed) : g.HasTextNames where
  type id hid := by
    obtain ⟨t, ht⟩ : ∃ t, g.types[id]? = some t :=
      ⟨_, Array.getElem?_eq_getElem (hc.lt_size hid)⟩
    have htexts := h id t ht
    simp only [NamedType.hasTexts, Bool.and_eq_true] at htexts
    simpa [nameOf, ht] using htexts.1.1
  property id ps _ hs p hp := by
    have := h.property hs p hp
    simp only [Property.hasTexts, Bool.and_eq_true] at this
    exact this.1

theorem HasTexts.hasTextDescriptions (h : g.HasTexts) : g.HasTextDescriptions where
  type id := by
    cases ht : g.types[id]? with
    | none => simp [descriptionOf, ht, Value.isTextOrNull]
    | some t =>
      have htexts := h id t ht
      simp only [NamedType.hasTexts, Bool.and_eq_true] at htexts
      simpa [descriptionOf, ht] using htexts.1.2
  property id ps hs p hp := by
    have := h.property hs p hp
    simp only [Property.hasTexts, Bool.and_eq_true] at this
    exact this.2

end TypeGraph

/-! ## From documents to graphs -/

/-- Whether the part of a document that is to be read has texts. -/
def Task.hasTexts : Task → Bool
  | .type _ _ d => d.hasTexts
  | .members _ ds => Definition.membersHaveTexts ds
  | .properties _ ps => Definition.propertiesHaveTexts ps
  | .follow _ => true

/-- Whether a reading has texts; only that of properties has names. -/
def Reading.hasTexts : Reading → Bool
  | .properties ps => ps.all Property.hasTexts
  | _ => true

theorem Link.isText_nameOr {name : Value} (h : name.isTextOrNull = true) (place : String) :
    (nameOr name place).isText = true := by
  unfold nameOr
  split
  · next ht =>
    cases name with
    | null => cases ht
    | str s => rfl
    | _ => cases h
  · rfl

theorem Linking.hasTexts_withType {l : Linking} (h : l.graph.HasTexts) {t : NamedType}
    (ht : t.hasTexts = true) (reference : Option String) :
    (l.withType t reference).graph.HasTexts := by
  rw [graph_withType]
  exact h.addType ht

theorem Loads.hasTexts {definitions : List (String × Value)} {k : Task} {l l' : Linking}
    {r : Reading} (hd : definitionsHaveTexts definitions = true) (h : Loads definitions k l r l') :
    k.hasTexts = true → l.graph.HasTexts → l'.graph.HasTexts ∧ r.hasTexts = true := by
  induction h with
  | primitive => exact fun _ hl => ⟨hl, rfl⟩
  | reference _ ih => exact fun _ hl => ih rfl hl
  | array _ ih => exact fun hk hl => ⟨(ih hk hl).1, rfl⟩
  | map _ ih => exact fun hk hl => ⟨(ih hk hl).1, rfl⟩
  | record _ ih =>
    intro hk hl
    simp only [Task.hasTexts, Definition.hasTexts, Bool.and_eq_true] at hk
    obtain ⟨⟨hname, hdescription⟩, hps⟩ := hk
    obtain ⟨hl', hr⟩ := ih hps (Linking.hasTexts_withType hl
      (by simp [NamedType.hasTexts, Link.isText_nameOr hname, hdescription, Shape.hasTexts]) _)
    exact ⟨hl'.setShape _ hr, rfl⟩
  | enum =>
    intro hk hl
    simp only [Task.hasTexts, Definition.hasTexts, Bool.and_eq_true] at hk
    exact ⟨Linking.hasTexts_withType hl
      (by simp [NamedType.hasTexts, Link.isText_nameOr hk.1, hk.2, Shape.hasTexts]) _, rfl⟩
  | union _ ih =>
    intro hk hl
    simp only [Task.hasTexts, Definition.hasTexts, Bool.and_eq_true] at hk
    obtain ⟨⟨hname, hdescription⟩, hds⟩ := hk
    obtain ⟨hl', _⟩ := ih hds (Linking.hasTexts_withType hl
      (by simp [NamedType.hasTexts, Link.isText_nameOr hname, hdescription, Shape.hasTexts]) _)
    exact ⟨hl'.setShape _ rfl, rfl⟩
  | noMembers => exact fun _ hl => ⟨hl, rfl⟩
  | member _ _ ih ihs =>
    intro hk hl
    simp only [Task.hasTexts, Definition.membersHaveTexts, Bool.and_eq_true] at hk
    exact ⟨(ihs hk.2 (ih hk.1 hl).1).1, rfl⟩
  | noProperties => exact fun _ hl => ⟨hl, rfl⟩
  | property _ _ ih ihs =>
    intro hk hl
    simp only [Task.hasTexts, Definition.propertiesHaveTexts, Bool.and_eq_true] at hk
    obtain ⟨⟨⟨hname, hdescription⟩, hd⟩, hps⟩ := hk
    obtain ⟨hl', hr⟩ := ihs hps (ih hd hl).1
    refine ⟨hl', ?_⟩
    simp only [Reading.hasTexts, List.all_cons, Property.hasTexts, Bool.and_eq_true]
    exact ⟨⟨hname, hdescription⟩, hr⟩
  | found => exact fun _ hl => ⟨hl, rfl⟩
  | enter _ hvalue _ _ ih =>
    intro _ hl
    exact ih (List.all_eq_true.mp hd _ (Value.mem_of_lookup hvalue)) hl

theorem LoadsTops.hasTexts {definitions tops : List (String × Value)} {l l' : Linking}
    (hd : definitionsHaveTexts definitions = true) (h : LoadsTops definitions tops l l') :
    definitionsHaveTexts tops = true → l.graph.HasTexts → l'.graph.HasTexts := by
  induction h with
  | nil => exact fun _ hl => hl
  | cons h _ _ ih =>
    intro ht hl
    simp only [definitionsHaveTexts, List.all_cons, Bool.and_eq_true] at ht
    exact ih ht.2 (h.hasTexts hd ht.1 hl).1

theorem TypeGraph.hasTexts_start : Linking.start.graph.HasTexts := by
  intro id t hid
  simp [Linking.start, empty] at hid

/-- Where a document has texts, so has its graph. -/
theorem TypeGraph.hasTexts_of_ofDocument {document : Value} {g : TypeGraph}
    (ht : documentHasTexts document = true) (h : ofDocument document = .ok g) : g.HasTexts := by
  obtain ⟨definitions, tops, l, hparts, hloads, rfl, _⟩ := loadsTops_of_ofDocument h
  rw [documentHasTexts, hparts] at ht
  simp only [Bool.and_eq_true] at ht
  exact hloads.hasTexts ht.1 ht.2 hasTexts_start

end ZigDecl
