import ZigDecl.Proofs.Document.Undescribed
import ZigDecl.Proofs.Graph.Loads

/-! # Graphs without their descriptions

A graph keeps the descriptions of its document beside its types and properties. Reading a document
without descriptions makes the graph without them, step by step, and nothing else that is asked of
a graph looks at one. Main statement: accepted documents that are the same without descriptions have
graphs that are the same without descriptions. -/

namespace ZigDecl

def Property.undescribed (p : Property) : Property := { p with description := .null }

def Shape.undescribed : Shape → Shape
  | .record properties => .record (properties.map Property.undescribed)
  | shape => shape

def NamedType.undescribed (t : NamedType) : NamedType := ⟨t.name, .null, t.shape.undescribed⟩

/-- A graph without descriptions. -/
def TypeGraph.undescribed (g : TypeGraph) : TypeGraph :=
  ⟨g.types.map NamedType.undescribed, g.topLevels⟩

def Linking.undescribed (l : Linking) : Linking := { l with graph := l.graph.undescribed }

def Task.undescribed : Task → Task
  | .type place reference d => .type place reference d.undescribed
  | .members place ds => .members place (Definition.undescribedMembers ds)
  | .properties owner ps => .properties owner (Definition.undescribedProperties ps)
  | .follow name => .follow name

def Reading.undescribed : Reading → Reading
  | .properties ps => .properties (ps.map Property.undescribed)
  | r => r

/-! ## Reading without descriptions -/

@[simp] theorem TypeGraph.size_types_undescribed (g : TypeGraph) :
    g.undescribed.types.size = g.types.size := Array.size_map

theorem Linking.withType_undescribed (l : Linking) (t : NamedType) (reference : Option String) :
    (l.withType t reference).undescribed = l.undescribed.withType t.undescribed reference := by
  cases reference <;>
    simp [Linking.withType, Linking.undescribed, Linking.settle, TypeGraph.addType,
      TypeGraph.undescribed]

theorem TypeGraph.setShape_undescribed (g : TypeGraph) (id : Nat) (shape : Shape) :
    (g.setShape id shape).undescribed = g.undescribed.setShape id shape.undescribed := by
  simp only [TypeGraph.setShape, TypeGraph.undescribed, TypeGraph.mk.injEq, and_true]
  apply Array.ext_getElem?
  intro i
  simp only [Array.getElem?_map, Array.getElem?_modify]
  split
  · cases g.types[i]? <;> rfl
  · rfl

/-- What is read of a part of a document without descriptions is what is read of the part, without
its descriptions. -/
theorem Loads.undescribed {definitions : List (String × Value)} {task : Task} {l l' : Linking}
    {r : Reading} (h : Loads definitions task l r l') :
    Loads (Value.undescribedEntries definitions) task.undescribed l.undescribed r.undescribed
      l'.undescribed := by
  induction h with
  | primitive => exact .primitive ..
  | reference _ ih =>
    simp only [Task.undescribed, Definition.undescribed]
    exact .reference ih
  | array _ ih =>
    simp only [Task.undescribed, Definition.undescribed]
    exact .array ih
  | map _ ih =>
    simp only [Task.undescribed, Definition.undescribed]
    exact .map ih
  | @record place reference name description ds l l' ps _ ih =>
    rw [Linking.withType_undescribed] at ih
    have hrecord : Loads _ (.type place reference (.record name .null (some _))) _ _ _ :=
      .record ih
    simpa [Task.undescribed, Definition.undescribed, Reading.undescribed, Linking.undescribed,
      TypeGraph.setShape_undescribed, Shape.undescribed] using hrecord
  | enum place reference name description cases l =>
    rw [Linking.withType_undescribed]
    have henum : Loads (Value.undescribedEntries definitions) _ _ _ _ :=
      .enum place reference name .null cases l.undescribed
    simpa [Task.undescribed, Definition.undescribed, Reading.undescribed, Linking.undescribed,
      NamedType.undescribed, Shape.undescribed] using henum
  | @union place reference name description ds l l' ts _ ih =>
    rw [Linking.withType_undescribed] at ih
    have hunion : Loads _ (.type place reference (.union name .null (some _))) _ _ _ := .union ih
    simpa [Task.undescribed, Definition.undescribed, Reading.undescribed, Linking.undescribed,
      TypeGraph.setMembers, TypeGraph.setShape_undescribed, Shape.undescribed] using hunion
  | noMembers => exact .noMembers ..
  | member _ _ ih ihs => exact .member ih ihs
  | noProperties => exact .noProperties ..
  | property _ _ ih ihs => exact .property ih ihs
  | found h => exact .found h
  | @enter name l l' t value hfind hvalue hpending _ ih =>
    have hlookup : Value.lookup name (Value.undescribedEntries definitions) =
        some value.undescribed := by
      rw [Value.lookup_undescribedEntries, hvalue, Option.map_some]
    rw [Task.undescribed, ← Definition.ofValue_undescribed] at ih
    exact Loads.enter (l := l.undescribed) hfind hlookup hpending ih

theorem LoadsTops.undescribed {definitions tops : List (String × Value)} {l l' : Linking}
    (h : LoadsTops definitions tops l l') :
    LoadsTops (Value.undescribedEntries definitions) (Value.undescribedEntries tops) l.undescribed
      l'.undescribed := by
  induction h with
  | nil => exact .nil _
  | cons h hnew _ ih =>
    have ht := h.undescribed
    rw [Task.undescribed, ← Definition.ofValue_undescribed] at ht
    exact .cons ht hnew ih

/-- Accepted documents that are the same without descriptions have graphs that are the same without
descriptions. -/
theorem TypeGraph.undescribed_of_ofDocument {document document' : Value} {g g' : TypeGraph}
    (hsame : document.undescribedDocument = document'.undescribedDocument)
    (h : TypeGraph.ofDocument document = .ok g) (h' : TypeGraph.ofDocument document' = .ok g') :
    g.undescribed = g'.undescribed := by
  obtain ⟨definitions, tops, l, hparts, hloads, rfl, -⟩ := loadsTops_of_ofDocument h
  obtain ⟨definitions', tops', l', hparts', hloads', rfl, -⟩ := loadsTops_of_ofDocument h'
  have hboth := documentParts_undescribedDocument hparts
  rw [hsame, documentParts_undescribedDocument hparts'] at hboth
  obtain ⟨hdefinitions, htops⟩ := Prod.mk.inj (Except.ok.inj hboth)
  have hl := hloads.undescribed
  rw [← hdefinitions, ← htops] at hl
  exact congrArg Linking.graph (hl.functional hloads'.undescribed)

/-! ## What is asked of a graph -/

namespace TypeGraph

variable (g : TypeGraph)

@[simp] theorem topLevels_undescribed : g.undescribed.topLevels = g.topLevels := rfl

@[simp] theorem shape?_undescribed (id : Nat) :
    g.undescribed.shape? id = (g.shape? id).map Shape.undescribed := by
  simp only [shape?, undescribed, Array.getElem?_map]
  cases g.types[id]? <;> rfl

@[simp] theorem nameOf_undescribed (id : Nat) : g.undescribed.nameOf id = g.nameOf id := by
  simp only [nameOf, undescribed, Array.getElem?_map]
  cases g.types[id]? <;> rfl

@[simp] theorem isDeclared_undescribed (id : Nat) :
    g.undescribed.isDeclared id = g.isDeclared id := by
  rw [isDeclared, isDeclared, shape?_undescribed]
  rcases g.shape? id with _ | _ | _ | _ <;> rfl

@[simp] theorem parts_undescribed (id : Nat) : g.undescribed.parts id = g.parts id := by
  rw [parts, parts, shape?_undescribed]
  rcases g.shape? id with _ | properties | _ | _
  · rfl
  · simp [Shape.undescribed, Property.undescribed]
  · rfl
  · rfl

@[simp] theorem successors_undescribed (id : Nat) :
    g.undescribed.successors id = g.successors id := by
  rw [successors, successors, parts_undescribed]

@[simp] theorem needsDeclaration_undescribed (t : Ty) :
    g.undescribed.needsDeclaration t = g.needsDeclaration t := by
  cases t <;> simp [needsDeclaration]

theorem visit_undescribed (fuel : Nat) : g.undescribed.visit fuel = g.visit fuel := by
  induction fuel with
  | zero => rfl
  | succ fuel ih =>
    funext seen id
    rw [visit, visit, ih, successors_undescribed]

@[simp] theorem namedTypes_undescribed : g.undescribed.namedTypes = g.namedTypes := by
  rw [namedTypes, namedTypes, visit_undescribed, size_types_undescribed]
  rfl

@[simp] theorem declarations_undescribed : g.undescribed.declarations = g.declarations := by
  rw [declarations, declarations, namedTypes_undescribed, funext (isDeclared_undescribed g)]

@[simp] theorem records_undescribed : g.undescribed.records = g.records := by
  simp only [records, namedTypes_undescribed, shape?_undescribed]
  congr 1
  funext id
  rcases g.shape? id with _ | _ | _ | _ <;> rfl

@[simp] theorem enums_undescribed : g.undescribed.enums = g.enums := by
  simp only [enums, namedTypes_undescribed, shape?_undescribed]
  congr 1
  funext id
  rcases g.shape? id with _ | _ | _ | _ <;> rfl

@[simp] theorem unions_undescribed : g.undescribed.unions = g.unions := by
  simp only [unions, namedTypes_undescribed, shape?_undescribed, isDeclared_undescribed]
  congr 1
  funext id
  rcases g.shape? id with _ | _ | _ | _ <;> rfl

theorem collect_undescribed (self : Option Nat) (fuel : Nat) :
    g.undescribed.collect self fuel = g.collect self fuel := by
  induction fuel with
  | zero => rfl
  | succ fuel ih =>
    funext found id
    rw [collect, collect, ih, isDeclared_undescribed, successors_undescribed]

@[simp] theorem referencedDeclarations_undescribed (t : Ty) :
    g.undescribed.referencedDeclarations t = g.referencedDeclarations t := by
  simp [referencedDeclarations, collect_undescribed]

@[simp] theorem shownNamed_undescribed (id : Nat) :
    g.undescribed.shownNamed id = g.shownNamed id := by
  rw [shownNamed, shownNamed, nameOf_undescribed, shape?_undescribed]
  rcases g.shape? id with _ | _ | _ | _ <;> rfl

end TypeGraph

end ZigDecl
