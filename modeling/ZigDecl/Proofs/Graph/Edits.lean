import ZigDecl.Proofs.Document.Forms

/-! # Graphs that are made by hand

Named types are made one after the other, records get more properties and unions get other members,
in any order and with any cycles. Main statement: at any time the members of a union are the first
occurrences in the list that it was given last, no two of them are equal, and no other edit changes
them, whatever it does to the types that they refer to. -/

namespace ZigDecl

/-! ## Equality of types -/

/-- All that equality of types looks at: arrays and maps by what is inside, named types by their
place in the store, and nothing of what a named type is made of. -/
def Ty.unmarked : Ty → Ty
  | .primitive p => .primitive p
  | .array _ t => .array 0 t.unmarked
  | .map _ t => .map 0 t.unmarked
  | .named id => .named id

theorem Ty.same_iff_unmarked {s t : Ty} : s.same t = true ↔ s.unmarked = t.unmarked := by
  induction s generalizing t with
  | primitive p => cases t <;> simp [same, unmarked]
  | array m s ih => cases t <;> simp [same, unmarked, ih]
  | map m s ih => cases t <;> simp [same, unmarked, ih]
  | named i => cases t <;> simp [same, unmarked]

theorem any_same_iff {ts : List Ty} {t : Ty} :
    ts.any (·.same t) = true ↔ t.unmarked ∈ ts.map Ty.unmarked := by
  simp only [List.any_eq_true, Ty.same_iff_unmarked, List.mem_map]

/-! ## Distinct types -/

theorem nodup_distinctTypes (ts : List Ty) : ((distinctTypes ts).map Ty.unmarked).Nodup := by
  induction ts using List.reverseRecOn with
  | nil => exact .nil
  | append_singleton ts t ih =>
    rw [distinctTypes_concat]
    split
    · exact ih
    · next hnew =>
      rw [any_same_iff] at hnew
      rw [List.map_append, List.map_singleton, List.nodup_append_comm, List.singleton_append]
      exact List.nodup_cons.mpr ⟨hnew, ih⟩

/-- A list without equal types is kept as it is. -/
theorem distinctTypes_of_nodup {ts : List Ty} (h : (ts.map Ty.unmarked).Nodup) :
    distinctTypes ts = ts := by
  induction ts using List.reverseRecOn with
  | nil => rfl
  | append_singleton ts t ih =>
    rw [List.map_append, List.map_singleton, List.nodup_append_comm, List.singleton_append,
      List.nodup_cons] at h
    rw [distinctTypes_concat, ih h.2, if_neg (any_same_iff.not.mpr h.1)]

/-- A type is kept at the first position at which an equal one stands. -/
theorem map_some_distinctTypes_unmarked (ts : List Ty) :
    (distinctTypes ts).map some = (firstPositions (ts.map Ty.unmarked)).map (ts[·]?) :=
  map_some_distinctTypes Ty.unmarked fun _ _ _ _ => Ty.same_iff_unmarked

/-! ## Edits -/

/-- What a new type is made of if it is given a shape: a union keeps distinct members only. -/
def Shape.kept : Shape → Shape
  | .union members => .union (distinctTypes members)
  | shape => shape

def Shape.members? : Shape → Option (List Ty)
  | .union members => some members
  | _ => none

theorem Shape.members?_kept (shape : Shape) :
    shape.kept.members? = shape.members?.map distinctTypes := by
  cases shape <;> rfl

/-- One step in making a graph by hand. -/
inductive Edit where
  | make (t : NamedType)
  | addProperty (id : Nat) (p : Property)
  | setMembers (id : Nat) (members : List Ty)

namespace Edit

/-- How many types an edit makes. -/
def made : Edit → Nat
  | .make _ => 1
  | _ => 0

/-- The members that an edit gives to the union `id`, where there were `size` types before it. -/
def given? (size id : Nat) : Edit → Option (List Ty)
  | .make t => if size = id then t.shape.members? else none
  | .setMembers other members => if other = id then some members else none
  | _ => none

/-- The members that the last of the edits that give any gives to a union, where there were `size`
types before the first of them. -/
def lastGiven? (id : Nat) : Nat → List Edit → Option (List Ty)
  | _, [] => none
  | size, e :: edits => (lastGiven? id (size + e.made) edits).or (e.given? size id)

end Edit

namespace TypeGraph

/-- The graph after an edit; `none` if the edit is one of a type of another kind, or of none. -/
def edit? (g : TypeGraph) : Edit → Option TypeGraph
  | .make t => some (g.addType { t with shape := t.shape.kept }).1
  | .addProperty id p =>
    match g.shape? id with
    | some (.record _) => some (g.addProperty id p)
    | _ => none
  | .setMembers id members =>
    match g.shape? id with
    | some (.union _) => some (g.setMembers id members)
    | _ => none

/-- The graph after edits, one after the other. -/
def edits? (g : TypeGraph) (edits : List Edit) : Option TypeGraph := edits.foldlM edit? g

/-- The members of a union. -/
def members? (g : TypeGraph) (id : Nat) : Option (List Ty) :=
  (g.shape? id).bind Shape.members?

theorem members?_eq_some_iff {g : TypeGraph} {id : Nat} {members : List Ty} :
    g.members? id = some members ↔ g.shape? id = some (.union members) := by
  rw [members?, Option.bind_eq_some_iff]
  refine ⟨fun ⟨shape, hshape, h⟩ => ?_, fun h => ⟨_, h, rfl⟩⟩
  cases shape <;> cases h
  exact hshape

theorem members?_eq_none {g : TypeGraph} {id : Nat} (h : g.types.size ≤ id) :
    g.members? id = none := by
  rw [members?, shape?_eq_none_iff.mpr h, Option.bind_none]

/-! ## Edits of what is there -/

theorem modify_congr {types : Array NamedType} {id : Nat} {f : NamedType → NamedType}
    (f' : NamedType → NamedType) (h : ∀ t, types[id]? = some t → f t = f' t) :
    types.modify id f = types.modify id f' := by
  refine Array.ext_getElem? fun i => ?_
  rw [Array.getElem?_modify, Array.getElem?_modify]
  split
  · next hid =>
    subst hid
    cases ht : types[id]? with
    | none => rfl
    | some t => rw [Option.map_some, Option.map_some, h t ht]
  · rfl

theorem addProperty_eq {g : TypeGraph} {id : Nat} {ps : List Property}
    (h : g.shape? id = some (.record ps)) (p : Property) :
    g.addProperty id p = g.setShape id (.record (ps ++ [p])) := by
  rw [addProperty, setShape, modify_congr _ fun t ht => ?_]
  rw [shape?, ht] at h
  simp only [Option.some.inj h]

theorem setMembers_members {g : TypeGraph} {id : Nat} {members : List Ty}
    (hs : g.shape? id = some (.union members)) (h : (members.map Ty.unmarked).Nodup) :
    g.setMembers id members = g := by
  have hsame : g.types.modify id (fun t => { t with shape := .union members }) = g.types := by
    rw [modify_congr (fun t => t) fun t ht => ?_]
    · exact Array.ext_getElem? fun i => by rw [Array.getElem?_modify]; simp
    · rw [shape?, ht] at hs
      rw [← Option.some.inj hs]
  rw [setMembers, distinctTypes_of_nodup h, setShape, hsame]

/-! ## What an edit does -/

theorem size_of_edit? {g g' : TypeGraph} {e : Edit} (h : g.edit? e = some g') :
    g'.types.size = g.types.size + e.made := by
  cases e with
  | make t =>
    cases h
    simp [addType, Edit.made]
  | addProperty id p =>
    rw [edit?] at h
    split at h <;> cases h
    simp [addProperty, Edit.made]
  | setMembers id members =>
    rw [edit?] at h
    split at h <;> cases h
    simp [setMembers, Edit.made]

/-- An edit gives distinct members to a union, or leaves the members of all unions as they are. -/
theorem members?_of_edit? {g g' : TypeGraph} {e : Edit} (h : g.edit? e = some g') (id : Nat) :
    g'.members? id = ((e.given? g.types.size id).map distinctTypes).or (g.members? id) := by
  cases e with
  | make t =>
    cases h
    rw [members?, shape?_addType, Edit.given?]
    by_cases hid : g.types.size = id
    · rw [if_pos hid.symm, if_pos hid, members?_eq_none (Nat.le_of_eq hid), Option.or_none]
      exact t.shape.members?_kept
    · rw [if_neg (Ne.symm hid), if_neg hid]
      rfl
  | addProperty other p =>
    rw [edit?] at h
    split at h <;> cases h
    next ps hps =>
    rw [addProperty_eq hps, members?, shape?_setShape]
    by_cases hid : other = id
    · subst hid
      simp [Edit.given?, members?, hps, Shape.members?]
    · rw [if_neg hid]
      rfl
  | setMembers other members =>
    rw [edit?] at h
    split at h <;> cases h
    next old hold =>
    rw [setMembers, members?, shape?_setShape, Edit.given?]
    by_cases hid : other = id
    · subst hid
      simp [hold, Shape.members?]
    · rw [if_neg hid, if_neg hid]
      rfl

/-- After edits a union has the distinct ones of the members that it was given last; one that is
given none keeps those that it has. -/
theorem members?_of_edits? {g g' : TypeGraph} {edits : List Edit} (h : g.edits? edits = some g')
    (id : Nat) :
    g'.members? id =
      ((Edit.lastGiven? id g.types.size edits).map distinctTypes).or (g.members? id) := by
  induction edits generalizing g with
  | nil =>
    cases h
    rfl
  | cons e edits ih =>
    rw [edits?, List.foldlM_cons] at h
    obtain ⟨next, hnext, h⟩ := Option.bind_eq_some_iff.mp h
    rw [ih h, members?_of_edit? hnext, size_of_edit? hnext, Edit.lastGiven?]
    cases Edit.lastGiven? id (g.types.size + e.made) edits <;> simp

/-- Edits that give no members to a union that is there do not change it. -/
theorem lastGiven?_eq_none {id size : Nat} (hid : id < size) {edits : List Edit}
    (h : ∀ members, Edit.setMembers id members ∉ edits) : Edit.lastGiven? id size edits = none := by
  induction edits generalizing size with
  | nil => rfl
  | cons e edits ih =>
    have hsize : id < size + e.made := by omega
    have hrest := ih hsize fun members hmem => h members (List.mem_cons_of_mem e hmem)
    have hfirst : e.given? size id = none := by
      cases e with
      | make t => rw [Edit.given?, if_neg (by omega)]
      | addProperty => rfl
      | setMembers other members =>
        have hne : other ≠ id := by
          rintro rfl
          exact h members (by simp)
        simp [Edit.given?, hne]
    rw [Edit.lastGiven?, hrest, hfirst]
    rfl

/-- Whatever was done to make a graph, no two members of a union are equal; they are what stands at
the first positions in the list that the union was given last, and giving them to it again changes
nothing. Later edits that do not give members to this very union leave its members as they are. -/
theorem members_of_edits? {edits : List Edit} {g : TypeGraph} (h : empty.edits? edits = some g)
    {id : Nat} {members : List Ty} (hs : g.shape? id = some (.union members)) :
    (members.map Ty.unmarked).Nodup ∧
      (∃ given, Edit.lastGiven? id 0 edits = some given ∧
        members.map some = (firstPositions (given.map Ty.unmarked)).map (given[·]?)) ∧
      g.setMembers id members = g ∧
      ∀ later g', g.edits? later = some g' → (∀ ms, Edit.setMembers id ms ∉ later) →
        g'.shape? id = some (.union members) := by
  have hmembers := members?_eq_some_iff.mpr hs
  have hlast := members?_of_edits? h id
  have hempty : empty.members? id = none := rfl
  rw [hmembers, hempty, Option.or_none] at hlast
  obtain ⟨given, hgiven, rfl⟩ := Option.map_eq_some_iff.mp hlast.symm
  have hnodup := nodup_distinctTypes given
  refine ⟨hnodup, ⟨given, hgiven, map_some_distinctTypes_unmarked given⟩,
    setMembers_members hs hnodup, fun later g' hlater hnot => ?_⟩
  have hid : id < g.types.size := by
    by_contra hge
    rw [members?_eq_none (Nat.le_of_not_lt hge)] at hmembers
    cases hmembers
  have hkept := members?_of_edits? hlater id
  rw [lastGiven?_eq_none hid hnot, hmembers] at hkept
  exact members?_eq_some_iff.mp hkept

/-- A record, and a union that becomes a member of itself; its members come in pairs of equal ones,
two of them arrays that were written in different places. -/
def cyclicEdits : List Edit := [
  .make ⟨.str "Node", .null, .record []⟩,
  .make ⟨.str "Link", .null, .union [.named 0, .named 0, .primitive .null]⟩,
  .setMembers 1 [.named 1, .array 0 (.named 0), .map 1 (.named 1), .array 2 (.named 0), .named 1],
  .addProperty 0 ⟨.str "link", .named 1, false, .null⟩]

/-- Changes to what the members of the union refer to. -/
def laterEdits : List Edit := [
  .make ⟨.str "Other", .null, .union [.named 1, .named 1]⟩,
  .addProperty 0 ⟨.str "other", .named 2, true, .null⟩,
  .setMembers 2 [.array 3 (.named 1), .array 4 (.named 1)]]

theorem members_of_edits?_cyclic : ∃ g g' given,
    empty.edits? cyclicEdits = some g ∧ g.edits? laterEdits = some g' ∧
    Edit.lastGiven? 1 0 cyclicEdits = some given ∧
    g.shape? 1 = some (.union [.named 1, .array 0 (.named 0), .map 1 (.named 1)]) ∧
    [Ty.named 1, .array 0 (.named 0), .map 1 (.named 1)].map some =
      (firstPositions (given.map Ty.unmarked)).map (given[·]?) ∧
    ([Ty.named 1, .array 0 (.named 0), .map 1 (.named 1)].map Ty.unmarked).Nodup ∧
    g.setMembers 1 [.named 1, .array 0 (.named 0), .map 1 (.named 1)] = g ∧
    g'.shape? 1 = some (.union [.named 1, .array 0 (.named 0), .map 1 (.named 1)]) := by
  obtain ⟨g, hg⟩ : ∃ g, empty.edits? cyclicEdits = some g := ⟨_, rfl⟩
  have hs : g.shape? 1 = some (.union [.named 1, .array 0 (.named 0), .map 1 (.named 1)]) := by
    cases hg
    rfl
  obtain ⟨g', hg'⟩ : ∃ g', g.edits? laterEdits = some g' := by
    cases hg
    exact ⟨_, rfl⟩
  obtain ⟨hnodup, ⟨given, hgiven, hfirst⟩, hset, hlater⟩ := members_of_edits? hg hs
  have hkept := hlater laterEdits g' hg' fun ms => by simp [laterEdits]
  exact ⟨g, g', given, hg, hg', hgiven, hs, hfirst, hnodup, hset, hkept⟩

end TypeGraph

end ZigDecl
