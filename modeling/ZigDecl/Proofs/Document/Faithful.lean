import ZigDecl.Proofs.Document.Forms
import ZigDecl.Proofs.Document.Passage

/-! # A loaded graph is what the document says

Types in the graph and places of the document are related by `Reads`, and every step from one side
is matched on the other. Main statement: a loaded graph is faithful, that is paths lead to types
just where they lead to places, a type shows what the place shows, and places come to the same type
just if their references come to the same definition. -/

namespace ZigDecl

theorem index_unique {α : Type} {xs : List α} (hn : xs.Nodup) {i j : Nat} {x : α}
    (hi : xs[i]? = some x) (hj : xs[j]? = some x) : i = j :=
  (List.getElem?_inj (List.getElem?_eq_some_iff.mp hi).1 hn).mp (hi.trans hj.symm)

/-! ## Forms of types -/

/-- The form of a type, where named types were made in the given places. -/
def Ty.form (made : Nat → Place) : Ty → Form
  | .primitive k => .primitive k
  | .array _ t => .array (form made t)
  | .map _ t => .map (form made t)
  | .named id => .named (made id)

/-- The place where a named type was made. -/
def Made.placeOf (made : Made) (id : Nat) : Place := made.ids[id]?.getD (.ofName "")

variable {d : Document} {made : Made} {g : TypeGraph}

theorem Made.placeOf_eq {id : Nat} {p : Place} (h : made.ids[id]? = some p) :
    made.placeOf id = p := by rw [placeOf, h, Option.getD_some]

/-- The place of a named type tells it from the others. -/
theorem Made.placeOf_inj (hn : made.ids.Nodup) {i j : Nat} (hi : i < made.ids.length)
    (hj : j < made.ids.length) (h : made.placeOf i = made.placeOf j) : i = j := by
  rw [placeOf_eq (List.getElem?_eq_getElem hi), placeOf_eq (List.getElem?_eq_getElem hj)] at h
  exact (hn.getElem_inj_iff).mp h

theorem Ty.same_iff_form (hn : made.ids.Nodup) {s t : Ty}
    (hs : ∀ id, s.target? = some id → id < made.ids.length)
    (ht : ∀ id, t.target? = some id → id < made.ids.length) :
    s.same t = true ↔ s.form made.placeOf = t.form made.placeOf := by
  induction s generalizing t with
  | primitive k => cases t <;> simp [same, form]
  | array m s ih =>
    cases t with
    | array m' t => simpa [same, form] using ih (t := t) hs ht
    | _ => simp [same, form]
  | map m s ih =>
    cases t with
    | map m' t => simpa [same, form] using ih (t := t) hs ht
    | _ => simp [same, form]
  | named i =>
    cases t with
    | named j =>
      simp only [same, form, beq_iff_eq, Form.named.injEq]
      exact ⟨fun h => by rw [h], Made.placeOf_inj hn (hs i rfl) (ht j rfl)⟩
    | _ => simp [same, form]

namespace Document

/-! ## One place -/

/-- The definition that a place denotes is read as the same type. -/
theorem Reads.exists_denotes {p : Place} {t : Ty} (h : d.Reads made p t) :
    ∃ q, d.Denotes p q ∧ d.Reads made q t := by
  induction h with
  | reference hv href _ ih =>
    obtain ⟨q, hq, ht⟩ := ih
    exact ⟨q, .follow hv href hq, ht⟩
  | primitive hv hk =>
    exact ⟨_, .self hv (Value.reference?_of_primitive? hk), .primitive hv hk⟩
  | array hv hk hmark h => exact ⟨_, .self hv (Value.reference?_of_kind? hk), .array hv hk hmark h⟩
  | map hv hk hmark h => exact ⟨_, .self hv (Value.reference?_of_kind? hk), .map hv hk hmark h⟩
  | named hv hk hid =>
    exact ⟨_, .self hv (Value.reference?_of_definesNamed hk), .named hv hk hid⟩

theorem Reads.of_reference {p : Place} {t : Ty} {v : Value} {name : String}
    (h : d.Reads made p t) (hv : d.at? p = some v) (href : v.reference? = some name) :
    d.Reads made (.ofName name) t := by
  cases h with
  | reference hv' href' h =>
    cases hv.symm.trans hv'
    cases href.symm.trans href'
    exact h
  | _ => grind

theorem Reads.denoted {p q : Place} {t : Ty} (h : d.Reads made p t) (hq : d.Denotes p q) :
    d.Reads made q t := by
  obtain ⟨r, hr, ht⟩ := h.exists_denotes
  rwa [hq.unique hr]

/-- A place is read as one type. -/
theorem Reads.unique (hn : made.ids.Nodup) (hm : made.marks.Nodup) {p : Place} {s t : Ty}
    (h : d.Reads made p s) (h' : d.Reads made p t) : s = t := by
  induction h generalizing t with
  | reference hv href _ ih =>
    cases h' with
    | reference hv' href' h' =>
      cases hv.symm.trans hv'
      cases href.symm.trans href'
      exact ih h'
    | _ => grind
  | primitive hv hk =>
    cases h' with
    | _ => grind
  | array hv hk hmark _ ih =>
    cases h' with
    | array _ _ hmark' h' => rw [ih h', index_unique hm hmark hmark']
    | _ => grind
  | map hv hk hmark _ ih =>
    cases h' with
    | map _ _ hmark' h' => rw [ih h', index_unique hm hmark hmark']
    | _ => grind
  | named hv hk hid =>
    cases h' with
    | named _ _ hid' => rw [index_unique hn hid hid']
    | _ => grind

theorem Reads.target_lt {p : Place} {t : Ty} (h : d.Reads made p t) {id : Nat}
    (hid : t.target? = some id) : id < made.ids.length := by
  induction h with
  | reference _ _ _ ih => exact ih hid
  | primitive => cases hid
  | array _ _ _ _ ih => exact ih hid
  | map _ _ _ _ ih => exact ih hid
  | named _ _ h => cases hid; exact (List.getElem?_eq_some_iff.mp h).1

theorem Reads.hasForm {p : Place} {t : Ty} (h : d.Reads made p t) :
    d.HasForm p (t.form made.placeOf) := by
  induction h with
  | reference hv href _ ih => exact .of_reference hv href ih
  | primitive hv hk => exact .primitive (.self hv (Value.reference?_of_primitive? hk)) hv hk
  | array hv hk _ _ ih => exact .array (.self hv (Value.reference?_of_kind? hk)) hv hk ih
  | map hv hk _ _ ih => exact .map (.self hv (Value.reference?_of_kind? hk)) hv hk ih
  | named hv hk hid =>
    rw [Ty.form, Made.placeOf_eq hid]
    exact .named (.self hv (Value.reference?_of_definesNamed hk)) hv hk

/-! ## One step -/

namespace IsReadAs

variable (hr : d.IsReadAs made g)
include hr

/-- The members of a union, before repetitions are left out, have the forms that the document gives
them. -/
theorem memberForms {p : Place} {v : Value} (hv : d.at? p = some v)
    (hk : v.kind? = some "union") {ts : List Ty}
    (hlength : ts.length = (v.entries "members").length)
    (hparts : ∀ i t, ts[i]? = some t → d.Reads made (p.inside (.member i)) t) :
    d.MemberForms p v (ts.map (Ty.form made.placeOf)) ∧
      (distinctTypes ts).map some =
        (firstPositions (ts.map (Ty.form made.placeOf))).map (ts[·]?) := by
  have hlt : ∀ t ∈ ts, ∀ id, t.target? = some id → id < made.ids.length := by
    intro t ht id hid
    obtain ⟨i, hi⟩ := List.mem_iff_getElem?.mp ht
    exact (hparts i t hi).target_lt hid
  refine ⟨⟨hv, hk, by simpa using hlength, fun i f hf => ?_⟩, ?_⟩
  · rw [List.getElem?_map, Option.map_eq_some_iff] at hf
    obtain ⟨t, ht, rfl⟩ := hf
    exact (hparts i t ht).hasForm
  · exact map_some_distinctTypes _ fun s hs t ht =>
      Ty.same_iff_form hr.nodupIds (hlt s hs) (hlt t ht)

/-- A step in the graph is a step in the document. -/
theorem exists_inside {p : Place} {t t' : Ty} (h : d.Reads made p t) {s : Step}
    (hs : g.inside? t s = some t') :
    ∃ q r, d.Denotes p q ∧ d.Inside q s r ∧ d.Reads made r t' := by
  obtain ⟨q, hq, ht⟩ := h.exists_denotes
  refine ⟨q, ?_⟩
  suffices ∃ r, d.Inside q s r ∧ d.Reads made r t' by
    obtain ⟨r, hin, hread⟩ := this
    exact ⟨r, hq, hin, hread⟩
  obtain ⟨w, hw, href⟩ := hq.exists_at?
  cases ht with
  | reference hv href' => grind
  | primitive hv hk => cases hs
  | array hv hk _ hin =>
    cases s with
    | items => cases hs; exact ⟨_, .items hv hk, hin⟩
    | _ => cases hs
  | map hv hk _ hin =>
    cases s with
    | values => cases hs; exact ⟨_, .values hv hk, hin⟩
    | _ => cases hs
  | named hv hk hid =>
    obtain ⟨v, shape, hv', _, _, hshape, hf⟩ := hr.types _ _ hid
    cases hf with
    | @record ps hk hlabels hparts =>
      cases s with
      | property i =>
        simp only [TypeGraph.inside?, hshape, Option.map_eq_some_iff] at hs
        obtain ⟨part, hpart, rfl⟩ := hs
        have hlength := congrArg List.length hlabels
        rw [List.length_map, List.length_map] at hlength
        have hi := (List.getElem?_eq_some_iff.mp hpart).1
        exact ⟨_, .property hv' hk (by omega), hparts i part hpart⟩
      | _ => simp [TypeGraph.inside?, hshape] at hs
    | enum => cases s <;> simp [TypeGraph.inside?, hshape] at hs
    | @union ts hk hlength hparts =>
      cases s with
      | member i =>
        obtain ⟨hforms, hdistinct⟩ := hr.memberForms hv' hk hlength hparts
        simp only [TypeGraph.inside?, hshape] at hs
        have hget := congrArg (·[i]?) hdistinct
        simp only [List.getElem?_map, hs, Option.map_some] at hget
        obtain ⟨k, hk', hkt⟩ := Option.map_eq_some_iff.mp hget.symm
        exact ⟨_, .member hforms hk', hparts k t' hkt⟩
      | _ => simp [TypeGraph.inside?, hshape] at hs

/-- A step in the document is a step in the graph. -/
theorem exists_inside? {p q r : Place} {t : Ty} (h : d.Reads made p t) {s : Step}
    (hq : d.Denotes p q) (hs : d.Inside q s r) :
    ∃ t', g.inside? t s = some t' ∧ d.Reads made r t' := by
  have ht := h.denoted hq
  cases hs with
  | items hv hk =>
    cases ht with
    | array _ _ _ hin => exact ⟨_, rfl, hin⟩
    | _ => grind
  | values hv hk =>
    cases ht with
    | map _ _ _ hin => exact ⟨_, rfl, hin⟩
    | _ => grind
  | @property v i hv hk hi =>
    cases ht with
    | named _ _ hid =>
      obtain ⟨w, shape, hw, _, _, hshape, hf⟩ := hr.types _ _ hid
      cases hv.symm.trans hw
      cases hf with
      | @record ps _ hlabels hparts =>
        have hlength := congrArg List.length hlabels
        rw [List.length_map, List.length_map] at hlength
        have hget : ps[i]? = some ps[i] := List.getElem?_eq_getElem (by omega)
        exact ⟨ps[i].type, by simp [TypeGraph.inside?, hshape, hget], hparts i _ hget⟩
      | _ => grind
    | _ => grind
  | @member v forms i k hforms hfirst =>
    have hv := hforms.here
    have hk := hforms.kind
    cases ht with
    | named _ _ hid =>
      obtain ⟨w, shape, hw, _, _, hshape, hf⟩ := hr.types _ _ hid
      cases hv.symm.trans hw
      cases hf with
      | @union ts _ hlength hparts =>
        obtain ⟨hforms', hdistinct⟩ := hr.memberForms hv hk hlength hparts
        obtain ⟨-, rfl⟩ := hforms.unique hforms'
        have hget := congrArg (·[i]?) hdistinct
        simp only [List.getElem?_map, hfirst, Option.map_some] at hget
        obtain ⟨t', ht', htk⟩ := Option.map_eq_some_iff.mp hget
        exact ⟨t', by simp [TypeGraph.inside?, hshape, ht'], hparts k t' htk.symm⟩
      | _ => grind
    | _ => grind

/-- A type shows what its place shows. -/
theorem exists_shows {p : Place} {t : Ty} (h : d.Reads made p t) :
    ∃ q o, d.Denotes p q ∧ d.Shows q o ∧ g.outline? t = some o := by
  obtain ⟨q, hq, ht⟩ := h.exists_denotes
  suffices ∃ o, d.Shows q o ∧ g.outline? t = some o by
    obtain ⟨o, ho, hout⟩ := this
    exact ⟨q, o, hq, ho, hout⟩
  obtain ⟨w, hw, href⟩ := hq.exists_at?
  cases ht with
  | reference hv href' => grind
  | primitive hv hk => exact ⟨_, .primitive hv hk, rfl⟩
  | array hv hk => exact ⟨_, .array hv hk, rfl⟩
  | map hv hk => exact ⟨_, .map hv hk, rfl⟩
  | named hv hk hid =>
    obtain ⟨v, shape, hv', _, hdesc, hshape, hf⟩ := hr.types _ _ hid
    cases hf with
    | record hk hlabels =>
      refine ⟨_, .record hv' hk, ?_⟩
      rw [TypeGraph.outline?, hshape, Option.map_some, hdesc, ← hlabels]
    | enum hk hcases =>
      refine ⟨_, .enum hv' hk hcases, ?_⟩
      rw [TypeGraph.outline?, hshape, Option.map_some, hdesc]
    | union hk hlength hparts =>
      obtain ⟨hforms, hdistinct⟩ := hr.memberForms hv' hk hlength hparts
      refine ⟨_, .union hforms, ?_⟩
      have hcount := congrArg List.length hdistinct
      rw [List.length_map, List.length_map] at hcount
      rw [← hcount, TypeGraph.outline?, hshape, Option.map_some, hdesc]

/-! ## Paths -/

/-- A path in the graph is a path in the document. -/
theorem exists_arrives {path : List Step} : ∀ {p : Place} {t t' : Ty}, d.Reads made p t →
    g.walk? t path = some t' → ∃ q, d.Arrives p path q ∧ d.Reads made q t' := by
  induction path with
  | nil =>
    intro p t t' h hw
    cases hw
    exact ⟨p, .here p, h⟩
  | cons s path ih =>
    intro p t t' h hw
    rw [TypeGraph.walk?, List.foldlM_cons] at hw
    obtain ⟨u, hu, hw⟩ := Option.bind_eq_some_iff.mp hw
    obtain ⟨q, r, hq, hs, hread⟩ := hr.exists_inside h hu
    obtain ⟨e, he, ht⟩ := ih hread hw
    exact ⟨e, .step hq hs he, ht⟩

/-- A path in the document is a path in the graph. -/
theorem exists_walk? {p q : Place} {path : List Step} (h : d.Arrives p path q) :
    ∀ {t : Ty}, d.Reads made p t → ∃ t', g.walk? t path = some t' ∧ d.Reads made q t' := by
  induction h with
  | here p => exact fun {t} ht => ⟨t, rfl, ht⟩
  | @step p q r e s path hq hs _ ih =>
    intro t ht
    obtain ⟨u, hu, hread⟩ := hr.exists_inside? ht hq hs
    obtain ⟨t', ht', hread'⟩ := ih hread
    refine ⟨t', ?_, hread'⟩
    rw [TypeGraph.walk?, List.foldlM_cons, hu]
    exact ht'

end IsReadAs

/-! ## Faithful graphs -/

/-- From a top-level a path leads to a place, and in the graph to a type. -/
def Reached (d : Document) (g : TypeGraph) (p : Place) (t : Ty) : Prop :=
  ∃ top ∈ g.topLevels, ∃ path, d.Arrives (.ofTop top.1) path p ∧ g.walk? top.2 path = some t

/-- A graph says what a document says. -/
structure IsFaithful (d : Document) (g : TypeGraph) : Prop where
  topNames : g.topNames = d.tops.map (·.1)
  /-- The graph has the same paths. -/
  paths : ∀ top ∈ g.topLevels, ∀ path,
    (∃ t, g.walk? top.2 path = some t) ↔ ∃! p, d.Arrives (.ofTop top.1) path p
  /-- A type shows what the definition at the same path shows. -/
  shows : ∀ p t, d.Reached g p t → ∃ q o, d.Denotes p q ∧ d.Shows q o ∧ g.outline? t = some o
  /-- References to one name come to one type. -/
  shared : ∀ p p' t t' v v' name, d.Reached g p t → d.Reached g p' t' → d.at? p = some v →
    d.at? p' = some v' → v.reference? = some name → v'.reference? = some name → t = t'
  /-- Different definitions come to different types, if they are not of primitive types. -/
  distinct : ∀ p p' q q' t t' v, d.Reached g p t → d.Reached g p' t' → d.Denotes p q →
    d.Denotes p' q' → q ≠ q' → d.at? q = some v → v.primitive? = none → t ≠ t'

theorem IsReadAs.reads_of_reached (hr : d.IsReadAs made g) {p : Place} {t : Ty}
    (h : d.Reached g p t) : d.Reads made p t := by
  obtain ⟨top, htop, path, hp, ht⟩ := h
  obtain ⟨t', ht', hread⟩ := hr.exists_walk? hp (hr.roots top htop)
  cases ht.symm.trans ht'
  exact hread

/-- A type that is no primitive type was made in one place. -/
theorem Reads.place_unique {p q : Place} {t : Ty} {v : Value} (h : d.Reads made p t)
    (h' : d.Reads made q t) (hp : d.Denotes p p) (hq : d.Denotes q q) (hv : d.at? p = some v)
    (hprim : v.primitive? = none) : p = q := by
  obtain ⟨w, hw, href⟩ := hp.exists_at?
  obtain ⟨w', hw', href'⟩ := hq.exists_at?
  cases h with
  | reference => grind
  | primitive => grind
  | array _ _ hmark =>
    cases h' with
    | array _ _ hmark' => exact Option.some.inj (hmark.symm.trans hmark')
    | _ => grind
  | map _ _ hmark =>
    cases h' with
    | map _ _ hmark' => exact Option.some.inj (hmark.symm.trans hmark')
    | _ => grind
  | named _ _ hid =>
    cases h' with
    | named _ _ hid' => exact Option.some.inj (hid.symm.trans hid')
    | _ => grind

theorem IsReadAs.isFaithful (hr : d.IsReadAs made g) (hn : g.topNames = d.tops.map (·.1)) :
    d.IsFaithful g where
  topNames := hn
  paths top htop path := by
    constructor
    · rintro ⟨t, ht⟩
      obtain ⟨p, hp, _⟩ := hr.exists_arrives (hr.roots top htop) ht
      exact ⟨p, hp, fun q hq => hq.unique hp⟩
    · rintro ⟨p, hp, -⟩
      obtain ⟨t, ht, _⟩ := hr.exists_walk? hp (hr.roots top htop)
      exact ⟨t, ht⟩
  shows p t h := hr.exists_shows (hr.reads_of_reached h)
  shared p p' t t' v v' name h h' hv hv' href href' := by
    have hread := (hr.reads_of_reached h).of_reference hv href
    have hread' := (hr.reads_of_reached h').of_reference hv' href'
    exact hread.unique hr.nodupIds hr.nodupMarks hread'
  distinct p p' q q' t t' v h h' hq hq' hne hv hprim := by
    rintro rfl
    have hread := (hr.reads_of_reached h).denoted hq
    have hread' := (hr.reads_of_reached h').denoted hq'
    exact hne (hread.place_unique hread' hq.refl hq'.refl hv hprim)

end Document

/-- A loaded graph is faithful to the document. -/
theorem TypeGraph.isFaithful_of_ofDocument {document : Value} {g : TypeGraph}
    (h : TypeGraph.ofDocument document = .ok g) :
    ∃ d : Document, documentParts document = .ok (d.definitions, d.tops) ∧ d.IsFaithful g := by
  obtain ⟨definitions, tops, l, hparts, hloads, rfl, _⟩ := loadsTops_of_ofDocument h
  obtain ⟨hnames, made, hr⟩ := LoadsTops.isReadAs (d := ⟨definitions, tops⟩) hloads (.refl _)
  exact ⟨⟨definitions, tops⟩, hparts, hr.isFaithful hnames⟩

/-- A record that its own parts refer to, also by a second name, and a union with a member that says
the same as an earlier one. -/
def treeDocument : Value := .obj [
  ("types", .obj [
    ("Tree", .obj [("kind", .str "class"), ("properties", .arr [
      .obj [("name", .str "left"), ("type", .obj [("$ref", .str "Again")])],
      .obj [("name", .str "right"), ("optional", .bool true), ("type", .obj [
        ("kind", .str "union"), ("members", .arr [
          .obj [("kind", .str "array"), ("items", .obj [("$ref", .str "Tree")])],
          .str "null",
          .obj [("kind", .str "array"), ("items", .obj [("$ref", .str "Again")])]])])]])]),
    ("Again", .obj [("$ref", .str "Tree")])]),
  ("top_levels", .obj [("Root", .obj [("$ref", .str "Tree")])])]

/-- The graph of the document has two members in the union, and all references to the record come to
one type. -/
theorem TypeGraph.isFaithful_treeDocument : ∃ g, ∃ d : Document,
    TypeGraph.ofDocument treeDocument = .ok g ∧
    documentParts treeDocument = .ok (d.definitions, d.tops) ∧ d.IsFaithful g ∧
    g.walk? (.named 0) [.property 1] = some (.named 1) ∧
    g.outline? (.named 1) = some (.union .null 2) ∧
    g.walk? (.named 0) [.property 1, .member 0, .items] = some (.named 0) := by
  let g : TypeGraph := ⟨#[
    ⟨.str "Tree", .null, .record [⟨.str "left", .named 0, false, .null⟩,
      ⟨.str "right", .named 1, true, .null⟩]⟩,
    ⟨.str "Tree right", .null, .union [.array 0 (.named 0), .primitive .null]⟩],
    [("Root", .named 0)]⟩
  have hg : TypeGraph.ofDocument treeDocument = .ok g := by with_unfolding_all rfl
  obtain ⟨d, hparts, hfaithful⟩ := isFaithful_of_ofDocument hg
  exact ⟨g, d, hg, hparts, hfaithful, rfl, rfl, rfl⟩

end ZigDecl
