import ZigDecl.Proofs.Document.Made
import ZigDecl.Proofs.Value.Members

/-! # What reading a passage makes

A passage is a part of a document that the reader takes up in one go. No place is made into a type
twice: what is made while a passage is read lies in the passage, or it is written under a name that
was not taken up before. Main statement: after the top-levels of a document are read, every type in
the graph is what the document says in the place where it was made. -/

namespace ZigDecl

/-! ## What is read where -/

/-- A place lies in one of the numbered parts of another one, from one number on. -/
def Place.IsWithinFrom (q p : Place) (part : Nat → Step) (first : Nat) : Prop :=
  ∃ i, first ≤ i ∧ q.IsWithin (p.inside (part i))

namespace Place.IsWithinFrom

variable {p q : Place} {part : Nat → Step} {first : Nat}

theorem of_first (h : q.IsWithin (p.inside (part first))) : q.IsWithinFrom p part first :=
  ⟨first, Nat.le_refl _, h⟩

theorem of_succ (h : q.IsWithinFrom p part (first + 1)) : q.IsWithinFrom p part first := by
  obtain ⟨i, hi, hq⟩ := h
  exact ⟨i, by omega, hq⟩

theorem exists_isWithin (h : q.IsWithinFrom p part first) : ∃ step, q.IsWithin (p.inside step) := by
  obtain ⟨i, _, hq⟩ := h
  exact ⟨part i, hq⟩

theorem not_first (hpart : ∀ {i j}, part i = part j → i = j)
    (h : q.IsWithinFrom p part (first + 1)) : ¬ q.IsWithin (p.inside (part first)) := by
  obtain ⟨i, hi, hq⟩ := h
  intro hfirst
  obtain rfl := hpart (hq.step_eq hfirst)
  omega

end Place.IsWithinFrom

/-- A passage of a document that is read in one go. -/
inductive Passage where
  /-- The definition in a place. -/
  | whole (p : Place)
  /-- The members of the union in a place, from one of them on. -/
  | members (p : Place) (first : Nat)
  /-- The properties of the record in a place, from one of them on. -/
  | properties (p : Place) (first : Nat)
  /-- What a reference to a name leads to. -/
  | target (name : String)

namespace Passage

/-- What is to be read is what the document says in a passage. -/
def Spells (d : Document) : Passage → Task → Prop
  | whole p, .type _ reference definition =>
    (∀ name, reference = some name → p = .ofName name) ∧
      ∃ v, d.at? p = some v ∧ definition.Says v
  | members p first, .members _ ds => ∃ v, d.at? p = some v ∧ v.kind? = some "union" ∧
      ds = Definition.ofItems ((v.entries "members").drop first)
  | properties p first, .properties _ ds => ∃ v, d.at? p = some v ∧ v.kind? = some "class" ∧
      ds = Definition.ofProperties ((v.entries "properties").drop first)
  | target name, .follow name' => name = name'
  | _, _ => False

/-- The places that lie in a passage. -/
def Holds : Passage → Place → Prop
  | whole p, q => q.IsWithin p
  | members p first, q => q.IsWithinFrom p .member first
  | properties p first, q => q.IsWithinFrom p .property first
  | target _, _ => False

/-- What a passage is read as. -/
def Yields (d : Document) (made : Made) : Passage → Reading → Prop
  | whole p, .type t => d.Reads made p t
  | members p first, .members ts =>
    (∀ v, d.at? p = some v → ts.length = ((v.entries "members").drop first).length) ∧
      ∀ i t, ts[i]? = some t → d.Reads made (p.inside (.member (first + i))) t
  | properties p first, .properties ps =>
    (∀ v, d.at? p = some v →
      ps.map Property.label = ((v.entries "properties").drop first).map Value.label) ∧
      ∀ i q, ps[i]? = some q → d.Reads made (p.inside (.property (first + i))) q.type
  | target name, .type t => d.Reads made (.ofName name) t
  | _, _ => False

end Passage

namespace Linking

/-- Nothing was made in a passage yet, and the names it is written under are taken up. -/
structure IsReady (d : Document) (made : Made) (unfilled : List Nat) (l : Linking) (s : Passage) :
    Prop where
  isMade : l.IsMade d made unfilled
  fresh : ∀ q ∈ made.places, ¬ s.Holds q
  own : ∀ q name, s.Holds q → q.origin = .type name → l.Entered name

/-- What reading a passage does: what it makes lies in the passage or under names that were not
taken up before. -/
structure Makes (d : Document) (l l' : Linking) (made more : Made) (unfilled : List Nat)
    (s : Passage) (r : Reading) : Prop where
  extend : made.Extends more
  isMade : l'.IsMade d more unfilled
  new : ∀ q ∈ more.places, q ∈ made.places ∨ s.Holds q ∨
    ∃ name, q.origin = .type name ∧ ¬ l.Entered name
  reading : s.Yields d more r

variable {d : Document} {made mid more : Made} {unfilled : List Nat} {l l' l'' : Linking}
  {s s₁ s₂ : Passage} {r r₁ r₂ : Reading} {t : Ty}

theorem IsReady.part (h : l.IsReady d made unfilled s) (hsub : ∀ q, s₁.Holds q → s.Holds q) :
    l.IsReady d made unfilled s₁ :=
  ⟨h.isMade, fun q hq hs => h.fresh q hq (hsub q hs), fun q name hs => h.own q name (hsub q hs)⟩

/-- Nothing was made in the rest of a passage while a part of it was read. -/
theorem Makes.fresh (hm : l.Makes d l' made more unfilled s₁ r) (h : l.IsReady d made unfilled s)
    {q : Place} (hq : s.Holds q) (hnot : ¬ s₁.Holds q) : q ∉ more.places := by
  intro hmem
  rcases hm.new q hmem with hold | hin | ⟨name, hname, hne⟩
  · exact h.fresh q hold hq
  · exact hnot hin
  · exact hne (h.own q name hq hname)

/-- The rest of a passage is ready after a part of it was read. -/
theorem IsReady.next (h : l.IsReady d made unfilled s) (hm : l.Makes d l' made more unfilled s₁ r)
    (he : ∀ name, l.Entered name → l'.Entered name) (hsub : ∀ q, s₂.Holds q → s.Holds q)
    (hdisjoint : ∀ q, s₂.Holds q → ¬ s₁.Holds q) :
    l'.IsReady d more unfilled s₂ where
  isMade := hm.isMade
  fresh q hq hs := hm.fresh h (hsub q hs) (hdisjoint q hs) hq
  own q name hs hname := he name (h.own q name (hsub q hs) hname)

theorem Makes.refl (h : l.IsReady d made unfilled s) (hr : s.Yields d made r) :
    l.Makes d l made made unfilled s r :=
  ⟨.refl made, h.isMade, fun _ => .inl, hr⟩

/-- The same is made if it is seen as part of a larger passage. -/
theorem Makes.part (hm : l.Makes d l' made more unfilled s₁ r) (hsub : ∀ q, s₁.Holds q → s.Holds q)
    (hr : s.Yields d more r₁) : l.Makes d l' made more unfilled s r₁ :=
  { hm with new := fun q hq => (hm.new q hq).imp_right fun h => h.imp_left (hsub q), reading := hr }

/-- A passage is read by reading a part of it and then another one. -/
theorem IsReady.makes_parts (h : l.IsReady d made unfilled s)
    (hread₁ : l.IsReady d made unfilled s₁ → ∃ mid, l.Makes d l' made mid unfilled s₁ r₁)
    (hread₂ : ∀ {mid}, l'.IsReady d mid unfilled s₂ →
      ∃ more, l'.Makes d l'' mid more unfilled s₂ r₂)
    (he : ∀ name, l.Entered name → l'.Entered name) (hsub₁ : ∀ q, s₁.Holds q → s.Holds q)
    (hsub₂ : ∀ q, s₂.Holds q → s.Holds q) (hdisjoint : ∀ q, s₂.Holds q → ¬ s₁.Holds q)
    (hyields : ∀ {mid more : Made}, mid.Extends more → s₁.Yields d mid r₁ →
      s₂.Yields d more r₂ → s.Yields d more r) :
    ∃ more, l.Makes d l'' made more unfilled s r := by
  obtain ⟨mid, hm⟩ := hread₁ (h.part hsub₁)
  obtain ⟨more, hm'⟩ := hread₂ (h.next hm he hsub₂ hdisjoint)
  refine ⟨more, hm.extend.trans hm'.extend, hm'.isMade, fun q hq => ?_,
    hyields hm'.extend hm.reading hm'.reading⟩
  rcases hm'.new q hq with hmid | hin | ⟨name, hname, hne⟩
  · exact (hm.new q hmid).imp_right fun h => h.imp_left (hsub₁ q)
  · exact .inr (.inl (hsub₂ q hin))
  · exact .inr (.inr ⟨name, hname, fun h => hne (he name h)⟩)

/-- A new array or map of what was read inside it. -/
theorem Makes.newMark {p : Place} {step : Step} (h : l.IsReady d made unfilled (.whole p))
    (hm : l.Makes d l' made more unfilled (.whole (p.inside step)) (.type t))
    (he : ∀ name, l.Entered name → l'.Entered name) {t' : Ty}
    (ht : ∀ {more : Made}, more.marks[l'.nextMark]? = some p → d.Reads more (p.inside step) t →
      d.Reads more p t') :
    l.Makes d { l' with nextMark := l'.nextMark + 1 } made (more.addMark p) unfilled (.whole p)
      (.type t') where
  extend := hm.extend.trans (more.extends_addMark p)
  isMade := by
    refine hm.isMade.newMark (hm.fresh h (.refl p) (p.not_isWithin_inside step)) ?_
    exact fun name hname => he name (h.own p name (.refl p) hname)
  new q hq := by
    rcases Made.mem_places_addMark.mp hq with hq | rfl
    · exact (hm.new q hq).imp_right fun h => h.imp_left .of_inside
    · exact .inr (.inl (.refl q))
  reading := ht (hm.isMade.marks ▸ more.getElem?_addMark p)
    (hm.reading.mono (more.extends_addMark p))

/-- A named type is put into the store before what is inside its place is read. -/
theorem IsReady.withType {p : Place} {v : Value} (h : l.IsReady d made unfilled (.whole p))
    (hv : d.at? p = some v) (hk : v.definesNamed = true) {t : NamedType}
    (ht : t.description = v.describedAs) {reference : Option String}
    (href : ∀ name, reference = some name → p = .ofName name)
    (hsub : ∀ q, s.Holds q → ∃ step, q.IsWithin (p.inside step)) :
    (l.withType t reference).IsReady d (made.addId p) (l.graph.types.size :: unfilled) s where
  isMade := h.isMade.withType hv hk (fun hp => h.fresh p hp (.refl p))
    (fun name => h.own p name (.refl p)) ht href
  fresh q hq hs := by
    obtain ⟨step, hstep⟩ := hsub q hs
    rcases Made.mem_places_addId.mp hq with hq | rfl
    · exact h.fresh q hq hstep.of_inside
    · exact q.not_isWithin_inside step hstep
  own q name hs hname := by
    obtain ⟨step, hstep⟩ := hsub q hs
    exact (h.own q name hstep.of_inside hname).withType t reference

/-- A named type gets its shape after what is inside its place was read. -/
theorem Makes.setShape {p : Place} {v : Value} {t : NamedType} {reference : Option String}
    (h : l.IsReady d made unfilled (.whole p)) (hv : d.at? p = some v)
    (hk : v.definesNamed = true)
    (hm : (l.withType t reference).Makes d l' (made.addId p) more (l.graph.types.size :: unfilled)
      s r)
    (hsub : ∀ q, s.Holds q → ∃ step, q.IsWithin (p.inside step)) {shape : Shape}
    (hf : d.Fills more p v shape) :
    l.Makes d { l' with graph := l'.graph.setShape l.graph.types.size shape } made more unfilled
      (.whole p) (.type (.named l.graph.types.size)) := by
  have hid : more.ids[l.graph.types.size]? = some p :=
    hm.extend.getElem?_ids (h.isMade.size ▸ made.getElem?_addId p)
  refine ⟨(made.extends_addId p).trans hm.extend, hm.isMade.setShape hid hv hf, fun q hq => ?_,
    .named hv hk hid⟩
  rcases hm.new q hq with hold | hin | ⟨name, hname, hne⟩
  · rcases Made.mem_places_addId.mp hold with hold | rfl
    · exact .inl hold
    · exact .inr (.inl (.refl q))
  · obtain ⟨step, hstep⟩ := hsub q hin
    exact .inr (.inl hstep.of_inside)
  · exact .inr (.inr ⟨name, hname, fun he => hne (he.withType t reference)⟩)

/-- A named type is made of what the document says in its place: it is put into the store, what is
inside its place is read, and it gets its shape. -/
theorem IsReady.makes_named {p : Place} {v : Value} (h : l.IsReady d made unfilled (.whole p))
    (hv : d.at? p = some v) (hk : v.definesNamed = true) {t : NamedType}
    (ht : t.description = v.describedAs) {reference : Option String}
    (href : ∀ name, reference = some name → p = .ofName name)
    (hread : ∀ {made unfilled}, (l.withType t reference).IsReady d made unfilled s →
      ∃ more, (l.withType t reference).Makes d l' made more unfilled s r)
    (hsub : ∀ q, s.Holds q → ∃ step, q.IsWithin (p.inside step)) {shape : Shape}
    (hfills : ∀ {more : Made}, s.Yields d more r → d.Fills more p v shape) :
    ∃ more, l.Makes d { l' with graph := l'.graph.setShape l.graph.types.size shape } made more
      unfilled (.whole p) (.type (.named l.graph.types.size)) := by
  obtain ⟨more, hm⟩ := hread (h.withType hv hk ht href hsub)
  exact ⟨more, hm.setShape h hv hk hsub (hfills hm.reading)⟩

/-- An enumeration has its shape from the start, for nothing is inside it. -/
theorem IsReady.makes_enum {p : Place} {v : Value} (h : l.IsReady d made unfilled (.whole p))
    (hv : d.at? p = some v) (hk : v.kind? = some "enum") {cases : List String}
    (hcases : v.entries "cases" = cases.map .str) (name : Value) :
    l.Makes d (l.withType ⟨name, v.describedAs, .enum cases⟩ none) made (made.addId p) unfilled
      (.whole p) (.type (.named l.graph.types.size)) := by
  have hdefines : v.definesNamed = true := by simp [Value.definesNamed, hk]
  have hid : (made.addId p).ids[l.graph.types.size]? = some p :=
    h.isMade.size ▸ made.getElem?_addId p
  have hready : (l.withType ⟨name, v.describedAs, .enum cases⟩ none).IsReady d (made.addId p)
      (l.graph.types.size :: unfilled) (.target "") :=
    h.withType hv hdefines rfl (by simp) fun _ => False.elim
  refine ⟨made.extends_addId p, hready.isMade.filled hid hv ?_ (.enum hk hcases), fun q hq => ?_,
    .named hv hdefines hid⟩
  · rw [graph_withType, TypeGraph.shape?_addType, if_pos rfl]
  · rcases Made.mem_places_addId.mp hq with hold | rfl
    · exact .inl hold
    · exact .inr (.inl (.refl q))

/-- A name that was not taken up yet is ready to be read. -/
theorem IsReady.enter (h : l.IsMade d made unfilled) {name : String} (hnew : ¬ l.Entered name) :
    IsReady d made unfilled { l with pending := name :: l.pending } (.whole (.ofName name)) where
  isMade := h.enter name
  fresh q hq hs := hnew (h.entered q hq name hs.1)
  own q other hs hother := by
    have heq := hother.symm.trans hs.1
    cases heq
    exact .inr List.mem_cons_self

/-- What is read under a name that was not taken up before is what a reference to it leads to. -/
theorem Makes.settle {name : String} (hnew : ¬ l.Entered name)
    (hm : Makes d { l with pending := name :: l.pending } l' made more unfilled
      (.whole (.ofName name)) (.type t)) :
    l.Makes d (l'.settle name t) made more unfilled (.target name) (.type t) where
  extend := hm.extend
  isMade := hm.isMade.settle hm.reading
  new q hq := by
    rcases hm.new q hq with hold | hin | ⟨other, hother, hne⟩
    · exact .inl hold
    · exact .inr (.inr ⟨name, hin.1, hnew⟩)
    · exact .inr (.inr ⟨other, hother, fun h => hne (h.enter name)⟩)
  reading := hm.reading

end Linking

theorem drop_succ_of_drop_eq_cons {α : Type} {xs rest : List α} {x : α} {n : Nat}
    (h : xs.drop n = x :: rest) : xs[n]? = some x ∧ xs.drop (n + 1) = rest := by
  constructor
  · rw [← Nat.add_zero n, ← List.getElem?_drop, h]; rfl
  · rw [← List.tail_drop, h]; rfl

namespace Passage

variable {d : Document} {p : Place} {v : Value}

/-- A definition is spelled in a place, under its name if it was referred to. -/
theorem exists_whole {s : Passage} {place : String} {reference : Option String} {d' : Definition}
    (h : s.Spells d (.type place reference d')) : ∃ p v, s = whole p ∧
      (∀ name, reference = some name → p = .ofName name) ∧ d.at? p = some v ∧ d'.Says v := by
  cases s with
  | whole p =>
    obtain ⟨href, v, hv, hsays⟩ := h
    exact ⟨p, v, rfl, href, hv, hsays⟩
  | _ => cases h

theorem eq_members {s : Passage} {place : String} {ds : List Definition}
    (h : s.Spells d (.members place ds)) : ∃ p first, s = members p first := by
  cases s with
  | members p first => exact ⟨p, first, rfl⟩
  | _ => cases h

theorem eq_properties {s : Passage} {owner : Value} {ds : List Definition.Property}
    (h : s.Spells d (.properties owner ds)) : ∃ p first, s = properties p first := by
  cases s with
  | properties p first => exact ⟨p, first, rfl⟩
  | _ => cases h

theorem eq_target {s : Passage} {name : String} (h : s.Spells d (.follow name)) :
    s = target name := by
  cases s with
  | target other => cases h; rfl
  | _ => cases h

/-- The members from one on are that one and those after it. -/
theorem spells_member {place : String} {first : Nat} {d' : Definition} {ds : List Definition}
    (h : (members p first).Spells d (.members place (d' :: ds))) :
    (whole (p.inside (.member first))).Spells d (.type place none d') ∧
      (members p (first + 1)).Spells d (.members place ds) ∧
      ∀ v, d.at? p = some v → ((v.entries "members").drop first).length =
        ((v.entries "members").drop (first + 1)).length + 1 := by
  obtain ⟨v, hv, hk, hds⟩ := h
  rw [Definition.ofItems_eq] at hds
  obtain ⟨item, rest, hdrop, rfl, rfl⟩ := List.map_eq_cons_iff.mp hds.symm
  obtain ⟨hget, hrest⟩ := drop_succ_of_drop_eq_cons hdrop
  refine ⟨⟨nofun, item, ?_, Definition.says_ofValue item⟩, ⟨v, hv, hk, ?_⟩, fun w hw => ?_⟩
  · rw [Document.at?_inside, hv, Option.bind_some, Value.inside?, if_pos hk, hget]
  · rw [hrest, Definition.ofItems_eq]
  · cases hv.symm.trans hw
    rw [hdrop, hrest]
    rfl

/-- The properties from one on are that one and those after it. -/
theorem spells_property {owner name description : Value} {first : Nat} {d' : Definition}
    {isOptional : Bool} {ds : List Definition.Property} (place : String)
    (h : (properties p first).Spells d
      (.properties owner (.valid name d' isOptional description :: ds))) :
    (whole (p.inside (.property first))).Spells d (.type place none d') ∧
      (properties p (first + 1)).Spells d (.properties owner ds) ∧
      ∀ v, d.at? p = some v → ((v.entries "properties").drop first).map Value.label =
        ⟨name, isOptional, description⟩ :: ((v.entries "properties").drop (first + 1)).map
          Value.label := by
  obtain ⟨v, hv, hk, hds⟩ := h
  obtain ⟨item, rest, hdrop, hlabel, rfl, rfl⟩ := Definition.ofProperties_eq_cons hds.symm
  obtain ⟨hget, hrest⟩ := drop_succ_of_drop_eq_cons hdrop
  refine ⟨⟨nofun, _, ?_, Definition.says_ofValue _⟩, ⟨v, hv, hk, by rw [hrest]⟩, fun w hw => ?_⟩
  · rw [Document.at?_inside, hv, Option.bind_some, Value.inside?, if_pos hk, hget,
      Option.map_some]
  · cases hv.symm.trans hw
    rw [hdrop, hrest, List.map_cons, hlabel]

/-- What the definition in a place says inside is spelled there. -/
theorem spells_inside {step : Step} {w : Value} {place : String} (hv : d.at? p = some v)
    (hstep : v.inside? step = some w) :
    (whole (p.inside step)).Spells d (.type place none (Definition.ofValue w)) :=
  ⟨nofun, w, by rw [Document.at?_inside, hv, Option.bind_some, hstep], Definition.says_ofValue w⟩

theorem yields_noMembers {made : Made} {first : Nat} {place : String}
    (h : (members p first).Spells d (.members place [])) :
    (members p first).Yields d made (.members []) := by
  obtain ⟨v, hv, hk, hds⟩ := h
  rw [Definition.ofItems_eq] at hds
  refine ⟨fun w hw => ?_, by simp⟩
  cases hv.symm.trans hw
  rw [List.map_eq_nil_iff.mp hds.symm]
  rfl

theorem yields_noProperties {made : Made} {first : Nat} {owner : Value}
    (h : (properties p first).Spells d (.properties owner [])) :
    (properties p first).Yields d made (.properties []) := by
  obtain ⟨v, hv, hk, hds⟩ := h
  refine ⟨fun w hw => ?_, by simp⟩
  cases hv.symm.trans hw
  rw [Definition.ofProperties_eq_nil hds.symm]
  rfl

/-- A member and those after it are read one by one. -/
theorem yields_member {made : Made} {first : Nat} {t : Ty} {ts : List Ty}
    (ht : d.Reads made (p.inside (.member first)) t)
    (hts : (members p (first + 1)).Yields d made (.members ts))
    (hcount : ∀ v, d.at? p = some v → ((v.entries "members").drop first).length =
      ((v.entries "members").drop (first + 1)).length + 1) :
    (members p first).Yields d made (.members (t :: ts)) := by
  refine ⟨fun v hv => by rw [hcount v hv, List.length_cons, hts.1 v hv], ?_⟩
  rintro (_ | i) u hu
  · cases hu
    exact ht
  · have := hts.2 i u hu
    rwa [Nat.add_assoc, Nat.add_comm 1] at this

/-- A property and those after it are read one by one. -/
theorem yields_property {made : Made} {first : Nat} {q : Property} {ps : List Property}
    (hq : d.Reads made (p.inside (.property first)) q.type)
    (hps : (properties p (first + 1)).Yields d made (.properties ps))
    (hlabels : ∀ v, d.at? p = some v → ((v.entries "properties").drop first).map Value.label =
      q.label :: ((v.entries "properties").drop (first + 1)).map Value.label) :
    (properties p first).Yields d made (.properties (q :: ps)) := by
  refine ⟨fun v hv => by rw [hlabels v hv, List.map_cons, hps.1 v hv], ?_⟩
  rintro (_ | i) u hu
  · cases hu
    exact hq
  · have := hps.2 i u hu
    rwa [Nat.add_assoc, Nat.add_comm 1] at this

/-- All properties together are what is inside a record. -/
theorem fills_record {made : Made} {ps : List Property} (hv : d.at? p = some v)
    (hk : v.kind? = some "class") (h : (properties p 0).Yields d made (.properties ps)) :
    d.Fills made p v (.record ps) := by
  obtain ⟨hlabels, hparts⟩ := h
  refine .record hk (hlabels v hv) fun i q hq => ?_
  rw [← Nat.zero_add i]
  exact hparts i q hq

/-- All members together are what is inside a union, but for those that are left out. -/
theorem fills_union {made : Made} {ts : List Ty} (hv : d.at? p = some v)
    (hk : v.kind? = some "union") (h : (members p 0).Yields d made (.members ts)) :
    d.Fills made p v (.union (distinctTypes ts)) := by
  obtain ⟨hlength, hparts⟩ := h
  refine .union hk (hlength v hv) fun i t ht => ?_
  rw [← Nat.zero_add i]
  exact hparts i t ht

end Passage

/-- Reading a passage makes types of what the document says there. -/
theorem Loads.makes {d : Document} {k : Task} {l l' : Linking} {r : Reading}
    (h : Loads d.definitions k l r l') : ∀ {s : Passage} {made : Made} {unfilled : List Nat},
    s.Spells d k → l.IsReady d made unfilled s → ∃ more, l.Makes d l' made more unfilled s r := by
  induction h with
  | primitive place reference k l =>
    intro s made unfilled hs hr
    obtain ⟨p, v, rfl, -, hv, hsays⟩ := Passage.exists_whole hs
    cases hsays with
    | primitive hk => exact ⟨made, .refl hr (.primitive hv hk)⟩
    | faulty h => cases h
  | reference _ ih =>
    intro s made unfilled hs hr
    obtain ⟨p, v, rfl, -, hv, hsays⟩ := Passage.exists_whole hs
    cases hsays with
    | reference href =>
      obtain ⟨more, hm⟩ := ih (s := .target _) rfl (hr.part fun _ => False.elim)
      exact ⟨more, hm.part (fun _ => False.elim) (.reference hv href hm.reading)⟩
    | faulty h => cases h
  | array h ih =>
    intro s made unfilled hs hr
    obtain ⟨p, v, rfl, -, hv, hsays⟩ := Passage.exists_whole hs
    cases hsays with
    | array hk =>
      have hin : v.inside? .items = some (v.definition "items") := if_pos hk
      obtain ⟨more, hm⟩ := ih (Passage.spells_inside hv hin) (hr.part fun _ => .of_inside)
      exact ⟨_, hm.newMark hr (fun _ => h.entered) (.array hv hk)⟩
    | faulty h => cases h
  | map h ih =>
    intro s made unfilled hs hr
    obtain ⟨p, v, rfl, -, hv, hsays⟩ := Passage.exists_whole hs
    cases hsays with
    | map hk =>
      have hin : v.inside? .values = some (v.definition "values") := if_pos hk
      obtain ⟨more, hm⟩ := ih (Passage.spells_inside hv hin) (hr.part fun _ => .of_inside)
      exact ⟨_, hm.newMark hr (fun _ => h.entered) (.map hv hk)⟩
    | faulty h => cases h
  | record _ ih =>
    intro s made unfilled hs hr
    obtain ⟨p, v, rfl, href, hv, hsays⟩ := Passage.exists_whole hs
    cases hsays with
    | record name hk =>
      exact hr.makes_named hv (by simp [Value.definesNamed, hk]) rfl href
        (ih (s := .properties p 0) ⟨v, hv, hk, rfl⟩) (fun _ => Place.IsWithinFrom.exists_isWithin)
        (Passage.fills_record hv hk)
    | faulty h => cases h
  | enum place reference name description cases l =>
    intro s made unfilled hs hr
    obtain ⟨p, v, rfl, -, hv, hsays⟩ := Passage.exists_whole hs
    cases hsays with
    | enum name hk hcases => exact ⟨_, hr.makes_enum hv hk hcases (Link.nameOr name place)⟩
    | faulty h => cases h
  | union _ ih =>
    intro s made unfilled hs hr
    obtain ⟨p, v, rfl, href, hv, hsays⟩ := Passage.exists_whole hs
    cases hsays with
    | union name hk =>
      exact hr.makes_named hv (by simp [Value.definesNamed, hk]) rfl href
        (ih (s := .members p 0) ⟨v, hv, hk, rfl⟩) (fun _ => Place.IsWithinFrom.exists_isWithin)
        (Passage.fills_union hv hk)
    | faulty h => cases h
  | noMembers place l =>
    intro s made unfilled hs hr
    obtain ⟨p, first, rfl⟩ := Passage.eq_members hs
    exact ⟨made, .refl hr (Passage.yields_noMembers hs)⟩
  | member h _ ih ihs =>
    intro s made unfilled hs hr
    obtain ⟨p, first, rfl⟩ := Passage.eq_members hs
    obtain ⟨hfirst, hrest, hcount⟩ := Passage.spells_member hs
    exact hr.makes_parts (ih hfirst) (ihs hrest) (fun _ => h.entered)
      (fun _ => Place.IsWithinFrom.of_first) (fun _ => Place.IsWithinFrom.of_succ)
      (fun _ => Place.IsWithinFrom.not_first Step.member.inj)
      fun hext ht hts => Passage.yields_member (ht.mono hext) hts hcount
  | noProperties owner l =>
    intro s made unfilled hs hr
    obtain ⟨p, first, rfl⟩ := Passage.eq_properties hs
    exact ⟨made, .refl hr (Passage.yields_noProperties hs)⟩
  | property h _ ih ihs =>
    intro s made unfilled hs hr
    obtain ⟨p, first, rfl⟩ := Passage.eq_properties hs
    obtain ⟨hfirst, hrest, hlabels⟩ := Passage.spells_property _ hs
    exact hr.makes_parts (ih hfirst) (ihs hrest) (fun _ => h.entered)
      (fun _ => Place.IsWithinFrom.of_first) (fun _ => Place.IsWithinFrom.of_succ)
      (fun _ => Place.IsWithinFrom.not_first Step.property.inj)
      fun hext ht hps => Passage.yields_property (ht.mono hext) hps hlabels
  | found h =>
    intro s made unfilled hs hr
    obtain rfl := Passage.eq_target hs
    exact ⟨made, .refl hr (hr.isMade.resolved _ (Linking.mem_of_find? h))⟩
  | @enter name l l' t value hfind hvalue hpending _ ih =>
    intro s made unfilled hs hr
    obtain rfl := Passage.eq_target hs
    have hnew := Linking.not_entered hfind hpending
    obtain ⟨more, hm⟩ := ih (s := .whole (.ofName name))
      ⟨fun other hother => by cases hother; rfl, value, hvalue, Definition.says_ofValue value⟩
      (.enter hr.isMade hnew)
    exact ⟨more, hm.settle hnew⟩

/-! ## The whole document -/

/-- Every type of a graph was made in a place of its own and is what the document says there. -/
structure Document.IsReadAs (d : Document) (made : Made) (g : TypeGraph) : Prop where
  nodupIds : made.ids.Nodup
  nodupMarks : made.marks.Nodup
  roots : ∀ top ∈ g.topLevels, d.Reads made (.ofTop top.1) top.2
  types : ∀ id p, made.ids[id]? = some p → ∃ v s, d.at? p = some v ∧ v.definesNamed = true ∧
    g.descriptionOf id = v.describedAs ∧ g.shape? id = some s ∧ d.Fills made p v s

/-- Reading top-levels makes types of what the document says under their names. -/
theorem LoadsTops.makes {d : Document} {tops : List (String × Value)} {l l' : Linking}
    (h : LoadsTops d.definitions tops l l') :
    ∀ {made : Made} {types : List Ty}, l.IsMade d made [] → l.IsKnown types →
      (∀ top ∈ l.graph.topLevels, d.Reads made (.ofTop top.1) top.2) →
      (∀ q ∈ made.places, ∀ name, q.origin = .top name → name ∈ l.graph.topNames) →
      (l.graph.topNames ++ tops.map (·.1)).Nodup →
      (∀ top ∈ tops, Value.lookup top.1 d.tops = some top.2) →
      ∃ more, l'.IsMade d more [] ∧
        ∀ top ∈ l'.graph.topLevels, d.Reads more (.ofTop top.1) top.2 := by
  induction h with
  | nil l => exact fun {made} _ hl _ hroots _ _ _ => ⟨made, hl, hroots⟩
  | @cons name value rest l l' l'' t h _ _ ih =>
    intro made types hl hknown hroots hplaces hnodup hat
    have hnew : name ∉ l.graph.topNames := by
      intro hmem
      exact (List.nodup_append.mp hnodup).2.2 name hmem name (by simp) rfl
    have hready : l.IsReady d made [] (.whole (.ofTop name)) := by
      refine ⟨hl, fun q hq hs => hnew (hplaces q hq name hs.1), fun q other hs hother => ?_⟩
      cases hother.symm.trans hs.1
    obtain ⟨mid, hm⟩ := h.makes (s := .whole (.ofTop name))
      ⟨nofun, value, hat (name, value) (by simp), Definition.says_ofValue value⟩ hready
    obtain ⟨_, hg⟩ := h.grows hknown
    have hnames : (l'.withTopLevel name t).graph.topNames = l.graph.topNames ++ [name] := by
      simp [TypeGraph.topNames, Linking.withTopLevel, hg.topLevels]
    refine ih (hm.isMade.withTopLevel name t) (hg.known.withTopLevel name hg.reading) ?_ ?_ ?_
      fun top htop => hat top (List.mem_cons_of_mem _ htop)
    · intro top htop
      rcases List.mem_append.mp htop with htop | htop
      · rw [hg.topLevels] at htop
        exact (hroots top htop).mono hm.extend
      · rw [List.mem_singleton.mp htop]
        exact hm.reading
    · intro q hq other hother
      rw [hnames]
      rcases hm.new q hq with hold | hin | ⟨n, hn, _⟩
      · exact List.mem_append_left _ (hplaces q hold other hother)
      · cases hother.symm.trans hin.1
        exact List.mem_append_right _ (by simp)
      · cases hother.symm.trans hn
    · rw [hnames, List.append_assoc]
      exact hnodup

theorem Linking.isMade_start (d : Document) : Linking.start.IsMade d ⟨[], []⟩ [] :=
  ⟨rfl, rfl, List.nodup_nil, List.nodup_nil, nofun, nofun, nofun⟩

/-- A graph that is read from the top-levels of a document, in any order, is what the document
says. -/
theorem LoadsTops.isReadAs {d : Document} {tops : List (String × Value)} {l : Linking}
    (h : LoadsTops d.definitions tops .start l) (hp : tops.Perm d.tops) :
    l.graph.topNames = tops.map (·.1) ∧ ∃ made, d.IsReadAs made l.graph := by
  obtain ⟨_, hnodup, hnames⟩ := h.grows Linking.isKnown_start List.nodup_nil
  rw [show Linking.start.graph.topNames = [] from rfl, List.nil_append] at hnames
  rw [hnames] at hnodup
  obtain ⟨made, hmade, hroots⟩ := h.makes (Linking.isMade_start d) Linking.isKnown_start nofun nofun
    hnodup
    fun top htop => Value.lookup_of_mem ((hp.map _).nodup_iff.mp hnodup) (hp.subset htop)
  refine ⟨hnames, made, hmade.nodupIds, hmade.nodupMarks, hroots, fun id p hid => ?_⟩
  obtain ⟨v, hv, hk, hdesc, hfill⟩ := hmade.types id p hid
  obtain ⟨s, hs, hf⟩ := hfill (List.not_mem_nil)
  exact ⟨v, s, hv, hk, hdesc, hs, hf⟩

end ZigDecl
