import ZigDecl.Proofs.Generation.Fill
import ZigDecl.Proofs.Generation.Order

/-! # The declarations of a graph as text

`Declares` says what text declares a name for a type, member by member. Main statements: in a
context in which all names are given, what a declaration is rendered as declares it, and every
declaration is rendered if all descriptions are texts. -/

namespace ZigDecl.Generation

open Zig (Expr Spells Leads TypeExpr)

/-- A context with the names that were given to its graph. -/
structure Context.Named (c : Context) : Prop where
  wellFormed : c.graph.WellFormed
  names : Names.Resolved c.graph c.names

theorem Context.Named.founded {c : Context} (h : c.Named) : c.graph.IsFounded :=
  h.wellFormed.founded

/-- What a context needs so that nothing is missing while declarations are rendered. -/
structure Context.Ready (c : Context) : Prop extends Context.Named c where
  descriptions : c.graph.HasTextDescriptions
  anyType : ∃ s, c.options.anyType = .str s
  comments : Config.areComments c.config.leadingComments = true

/-- The Zig type of a field whose type is spelled by an expression. -/
def fieldExpr (p : Property) (e : Expr) : Expr := if p.isOptional then .optional e else e

/-- The fields that declare properties under given identifiers. -/
inductive FieldTexts (c : Context) :
    List Property → List String → List Expr → List Context.FieldText → Prop
  | nil : FieldTexts c [] [] [] []
  | cons {p : Property} {name : String} {e : Expr} {t : TypeExpr} {lines : List String}
      {ps : List Property} {names : List String} {es : List Expr} {fs : List Context.FieldText}
      (he : Spells c.graph p.type e) (ht : (fieldExpr p e).write c.typeMap true = .ok t)
      (hl : c.descriptionLines p.description = .ok lines) (h : FieldTexts c ps names es fs) :
      FieldTexts c (p :: ps) (name :: names) (e :: es) (⟨name, t.name, lines⟩ :: fs)

/-- The arms that declare the members of a union under given identifiers. -/
inductive ArmTexts (c : Context) :
    List Ty → List String → List Expr → List (String × String) → Prop
  | nil : ArmTexts c [] [] [] []
  | cons {m : Ty} {name : String} {e : Expr} {t : TypeExpr} {ms : List Ty} {names : List String}
      {es : List Expr} {arms : List (String × String)} (he : Spells c.graph m e)
      (ht : e.write c.typeMap true = .ok t) (h : ArmTexts c ms names es arms) :
      ArmTexts c (m :: ms) (name :: names) (e :: es) ((name, t.name) :: arms)

/-- What text declares a name, and the Zig types that are written in it. -/
inductive Declares (c : Context) (name : String) : Declaration → List Expr → String → Prop
  | typeAlias {top : String} {root : Ty} {e : Expr} {t : TypeExpr} (he : Spells c.graph root e)
      (ht : e.write c.typeMap true = .ok t) :
      Declares c name (.typeAlias top root) [e] (Zig.Layout.typeAlias "" c.leader name t.name)
  | record {id : Nat} {ps : List Property} {identifiers lines : List String} {es : List Expr}
      {fields : List Context.FieldText} (hs : c.graph.shape? id = some (.record ps))
      (hids : entryFor? id c.names.fields = some identifiers)
      (hf : FieldTexts c ps identifiers es fields)
      (hl : c.descriptionLines (c.graph.descriptionOf id) = .ok lines) :
      Declares c name (.type id) es (Zig.Layout.record (Zig.Layout.description lines) c.leader name
        (String.join (fields.map Context.FieldText.layout))
        (Zig.Layout.renameBlocks c.leader
          (Context.renameTexts (Context.renamesOf identifiers (ps.map (·.name))))))
  | enum {id : Nat} {cases identifiers lines : List String}
      (hs : c.graph.shape? id = some (.enum cases))
      (hids : entryFor? id c.names.cases = some identifiers)
      (hl : c.descriptionLines (c.graph.descriptionOf id) = .ok lines) :
      Declares c name (.type id) [] (Zig.Layout.enumeration (Zig.Layout.description lines) c.leader
        name identifiers (Zig.Layout.renameBlocks c.leader
          (Context.renameTexts (Context.renamesOf identifiers (cases.map Value.str)))))
  | union {id : Nat} {ms : List Ty} {identifiers lines : List String} {es : List Expr}
      {arms : List (String × String)} (hs : c.graph.shape? id = some (.union ms))
      (hids : entryFor? id c.names.arms = some identifiers)
      (ha : ArmTexts c (nonNulls ms) identifiers es arms)
      (hl : c.descriptionLines (c.graph.descriptionOf id) = .ok lines) :
      Declares c name (.type id) es
        (Zig.Layout.union (Zig.Layout.description lines) c.leader name arms)

variable {c : Context}

/-! ## The types in a declaration -/

theorem FieldTexts.spelled {ps : List Property} {names : List String} {es : List Expr}
    {fs : List Context.FieldText} (h : FieldTexts c ps names es fs) :
    List.Forall₂ (Spells c.graph) (ps.map (·.type)) es := by
  induction h with
  | nil => exact .nil
  | cons he _ _ _ ih => exact .cons he ih

theorem ArmTexts.spelled {ms : List Ty} {names : List String} {es : List Expr}
    {arms : List (String × String)} (h : ArmTexts c ms names es arms) :
    List.Forall₂ (Spells c.graph) ms es := by
  induction h with
  | nil => exact .nil
  | cons he _ _ ih => exact .cons he ih

/-- The Zig types in a declaration spell the types that it is written with. -/
theorem Declares.spelled {name text : String} {d : Declaration} {es : List Expr}
    (h : Declares c name d es text) : List.Forall₂ (Spells c.graph) (d.written c.graph) es := by
  cases h with
  | typeAlias he _ => exact .cons he .nil
  | record hs _ hf _ =>
    simp only [Declaration.written, hs]
    exact hf.spelled
  | enum hs _ _ =>
    simp only [Declaration.written, hs]
    exact .nil
  | union hs _ ha _ =>
    simp only [Declaration.written, hs]
    exact ha.spelled

/-! ## What is rendered declares -/

namespace Context

/-- The type of a field is written as it is spelled. -/
theorem Named.propertyType_eq (hc : c.Named) {p : Property} {e : Expr}
    (he : Spells c.graph p.type e) (hl : Leads c.graph p.type) :
    c.typeMap.propertyType p = (fieldExpr p e).write c.typeMap true := by
  have htype := he.type_eq (m := c.typeMap) hc.founded true hl
  rw [Zig.TypeMap.propertyType, fieldExpr]
  split
  · rw [Zig.TypeMap.nullableType, htype, Expr.write]
  · exact htype

theorem Named.fieldTexts_of_fieldSlots (hc : c.Named) {owner : String} :
    ∀ {ps : List Property} {identifiers : List String} {done : List Value × List String},
      identifiers.length = ps.length → (∀ p ∈ ps, Leads c.graph p.type) →
      c.fieldSlots owner (ps.zip identifiers) = .ok done →
      ∃ es fields, FieldTexts c ps identifiers es fields ∧ done.1 = fields.map FieldText.slot
  | [], [], done, _, _, h => by
    cases h
    exact ⟨[], [], .nil, rfl⟩
  | p :: ps, name :: identifiers, done, hlen, hleads, h => by
    rw [List.zip_cons_cons, fieldSlots] at h
    obtain ⟨slot, hslot, h⟩ := exists_of_bind_eq_ok h
    obtain ⟨rest, hrest, h⟩ := exists_of_bind_eq_ok h
    cases h
    obtain ⟨es, fields, hf, hfields⟩ := hc.fieldTexts_of_fieldSlots (by simpa using hlen)
      (fun q hq => hleads q (List.mem_cons_of_mem p hq)) hrest
    have hl := hleads p (by simp)
    obtain ⟨e, he⟩ := Zig.exists_spells hc.founded hl
    rw [fieldSlot, hc.propertyType_eq he hl] at hslot
    obtain ⟨t, ht, hslot⟩ := exists_of_bind_eq_ok hslot
    obtain ⟨lines, hlines, hslot⟩ := exists_of_bind_eq_ok hslot
    cases hslot
    refine ⟨e :: es, ⟨name, t.name, lines⟩ :: fields,
      .cons he (eq_ok_of_mapError_eq_ok ht) hlines hf, ?_⟩
    rw [List.map_cons, ← hfields]
    rfl

theorem Named.armTexts_of_armSlots (hc : c.Named) {owner : String} :
    ∀ {ms : List Ty} {identifiers : List String} {done : List Value × List String},
      identifiers.length = ms.length → (∀ t ∈ ms, Leads c.graph t) →
      c.armSlots owner (ms.zip identifiers) = .ok done →
      ∃ es arms, ArmTexts c ms identifiers es arms ∧ done.1 = arms.map armSlot
  | [], [], done, _, _, h => by
    cases h
    exact ⟨[], [], .nil, rfl⟩
  | m :: ms, name :: identifiers, done, hlen, hleads, h => by
    have hl := hleads m (by simp)
    obtain ⟨e, he⟩ := Zig.exists_spells hc.founded hl
    rw [List.zip_cons_cons, armSlots, he.type_eq (m := c.typeMap) hc.founded true hl] at h
    obtain ⟨t, ht, h⟩ := exists_of_bind_eq_ok h
    obtain ⟨rest, hrest, h⟩ := exists_of_bind_eq_ok h
    cases h
    obtain ⟨es, arms, ha, harms⟩ := hc.armTexts_of_armSlots (by simpa using hlen)
      (fun t ht => hleads t (List.mem_cons_of_mem m ht)) hrest
    refine ⟨e :: es, (name, t.name) :: arms, .cons he (eq_ok_of_mapError_eq_ok ht) ha, ?_⟩
    rw [List.map_cons, ← harms]
    rfl

theorem Named.declares_of_renderAlias (hc : c.Named) {name top : String} {root : Ty} {r : Rendered}
    (htop : (top, root) ∈ c.graph.topLevels) (h : c.renderAlias name root = .ok r) :
    ∃ es, Declares c name (.typeAlias top root) es r.text := by
  have hl : Leads c.graph root := Zig.leads_root htop
  obtain ⟨e, he⟩ := Zig.exists_spells hc.founded hl
  rw [renderAlias, he.type_eq (m := c.typeMap) hc.founded true hl] at h
  obtain ⟨t, ht, h⟩ := exists_of_bind_eq_ok h
  rw [fill_typeAlias, ok_bind] at h
  cases h
  exact ⟨[e], .typeAlias he (eq_ok_of_mapError_eq_ok ht)⟩

theorem leads_of_record {id : Nat} {ps : List Property} (hr : c.graph.Reachable id)
    (hs : c.graph.shape? id = some (.record ps)) : ∀ p ∈ ps, Leads c.graph p.type :=
  fun p hp => Zig.leads_of_mem_parts hr (by
    rw [TypeGraph.parts_of_record hs]
    exact List.mem_map_of_mem hp)

theorem leads_of_union {id : Nat} {ms : List Ty} (hr : c.graph.Reachable id)
    (hs : c.graph.shape? id = some (.union ms)) : ∀ t ∈ nonNulls ms, Leads c.graph t :=
  fun t ht => Zig.leads_of_mem_parts hr (by
    rw [TypeGraph.parts_of_union hs]
    exact (List.mem_filter.mp ht).1)

theorem identifiersOf_eq {id : Nat} {table : List (Nat × List String)} {identifiers : List String}
    (h : entryFor? id table = some identifiers) : identifiersOf id table = .ok identifiers := by
  rw [identifiersOf, h]

theorem Named.declares_of_renderRecord (hc : c.Named) {id : Nat} {name : String}
    {ps : List Property} {r : Rendered} (hid : id ∈ c.graph.declarations)
    (hname : c.names.typeName? id = some name) (hs : c.graph.shape? id = some (.record ps))
    (h : (c.renderRecord id ps).result = .ok r) : ∃ es, Declares c name (.type id) es r.text := by
  obtain ⟨hr, _⟩ := TypeGraph.mem_declarations.mp hid
  have hids := hc.names.fields_of_record hr hs
  rw [renderRecord, typeName_eq hname, identifiersOf_eq hids] at h
  simp only [Logged.result_bind, Logged.result_liftM, ok_bind] at h
  obtain ⟨⟨slots, warnings⟩, hslots, h⟩ := exists_of_bind_eq_ok h
  obtain ⟨es, fields, hf, rfl⟩ := hc.fieldTexts_of_fieldSlots
    (by rw [Names.length_memberNames, List.length_map]) (leads_of_record hr hs) hslots
  -- with or without a log entry about renamed fields, the rest is the same
  split at h
  all_goals
    simp only [Logged.result_bind, Logged.result_liftM, Logged.result_write, ok_bind] at h
    obtain ⟨lines, hlines, h⟩ := exists_of_bind_eq_ok h
    rw [fill_record, ok_bind] at h
    cases h
    exact ⟨es, .record hs hids hf hlines⟩

theorem Named.declares_of_renderEnum (hc : c.Named) {id : Nat} {name : String}
    {cases : List String} {r : Rendered} (hid : id ∈ c.graph.declarations)
    (hname : c.names.typeName? id = some name) (hs : c.graph.shape? id = some (.enum cases))
    (h : c.renderEnum id cases = .ok r) : ∃ es, Declares c name (.type id) es r.text := by
  have hids := hc.names.cases_of_enum (TypeGraph.mem_declarations.mp hid).1 hs
  rw [renderEnum, typeName_eq hname, ok_bind, identifiersOf_eq hids, ok_bind] at h
  obtain ⟨lines, hlines, h⟩ := exists_of_bind_eq_ok h
  rw [fill_enumeration, ok_bind] at h
  cases h
  exact ⟨[], .enum hs hids hlines⟩

theorem Named.declares_of_renderUnion (hc : c.Named) {id : Nat} {name : String} {ms : List Ty}
    {r : Rendered} (hid : id ∈ c.graph.declarations) (hname : c.names.typeName? id = some name)
    (hs : c.graph.shape? id = some (.union ms)) (h : c.renderUnion id ms = .ok r) :
    ∃ es, Declares c name (.type id) es r.text := by
  obtain ⟨hr, hd⟩ := TypeGraph.mem_declarations.mp hid
  obtain ⟨proposals, hps, hids⟩ :=
    hc.names.arms_of_union hr hs (TypeGraph.length_of_isDeclared hs hd)
  rw [renderUnion, typeName_eq hname, ok_bind, identifiersOf_eq hids, ok_bind] at h
  obtain ⟨⟨slots, warnings⟩, hslots, h⟩ := exists_of_bind_eq_ok h
  obtain ⟨es, arms, ha, rfl⟩ := hc.armTexts_of_armSlots
    (by rw [Names.length_memberNames, hps.length_eq]) (leads_of_union hr hs) hslots
  obtain ⟨lines, hlines, h⟩ := exists_of_bind_eq_ok h
  rw [fill_union, ok_bind] at h
  cases h
  exact ⟨es, .union hs hids ha hlines⟩

/-- What a declaration is rendered as declares it. -/
theorem Named.declares_of_render (hc : c.Named) {name : String} {d : Declaration} {r : Rendered}
    (hd : d.HasName c name) (h : (c.render name d).result = .ok r) :
    ∃ es, Declares c name d es r.text := by
  cases d with
  | typeAlias top root => exact hc.declares_of_renderAlias hd.1 h
  | type id =>
    obtain ⟨hid, hname⟩ := hd
    rw [render] at h
    split at h
    · next ps hs => exact hc.declares_of_renderRecord hid hname hs h
    · next cases hs => exact hc.declares_of_renderEnum hid hname hs h
    · next ms hs => exact hc.declares_of_renderUnion hid hname hs h
    · next hs => cases h

end Context

/-! ## Nothing is missing -/

namespace Context

theorem exists_descriptionLines (c : Context) {description : Value}
    (h : description.isTextOrNull = true) :
    ∃ lines, c.descriptionLines description = .ok lines := by
  cases description with
  | null => exact ⟨[], by simp [descriptionLines, Value.isTruthy]⟩
  | str text =>
    rw [descriptionLines]
    split
    · exact ⟨[], rfl⟩
    · exact ⟨_, rfl⟩
  | _ => cases h

/-- What spells a type can be written, also where it is made optional. -/
theorem Ready.exists_write (hc : c.Ready) {t : Ty} {e : Expr} (he : Spells c.graph t e)
    (hl : Leads c.graph t) {f : Expr} (hf : f.target? = e.target?) :
    ∃ r, f.write c.typeMap true = .ok r := by
  refine Expr.exists_write hc.anyType true fun id hid => ?_
  obtain ⟨name, hname⟩ := hc.names.exists_typeName?_iff.mpr (he.target_mem hl (hf ▸ hid))
  exact ⟨name, Names.typeName_eq hname⟩

theorem target?_fieldExpr (p : Property) (e : Expr) : (fieldExpr p e).target? = e.target? := by
  rw [fieldExpr]
  split <;> rfl

theorem Ready.exists_fieldSlots (hc : c.Ready) (owner : String) :
    ∀ (fields : List (Property × String)), (∀ f ∈ fields, Leads c.graph f.1.type) →
      (∀ f ∈ fields, f.1.description.isTextOrNull = true) →
      ∃ done, c.fieldSlots owner fields = .ok done
  | [], _, _ => ⟨_, rfl⟩
  | (p, name) :: fields, hleads, htexts => by
    obtain ⟨done, hdone⟩ := hc.exists_fieldSlots owner fields
      (fun f hf => hleads f (List.mem_cons_of_mem _ hf))
      fun f hf => htexts f (List.mem_cons_of_mem _ hf)
    have hl := hleads (p, name) (by simp)
    obtain ⟨e, he⟩ := Zig.exists_spells hc.founded hl
    obtain ⟨t, ht⟩ := hc.exists_write he hl (target?_fieldExpr p e)
    obtain ⟨lines, hlines⟩ := c.exists_descriptionLines (htexts (p, name) (by simp))
    rw [fieldSlots, fieldSlot, hc.propertyType_eq he hl, ht, mapError_ok, ok_bind, hlines, hdone]
    exact ⟨_, rfl⟩

theorem Ready.exists_armSlots (hc : c.Ready) (owner : String) :
    ∀ (arms : List (Ty × String)), (∀ a ∈ arms, Leads c.graph a.1) →
      ∃ done, c.armSlots owner arms = .ok done
  | [], _ => ⟨_, rfl⟩
  | (t, name) :: arms, hleads => by
    obtain ⟨done, hdone⟩ := hc.exists_armSlots owner arms
      fun a ha => hleads a (List.mem_cons_of_mem _ ha)
    have hl := hleads (t, name) (by simp)
    obtain ⟨e, he⟩ := Zig.exists_spells hc.founded hl
    obtain ⟨r, hr⟩ := hc.exists_write he hl rfl
    rw [armSlots, he.type_eq (m := c.typeMap) hc.founded true hl, hr, mapError_ok, ok_bind,
      hdone]
    exact ⟨_, rfl⟩

theorem Ready.exists_renderAlias (hc : c.Ready) (name : String) {top : String} {root : Ty}
    (htop : (top, root) ∈ c.graph.topLevels) : ∃ r, c.renderAlias name root = .ok r := by
  have hl : Leads c.graph root := Zig.leads_root htop
  obtain ⟨e, he⟩ := Zig.exists_spells hc.founded hl
  obtain ⟨t, ht⟩ := hc.exists_write he hl rfl
  rw [renderAlias, he.type_eq (m := c.typeMap) hc.founded true hl, ht, mapError_ok, ok_bind,
    fill_typeAlias]
  exact ⟨_, rfl⟩

theorem Ready.exists_renderRecord (hc : c.Ready) {id : Nat} {name : String} {ps : List Property}
    (hid : id ∈ c.graph.declarations) (hname : c.names.typeName? id = some name)
    (hs : c.graph.shape? id = some (.record ps)) : ∃ r, (c.renderRecord id ps).result = .ok r := by
  obtain ⟨hr, _⟩ := TypeGraph.mem_declarations.mp hid
  have hids := hc.names.fields_of_record hr hs
  have hleads := leads_of_record hr hs
  obtain ⟨⟨slots, warnings⟩, hslots⟩ := hc.exists_fieldSlots name
    (ps.zip (Names.memberNames (ps.map fun p => p.name.display)))
    (fun f hf => hleads _ (List.of_mem_zip hf).1)
    fun f hf => hc.descriptions.property id ps hs _ (List.of_mem_zip hf).1
  obtain ⟨es, fields, hf, rfl⟩ := hc.fieldTexts_of_fieldSlots
    (by rw [Names.length_memberNames, List.length_map]) hleads hslots
  obtain ⟨lines, hlines⟩ := c.exists_descriptionLines (hc.descriptions.type id)
  rw [renderRecord, typeName_eq hname, identifiersOf_eq hids]
  simp only [Logged.result_bind, Logged.result_liftM, ok_bind, hslots]
  split
  all_goals
    simp only [Logged.result_bind, Logged.result_liftM, Logged.result_write, ok_bind, hlines,
      fill_record]
    exact ⟨_, rfl⟩

theorem Ready.exists_renderEnum (hc : c.Ready) {id : Nat} {name : String} {cases : List String}
    (hid : id ∈ c.graph.declarations) (hname : c.names.typeName? id = some name)
    (hs : c.graph.shape? id = some (.enum cases)) : ∃ r, c.renderEnum id cases = .ok r := by
  have hids := hc.names.cases_of_enum (TypeGraph.mem_declarations.mp hid).1 hs
  obtain ⟨lines, hlines⟩ := c.exists_descriptionLines (hc.descriptions.type id)
  rw [renderEnum, typeName_eq hname, ok_bind, identifiersOf_eq hids]
  simp only [ok_bind, hlines, fill_enumeration]
  exact ⟨_, rfl⟩

theorem Ready.exists_renderUnion (hc : c.Ready) {id : Nat} {name : String} {ms : List Ty}
    (hid : id ∈ c.graph.declarations) (hname : c.names.typeName? id = some name)
    (hs : c.graph.shape? id = some (.union ms)) : ∃ r, c.renderUnion id ms = .ok r := by
  obtain ⟨hr, hd⟩ := TypeGraph.mem_declarations.mp hid
  obtain ⟨proposals, hps, hids⟩ :=
    hc.names.arms_of_union hr hs (TypeGraph.length_of_isDeclared hs hd)
  have hleads := leads_of_union hr hs
  obtain ⟨⟨slots, warnings⟩, hslots⟩ := hc.exists_armSlots name
    ((nonNulls ms).zip (Names.memberNames proposals)) fun a ha => hleads _ (List.of_mem_zip ha).1
  obtain ⟨es, arms, ha, rfl⟩ := hc.armTexts_of_armSlots
    (by rw [Names.length_memberNames, hps.length_eq]) hleads hslots
  obtain ⟨lines, hlines⟩ := c.exists_descriptionLines (hc.descriptions.type id)
  rw [renderUnion, typeName_eq hname, ok_bind, identifiersOf_eq hids]
  simp only [ok_bind, hslots, hlines, fill_union]
  exact ⟨_, rfl⟩

/-- Every declaration that goes by a name is rendered. -/
theorem Ready.exists_render (hc : c.Ready) {name : String} {d : Declaration}
    (hd : d.HasName c name) : ∃ r, (c.render name d).result = .ok r := by
  cases d with
  | typeAlias top root => exact hc.exists_renderAlias name hd.1
  | type id =>
    obtain ⟨hid, hname⟩ := hd
    rw [render]
    cases hs : c.graph.shape? id with
    | none =>
      have := (TypeGraph.mem_declarations.mp hid).2
      simp [TypeGraph.isDeclared, hs] at this
    | some s =>
      cases s with
      | record ps => exact hc.exists_renderRecord hid hname hs
      | enum cases => exact hc.exists_renderEnum hid hname hs
      | union ms => exact hc.exists_renderUnion hid hname hs

end Context

end ZigDecl.Generation
