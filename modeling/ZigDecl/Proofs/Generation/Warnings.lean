import ZigDecl.Proofs.Generation.Success
import ZigDecl.Proofs.Name.Numbered
import ZigDecl.Proofs.Names.Legal
import ZigDecl.Proofs.Zig.Issues
import ZigDecl.Proofs.Zig.Reader

/-! # The warnings of a run

A declaration is written with types in certain places: an alias as a whole, a record in its fields,
and a union in its arms. Main statement: behind what is remarked on the graph, the warnings of a
successful run are those about the leaves of the types in these places, one for each place with a
makeshift, in the order of emission. -/

namespace ZigDecl

namespace Generation

open Zig (Leads Leaf TypeExpr issueOf)

/-! ## The places that types are written in -/

/-- The members of a type that are written with a type, under their identifiers. -/
def Context.typedMembers (c : Context) (id : Nat) : List (String × Ty) :=
  match c.graph.shape? id with
  | some (.record ps) => ((entryFor? id c.names.fields).getD []).zip (ps.map (·.type))
  | some (.union ms) => ((entryFor? id c.names.arms).getD []).zip (nonNulls ms)
  | _ => []

/-- The place of a member, under the label that warnings have for it. -/
def placeIn (owner : String) (member : String × Ty) : String × Ty :=
  (owner ++ "." ++ member.1, member.2)

/-- The places of a declaration, in order. -/
def Declaration.places (c : Context) (name : String) : Declaration → List (String × Ty)
  | .typeAlias _ root => [(name, root)]
  | .type id => (c.typedMembers id).map (placeIn name)

/-- The warning about a place, if its type has a leaf about which nothing is known. -/
def remark (leaf : Ty → Ty) (place : String × Ty) : Option String :=
  (issueOf (leaf place.2)).map fun issue => place.1 ++ ": " ++ issue

/-- The places of all declarations, in the order of emission. -/
def placesOf (c : Context) (ds : List (String × Declaration)) : List (String × Ty) :=
  ds.flatMap fun e => e.2.places c e.1

variable {c : Context} {ds : List (String × Declaration)}

/-- The members of a declared type have identifiers of their own. -/
structure Context.HasMembers (c : Context) (id : Nat) : Prop where
  identifiers : ∀ m ∈ c.typedMembers id, Zig.isIdentifier m.1 = true
  nodup : ((c.typedMembers id).map (·.1)).Nodup
  written : (c.typedMembers id).map (·.2) = (Declaration.type id).written c.graph

theorem Context.Named.hasMembers (hc : c.Named) {id : Nat} (hid : id ∈ c.graph.declarations) :
    c.HasMembers id := by
  obtain ⟨hr, hd⟩ := TypeGraph.mem_declarations.mp hid
  -- identifiers zipped with as many types
  have hzip : ∀ {given proposals : List String} (ts : List Ty),
      Names.LegalMembers proposals given → proposals.length = ts.length →
      (∀ m ∈ given.zip ts, Zig.isIdentifier m.1 = true) ∧ ((given.zip ts).map (·.1)).Nodup ∧
        (given.zip ts).map (·.2) = ts := by
    intro given proposals ts hlegal hlen
    have hlen : given.length = ts.length := hlegal.derives.length_eq.symm.trans hlen
    refine ⟨fun m hm => hlegal.identifiers m.1 (List.of_mem_zip hm).1, ?_,
      List.map_snd_zip hlen.ge⟩
    rw [List.map_fst_zip hlen.le]
    exact hlegal.nodup
  cases hs : c.graph.shape? id with
  | none => simp [TypeGraph.isDeclared, hs] at hd
  | some s =>
    cases s with
    | record ps =>
      obtain ⟨given, hgiven, hlegal⟩ := hc.names.legal.fields id ps hr hs
      have hmembers : c.typedMembers id = given.zip (ps.map (·.type)) := by
        simp only [Context.typedMembers, hs, hgiven, Option.getD_some]
      obtain ⟨hids, hnodup, hwritten⟩ := hzip (ps.map (·.type)) hlegal (by simp)
      rw [← hmembers] at hids hnodup hwritten
      exact ⟨hids, hnodup, by rw [hwritten, Declaration.written, hs]⟩
    | enum cases =>
      have hmembers : c.typedMembers id = [] := by simp only [Context.typedMembers, hs]
      refine ⟨?_, ?_, ?_⟩
      · simp [hmembers]
      · simp [hmembers]
      · rw [hmembers, Declaration.written, hs]
        rfl
    | union ms =>
      obtain ⟨proposals, given, hps, hgiven, hlegal⟩ :=
        hc.names.legal.arms id ms hr hs (TypeGraph.length_of_isDeclared hs hd)
      have hmembers : c.typedMembers id = given.zip (nonNulls ms) := by
        simp only [Context.typedMembers, hs, hgiven, Option.getD_some]
      obtain ⟨hids, hnodup, hwritten⟩ := hzip (nonNulls ms) hlegal hps.length_eq.symm
      rw [← hmembers] at hids hnodup hwritten
      exact ⟨hids, hnodup, by rw [hwritten, Declaration.written, hs]⟩

/-- There is one place for each type that a declaration is written with. -/
theorem Context.Named.map_snd_places (hc : c.Named) {name : String} {d : Declaration}
    (hd : d.HasName c name) : (d.places c name).map (·.2) = d.written c.graph := by
  cases d with
  | typeAlias top root => rfl
  | type id =>
    rw [← (hc.hasMembers hd.1).written, Declaration.places, List.map_map]
    rfl

/-! ## No two places have the same label -/

theorem Declaration.HasName.isIdentifier (hn : Names.Resolved c.graph c.names) {name : String}
    {d : Declaration} (hd : d.HasName c name) : Zig.isIdentifier name = true := by
  refine (hn.legal.identifiers name ?_).1
  cases d with
  | typeAlias top root =>
    exact List.mem_append_left _ (List.mem_map_of_mem (mem_of_entryFor? hd.2))
  | type id => exact List.mem_append_right _ (List.mem_map_of_mem (mem_of_entryFor? hd.2))

/-- What stands in front of the first `stop` of a text. -/
def upTo (stop : Char) (text : String) : List Char := text.toList.takeWhile (· != stop)

theorem upTo_of_not_mem {stop : Char} {text : String} (h : stop ∉ text.toList) :
    upTo stop text = text.toList := by
  refine List.takeWhile_eq_self_iff.mpr fun c hc => ?_
  simp only [bne_iff_ne]
  rintro rfl
  exact h hc

theorem upTo_append {stop : Char} {text : String} (h : stop ∉ text.toList) {rest : String}
    (hrest : rest.toList.head? = some stop) : upTo stop (text ++ rest) = text.toList := by
  obtain ⟨cs, hcs⟩ := List.head?_eq_some_iff.mp hrest
  rw [upTo, String.toList_append, hcs, Name.takeWhile_stop (by simp)]
  exact upTo_of_not_mem h

theorem not_mem_of_isIdentifier {name : String} (h : Zig.isIdentifier name = true) {c : Char}
    (hc : Name.isNameChar c = false) : c ∉ name.toList := fun hmem => by
  rw [Zig.Reader.isLegal_of_isIdentifier h c hmem] at hc
  cases hc

/-- The labels of a declaration start with its name, and none has a colon. -/
structure IsLabel (name label : String) : Prop where
  owner : upTo '.' label = name.toList
  noColon : ':' ∉ label.toList

theorem Context.Named.isLabel (hc : c.Named) {name : String} {d : Declaration}
    (hd : d.HasName c name) : ∀ place ∈ d.places c name, IsLabel name place.1 := by
  have hname := hd.isIdentifier hc.names
  have hdot : '.' ∉ name.toList := not_mem_of_isIdentifier hname (by decide)
  have hcolon : ':' ∉ name.toList := not_mem_of_isIdentifier hname (by decide)
  cases d with
  | typeAlias top root =>
    intro place hplace
    rw [List.mem_singleton.mp hplace]
    exact ⟨upTo_of_not_mem hdot, hcolon⟩
  | type id =>
    intro place hplace
    obtain ⟨m, hm, rfl⟩ := List.mem_map.mp hplace
    have hmember : ':' ∉ m.1.toList :=
      not_mem_of_isIdentifier ((hc.hasMembers hd.1).identifiers m hm) (by decide)
    refine ⟨?_, by simp [placeIn, hcolon, hmember]⟩
    rw [placeIn, String.append_assoc]
    exact upTo_append hdot (by simp)

theorem Context.Named.nodup_labels (hc : c.Named) {name : String} {d : Declaration}
    (hd : d.HasName c name) : ((d.places c name).map (·.1)).Nodup := by
  cases d with
  | typeAlias top root => exact List.nodup_singleton _
  | type id =>
    have hlabels : ((Declaration.type id).places c name).map (·.1) =
        ((c.typedMembers id).map (·.1)).map (name ++ "." ++ ·) := by
      rw [Declaration.places, List.map_map, List.map_map]
      rfl
    rw [hlabels]
    exact (hc.hasMembers hd.1).nodup.map fun _ _ heq => String.append_right_inj _ |>.mp heq

/-- No two places have the same label: those of one declaration have different members, and those of
two declarations different owners. -/
theorem Context.Named.nodup_placesOf (hc : c.Named) (hds : Ordered c ds) :
    ((placesOf c ds).map (·.1)).Nodup := by
  rw [placesOf, List.map_flatMap, List.nodup_flatMap]
  refine ⟨fun e he => hc.nodup_labels (hds.named e he), ?_⟩
  have hnames := List.pairwise_map.mp (hds.nodup hc.wellFormed hc.names)
  refine hnames.imp_of_mem fun {e e'} he he' hne => ?_
  intro label hl hl'
  obtain ⟨place, hplace, rfl⟩ := List.mem_map.mp hl
  obtain ⟨place', hplace', heq⟩ := List.mem_map.mp hl'
  have howner := (hc.isLabel (hds.named e he) place hplace).owner
  have howner' := (hc.isLabel (hds.named e' he') place' hplace').owner
  rw [heq] at howner'
  exact hne (String.toList_inj.mp (howner.symm.trans howner'))

/-- Warnings about different places are different. -/
theorem Context.Named.nodup_remarks (hc : c.Named) (hds : Ordered c ds) (leaf : Ty → Ty) :
    ((placesOf c ds).filterMap (remark leaf)).Nodup := by
  have hlabel : ∀ place ∈ placesOf c ds, ∀ text, remark leaf place = some text →
      upTo ':' text = place.1.toList := by
    intro place hplace text htext
    obtain ⟨e, he, hplace⟩ := List.mem_flatMap.mp hplace
    obtain ⟨issue, _, rfl⟩ := Option.map_eq_some_iff.mp htext
    rw [String.append_assoc]
    exact upTo_append (hc.isLabel (hds.named e he) place hplace).noColon (by simp)
  refine List.pairwise_filterMap.mpr ?_
  have hlabels := List.pairwise_map.mp (hc.nodup_placesOf hds)
  refine hlabels.imp_of_mem fun {a b} ha hb hne => ?_
  rintro text htext text' htext' rfl
  exact hne (String.toList_inj.mp ((hlabel a ha _ htext).symm.trans (hlabel b hb _ htext')))

/-! ## The warnings of a declaration -/

section Leaves

variable {leaf : Ty → Ty} (hleaf : ∀ t, Leads c.graph t → Leaf c.graph t (leaf t))
include hleaf

namespace Context

omit hleaf in
theorem warningsAt_eq {place : String} {t : Ty} {e : TypeExpr}
    (h : e.issues = (issueOf (leaf t)).toList) :
    warningsAt place e = (remark leaf (place, t)).toList := by
  rw [warningsAt, h, remark]
  cases issueOf (leaf t) <;> rfl

omit hleaf in
theorem filterMap_remark_cons (place : String × Ty) (places : List (String × Ty)) :
    (place :: places).filterMap (remark leaf) =
      (remark leaf place).toList ++ places.filterMap (remark leaf) := by
  rw [List.filterMap_cons]
  cases remark leaf place <;> rfl

theorem Named.warnings_of_fieldSlots (hc : c.Named) {owner : String} :
    ∀ {ps : List Property} {identifiers : List String} {done : List Value × List String},
      (∀ p ∈ ps, Leads c.graph p.type) → c.fieldSlots owner (ps.zip identifiers) = .ok done →
      done.2 = ((identifiers.zip (ps.map (·.type))).map (placeIn owner)).filterMap (remark leaf)
  | [], _, _, _, h => by
    cases h
    simp
  | _ :: _, [], _, _, h => by
    cases h
    rfl
  | p :: ps, name :: identifiers, done, hleads, h => by
    rw [List.zip_cons_cons, fieldSlots] at h
    obtain ⟨slot, hslot, h⟩ := exists_of_bind_eq_ok h
    obtain ⟨rest, hrest, h⟩ := exists_of_bind_eq_ok h
    cases h
    have ih := hc.warnings_of_fieldSlots (fun q hq => hleads q (List.mem_cons_of_mem p hq)) hrest
    have hp := hleads p (by simp)
    obtain ⟨t, ht, hslot⟩ := exists_of_bind_eq_ok hslot
    obtain ⟨lines, _, hslot⟩ := exists_of_bind_eq_ok hslot
    cases hslot
    have hissues := Zig.TypeMap.issues_propertyType (m := c.typeMap) hc.wellFormed hp
      (hleaf p.type hp) (eq_ok_of_mapError_eq_ok ht)
    rw [List.map_cons, List.zip_cons_cons, List.map_cons, filterMap_remark_cons, ← ih,
      warningsAt_eq hissues]
    rfl

theorem Named.warnings_of_armSlots (hc : c.Named) {owner : String} :
    ∀ {ms : List Ty} {identifiers : List String} {done : List Value × List String},
      (∀ t ∈ ms, Leads c.graph t) → c.armSlots owner (ms.zip identifiers) = .ok done →
      done.2 = ((identifiers.zip ms).map (placeIn owner)).filterMap (remark leaf)
  | [], _, _, _, h => by
    cases h
    simp
  | _ :: _, [], _, _, h => by
    cases h
    rfl
  | m :: ms, name :: identifiers, done, hleads, h => by
    rw [List.zip_cons_cons, armSlots] at h
    obtain ⟨t, ht, h⟩ := exists_of_bind_eq_ok h
    obtain ⟨rest, hrest, h⟩ := exists_of_bind_eq_ok h
    cases h
    have ih := hc.warnings_of_armSlots (fun t ht => hleads t (List.mem_cons_of_mem m ht)) hrest
    have hm := hleads m (by simp)
    have hissues := Zig.TypeMap.issues_type (m := c.typeMap) hc.wellFormed hm (hleaf m hm)
      (eq_ok_of_mapError_eq_ok ht)
    rw [List.zip_cons_cons, List.map_cons, filterMap_remark_cons, ← ih, warningsAt_eq hissues]
    rfl

theorem Named.warnings_of_renderAlias (hc : c.Named) {name top : String} {root : Ty} {r : Rendered}
    (htop : (top, root) ∈ c.graph.topLevels) (h : c.renderAlias name root = .ok r) :
    r.warnings = ((Declaration.typeAlias top root).places c name).filterMap (remark leaf) := by
  have hl : Leads c.graph root := Zig.leads_root htop
  rw [renderAlias] at h
  obtain ⟨t, ht, h⟩ := exists_of_bind_eq_ok h
  obtain ⟨text, _, h⟩ := exists_of_bind_eq_ok h
  cases h
  have hissues := Zig.TypeMap.issues_type (m := c.typeMap) hc.wellFormed hl (hleaf root hl)
    (eq_ok_of_mapError_eq_ok ht)
  rw [Declaration.places, filterMap_remark_cons, ← warningsAt_eq hissues]
  exact (List.append_nil _).symm

theorem Named.warnings_of_renderRecord (hc : c.Named) {id : Nat} {name : String}
    {ps : List Property} {r : Rendered} (hid : id ∈ c.graph.declarations)
    (hname : c.names.typeName? id = some name) (hs : c.graph.shape? id = some (.record ps))
    (h : (c.renderRecord id ps).result = .ok r) :
    r.warnings = ((Declaration.type id).places c name).filterMap (remark leaf) := by
  have hr := (TypeGraph.mem_declarations.mp hid).1
  have hids := hc.names.fields_of_record hr hs
  rw [renderRecord, typeName_eq hname, identifiersOf_eq hids] at h
  simp only [Logged.result_bind, Logged.result_liftM, ok_bind] at h
  obtain ⟨⟨slots, warnings⟩, hslots, h⟩ := exists_of_bind_eq_ok h
  have hwarnings := hc.warnings_of_fieldSlots hleaf (leads_of_record hr hs) hslots
  rw [Declaration.places, Context.typedMembers, hs]
  simp only [hids, Option.getD_some]
  rw [← hwarnings]
  -- with or without a log entry about renamed fields, the warnings are the same
  split at h
  all_goals
    simp only [Logged.result_bind, Logged.result_liftM, Logged.result_write, ok_bind] at h
    obtain ⟨lines, _, h⟩ := exists_of_bind_eq_ok h
    obtain ⟨text, _, h⟩ := exists_of_bind_eq_ok h
    cases h
    rfl

omit hleaf in
/-- There is nothing to remark on an enumeration. -/
theorem warnings_of_renderEnum {id : Nat} {name : String} {cases : List String}
    {r : Rendered} (hs : c.graph.shape? id = some (.enum cases))
    (h : c.renderEnum id cases = .ok r) :
    r.warnings = ((Declaration.type id).places c name).filterMap (remark leaf) := by
  rw [renderEnum] at h
  obtain ⟨_, _, h⟩ := exists_of_bind_eq_ok h
  obtain ⟨identifiers, _, h⟩ := exists_of_bind_eq_ok h
  obtain ⟨lines, _, h⟩ := exists_of_bind_eq_ok h
  obtain ⟨text, _, h⟩ := exists_of_bind_eq_ok h
  cases h
  rw [Declaration.places, Context.typedMembers, hs]
  rfl

theorem Named.warnings_of_renderUnion (hc : c.Named) {id : Nat} {name : String} {ms : List Ty}
    {r : Rendered} (hid : id ∈ c.graph.declarations) (hname : c.names.typeName? id = some name)
    (hs : c.graph.shape? id = some (.union ms)) (h : c.renderUnion id ms = .ok r) :
    r.warnings = ((Declaration.type id).places c name).filterMap (remark leaf) := by
  obtain ⟨hr, hd⟩ := TypeGraph.mem_declarations.mp hid
  obtain ⟨proposals, _, hids⟩ :=
    hc.names.arms_of_union hr hs (TypeGraph.length_of_isDeclared hs hd)
  rw [renderUnion, typeName_eq hname, ok_bind, identifiersOf_eq hids, ok_bind] at h
  obtain ⟨⟨slots, warnings⟩, hslots, h⟩ := exists_of_bind_eq_ok h
  have hwarnings := hc.warnings_of_armSlots hleaf (leads_of_union hr hs) hslots
  obtain ⟨lines, _, h⟩ := exists_of_bind_eq_ok h
  obtain ⟨text, _, h⟩ := exists_of_bind_eq_ok h
  cases h
  rw [Declaration.places, Context.typedMembers, hs]
  simp only [hids, Option.getD_some]
  exact hwarnings

/-- The warnings of a declaration are the remarks on its places. -/
theorem Named.warnings_of_render (hc : c.Named) {name : String} {d : Declaration} {r : Rendered}
    (hd : d.HasName c name) (h : (c.render name d).result = .ok r) :
    r.warnings = (d.places c name).filterMap (remark leaf) := by
  cases d with
  | typeAlias top root => exact hc.warnings_of_renderAlias hleaf hd.1 h
  | type id =>
    obtain ⟨hid, hname⟩ := hd
    rw [render] at h
    split at h
    · next ps hs => exact hc.warnings_of_renderRecord hleaf hid hname hs h
    · next cases hs => exact warnings_of_renderEnum hs h
    · next ms hs => exact hc.warnings_of_renderUnion hleaf hid hname hs h
    · next hs => cases h

/-- The warnings of all declarations, one after the other, are the remarks on their places. -/
theorem Named.warnings_of_renderAll (hc : c.Named) (hnamed : ∀ e ∈ ds, e.2.HasName c e.1)
    {rs : List Rendered} (h : c.renderAll ds = .ok rs) :
    rs.flatMap (·.warnings) = (placesOf c ds).filterMap (remark leaf) := by
  rw [placesOf, List.filterMap_flatMap]
  have hall : List.Forall₂ (fun e r => r.warnings =
      (e.2.places c e.1).filterMap (remark leaf)) ds rs :=
    ((List.forall₂_and_left _ _).mpr ⟨hnamed, forall₂_of_mapM h⟩).imp fun _ _ h =>
      hc.warnings_of_render hleaf h.1 h.2
  clear h
  induction hall with
  | nil => rfl
  | cons hr _ ih =>
    rw [List.flatMap_cons, List.flatMap_cons, hr, ih fun e he => hnamed e (by simp [he])]

end Context

end Leaves

/-! ## Nothing is swallowed -/

/-- Warnings that are not there yet, and no two of which are the same, are all added. -/
theorem addWarnings_eq {present new : List String} (h : (present ++ new).Nodup) :
    addWarnings present new = present ++ new := by
  induction new generalizing present with
  | nil => simp [addWarnings]
  | cons w new ih =>
    have hsplit : present ++ w :: new = present ++ [w] ++ new := by simp
    have hnot : w ∉ present := fun hmem =>
      (List.nodup_append.mp h).2.2 w hmem w (by simp) rfl
    rw [addWarnings, List.foldl_cons, if_neg (by simpa using hnot), hsplit]
    exact ih (hsplit ▸ h)

theorem warningsAfter_eq {present : List String} {rs : List Rendered}
    (h : (present ++ rs.flatMap (·.warnings)).Nodup) :
    warningsAfter present rs = present ++ rs.flatMap (·.warnings) := by
  induction rs generalizing present with
  | nil => simp [warningsAfter]
  | cons r rs ih =>
    rw [List.flatMap_cons, ← List.append_assoc] at h ⊢
    rw [warningsAfter, List.foldl_cons, addWarnings_eq (List.nodup_append.mp h).1]
    exact ih h

end Generation

namespace Generator

open Generation

variable {gen : Generator} {g : TypeGraph} {names : Names} {ds : List (String × Declaration)}

/-- However the output is split, the warnings of an emission are those of the renderings. -/
theorem warnings_of_emission (hc : (gen.context g names).Named)
    (hds : (gen.context g names).declarations = .ok ds) {extension : String} {done : Emitted}
    (h : (gen.emission (gen.context g names)
      (.new gen.config.splitFiles.isTruthy extension)).result = .ok done) :
    ∃ rs, (gen.context g names).renderAll ds = .ok rs ∧ done.2 = warningsAfter [] rs := by
  rw [emission] at h
  cases hsplit : gen.config.splitFiles.isTruthy with
  | false =>
    rw [hsplit] at h
    obtain ⟨label, hlabel⟩ := hc.exists_streamName
    replace h : ((gen.context g names).emitSingle _).result = .ok done := h
    rw [Context.result_emitSingle hlabel hds] at h
    obtain ⟨header, _, h⟩ := exists_of_bind_eq_ok h
    obtain ⟨rs, hrs, h⟩ := exists_of_bind_eq_ok h
    cases h
    exact ⟨rs, hrs, rfl⟩
  | true =>
    rw [hsplit] at h
    have hordered := hc.ordered hds
    obtain ⟨targets, htargets⟩ :=
      exists_forall₂ fun e he => hc.exists_target (hordered.named e he)
    replace h : ((gen.context g names).emitSplit _).result = .ok done := h
    obtain ⟨header, hheader⟩ := Context.exists_header_of_emitSplit hds htargets
      (hordered.ne_nil hc.wellFormed) h
    rw [Context.result_emitSplit hheader hds htargets (nodup_of_targetOf hc hordered htargets)] at h
    obtain ⟨rs, hrs, rfl⟩ := exists_of_map_eq_ok h
    exact ⟨rs, hrs, rfl⟩

/-- The warnings of a successful run are what is remarked on the graph, and then, in the order of
emission, one for each alias, field and arm whose type has a leaf about which nothing is known or
which is null. Whether such issues are wanted never changes how a type is written. -/
theorem warnings_of_run {document : Value} (hg : TypeGraph.ofDocument document = .ok g)
    {files : List Output.File} {warnings : List String} {facts : List (String × Value)}
    (h : (gen.run g).result = .ok (.success files warnings facts)) :
    ∃ names ds, ∃ leaf : Ty → Ty, (Names.resolve g).result = .ok names ∧
      Ordered (gen.context g names) ds ∧
      (∀ e ∈ ds, (e.2.places (gen.context g names) e.1).map (·.2) = e.2.written g ∧
        ∀ t ∈ e.2.written g, Zig.Leaf g t (leaf t)) ∧
      ((placesOf (gen.context g names) ds).map (·.1)).Nodup ∧
      warnings = g.warnings ++ (placesOf (gen.context g names) ds).filterMap (remark leaf) ∧
      ∀ (m : Zig.TypeMap) (t : Ty),
        m.type false t = Zig.TypeExpr.withoutIssues <$> m.type true t := by
  have hw := TypeGraph.wellFormed_of_ofDocument hg
  obtain ⟨names, s, hnames, hemit, _, rfl⟩ := steps_of_run h
  have hc : (gen.context g names).Named := ⟨hw, Names.resolved_of_resolve hw hnames⟩
  obtain ⟨ds, hds, hordered⟩ := exists_declarations hc.wellFormed hc.names
  obtain ⟨rs, hrs, hwarnings⟩ := warnings_of_emission hc hds hemit
  have hexists : ∀ t, ∃ l, Zig.Leads g t → Zig.Leaf g t l := fun t => by
    by_cases ht : Zig.Leads g t
    · obtain ⟨l, hl⟩ := Zig.exists_leaf hw ht
      exact ⟨l, fun _ => hl⟩
    · exact ⟨t, fun h => absurd h ht⟩
  choose leaf hleaf using hexists
  refine ⟨names, ds, leaf, hnames, hordered, fun e he => ⟨hc.map_snd_places (hordered.named e he),
    fun t ht => hleaf t (leads_of_mem (hordered.named e he) t ht)⟩, hc.nodup_placesOf hordered,
    ?_, Zig.TypeMap.type_withoutIssues⟩
  have hall := hc.warnings_of_renderAll hleaf hordered.named hrs
  have hnodup := hc.nodup_remarks hordered leaf
  rw [← hall] at hnodup ⊢
  rw [hwarnings, warningsAfter_eq (by simpa using hnodup)]
  rfl

/-- A record with unknown values and with nothing but nulls, a union with unknown values in an arm,
and a top-level that may be null or unknown. -/
def boxDocument : Value := .obj [
  ("types", .obj [
    ("Box", .obj [("kind", .str "class"), ("name", .str "box"), ("properties", .arr [
      .obj [("name", .str "content"), ("type", .obj [("kind", .str "array"),
        ("items", .str "any")])],
      .obj [("name", .str "lid"), ("type", .obj [("kind", .str "union"),
        ("members", .arr [.str "null"])])],
      .obj [("name", .str "choice"), ("type", .obj [("$ref", .str "Choice")])]])]),
    ("Choice", .obj [("kind", .str "union"), ("members", .arr [.str "integer", .str "null",
      .obj [("kind", .str "map"), ("values", .str "any")]])])]),
  ("top_levels", .obj [
    ("Box", .obj [("$ref", .str "Box")]),
    ("Data", .obj [("kind", .str "union"), ("members", .arr [.str "null", .str "any"])])])]

/-- A test for unions with given members. -/
def isUnion (members : List Ty) : Option Shape → Bool
  | some (.union ms) => ms = members
  | _ => false

theorem eq_of_isUnion {members : List Ty} {shape : Option Shape}
    (h : isUnion members shape = true) : shape = some (.union members) := by
  unfold isUnion at h
  split at h
  · rw [of_decide_eq_true h]
  · cases h

theorem warnings_of_run_box : ∃ g gen names ds leaf files warnings facts,
    TypeGraph.ofDocument boxDocument = .ok g ∧ ofConfig Config.default = .ok gen ∧
    (gen.run g).result = .ok (.success files warnings facts) ∧
    Ordered (gen.context g names) ds ∧
    warnings = g.warnings ++ (placesOf (gen.context g names) ds).filterMap (remark leaf) ∧
    ∃ name, name ++ ": " ++ Zig.anyIssue ∈ warnings := by
  let root : Ty := .named 3
  obtain ⟨g, hg, htest⟩ : ∃ g, TypeGraph.ofDocument boxDocument = .ok g ∧
      (("Data", root) ∈ g.topLevels ∧ lendsName g ("Data", root) = false ∧
        isUnion [.primitive .null, .primitive .any] (g.shape? 3) : Bool) = true :=
    exists_of_any (by decide +kernel)
  obtain ⟨hroot, hlends, hunion⟩ := of_decide_eq_true htest
  have hs := eq_of_isUnion hunion
  let gen : Generator := ⟨.default, .default⟩
  have hgen : ofConfig Config.default = .ok gen := by rfl
  have hvalid : gen.config.IsValid := by
    unfold Config.IsValid
    decide
  obtain ⟨names, hnames, hready⟩ :
      ∃ names, (Names.resolve g).result = .ok names ∧ (gen.context g names).Ready :=
    exists_ready hg (by with_unfolding_all rfl) hvalid ⟨_, rfl⟩
  obtain ⟨files, warnings, hrun⟩ := exists_run hnames hready hvalid.1
  obtain ⟨names, ds, leaf, _, hordered, hplaces, _, hwarnings, _⟩ := warnings_of_run hg hrun
  refine ⟨g, gen, names, ds, leaf, files, warnings, _, hg, hgen, hrun, hordered, hwarnings, ?_⟩
  have hmem : Declaration.typeAlias "Data" root ∈ ds.map (·.2) := by
    rw [hordered.order]
    exact typeAlias_mem_inOrder_iff.mpr ⟨hroot, hlends⟩
  obtain ⟨⟨name, d⟩, he, rfl⟩ := List.mem_map.mp hmem
  have hleaf : leaf root = .primitive .any :=
    ((hplaces _ he).2 root List.mem_cons_self).unique (.only hs rfl (.primitive .any))
  refine ⟨name, hwarnings ▸ List.mem_append_right _ (List.mem_filterMap.mpr ?_)⟩
  refine ⟨(name, root), List.mem_flatMap.mpr ⟨_, he, List.mem_cons_self⟩, ?_⟩
  rw [remark, hleaf]
  rfl

end Generator

end ZigDecl
