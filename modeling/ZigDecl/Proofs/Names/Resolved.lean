import ZigDecl.Proofs.Names.Files
import ZigDecl.Proofs.Names.Members
import ZigDecl.Proofs.Steps

/-! # All names of a rendering

`Resolved` says what is known of the names of a graph once all of them are given. Main statements: a
well-formed graph whose names are texts gets all its names, and whatever names are given to a
well-formed graph are of this kind. -/

namespace ZigDecl.Names

open ZigDecl.Name

variable {g : TypeGraph} {names : Names}

/-- The external names of a member's owner as texts. -/
def externalTexts (g : TypeGraph) (id : Nat) : List String :=
  (externalNames g id).map Value.display

theorem externalNames_of_record {id : Nat} {ps : List Property}
    (hs : g.shape? id = some (.record ps)) : externalNames g id = ps.map (·.name) := by
  simp [externalNames, hs]

theorem externalNames_of_enum {id : Nat} {cases : List String}
    (hs : g.shape? id = some (.enum cases)) : externalNames g id = cases.map Value.str := by
  simp [externalNames, hs]

/-- What the names of a graph are like when all of them are given. -/
structure Resolved (g : TypeGraph) (names : Names) : Prop extends TypesNamed g names where
  fields : names.fields = g.records.map fun id => (id, memberNames (externalTexts g id))
  cases : names.cases = g.enums.map fun id => (id, memberNames (externalTexts g id))
  arms : List.Forall₂ (NamesArms g names) g.unions names.arms
  files : names.files = giveFiles [] (names.declared g.declarations)

/-- All names of a well-formed graph can be given. -/
theorem exists_resolve (hw : g.WellFormed) (ht : Nameable g) :
    ∃ names, (resolve g).result = .ok names ∧ Resolved g names := by
  obtain ⟨start, ns, types, htops, htypes, hnamed⟩ := exists_typesNamed hw ht
  have hname : ∀ {id : Nat}, id ∈ g.declarations → ∃ name, types.typeName? id = some name :=
    fun h => hnamed.exists_typeName?_iff.mpr h
  have hrecord : ∀ id ∈ g.records, id ∈ g.declarations := fun id h =>
    (TypeGraph.perm_declarations g).subset (by simp [h])
  have hunion : ∀ id ∈ g.unions, id ∈ g.declarations := fun id h =>
    (TypeGraph.perm_declarations g).subset (by simp [h])
  have henum : ∀ id ∈ g.enums, id ∈ g.declarations := fun id h =>
    (TypeGraph.perm_declarations g).subset (by simp [h])
  let withMembers : Names := { types with
    fields := g.records.map fun id => (id, memberNames (externalTexts g id))
    cases := g.enums.map fun id => (id, memberNames (externalTexts g id)) }
  have hfields := giveMembers_result "properties" g.records (fun id h => hname (hrecord id h))
    (fun id h => by
      obtain ⟨hr, ps, hs⟩ := TypeGraph.mem_records.mp h
      rw [externalNames_of_record hs]
      simpa using ht.property id ps hr hs)
  have hcases := giveMembers_result "cases" g.enums (fun id h => hname (henum id h))
    (fun id h => by
      obtain ⟨_, cs, hs⟩ := TypeGraph.mem_enums.mp h
      rw [externalNames_of_enum hs]
      simp [Value.isText])
  obtain ⟨arms, hrun, harms⟩ := giveUnions_result g.unions
    (fun id h => show ∃ name, withMembers.typeName? id = some name from hname (hunion id h))
    (fun id h t ht => TypeGraph.exists_memberProposal hw (fun j hj => by
      obtain ⟨name, hn⟩ := hname hj
      exact ⟨name, typeName_eq hn⟩) (TypeGraph.mem_unions.mp h).1 (List.mem_filter.mp ht).1)
  refine ⟨{ withMembers with
    arms, files := giveFiles [] (withMembers.declared g.declarations) }, ?_, ?_⟩
  · simp only [resolve, Logged.result_bind, htops, htypes, hfields, hcases, ok_bind]
    show (giveUnions g withMembers g.unions).result >>= _ = _
    rw [hrun]
    rfl
  · obtain ⟨ns', hd⟩ := hnamed.declared
    exact ⟨⟨⟨ns', hd.clean, hd.used⟩, hnamed.rootTypes, hnamed.types, hnamed.aliases⟩, rfl, rfl,
      harms, rfl⟩

/-- Names are only given if all that is used for them are texts. -/
theorem nameable_of_resolve (h : (resolve g).result = .ok names) :
    Nameable g := by
  obtain ⟨start, ns, htops, _, _, htypes, _⟩ :=
    giveTops_result g.topLevels (declared_start (rootTypesOf g))
  have hlent : start.types.map (·.1) = lentTypes (rootTypesOf g) g.topNames := htypes
  rw [resolve, Logged.result_bind, htops, ok_bind] at h
  obtain ⟨types, hrun, h⟩ := Logged.exists_of_result_bind h
  obtain ⟨fields, hfields, _⟩ := Logged.exists_of_result_bind h
  refine ⟨fun id hid hnot => ?_, fun id ps hr hs p hp => ?_⟩
  · exact isText_of_giveTypes _ (TypeGraph.nodup_declarations g) hrun id hid (hlent ▸ hnot)
  · refine isText_of_giveMembers hfields id (TypeGraph.mem_records.mpr ⟨hr, ps, hs⟩) p.name ?_
    rw [externalNames_of_record hs]
    exact List.mem_map_of_mem hp

/-- What names are like that were given to a well-formed graph. -/
theorem resolved_of_resolve (hw : g.WellFormed) (h : (resolve g).result = .ok names) :
    Resolved g names := by
  obtain ⟨other, hother, hresolved⟩ := exists_resolve hw (nameable_of_resolve h)
  cases hother.symm.trans h
  exact hresolved

/-! ## Looking up the names of members -/

theorem entryFor?_map_of_mem {α : Type} (f : Nat → α) {ids : List Nat} {id : Nat} (h : id ∈ ids) :
    entryFor? id (ids.map fun j => (j, f j)) = some (f id) := by
  induction ids with
  | nil => cases h
  | cons j rest ih =>
    rw [List.map_cons, entryFor?]
    by_cases hj : j = id
    · rw [if_pos (by simpa using hj), hj]
    · rw [if_neg (by simpa using hj), ih ((List.mem_cons.mp h).resolve_left (Ne.symm hj))]

theorem Resolved.fields_of_record (h : Resolved g names) {id : Nat} {ps : List Property}
    (hr : g.Reachable id) (hs : g.shape? id = some (.record ps)) :
    entryFor? id names.fields = some (memberNames (ps.map fun p => p.name.display)) := by
  rw [h.fields, entryFor?_map_of_mem _ (TypeGraph.mem_records.mpr ⟨hr, ps, hs⟩), externalTexts,
    externalNames_of_record hs, List.map_map]
  rfl

theorem Resolved.cases_of_enum (h : Resolved g names) {id : Nat} {cases : List String}
    (hr : g.Reachable id) (hs : g.shape? id = some (.enum cases)) :
    entryFor? id names.cases = some (memberNames cases) := by
  rw [h.cases, entryFor?_map_of_mem _ (TypeGraph.mem_enums.mpr ⟨hr, cases, hs⟩), externalTexts,
    externalNames_of_enum hs, List.map_map]
  exact congrArg (some <| memberNames ·) (List.map_id cases)

theorem namesArms_keys {ids : List Nat} {arms : List (Nat × List String)}
    (h : List.Forall₂ (NamesArms g names) ids arms) : arms.map (·.1) = ids := by
  induction h with
  | nil => rfl
  | cons hd _ ih => rw [List.map_cons, ih, hd.1]

theorem Resolved.arms_of_union (h : Resolved g names) {id : Nat} {ms : List Ty}
    (hr : g.Reachable id) (hs : g.shape? id = some (.union ms)) (hlen : 2 ≤ (nonNulls ms).length) :
    ∃ proposals, List.Forall₂ (Proposes g names) (nonNulls ms) proposals ∧
      entryFor? id names.arms = some (memberNames proposals) := by
  have hid : id ∈ g.unions := TypeGraph.mem_unions.mpr ⟨hr, ms, hs, hlen⟩
  obtain ⟨⟨j, given⟩, hmem, rfl, proposals, hps, hgiven⟩ := exists_mem_of_forall₂ h.arms id hid
  have hnodup : (names.arms.map (·.1)).Nodup := by
    rw [namesArms_keys h.arms]
    exact (TypeGraph.nodup_namedTypes g).filter _
  rw [TypeGraph.parts_of_union hs] at hps
  exact ⟨proposals, hps, hgiven ▸ entryFor?_of_mem hnodup hmem⟩

end ZigDecl.Names
