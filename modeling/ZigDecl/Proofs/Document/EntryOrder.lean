import ZigDecl.Proofs.Document.Inline
import ZigDecl.Proofs.Graph.Refusal
import ZigDecl.Proofs.Steps

/-! # The order of the top-levels

Whether the definitions of a document are sound and whether it has an inline cycle does not depend
on the order of the top-levels, but which definition of a cycle is read first does. Main statement:
a document whose top-levels are accepted in one order is accepted in any other, or it is refused at
an array, map or reference that leads back to itself. -/

namespace ZigDecl

open Relation (TransGen)

variable {definitions tops : List (String × Value)} {l l' : Linking}

/-- The definitions of top-levels that were read can be read, and so can all that were taken up. -/
theorem LoadsTops.isSound (h : LoadsTops definitions tops l l') {known : String → Prop}
    (hk : ∀ name, l'.Entered name → known name) :
    (∀ name, l.Entered name → l'.Entered name) ∧
      (∀ top ∈ tops, (Definition.ofValue top.2).IsSound known) ∧
      ∀ name, l'.Entered name → l.Entered name ∨
        ∃ v, Value.lookup name definitions = some v ∧ (Definition.ofValue v).IsSound known := by
  induction h with
  | nil l => exact ⟨fun _ => id, nofun, fun _ => .inl⟩
  | @cons name value rest l l' l'' t h _ _ ih =>
    obtain ⟨hmono, hsounds, hnews⟩ := ih hk
    have hsound := h.isSound fun n hn => hk n (hmono n hn)
    refine ⟨fun n hn => hmono n (h.entered hn), List.forall_mem_cons.mpr ⟨hsound.1, hsounds⟩,
      fun n hn => ?_⟩
    rcases hnews n hn with hmid | hnew
    · exact (hsound.2 n hmid).imp_right (·.resolve_left nofun)
    · exact .inr hnew

namespace Link

/-- Sound top-levels of different names are read to the end, or to a name that waits for itself. -/
theorem ends_topLevels {known : String → Prop} {room : Nat} {follow : String → Link String Ty}
    (ha : Answers definitions known room follow) (hf : Follows definitions follow) :
    ∀ (tops : List (String × Value)) {l : Linking} {types : List Ty},
      (∀ top ∈ tops, (Definition.ofValue top.2).IsSound known) → l.IsKnown types →
      l.pending = [] → l.unread definitions < room → (l.graph.topNames ++ tops.map (·.1)).Nodup →
      Ends (topLevels follow tops) l (IsUnnamedCycle definitions)
  | [], l, _, _, _, _, _, _ => .inl ⟨_, _, rfl⟩
  | (name, value) :: rest, l, types, hs, hknown, hp, hroom, hnodup => by
    rw [topLevels]
    refine (ends_type ha hf _ (hs _ List.mem_cons_self) hroom ?_).bind fun t l' ht => ?_
    · rw [hp]; exact fun _ hn => absurd hn List.not_mem_nil
    · have hload := loads_type hf _ ht
      obtain ⟨_, hg⟩ := hload.grows hknown
      refine (Ends.returns get rfl).bind fun m m' hget => ?_
      obtain ⟨rfl, rfl⟩ := Returns.of_get hget
      have hnew : name ∉ m'.graph.topNames := by
        rw [TypeGraph.topNames, hg.topLevels]
        intro hmem
        exact (List.nodup_append.mp hnodup).2.2 name hmem name (by simp) rfl
      rw [TypeGraph.addTopLevel?,
        if_neg (by simpa using TypeGraph.hasTopLevel_eq_false_iff.mpr hnew)]
      refine Ends.bind (.inl ⟨_, m'.withTopLevel name t, rfl⟩) fun _ l' hset => ?_
      obtain rfl := Returns.of_modify hset
      refine ends_topLevels ha hf rest (fun top htop => hs top (List.mem_cons_of_mem _ htop))
        (hg.known.withTopLevel name hg.reading) ?_ ?_ ?_
      · rw [List.eq_nil_iff_forall_not_mem]
        intro other hother
        have hpending : other ∈ l.pending := hload.mem_pending hother
        rw [hp] at hpending
        cases hpending
      · exact Nat.lt_of_le_of_lt hload.unread_le hroom
      · have hnames : (m'.withTopLevel name t).graph.topNames = l.graph.topNames ++ [name] := by
          simp [TypeGraph.topNames, Linking.withTopLevel, hg.topLevels]
        have hrest : ((m'.withTopLevel name t).graph.topNames ++ rest.map (·.1)).Nodup := by
          rw [hnames, List.append_assoc]
          exact hnodup
        exact hrest

end Link

namespace TypeGraph

/-- A document that is accepted is accepted in any other order of its top-levels, or it is refused
there at an array, map or reference that leads back to itself by references. -/
theorem ofDocument_perm {document document' : Value} {tops' : List (String × Value)}
    {g : TypeGraph} (h : ofDocument document = .ok g)
    (hparts : documentParts document = .ok (definitions, tops))
    (hparts' : documentParts document' = .ok (definitions, tops')) (hperm : tops'.Perm tops) :
    (∃ g', ofDocument document' = .ok g') ∨
      ∃ e, ofDocument document' = .error e ∧ IsUnnamedCycle definitions e := by
  obtain ⟨_, _, l, hparts'', hloads, rfl, hnone⟩ := loadsTops_of_ofDocument h
  cases hparts.symm.trans hparts''
  obtain ⟨⟨made, hknown⟩, hnodup, hnames⟩ :=
    hloads.grows Linking.isKnown_start List.nodup_nil
  rw [show Linking.start.graph.topNames = [] from rfl, List.nil_append] at hnames
  obtain ⟨_, hsounds, hnews⟩ := hloads.isSound fun _ => id
  have hclosed : ∀ name, l.Entered name → ∃ v, Value.lookup name definitions = some v ∧
      (Definition.ofValue v).IsSound l.Entered :=
    fun name hn => (hnews name hn).resolve_left nofun
  have hroom : Linking.start.unread definitions < definitions.length + 1 :=
    Nat.lt_succ_of_le (List.countP_le_length.trans (by rw [List.length_map]))
  have hends := Link.ends_topLevels (Link.answers_follow hclosed _) (Link.follows_follow _) tops'
    (fun top htop => hsounds top (hperm.subset htop)) Linking.isKnown_start rfl hroom
    ((hperm.map _).nodup_iff.mpr (hnames ▸ hnodup))
  rw [ofDocument_eq hparts']
  rcases hends with ⟨_, l', hrun⟩ | ⟨e, hrun, he⟩
  · -- The other graph is of the same document, so it has an inline cycle just if this one has.
    have hloads' := Link.loadsTops_topLevels (Link.follows_follow _) tops' hrun
    obtain ⟨⟨made', hknown'⟩, _, _⟩ := hloads'.grows Linking.isKnown_start List.nodup_nil
    obtain ⟨htops, _, hr⟩ := LoadsTops.isReadAs (d := ⟨definitions, tops⟩) hloads (.refl _)
    obtain ⟨htops', _, hr'⟩ := LoadsTops.isReadAs (d := ⟨definitions, tops⟩) hloads' hperm
    have hcycles :=
      (hr.inlineCycle?_eq_none_iff hknown.coherent.isMarked (by simp [htops])).mp hnone
    have hnone' := (hr'.inlineCycle?_eq_none_iff hknown'.coherent.isMarked
      (fun name => by rw [htops', (hperm.map _).mem_iff])).mpr hcycles
    refine .inl ⟨l'.graph, ?_⟩
    rw [show _ = Except.ok _ from hrun]
    simp only [Except.bind, hnone']
  · refine .inr ⟨e, ?_, he⟩
    rw [hrun]
    rfl

/-- A record and an array that lead to each other, and top-levels that are references to them. -/
def mutualDocument (tops : List (String × Value)) : Value := .obj [
  ("types", .obj [
    ("A", .obj [("kind", .str "array"), ("items", .obj [("$ref", .str "C")])]),
    ("C", .obj [("kind", .str "class"), ("properties", .arr [
      .obj [("name", .str "a"), ("type", .obj [("$ref", .str "A")])]])])]),
  ("top_levels", .obj tops)]

def arrayTop : String × Value := ("X", .obj [("$ref", .str "A")])

def recordTop : String × Value := ("Y", .obj [("$ref", .str "C")])

/-- The document is accepted if the record is read first, and refused at the array if that is. -/
theorem ofDocument_perm_mutual : ∃ g definitions,
    ofDocument (mutualDocument [recordTop, arrayTop]) = .ok g ∧
    ofDocument (mutualDocument [arrayTop, recordTop]) = .error (.unnamedCycle "A") ∧
    Waits definitions "A" ∧ TransGen (Refers definitions) "A" "A" := by
  obtain ⟨g, hg⟩ : ∃ g, ofDocument (mutualDocument [recordTop, arrayTop]) = .ok g :=
    exists_of_isOk (by with_unfolding_all rfl)
  have hrefused : ofDocument (mutualDocument [arrayTop, recordTop]) =
      .error (.unnamedCycle "A") := by with_unfolding_all rfl
  have hparts : documentParts (mutualDocument [arrayTop, recordTop]) =
      .ok (_, [arrayTop, recordTop]) := rfl
  rcases ofDocument_perm hg rfl hparts (List.Perm.swap _ _ _) with
    ⟨g', hg'⟩ | ⟨e, he, name, hname, hwaits, hcycle⟩
  · rw [hrefused] at hg'
    cases hg'
  · rw [hrefused] at he
    cases he
    cases hname
    exact ⟨g, _, hg, hrefused, hwaits, hcycle⟩

end TypeGraph

end ZigDecl
