import ZigDecl.Proofs.Names.Declared

/-! # The names of members

The members of a type are named in a namespace of their own, in which only the keywords are
reserved. Main statement: every record, enumeration and declared union gets one name a member, in
order; for the arms of a union, a proposal can be made of every type. -/

namespace ZigDecl

open ZigDecl.Name

variable {g : TypeGraph} {names : Names}

/-! ## Proposals for arms -/

theorem Ty.exists_proposal {ε : Type} {named : Nat → Except ε String} {t : Ty}
    (h : ∀ id, t.target? = some id → ∃ p, named id = .ok p) :
    ∃ p, t.proposal named = .ok p := by
  induction t with
  | primitive p => exact ⟨p.proposal, rfl⟩
  | array m t ih =>
    obtain ⟨p, hp⟩ := ih h
    exact ⟨p ++ " array", by rw [proposal, hp]; rfl⟩
  | map m t ih =>
    obtain ⟨p, hp⟩ := ih h
    exact ⟨p ++ " map", by rw [proposal, hp]; rfl⟩
  | named id => exact h id rfl

namespace TypeGraph

/-- A proposal can be made of every type that the top-levels lead to, as long as there is more fuel
than types are needed to write it out. -/
theorem exists_proposalOf (hw : g.WellFormed) {typeName : Nat → Except NameError String}
    (hname : ∀ id ∈ g.declarations, ∃ name, typeName id = .ok name) :
    ∀ (fuel id : Nat), g.Reachable id → g.rank id < fuel →
      ∃ p, g.proposalOf typeName fuel id = .ok p
  | 0, _, _, hrank => absurd hrank (Nat.not_lt_zero _)
  | fuel + 1, id, hr, hrank => by
    have hdeclared : g.isDeclared id = true → ∃ p, typeName id = .ok p :=
      fun hd => hname id (mem_declarations.mpr ⟨hr, hd⟩)
    rw [proposalOf]
    cases hs : g.shape? id with
    | none => exact absurd (hw.closed.lt_size hr) (Nat.not_lt.mpr (shape?_eq_none_iff.mp hs))
    | some s =>
      cases s with
      | record ps => exact hdeclared (isDeclared_of_record hs)
      | enum cs => exact hdeclared (isDeclared_of_enum hs)
      | union ms =>
        -- the only member of an undeclared union has a smaller rank
        have hinner : ∀ t, nonNulls ms = [t] →
            ∃ p, t.proposal (g.proposalOf typeName fuel) = .ok p := by
          refine fun t ht => Ty.exists_proposal fun j hj => ?_
          have hi := inlines_of_single hs ht hj
          have hlt := rank_lt hw.inlineFree hw.closed hr hi
          exact exists_proposalOf hw hname fuel j (hr.mentions hi.2) (by omega)
        cases membersView ms with
        | nullable t hnull ht =>
          obtain ⟨p, hp⟩ := hinner t ht
          exact ⟨"nullable " ++ p, by simp only [nullableOf_of_single hnull ht, hp]; rfl⟩
        | nothing hnil =>
          have hlen : (nonNulls ms).length ≠ 1 := by simp [hnil]
          exact ⟨"null", by simp only [nullableOf_of_length hlen, hnil]⟩
        | only t hnull ht =>
          obtain ⟨p, hp⟩ := hinner t ht
          exact ⟨p, by simp only [nullableOf_of_hasNull hnull, ht, hp]⟩
        | several hlen =>
          obtain ⟨name, hn⟩ := hdeclared (by simp [isDeclared_of_union hs, hlen])
          obtain ⟨t, u, rest, hms⟩ := nonNulls_eq_of_length hlen
          have hne : (nonNulls ms).length ≠ 1 := by omega
          exact ⟨name, by simp only [nullableOf_of_length hne, hms, hn]⟩

theorem exists_memberProposal (hw : g.WellFormed) {typeName : Nat → Except NameError String}
    (hname : ∀ id ∈ g.declarations, ∃ name, typeName id = .ok name) {id : Nat} {t : Ty}
    (hr : g.Reachable id) (ht : t ∈ g.parts id) : ∃ p, g.memberProposal typeName t = .ok p := by
  refine Ty.exists_proposal fun j hj => ?_
  exact exists_proposalOf hw hname _ j (hr.mentions (mentions_of_mem_parts ht hj))
    (Nat.lt_succ_of_le (g.rank_le_size j))

end TypeGraph

namespace Names

/-! ## Names of members -/

/-- The names given for the proposals of one owner. -/
def memberNames (proposals : List String) : List String :=
  ((Namespace.empty Zig.keywords).assignAll .snake proposals).1.map (·.name)

theorem given_memberNames (proposals : List String) :
    Given .snake (.empty Zig.keywords) proposals (memberNames proposals)
      ((Namespace.empty Zig.keywords).assignAll .snake proposals).2 :=
  given_assignAll .snake proposals _

theorem length_memberNames (proposals : List String) :
    (memberNames proposals).length = proposals.length := (given_memberNames proposals).length_eq

theorem giveAll_result (label : String) (case : NamingCase) :
    ∀ (proposals : List String) (ns : Namespace),
      (giveAll label case ns (proposals.map .str)).result =
        .ok ((ns.assignAll case proposals).1.map (·.name))
  | [], _ => rfl
  | p :: ps, ns => by
    rw [List.map_cons, giveAll, Logged.result_bind, result_give]
    show (_ >>= _ : Naming (List String)).result = _
    rw [Logged.result_bind, giveAll_result label case ps]
    rfl

theorem isText_of_giveAll {label : String} {case : NamingCase} :
    ∀ {proposals : List Value} {ns : Namespace} {given : List String},
      (giveAll label case ns proposals).result = .ok given → ∀ v ∈ proposals, v.isText = true
  | [], _, _, _ => by simp
  | p :: ps, ns, given, h => by
    rw [giveAll] at h
    obtain ⟨first, hfirst, h⟩ := Logged.exists_of_result_bind h
    obtain ⟨rest, hrest, _⟩ := Logged.exists_of_result_bind h
    rintro v (_ | ⟨_, hv⟩)
    · exact isText_of_give hfirst
    · exact isText_of_giveAll hrest v hv

theorem memberLabel_eq {id : Nat} {name : String} (h : names.typeName? id = some name)
    (what : String) : memberLabel names id what = .ok (name ++ " " ++ what) := by
  simp [memberLabel, h]

theorem typeName_eq {id : Nat} {name : String} (h : names.typeName? id = some name) :
    typeName g names id = .ok name := by
  simp [typeName, h]

/-- Members are only named if their external names are texts. -/
theorem isText_of_giveMembers {what : String} : ∀ {ids : List Nat}
    {given : List (Nat × List String)}, (giveMembers g names what ids).result = .ok given →
    ∀ id ∈ ids, ∀ v ∈ externalNames g id, v.isText = true
  | [], _, _ => by simp
  | id :: rest, given, h => by
    rw [giveMembers] at h
    obtain ⟨label, _, h⟩ := Logged.exists_of_result_bind h
    obtain ⟨identifiers, hidentifiers, h⟩ := Logged.exists_of_result_bind h
    obtain ⟨more, hmore, _⟩ := Logged.exists_of_result_bind h
    rintro j (_ | ⟨_, hj⟩)
    · exact isText_of_giveAll hidentifiers
    · exact isText_of_giveMembers hmore j hj

theorem giveMembers_result (what : String) : ∀ (ids : List Nat),
    (∀ id ∈ ids, ∃ name, names.typeName? id = some name) →
    (∀ id ∈ ids, ∀ v ∈ externalNames g id, v.isText = true) →
    (giveMembers g names what ids).result =
      .ok (ids.map fun id => (id, memberNames ((externalNames g id).map Value.display)))
  | [], _, _ => rfl
  | id :: rest, hnames, htexts => by
    obtain ⟨name, hname⟩ := hnames id (by simp)
    have ih := giveMembers_result what rest (fun j hj => hnames j (List.mem_cons_of_mem id hj))
      fun j hj => htexts j (List.mem_cons_of_mem id hj)
    have hall := giveAll_result (name ++ " " ++ what) .snake
      ((externalNames g id).map Value.display) (.empty Zig.keywords)
    rw [Value.map_str_display (htexts id (by simp))] at hall
    rw [giveMembers, memberLabel_eq hname]
    simp only [Logged.result_bind]
    show (Except.ok _ >>= _ : Except NameError _) = _
    simp only [Except.bind, bind, hall, ih]
    rfl

/-! ## Names of arms -/

/-- What is proposed for the arms of a union. -/
def Proposes (g : TypeGraph) (names : Names) (t : Ty) (proposal : String) : Prop :=
  g.memberProposal (typeName g names) t = .ok proposal

theorem giveArms_result (label : String) {ts : List Ty} {proposals : List String}
    (h : List.Forall₂ (Proposes g names) ts proposals) : ∀ (ns : Namespace),
    (giveArms g names label ns ts).result =
      .ok ((ns.assignAll .snake proposals).1.map (·.name)) := by
  induction h with
  | nil => exact fun _ => rfl
  | @cons t p ts ps hp _ ih =>
    intro ns
    rw [giveArms, show g.memberProposal (typeName g names) t = .ok p from hp]
    show (give label .snake ns (.str p) >>= _ : Naming (List String)).result = _
    rw [Logged.result_bind, result_give]
    show (_ >>= _ : Naming (List String)).result = _
    rw [Logged.result_bind, ih]
    rfl

/-- The arms of a union are named after what is proposed for its members. -/
def NamesArms (g : TypeGraph) (names : Names) (id : Nat) (entry : Nat × List String) : Prop :=
  entry.1 = id ∧ ∃ proposals, List.Forall₂ (Proposes g names) (nonNulls (g.parts id)) proposals ∧
    entry.2 = memberNames proposals

theorem exists_proposals {ts : List Ty} (h : ∀ t ∈ ts, ∃ p, Proposes g names t p) :
    ∃ proposals, List.Forall₂ (Proposes g names) ts proposals := by
  induction ts with
  | nil => exact ⟨[], .nil⟩
  | cons t ts ih =>
    obtain ⟨p, hp⟩ := h t (by simp)
    obtain ⟨ps, hps⟩ := ih fun s hs => h s (List.mem_cons_of_mem t hs)
    exact ⟨p :: ps, .cons hp hps⟩

theorem giveUnions_result : ∀ (ids : List Nat),
    (∀ id ∈ ids, ∃ name, names.typeName? id = some name) →
    (∀ id ∈ ids, ∀ t ∈ nonNulls (g.parts id), ∃ p, Proposes g names t p) →
    ∃ arms, (giveUnions g names ids).result = .ok arms ∧
      List.Forall₂ (NamesArms g names) ids arms
  | [], _, _ => ⟨[], rfl, .nil⟩
  | id :: rest, hnames, hproposes => by
    obtain ⟨name, hname⟩ := hnames id (by simp)
    obtain ⟨arms, hrun, harms⟩ := giveUnions_result rest
      (fun j hj => hnames j (List.mem_cons_of_mem id hj))
      fun j hj => hproposes j (List.mem_cons_of_mem id hj)
    obtain ⟨proposals, hps⟩ := exists_proposals (hproposes id (by simp))
    have hgiven := giveArms_result (name ++ " " ++ "members") hps (.empty Zig.keywords)
    refine ⟨(id, memberNames proposals) :: arms, ?_, .cons ⟨rfl, proposals, hps, rfl⟩ harms⟩
    rw [giveUnions, memberLabel_eq hname]
    simp only [Logged.result_bind]
    show (Except.ok _ >>= _ : Except NameError _) = _
    simp only [Except.bind, bind, hrun, hgiven]
    rfl

end Names

end ZigDecl
