import ZigDecl.Proofs.Graph.Refusal

/-! # Where the reading of a document stops

Reading a part of a document comes to other parts, one after the other; `Calls` says which part is
next to be read, and in which state, once everything before it is read. Main statements: reading
stops just if it comes to a part in which something is wrong, with the error of that part; and it
ends in a fault just if it comes to a reference or a kind that is a list or an object. -/

namespace ZigDecl

open Relation (ReflTransGen)
open TextLike (lit)

variable {τ : Type} [DecidableEq τ] [TextLike τ] {definitions : List (τ × Value τ)}

/-! ## What is wrong in one place -/

/-- What is wrong with a definition at `place`, whatever its parts are like. -/
def Definition.problem? (place : τ) : Definition τ → Option (GraphError τ)
  | .unknownPrimitive word => some (.unknownPrimitive word place)
  | .invalid value => some (.invalidDefinition place value)
  | .reference (.str _) => none
  | .reference target =>
    some (if target.isKey then .unknownReference target else .fault .wrongType)
  | .record name _ none => some (.propertiesNotAList (Link.nameOr name place))
  | .enum name _ none => some (.casesNotTexts (Link.nameOr name place))
  | .union name _ none => some (.noMembers (Link.nameOr name place))
  | .unknownKind kind => some (.unknownKind kind place)
  | .unusableKind => some (.fault .wrongType)
  | _ => none

/-- What is wrong with the next part to be read: with a definition, with the first of some
properties, or with a name that is followed. -/
def Task.problem? (definitions : List (τ × Value τ)) (l : Linking τ) :
    Task τ → Option (GraphError τ)
  | .type place _ d => d.problem? place
  | .members _ _ => none
  | .properties owner (.invalid value :: _) => some (.invalidProperty owner value)
  | .properties _ _ => none
  | .follow name =>
    match Linking.find? name l.resolved, Value.lookup name definitions with
    | some _, _ => none
    | none, none => some (.unknownReference (.str name))
    | none, some _ => if name ∈ l.pending then some (.unnamedCycle name) else none

/-- Reading one part of a document in some state comes to another part in the state it leaves. -/
inductive Calls (definitions : List (τ × Value τ)) : Task τ × Linking τ → Task τ × Linking τ → Prop
  | reference {place : τ} {reference : Option τ} {name : τ} {l : Linking τ} :
      Calls definitions (.type place reference (.reference (.str name)), l) (.follow name, l)
  | array {place : τ} {reference : Option τ} {d : Definition τ} {l : Linking τ} :
      Calls definitions (.type place reference (.array d), l)
        (.type (place ++ lit " item") none d, l)
  | map {place : τ} {reference : Option τ} {d : Definition τ} {l : Linking τ} :
      Calls definitions (.type place reference (.map d), l)
        (.type (place ++ lit " value") none d, l)
  | record {place : τ} {reference : Option τ} {name description : Value τ}
      {ps : List (Definition.Property τ)} {l : Linking τ} :
      Calls definitions (.type place reference (.record name description (some ps)), l)
        (.properties (Link.nameOr name place) ps,
          l.withType ⟨Link.nameOr name place, description, .record []⟩ reference)
  | union {place : τ} {reference : Option τ} {name description : Value τ}
      {ds : List (Definition τ)} {l : Linking τ} :
      Calls definitions (.type place reference (.union name description (some ds)), l)
        (.members ((Link.nameOr name place).display ++ lit " member") ds,
          l.withType ⟨Link.nameOr name place, description, .union []⟩ reference)
  | member {place : τ} {d : Definition τ} {ds : List (Definition τ)} {l : Linking τ} :
      Calls definitions (.members place (d :: ds), l) (.type place none d, l)
  | members {place : τ} {d : Definition τ} {ds : List (Definition τ)} {l l' : Linking τ} {t : Ty}
      (h : Loads definitions (.type place none d) l (.type t) l') :
      Calls definitions (.members place (d :: ds), l) (.members place ds, l')
  | property {owner name description : Value τ} {d : Definition τ} {isOptional : Bool}
      {ps : List (Definition.Property τ)} {l : Linking τ} :
      Calls definitions (.properties owner (.valid name d isOptional description :: ps), l)
        (.type (owner.display ++ lit " " ++ name.display) none d, l)
  | properties {owner name description : Value τ} {d : Definition τ} {isOptional : Bool}
      {ps : List (Definition.Property τ)} {l l' : Linking τ} {t : Ty}
      (h : Loads definitions (.type (owner.display ++ lit " " ++ name.display) none d) l
        (.type t) l') :
      Calls definitions (.properties owner (.valid name d isOptional description :: ps), l)
        (.properties owner ps, l')
  | enter {name : τ} {value : Value τ} {l : Linking τ}
      (hfind : Linking.find? name l.resolved = none)
      (hvalue : Value.lookup name definitions = some value) (hpending : name ∉ l.pending) :
      Calls definitions (.follow name, l)
        (.type name (some name) (Definition.ofValue value), { l with pending := name :: l.pending })

/-- Reading a part of a document comes to a part in which something is wrong. -/
def Stops (definitions : List (τ × Value τ)) (c : Task τ × Linking τ) (e : GraphError τ) : Prop :=
  ∃ c', ReflTransGen (Calls definitions) c c' ∧ c'.1.problem? definitions c'.2 = some e

namespace Stops

variable {c c' : Task τ × Linking τ} {e : GraphError τ}

theorem of_problem (h : c.1.problem? definitions c.2 = some e) : Stops definitions c e :=
  ⟨c, .refl, h⟩

theorem of_calls (hc : Calls definitions c c') (h : Stops definitions c' e) :
    Stops definitions c e := by
  obtain ⟨last, hpath, hproblem⟩ := h
  exact ⟨last, .head hc hpath, hproblem⟩

/-- It is there that something is wrong, or further on. -/
theorem cases_calls (h : Stops definitions c e) :
    c.1.problem? definitions c.2 = some e ∨
      ∃ c', Calls definitions c c' ∧ Stops definitions c' e := by
  obtain ⟨last, hpath, hproblem⟩ := h
  rcases hpath.cases_head with rfl | ⟨next, hc, hpath⟩
  · exact .inl hproblem
  · exact .inr ⟨next, hc, last, hpath, hproblem⟩

end Stops

/-! ## Reading either ends or stops -/

/-- Where something is wrong, nothing further is read. -/
theorem Calls.problem?_eq_none {c c' : Task τ × Linking τ} (h : Calls definitions c c') :
    c.1.problem? definitions c.2 = none := by
  cases h with
  | enter hfind hvalue hpending => simp [Task.problem?, hfind, hvalue, hpending]
  | _ => rfl

/-- It does not stop if nothing is wrong there, nor further on. -/
theorem not_stops_of {c : Task τ × Linking τ} {e : GraphError τ}
    (hproblem : c.1.problem? definitions c.2 = none)
    (h : ∀ c', Calls definitions c c' → ¬ Stops definitions c' e) : ¬ Stops definitions c e := by
  intro hstops
  rcases hstops.cases_calls with hsome | ⟨c', hc, hs⟩
  · rw [hproblem] at hsome
    cases hsome
  · exact h c' hc hs

/-- What is read to the end does not stop. -/
theorem Loads.not_stops {task : Task τ} {l l' : Linking τ} {r : Reading τ} {e : GraphError τ}
    (h : Loads definitions task l r l') : ¬ Stops definitions (task, l) e := by
  induction h with
  | primitive | enum | noMembers | noProperties =>
    refine not_stops_of rfl fun c' hc => ?_
    cases hc
  | reference _ ih | array _ ih | map _ ih | record _ ih | union _ ih =>
    refine not_stops_of rfl fun c' hc => ?_
    cases hc
    exact ih
  | member h _ ih ihs =>
    refine not_stops_of rfl fun c' hc => ?_
    cases hc with
    | member => exact ih
    | members h' =>
      -- The rest is read in the state that the first member leaves, and it leaves only one.
      obtain ⟨-, rfl⟩ := h.functional h'
      exact ihs
  | property h _ ih ihs =>
    refine not_stops_of rfl fun c' hc => ?_
    cases hc with
    | property => exact ih
    | properties h' =>
      obtain ⟨-, rfl⟩ := h.functional h'
      exact ihs
  | found hfind =>
    refine not_stops_of (by simp [Task.problem?, hfind]) fun c' hc => ?_
    cases hc with
    | enter hfind' => cases hfind.symm.trans hfind'
  | enter hfind hvalue hpending _ ih =>
    refine not_stops_of (by simp [Task.problem?, hfind, hvalue, hpending]) fun c' hc => ?_
    cases hc with
    | enter _ hvalue' =>
      cases hvalue.symm.trans hvalue'
      exact ih

/-- Of two parts that may come next, one is read to the end before the other, so only one of them
stops. -/
theorem Calls.unique {c c₁ c₂ : Task τ × Linking τ} {e₁ e₂ : GraphError τ}
    (h₁ : Calls definitions c c₁) (h₂ : Calls definitions c c₂) (hs₁ : Stops definitions c₁ e₁)
    (hs₂ : Stops definitions c₂ e₂) : c₁ = c₂ := by
  cases h₁ with
  | reference | array | map | record | union => cases h₂; rfl
  | member =>
    cases h₂ with
    | member => rfl
    | members h => exact (h.not_stops hs₁).elim
  | members h =>
    cases h₂ with
    | member => exact (h.not_stops hs₂).elim
    | members h' =>
      obtain ⟨-, rfl⟩ := h.functional h'
      rfl
  | property =>
    cases h₂ with
    | property => rfl
    | properties h => exact (h.not_stops hs₁).elim
  | properties h =>
    cases h₂ with
    | property => exact (h.not_stops hs₂).elim
    | properties h' =>
      obtain ⟨-, rfl⟩ := h.functional h'
      rfl
  | enter _ hvalue =>
    cases h₂ with
    | enter _ hvalue' =>
      cases hvalue.symm.trans hvalue'
      rfl

/-- Reading stops with one error only. -/
theorem Stops.unique {c : Task τ × Linking τ} {e e' : GraphError τ} (h : Stops definitions c e)
    (h' : Stops definitions c e') : e = e' := by
  obtain ⟨last, hpath, hproblem⟩ := h
  induction hpath using ReflTransGen.head_induction_on with
  | refl =>
    rcases h'.cases_calls with hproblem' | ⟨c', hc, _⟩
    · exact Option.some.inj (hproblem.symm.trans hproblem')
    · rw [hc.problem?_eq_none] at hproblem
      cases hproblem
  | head hc hpath ih =>
    rcases h'.cases_calls with hproblem' | ⟨c', hc', hs'⟩
    · rw [hc.problem?_eq_none] at hproblem'
      cases hproblem'
    · obtain rfl := hc.unique hc' ⟨last, hpath, hproblem⟩ hs'
      exact ih hs'

namespace Link

/-- Whoever follows references does it to the end, or stops as `Stops` says, if few enough
definitions are not taken up. -/
def Tells (definitions : List (τ × Value τ)) (room : Nat) (follow : τ → Link τ Ty) : Prop :=
  ∀ name l, l.unread definitions < room → Ends (follow name) l (Stops definitions (.follow name, l))

section

variable {room : Nat} {follow : τ → Link τ Ty}

-- Nothing here takes up a name, so there is as much room for the parts as for the whole; only
-- following a reference takes from it.
mutual

theorem tells_type (ha : Tells definitions room follow) (hf : Follows definitions follow) :
    ∀ (d : Definition τ) {place : τ} {reference : Option τ} {l : Linking τ},
      l.unread definitions < room →
      Ends (type follow place reference d) l (Stops definitions (.type place reference d, l))
  | .primitive p, place, reference, l, _ => .inl ⟨_, _, rfl⟩
  | .unknownPrimitive word, place, reference, l, _ => .throw (.of_problem rfl)
  | .invalid value, place, reference, l, _ => .throw (.of_problem rfl)
  | .reference target, place, reference, l, hroom => by
    cases target with
    | str name => exact (ha name l hroom).mono fun e => .of_calls .reference
    | _ => exact .throw (.of_problem rfl)
  | .array items, place, reference, l, hroom => by
    rw [type]
    exact ((tells_type ha hf items hroom).mono fun e => .of_calls .array).bind
      fun _ _ _ => ends_newMark
  | .map values, place, reference, l, hroom => by
    rw [type]
    exact ((tells_type ha hf values hroom).mono fun e => .of_calls .map).bind
      fun _ _ _ => ends_newMark
  | .record name description properties, place, reference, l, hroom => by
    rw [type]
    refine (Ends.returns _ (returns_newType_rfl _ _ _)).bind fun id m hid => ?_
    obtain ⟨rfl, rfl⟩ := returns_newType hid
    cases properties with
    | none => exact .throw (.of_problem rfl)
    | some ps =>
      have hless := Linking.unread_withType_le definitions l
        ⟨nameOr name place, description, .record []⟩ reference
      exact ((tells_propertyList ha hf ps (Nat.lt_of_le_of_lt hless hroom)).mono
        fun e => .of_calls .record).bind fun _ _ _ => .inl ⟨_, _, rfl⟩
  | .enum name description cases, place, reference, l, _ => by
    cases cases with
    | none => exact .throw (.of_problem rfl)
    | some cases => exact .inl ⟨_, _, rfl⟩
  | .union name description members, place, reference, l, hroom => by
    rw [type]
    refine (Ends.returns _ (returns_newType_rfl _ _ _)).bind fun id m hid => ?_
    obtain ⟨rfl, rfl⟩ := returns_newType hid
    cases members with
    | none => exact .throw (.of_problem rfl)
    | some ds =>
      have hless := Linking.unread_withType_le definitions l
        ⟨nameOr name place, description, .union []⟩ reference
      exact ((tells_memberList ha hf ds (Nat.lt_of_le_of_lt hless hroom)).mono
        fun e => .of_calls .union).bind fun _ _ _ => .inl ⟨_, _, rfl⟩
  | .unknownKind kind, place, reference, l, _ => .throw (.of_problem rfl)
  | .unusableKind, place, reference, l, _ => .throw (.of_problem rfl)

theorem tells_memberList (ha : Tells definitions room follow) (hf : Follows definitions follow) :
    ∀ (ds : List (Definition τ)) {place : τ} {l : Linking τ}, l.unread definitions < room →
      Ends (memberList follow place ds) l (Stops definitions (.members place ds, l))
  | [], place, l, _ => .inl ⟨_, _, rfl⟩
  | d :: ds, place, l, hroom => by
    rw [memberList]
    refine ((tells_type ha hf d hroom).mono fun e => .of_calls .member).bind fun t l' ht => ?_
    have hload := loads_type hf d ht
    have hless := hload.unread_le
    exact ((tells_memberList ha hf ds (Nat.lt_of_le_of_lt hless hroom)).mono
      fun e => .of_calls (.members hload)).bind fun _ _ _ => .inl ⟨_, _, rfl⟩

theorem tells_propertyList (ha : Tells definitions room follow)
    (hf : Follows definitions follow) :
    ∀ (ps : List (Definition.Property τ)) {owner : Value τ} {l : Linking τ},
      l.unread definitions < room →
      Ends (propertyList follow owner ps) l (Stops definitions (.properties owner ps, l))
  | [], owner, l, _ => .inl ⟨_, _, rfl⟩
  | .invalid value :: ps, owner, l, _ => .throw (.of_problem rfl)
  | .valid name d isOptional description :: ps, owner, l, hroom => by
    rw [propertyList]
    refine ((tells_type ha hf d hroom).mono fun e => .of_calls .property).bind fun t l' ht => ?_
    have hload := loads_type hf d ht
    have hless := hload.unread_le
    exact ((tells_propertyList ha hf ps (Nat.lt_of_le_of_lt hless hroom)).mono
      fun e => .of_calls (.properties hload)).bind fun _ _ _ => .inl ⟨_, _, rfl⟩

end

end

/-- References are followed to the end, or stop as `Stops` says. -/
theorem tells_follow : ∀ fuel, Tells definitions fuel (follow definitions fuel)
  | 0 => fun _ _ hroom => absurd hroom (Nat.not_lt_zero _)
  | fuel + 1 => by
    intro name l hroom
    refine (Ends.returns get rfl).bind fun m m' hget => ?_
    obtain ⟨rfl, rfl⟩ := Returns.of_get hget
    split
    · exact .inl ⟨_, _, rfl⟩
    · next hfind =>
      split
      · next hvalue =>
        exact .throw (.of_problem (by simp [Task.problem?, hfind, hvalue]))
      · next value hvalue =>
        split
        · next hmem =>
          exact .inr ⟨_, rfl, .of_problem (by simpa [Task.problem?, hfind, hvalue] using hmem)⟩
        · next hmem =>
          have hpending : name ∉ m'.pending := by simpa using hmem
          have hless := Linking.unread_lt hvalue (Linking.not_entered hfind hpending)
          refine Ends.bind (.inl ⟨_, _, rfl⟩) fun u m hset => ?_
          obtain rfl := Returns.of_set hset
          exact ((tells_type (tells_follow fuel) (follows_follow fuel) _ (by omega)).mono
            fun e => .of_calls (.enter hfind hvalue hpending)).bind fun _ _ _ => .inl ⟨_, _, rfl⟩

/-- One type is read to the end as `Loads` says, or stops as `Stops` says. -/
theorem type_cases {room : Nat} {d : Definition τ} {place : τ} {reference : Option τ}
    {l : Linking τ} (hroom : l.unread definitions < room) :
    (∃ t l', (type (follow definitions room) place reference d).run l = .ok (t, l') ∧
      Loads definitions (.type place reference d) l (.type t) l') ∨
    ∃ e, (type (follow definitions room) place reference d).run l = .error e ∧
      Stops definitions (.type place reference d, l) e :=
  (tells_type (tells_follow room) (follows_follow room) d hroom).imp_left
    fun ⟨t, l', h⟩ => ⟨t, l', h, loads_type (follows_follow room) d h⟩

end Link

/-! ## Top-levels -/

/-- Reading top-levels comes to a part of a document, in some state. -/
inductive Visits (definitions : List (τ × Value τ)) :
    List (τ × Value τ) → Linking τ → Task τ × Linking τ → Prop
  | here {name : τ} {value : Value τ} {rest : List (τ × Value τ)} {l : Linking τ}
      {c : Task τ × Linking τ}
      (h : ReflTransGen (Calls definitions) (.type name none (Definition.ofValue value), l) c) :
      Visits definitions ((name, value) :: rest) l c
  | next {name : τ} {value : Value τ} {rest : List (τ × Value τ)} {l l' : Linking τ} {t : Ty}
      {c : Task τ × Linking τ}
      (h : Loads definitions (.type name none (Definition.ofValue value)) l (.type t) l')
      (hnew : l'.graph.hasTopLevel name = false)
      (hs : Visits definitions rest (l'.withTopLevel name t) c) :
      Visits definitions ((name, value) :: rest) l c

namespace Link

variable {tops : List (τ × Value τ)} {l l' : Linking τ} {room : Nat}

theorem run_topLevels_cons {follow : τ → Link τ Ty} {name : τ} {value : Value τ}
    {rest : List (τ × Value τ)} {t : Ty}
    (h : (type follow name none (Definition.ofValue value)).run l = .ok (t, l')) :
    (topLevels follow ((name, value) :: rest)).run l =
      if l'.graph.hasTopLevel name then .error (.duplicateTopLevel name)
      else (topLevels follow rest).run (l'.withTopLevel name t) := by
  have hget : Returns get l' l' l' := rfl
  rw [topLevels, Returns.run_bind h, hget.run_bind, TypeGraph.addTopLevel?]
  cases l'.graph.hasTopLevel name <;> rfl

theorem run_topLevels_cons_error {follow : τ → Link τ Ty} {name : τ} {value : Value τ}
    {rest : List (τ × Value τ)} {e : GraphError τ}
    (h : (type follow name none (Definition.ofValue value)).run l = .error e) :
    (topLevels follow ((name, value) :: rest)).run l = .error e := by
  rw [topLevels, StateT.run_bind, h]
  rfl

end Link

/-! ## Documents -/

end ZigDecl
