import ZigDecl.Proofs.Document.Place

/-! # Values as definitions

Main statement: the definition that a value is read as says what the value says, or it is faulty and
nothing is made of it. -/

namespace ZigDecl

namespace Value

theorem reference?_of_kind? {v : Value} {kind : String} (h : v.kind? = some kind) :
    v.reference? = none := by
  unfold kind? at h
  split at h
  · next href _ => simp [reference?, href]
  · cases h

theorem reference?_of_definesNamed {v : Value} (h : v.definesNamed = true) :
    v.reference? = none := by
  simp only [definesNamed, Bool.or_eq_true, beq_iff_eq] at h
  rcases h with (h | h) | h <;> exact reference?_of_kind? h

theorem reference?_of_primitive? {v : Value} {k : Primitive} (h : v.primitive? = some k) :
    v.reference? = none := by
  cases v with
  | str word => rfl
  | obj members =>
    obtain ⟨kind, hkind, _⟩ := Option.bind_eq_some_iff.mp h
    exact reference?_of_kind? hkind
  | _ => cases h

theorem kind?_obj {members : List (String × Value)} {kind : String}
    (href : lookup "$ref" members = none) (h : (lookup "kind" members).getD .null = .str kind) :
    (obj members).kind? = some kind := by
  have hkind : lookup "kind" members = some (.str kind) := by
    cases hl : lookup "kind" members with
    | none => rw [hl] at h; cases h
    | some w => rw [hl] at h; exact congrArg some h
  simp [kind?, get?, href, hkind]

end Value

namespace Definition

/-- Whether a definition is refused wherever it is used. -/
def isFaulty : Definition → Bool
  | .unknownPrimitive _ | .invalid _ | .unknownKind _ | .unusableKind => true
  | .reference (.str _) => false
  | .reference _ => true
  | .record _ _ none | .enum _ _ none | .union _ _ none => true
  | _ => false

/-- A definition says what a value says, or it is faulty. -/
inductive Says (v : Value) : Definition → Prop
  | primitive {k : Primitive} (hk : v.primitive? = some k) : Says v (.primitive k)
  | reference {name : String} (h : v.reference? = some name) : Says v (.reference (.str name))
  | array (hk : v.kind? = some "array") : Says v (.array (ofValue (v.definition "items")))
  | map (hk : v.kind? = some "map") : Says v (.map (ofValue (v.definition "values")))
  | record (name : Value) (hk : v.kind? = some "class") :
      Says v (.record name v.describedAs (some (ofProperties (v.entries "properties"))))
  | enum (name : Value) {cases : List String} (hk : v.kind? = some "enum")
      (hcases : v.entries "cases" = cases.map .str) : Says v (.enum name v.describedAs (some cases))
  | union (name : Value) (hk : v.kind? = some "union") :
      Says v (.union name v.describedAs (some (ofItems (v.entries "members"))))
  | faulty {d : Definition} (h : d.isFaulty = true) : Says v d

theorem ofValue_any : ofValue (.str "any") = .primitive .any := by
  simp [ofValue, show Primitive.ofName? "any" = some .any from by decide]

theorem map_str_of_texts? {items : List Value} {cases : List String}
    (h : texts? items = some cases) : items = cases.map .str := by
  induction items generalizing cases with
  | nil => cases h; rfl
  | cons item rest ih =>
    cases item with
    | str s =>
      obtain ⟨more, hmore, rfl⟩ := Option.map_eq_some_iff.mp h
      rw [ih hmore, List.map_cons]
    | _ => cases h

/-- A value is read as a definition that says the same. -/
theorem says_ofValue (v : Value) : Says v (ofValue v) := by
  cases v with
  | str word =>
    rw [ofValue]
    cases hw : Primitive.ofName? word with
    | none => exact .faulty rfl
    | some k => exact .primitive hw
  | obj members =>
    rw [ofValue]
    simp only [TextLike.lit_string]
    cases href : Value.lookup "$ref" members with
    | some target =>
      cases target with
      | str name => exact .reference (by simp [Value.reference?, Value.get?, href])
      | _ => exact .faulty rfl
    | none =>
      dsimp only
      split
      · next kind hkind =>
        have hk := Value.kind?_obj href hkind
        -- the words for kinds, one after the other
        split
        · next hw =>
          rw [beq_iff_eq.mp hw] at hk
          have := Says.array hk
          simp only [Value.definition, Value.get?] at this
          split
          · next items hitems => rwa [hitems] at this
          · next hnone => rwa [hnone, Option.getD_none, ofValue_any] at this
        split
        · next hw =>
          rw [beq_iff_eq.mp hw] at hk
          have := Says.map hk
          simp only [Value.definition, Value.get?] at this
          split
          · next values hvalues => rwa [hvalues] at this
          · next hnone => rwa [hnone, Option.getD_none, ofValue_any] at this
        split
        · next hw =>
          rw [beq_iff_eq.mp hw] at hk
          have := Says.record ((Value.lookup "name" members).getD .null) hk
          simp only [Value.entries, Value.describedAs, Value.get?] at this
          split
          · next hnone => rwa [hnone, ofProperties] at this
          · next items hitems => rwa [hitems] at this
          · exact .faulty rfl
        split
        · next hw =>
          rw [beq_iff_eq.mp hw] at hk
          have hsays (cases : List String) :=
            @Says.enum (.obj members) ((Value.lookup "name" members).getD .null) cases hk
          simp only [Value.entries, Value.describedAs, Value.get?] at hsays
          split
          · next hnone =>
            rw [hnone] at hsays
            exact hsays [] rfl
          · next items hitems =>
            rw [hitems] at hsays
            cases hcases : texts? items with
            | none => exact .faulty rfl
            | some cases => exact hsays cases (map_str_of_texts? hcases)
          · exact .faulty rfl
        split
        · next hw =>
          rw [beq_iff_eq.mp hw] at hk
          have := Says.union ((Value.lookup "name" members).getD .null) hk
          simp only [Value.entries, Value.describedAs, Value.get?] at this
          split
          · next item items hitems => rwa [hitems] at this
          · exact .faulty rfl
        cases hp : Primitive.ofName? kind with
        | none => exact .faulty rfl
        | some k => exact .primitive (by simp [Value.primitive?, hk, hp])
      · split <;> exact .faulty rfl
  | _ => rw [ofValue] <;> first | exact .faulty rfl | simp

theorem ofItems_eq (items : List Value) : ofItems items = items.map ofValue := by
  induction items with
  | nil => rw [ofItems]; rfl
  | cons v rest ih => rw [ofItems, ih]; rfl

/-- A valid property is read from an entry that says the same. -/
theorem ofProperties_eq_cons {items : List Value} {name : Value} {d : Definition}
    {isOptional : Bool} {description : Value} {ds : List Property}
    (h : ofProperties items = .valid name d isOptional description :: ds) :
    ∃ item rest, items = item :: rest ∧ item.label = ⟨name, isOptional, description⟩ ∧
      d = ofValue (item.definition "type") ∧ ds = ofProperties rest := by
  cases items with
  | nil => rw [ofProperties] at h; cases h
  | cons item rest =>
    refine ⟨item, rest, rfl, ?_⟩
    cases item with
    | obj members =>
      rw [ofProperties] at h
      simp only [TextLike.lit_string] at h
      split at h
      · cases h
      · next given hname =>
        cases h
        refine ⟨by simp [Value.label, Value.describedAs, Value.get?, hname], ?_, rfl⟩
        simp only [Value.definition, Value.get?]
        split
        · next type htype => rw [htype]; rfl
        · next hnone => rw [hnone, Option.getD_none, ofValue_any]
    | _ => rw [ofProperties] at h <;> first | cases h | simp

theorem ofProperties_eq_nil {items : List Value} (h : ofProperties items = []) : items = [] := by
  cases items with
  | nil => rfl
  | cons item rest =>
    cases item with
    | obj members =>
      rw [ofProperties] at h
      split at h <;> cases h
    | _ => rw [ofProperties] at h <;> first | cases h | simp

end Definition

end ZigDecl
