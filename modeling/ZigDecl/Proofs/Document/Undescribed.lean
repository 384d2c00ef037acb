import Mathlib.Tactic.SplitIfs
import ZigDecl.Graph.Document

/-! # Documents without their descriptions

Descriptions stand in definitions of types and of properties, and nowhere else: a name or an
external name that is an object keeps all that is in it. Main statement: what is read of a
definition whose descriptions were taken out is what is read of the definition itself, without its
descriptions. -/

namespace ZigDecl

namespace Value

/-- The keys under which there is a definition inside another one. -/
def isPartKey (key : String) : Bool := key == "items" || key == "values" || key == "type"

/-- The keys under which there is a list of definitions inside another one. -/
def isPartsKey (key : String) : Bool := key == "members" || key == "properties"

mutual

/-- A definition of a type or a property without descriptions. -/
def undescribed : Value → Value
  | .obj members => .obj (undescribedMembers members)
  | v => v

def undescribedMembers : List (String × Value) → List (String × Value)
  | [] => []
  | (key, v) :: rest =>
    if key == "description" then undescribedMembers rest
    else
      let v := if isPartKey key then undescribed v
        else if isPartsKey key then undescribedParts v else v
      (key, v) :: undescribedMembers rest

def undescribedParts : Value → Value
  | .arr items => .arr (undescribedItems items)
  | v => v

def undescribedItems : List Value → List Value
  | [] => []
  | v :: rest => undescribed v :: undescribedItems rest

end

/-- Named definitions without descriptions. -/
def undescribedEntries (entries : List (String × Value)) : List (String × Value) :=
  entries.map fun (name, v) => (name, v.undescribed)

/-- A member of a document without descriptions: named definitions stand in two of them. -/
def undescribedSection (key : String) : Value → Value
  | .obj entries =>
    if key == "types" || key == "top_levels" then .obj (undescribedEntries entries)
    else .obj entries
  | v => v

/-- A document without descriptions. -/
def undescribedDocument : Value → Value
  | .obj members => .obj (members.map fun (key, v) => (key, undescribedSection key v))
  | v => v

theorem lookup_undescribedMembers (key : String) (h : key ≠ "description")
    (members : List (String × Value)) :
    lookup key (undescribedMembers members) = (lookup key members).map fun v =>
      if isPartKey key then undescribed v
      else if isPartsKey key then undescribedParts v else v := by
  induction members with
  | nil => rfl
  | cons m rest ih =>
    obtain ⟨k, v⟩ := m
    rw [undescribedMembers]
    by_cases hdescription : k = "description"
    · have hne : (k == key) = false := beq_eq_false_iff_ne.mpr fun heq => h (heq ▸ hdescription)
      rw [if_pos (by simpa using hdescription), ih, lookup, if_neg (by simp [hne])]
    · rw [if_neg (by simpa using hdescription), lookup, lookup]
      by_cases hk : k = key
      · subst hk
        simp
      · rw [if_neg (by simpa using hk), if_neg (by simpa using hk), ih]

theorem lookup_description_undescribedMembers (members : List (String × Value)) :
    lookup "description" (undescribedMembers members) = none := by
  induction members with
  | nil => rfl
  | cons m rest ih =>
    obtain ⟨k, v⟩ := m
    rw [undescribedMembers]
    by_cases hk : k = "description"
    · rw [if_pos (by simpa using hk), ih]
    · rw [if_neg (by simpa using hk), lookup, if_neg (by simpa using hk), ih]

theorem lookup_undescribedMembers_of_part (key : String) (h : key ≠ "description")
    (hpart : isPartKey key = true) (members : List (String × Value)) :
    lookup key (undescribedMembers members) = (lookup key members).map undescribed := by
  rw [lookup_undescribedMembers key h, hpart]
  rfl

theorem lookup_undescribedMembers_of_parts (key : String) (h : key ≠ "description")
    (hpart : isPartKey key = false) (hparts : isPartsKey key = true)
    (members : List (String × Value)) :
    lookup key (undescribedMembers members) = (lookup key members).map undescribedParts := by
  rw [lookup_undescribedMembers key h, hpart, hparts]
  rfl

/-- A member that is no definition is kept. -/
theorem lookup_undescribedMembers_of_plain (key : String) (h : key ≠ "description")
    (hpart : isPartKey key = false) (hparts : isPartsKey key = false)
    (members : List (String × Value)) :
    lookup key (undescribedMembers members) = lookup key members := by
  rw [lookup_undescribedMembers key h, hpart, hparts]
  exact Option.map_id'

theorem lookup_undescribedEntries (name : String) (entries : List (String × Value)) :
    lookup name (undescribedEntries entries) = (lookup name entries).map undescribed := by
  induction entries with
  | nil => rfl
  | cons e rest ih =>
    obtain ⟨k, v⟩ := e
    by_cases hk : k = name <;> simp_all [undescribedEntries, lookup]

theorem lookup_undescribedSection (key : String) (members : List (String × Value)) :
    lookup key (members.map fun (k, v) => (k, undescribedSection k v)) =
      (lookup key members).map (undescribedSection key) := by
  induction members with
  | nil => rfl
  | cons m rest ih =>
    obtain ⟨k, v⟩ := m
    by_cases hk : k = key <;> simp_all [lookup]

end Value

mutual

/-- A definition without the descriptions in it. -/
def Definition.undescribed : Definition → Definition
  | .array d => .array d.undescribed
  | .map d => .map d.undescribed
  | .record name _ properties => .record name .null (match properties with
    | none => none
    | some ps => some (Definition.undescribedProperties ps))
  | .enum name _ cases => .enum name .null cases
  | .union name _ members => .union name .null (match members with
    | none => none
    | some ds => some (Definition.undescribedMembers ds))
  | d => d

def Definition.undescribedMembers : List Definition → List Definition
  | [] => []
  | d :: ds => d.undescribed :: undescribedMembers ds

def Definition.undescribedProperties : List Definition.Property → List Definition.Property
  | [] => []
  | .invalid v :: ps => .invalid v.undescribed :: undescribedProperties ps
  | .valid name d isOptional _ :: ps =>
    .valid name d.undescribed isOptional .null :: undescribedProperties ps

end

namespace Definition

/-- What an object spells that has no reference, by the word for its kind. -/
def ofKind (members : List (String × Value)) (kind : String) : Definition :=
  let name := (Value.lookup "name" members).getD .null
  let description := (Value.lookup "description" members).getD .null
  if kind == "array" then
    .array (((Value.lookup "items" members).map ofValue).getD (.primitive .any))
  else if kind == "map" then
    .map (((Value.lookup "values" members).map ofValue).getD (.primitive .any))
  else if kind == "class" then
    .record name description (match Value.lookup "properties" members with
      | none => some []
      | some (.arr items) => some (ofProperties items)
      | some _ => none)
  else if kind == "enum" then
    .enum name description (match Value.lookup "cases" members with
      | none => some []
      | some (.arr items) => texts? items
      | some _ => none)
  else if kind == "union" then
    .union name description (match Value.lookup "members" members with
      | some (.arr (item :: items)) => some (ofItems (item :: items))
      | _ => none)
  else
    match Primitive.ofName? kind with
    | some p => .primitive p
    | none => .unknownKind (.str kind)

theorem ofValue_obj (members : List (String × Value)) :
    ofValue (.obj members) =
      match Value.lookup "$ref" members with
      | some target => .reference target
      | none =>
        match (Value.lookup "kind" members).getD .null with
        | .str kind => ofKind members kind
        | kind => if kind.isKey then .unknownKind kind else .unusableKind := by
  rw [ofValue]
  cases Value.lookup "$ref" members with
  | some target => rfl
  | none =>
    dsimp only
    cases (Value.lookup "kind" members).getD .null with
    | str kind =>
      unfold ofKind
      dsimp only
      split_ifs <;> split <;> simp_all
    | _ => rfl

theorem ofProperties_obj (members : List (String × Value)) (rest : List Value) :
    ofProperties (.obj members :: rest) =
      (match Value.lookup "name" members with
        | none => .invalid (.obj members)
        | some name => .valid name
          (((Value.lookup "type" members).map ofValue).getD (.primitive .any))
          ((Value.lookup "optional" members).getD (.bool false)).isTruthy
          ((Value.lookup "description" members).getD .null)) :: ofProperties rest := by
  rw [ofProperties]
  cases Value.lookup "name" members with
  | none => rfl
  | some name =>
    dsimp only
    split <;> simp_all

/-- What an object with a kind spells is read from the parts in it. -/
theorem ofKind_undescribed (members : List (String × Value))
    (hpart : ∀ {key v}, Value.lookup key members = some v →
      ofValue v.undescribed = (ofValue v).undescribed)
    (hitems : ∀ {key items}, Value.lookup key members = some (.arr items) →
      ofItems (Value.undescribedItems items) = undescribedMembers (ofItems items))
    (hproperties : ∀ {key items}, Value.lookup key members = some (.arr items) →
      ofProperties (Value.undescribedItems items) = undescribedProperties (ofProperties items))
    (kind : String) :
    ofKind (Value.undescribedMembers members) kind = (ofKind members kind).undescribed := by
  have hsub (key : String) (hkey : Value.isPartKey key = true) (hne : key ≠ "description") :
      ((Value.lookup key (Value.undescribedMembers members)).map ofValue).getD (.primitive .any)
        = (((Value.lookup key members).map ofValue).getD (.primitive .any)).undescribed := by
    rw [Value.lookup_undescribedMembers_of_part key hne hkey]
    cases hv : Value.lookup key members with
    | none => rfl
    | some v => simp [hpart hv]
  unfold ofKind
  dsimp only
  rw [hsub "items" rfl (by decide), hsub "values" rfl (by decide),
    Value.lookup_undescribedMembers_of_plain "name" (by decide) rfl rfl,
    Value.lookup_undescribedMembers_of_plain "cases" (by decide) rfl rfl,
    Value.lookup_undescribedMembers_of_parts "properties" (by decide) rfl rfl,
    Value.lookup_undescribedMembers_of_parts "members" (by decide) rfl rfl,
    Value.lookup_description_undescribedMembers]
  split_ifs
  · rw [Definition.undescribed]
  · rw [Definition.undescribed]
  · cases hp : Value.lookup "properties" members with
    | none => rfl
    | some v =>
      cases v with
      | arr items => 
        simp only [Option.map_some, Value.undescribedParts, hproperties hp, Definition.undescribed]
        rfl
      | _ => rfl
  · rfl
  · cases hp : Value.lookup "members" members with
    | none => rfl
    | some v =>
      cases v with
      | arr items =>
        cases items with
        | nil => rfl
        | cons item items =>
          simp only [Option.map_some, Value.undescribedParts, Definition.undescribed, ← hitems hp,
            Value.undescribedItems]
          rfl
      | _ => rfl
  · cases Primitive.ofName? kind <;> rfl

mutual

theorem ofValue_undescribed (v : Value) : ofValue v.undescribed = (ofValue v).undescribed := by
  match v with
  | .obj members =>
    have hkind := ofKind_undescribed members (fun h => ofValue_undescribed _)
      (fun h => ofItems_undescribed _) (fun h => ofProperties_undescribed _)
    rw [Value.undescribed, ofValue_obj, ofValue_obj,
      Value.lookup_undescribedMembers_of_plain "$ref" (by decide) rfl rfl,
      Value.lookup_undescribedMembers_of_plain "kind" (by decide) rfl rfl]
    cases Value.lookup "$ref" members with
    | some target => rfl
    | none =>
      dsimp only
      cases (Value.lookup "kind" members).getD .null with
      | str kind => exact hkind kind
      | _ => rfl
  | .str word =>
    simp only [Value.undescribed, ofValue]
    cases Primitive.ofName? word <;> rfl
  | .null | .bool _ | .int _ | .float _ | .arr _ =>
    simp [ofValue, Value.undescribed, Definition.undescribed]
termination_by sizeOf v
decreasing_by
  · exact sizeOf_member_lt h
  · exact sizeOf_memberItems_lt h
  · exact sizeOf_memberItems_lt h

theorem ofItems_undescribed (items : List Value) :
    ofItems (Value.undescribedItems items) = undescribedMembers (ofItems items) := by
  match items with
  | [] => simp only [ofItems, Value.undescribedItems, undescribedMembers]
  | v :: rest =>
    simp only [ofItems, Value.undescribedItems, undescribedMembers, ofValue_undescribed v,
      ofItems_undescribed rest]
termination_by sizeOf items
decreasing_by
  · exact sizeOf_head_lt _ _
  · exact sizeOf_tail_lt _ _

theorem ofProperties_undescribed (items : List Value) :
    ofProperties (Value.undescribedItems items) = undescribedProperties (ofProperties items) := by
  match items with
  | [] => simp only [ofProperties, Value.undescribedItems, undescribedProperties]
  | .obj members :: rest =>
    have htype (v : Value) (h : Value.lookup "type" members = some v) := ofValue_undescribed v
    rw [Value.undescribedItems, Value.undescribed, ofProperties_obj, ofProperties_obj,
      Value.lookup_undescribedMembers_of_plain "name" (by decide) rfl rfl,
      Value.lookup_undescribedMembers_of_plain "optional" (by decide) rfl rfl,
      Value.lookup_undescribedMembers_of_part "type" (by decide) rfl,
      Value.lookup_description_undescribedMembers, ofProperties_undescribed rest]
    cases Value.lookup "name" members with
    | none => rfl
    | some name =>
      cases ht : Value.lookup "type" members with
      | none => rfl
      | some v =>
        simp only [Option.map_some, Option.getD_some, htype v ht]
        rfl
  | .str _ :: rest | .null :: rest | .bool _ :: rest | .int _ :: rest | .float _ :: rest
  | .arr _ :: rest =>
    simp only [Value.undescribedItems, Value.undescribed, ofProperties, undescribedProperties,
      ofProperties_undescribed rest]
termination_by sizeOf items
decreasing_by
  · exact Nat.lt_trans (sizeOf_member_lt h) (sizeOf_head_lt _ _)
  all_goals exact sizeOf_tail_lt _ _

end

end Definition

/-- The parts of a document without descriptions are its parts without theirs. -/
theorem TypeGraph.documentParts_undescribedDocument {document : Value}
    {definitions tops : List (String × Value)}
    (h : documentParts document = .ok (definitions, tops)) :
    documentParts document.undescribedDocument =
      .ok (Value.undescribedEntries definitions, Value.undescribedEntries tops) := by
  cases document with
  | obj members =>
    simp only [documentParts, TextLike.lit_string] at h
    simp only [Value.undescribedDocument, documentParts, TextLike.lit_string,
      Value.lookup_undescribedSection]
    have htypes : ((Value.lookup "types" members).map (Value.undescribedSection "types")).getD
        (.obj []) =
        Value.undescribedSection "types" ((Value.lookup "types" members).getD (.obj [])) := by
      cases Value.lookup "types" members <;> rfl
    rw [htypes]
    split at h
    · next entries hentries =>
      split at h
      · next t ts hts =>
        cases h
        rw [hentries, hts]
        rfl
      · cases h
    · cases h
  | _ => cases h

end ZigDecl
