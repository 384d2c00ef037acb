import ZigDecl.Graph.Basic

/-! # Type definitions in a document

A definition is what a document says in one place about a type, before references are followed. It
is read from any value: what is wrong with a value is kept in the definition and reported only where
the definition is used. -/

namespace ZigDecl

open TextLike (lit)

mutual

/-- A type as a document defines it. -/
inductive Definition (τ : Type := String) where
  | primitive (kind : Primitive)
  /-- A word that names no primitive type. -/
  | unknownPrimitive (word : τ)
  /-- Neither a word nor an object. -/
  | invalid (value : Value τ)
  /-- The type defined under a name elsewhere. -/
  | reference (target : Value τ)
  | array (items : Definition τ)
  | map (values : Definition τ)
  /-- A record; no property list if the value in its place is no list. -/
  | record (name description : Value τ) (properties : Option (List (Definition.Property τ)))
  /-- An enumeration; no cases if the value in their place is no list of texts. -/
  | enum (name description : Value τ) (cases : Option (List τ))
  /-- A union; no members if the value in their place is no list or an empty one. -/
  | union (name description : Value τ) (members : Option (List (Definition τ)))
  | unknownKind (kind : Value τ)
  /-- The kind is a list or an object. -/
  | unusableKind

/-- A property as a document defines it. -/
inductive Definition.Property (τ : Type := String) where
  | invalid (value : Value τ)
  | valid (name : Value τ) (type : Definition τ) (isOptional : Bool) (description : Value τ)

end

namespace Definition

variable {τ : Type} [DecidableEq τ]

section

variable [SizeOf τ]

theorem sizeOf_lookup_lt {key : τ} {members : List (τ × Value τ)} {v : Value τ}
    (h : Value.lookup key members = some v) : sizeOf v < sizeOf members := by
  induction members with
  | nil => simp [Value.lookup] at h
  | cons m rest ih =>
    obtain ⟨k, w⟩ := m
    simp only [Value.lookup] at h
    split at h
    · cases h; simp; omega
    · have := ih h; simp; omega

/-- A member of an object is smaller than the object. -/
theorem sizeOf_member_lt {key : τ} {members : List (τ × Value τ)} {v : Value τ}
    (h : Value.lookup key members = some v) : sizeOf v < sizeOf (Value.obj members) := by
  have := sizeOf_lookup_lt h
  rw [Value.obj.sizeOf_spec]
  omega

/-- The items of a list in an object are smaller than the object. -/
theorem sizeOf_memberItems_lt {key : τ} {members : List (τ × Value τ)}
    {items : List (Value τ)}
    (h : Value.lookup key members = some (.arr items)) :
    sizeOf items < sizeOf (Value.obj members) := by
  have := sizeOf_lookup_lt h
  rw [Value.arr.sizeOf_spec] at this
  rw [Value.obj.sizeOf_spec]
  omega

end

theorem sizeOf_head_lt {α : Type} [SizeOf α] (a : α) (l : List α) : sizeOf a < sizeOf (a :: l) := by
  rw [List.cons.sizeOf_spec]
  omega

theorem sizeOf_tail_lt {α : Type} [SizeOf α] (a : α) (l : List α) : sizeOf l < sizeOf (a :: l) := by
  rw [List.cons.sizeOf_spec]
  omega

def texts? : List (Value τ) → Option (List τ)
  | [] => some []
  | .str s :: rest => (texts? rest).map (s :: ·)
  | _ :: _ => none

variable [TextLike τ]

mutual

def ofValue (v : Value τ) : Definition τ :=
  match v with
  | .str word =>
    match Primitive.ofName? word with
    | some p => .primitive p
    | none => .unknownPrimitive word
  | .obj members =>
    match Value.lookup (lit "$ref") members with
    | some target => .reference target
    | none =>
      let name := (Value.lookup (lit "name") members).getD .null
      let description := (Value.lookup (lit "description") members).getD .null
      match (Value.lookup (lit "kind") members).getD .null with
      | .str kind =>
        if kind == lit "array" then
          match _h : Value.lookup (lit "items") members with
          | some items => .array (ofValue items)
          | none => .array (.primitive .any)
        else if kind == lit "map" then
          match _h : Value.lookup (lit "values") members with
          | some values => .map (ofValue values)
          | none => .map (.primitive .any)
        else if kind == lit "class" then
          match _h : Value.lookup (lit "properties") members with
          | none => .record name description (some [])
          | some (.arr items) => .record name description (some (ofProperties items))
          | some _ => .record name description none
        else if kind == lit "enum" then
          match Value.lookup (lit "cases") members with
          | none => .enum name description (some [])
          | some (.arr items) => .enum name description (texts? items)
          | some _ => .enum name description none
        else if kind == lit "union" then
          match _h : Value.lookup (lit "members") members with
          | some (.arr (item :: items)) => .union name description (some (ofItems (item :: items)))
          | _ => .union name description none
        else
          match Primitive.ofName? kind with
          | some p => .primitive p
          | none => .unknownKind (.str kind)
      | kind => if kind.isKey then .unknownKind kind else .unusableKind
  | v => .invalid v
termination_by sizeOf v
decreasing_by
  · exact sizeOf_member_lt _h
  · exact sizeOf_member_lt _h
  · exact sizeOf_memberItems_lt _h
  · exact sizeOf_memberItems_lt _h

/-- The definitions that the values of a list spell. -/
def ofItems (items : List (Value τ)) : List (Definition τ) :=
  match items with
  | [] => []
  | v :: rest => ofValue v :: ofItems rest
termination_by sizeOf items
decreasing_by
  · exact sizeOf_head_lt _ _
  · exact sizeOf_tail_lt _ _

/-- The property definitions that the values of a list spell. -/
def ofProperties (items : List (Value τ)) : List (Property τ) :=
  match items with
  | [] => []
  | .obj members :: rest =>
    match Value.lookup (lit "name") members with
    | none => .invalid (.obj members) :: ofProperties rest
    | some name =>
      let type := match _h : Value.lookup (lit "type") members with
        | some type => ofValue type
        | none => .primitive .any
      let isOptional := ((Value.lookup (lit "optional") members).getD (.bool false)).isTruthy
      let description := (Value.lookup (lit "description") members).getD .null
      .valid name type isOptional description :: ofProperties rest
  | v :: rest => .invalid v :: ofProperties rest
termination_by sizeOf items
decreasing_by
  · exact sizeOf_tail_lt _ _
  · exact Nat.lt_trans (sizeOf_member_lt _h) (sizeOf_head_lt _ _)
  · exact sizeOf_tail_lt _ _
  · exact sizeOf_tail_lt _ _

end

end Definition

end ZigDecl
