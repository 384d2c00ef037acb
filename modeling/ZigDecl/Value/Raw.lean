import ZigDecl.Value.Basic

/-! # Values with other texts

What a JSON text spells may hold any text. `ofRaw?` is the same value with texts of a given type,
where there is one, and `raw` is the way back. -/

namespace ZigDecl.Value

open TextLike (points ofPoints?)

variable {τ : Type} [TextLike τ]

mutual

/-- A value with its texts as code points. -/
def raw : Value τ → Value RawText
  | .null => .null
  | .bool b => .bool b
  | .int n => .int n
  | .float x => .float x
  | .str s => .str ⟨points s⟩
  | .arr items => .arr (rawItems items)
  | .obj members => .obj (rawMembers members)

def rawItems : List (Value τ) → List (Value RawText)
  | [] => []
  | v :: rest => raw v :: rawItems rest

def rawMembers : List (τ × Value τ) → List (RawText × Value RawText)
  | [] => []
  | (k, v) :: rest => (⟨points k⟩, raw v) :: rawMembers rest

end

mutual

/-- The value with given code points for its texts, if they are texts of the type. -/
def ofRaw? : Value RawText → Option (Value τ)
  | .null => some .null
  | .bool b => some (.bool b)
  | .int n => some (.int n)
  | .float x => some (.float x)
  | .str s => (ofPoints? s.points).map .str
  | .arr items => (ofRawItems? items).map .arr
  | .obj members => (ofRawMembers? members).map .obj

def ofRawItems? : List (Value RawText) → Option (List (Value τ))
  | [] => some []
  | v :: rest => do return (← ofRaw? v) :: (← ofRawItems? rest)

def ofRawMembers? : List (RawText × Value RawText) → Option (List (τ × Value τ))
  | [] => some []
  | (k, v) :: rest => do return (← ofPoints? k.points, ← ofRaw? v) :: (← ofRawMembers? rest)

end

/-- The value with strings for its texts, if they are strings. -/
def whole? (v : Value τ) : Option Value := ofRaw? v.raw

end ZigDecl.Value
