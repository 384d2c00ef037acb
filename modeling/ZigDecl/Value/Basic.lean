import ZigDecl.Text.Point

/-! # Documents of any shape

A `Value` is what a JSON text says, with its object members in the order in which they were
written. Type graphs, settings and template contexts are read from values. The texts in a value are
strings, unless another type of texts is given. -/

namespace ZigDecl

open TextLike (lit)

/-- A JSON value. Whole numbers are exact and all other numbers are doubles. -/
inductive Value (τ : Type := String) where
  | null
  | bool (flag : Bool)
  | int (number : Int)
  | float (number : Float)
  | str (text : τ)
  | arr (items : List (Value τ))
  | obj (members : List (τ × Value τ))
  deriving Inhabited, Repr

namespace Value

variable {τ : Type} [DecidableEq τ]

/-- Everything counts as true except null, false, zero and the empty text, list and object. -/
def isTruthy [TextLike τ] : Value τ → Bool
  | .null => false
  | .bool b => b
  | .int n => n != 0
  | .float x => x != 0.0
  | .str s => s != lit ""
  | .arr items => !items.isEmpty
  | .obj members => !members.isEmpty

/-- Whether a value may be looked up as a key: lists and objects may not. -/
def isKey : Value τ → Bool
  | .arr _ | .obj _ => false
  | _ => true

def lookup (key : τ) : List (τ × Value τ) → Option (Value τ)
  | [] => none
  | (k, v) :: rest => if k == key then some v else lookup key rest

/-- Store a value under a key: a key that is present keeps its place. -/
def put (key : τ) (value : Value τ) : List (τ × Value τ) → List (τ × Value τ)
  | [] => [(key, value)]
  | (k, v) :: rest => if k == key then (k, value) :: rest else (k, v) :: put key value rest

/-- Store several values, the later over the earlier. -/
def putAll (entries members : List (τ × Value τ)) : List (τ × Value τ) :=
  entries.foldl (fun acc (k, v) => put k v acc) members

/-- The member of an object under a key. -/
def get? (key : τ) : Value τ → Option (Value τ)
  | .obj members => lookup key members
  | _ => none

theorem lookup_put_self (key : τ) (value : Value τ) (members : List (τ × Value τ)) :
    lookup key (put key value members) = some value := by
  induction members with
  | nil => simp [put, lookup]
  | cons m rest ih =>
    obtain ⟨k, v⟩ := m
    by_cases h : k = key <;> simp [put, lookup, h, ih]

theorem lookup_put_ne {key other : τ} (h : other ≠ key) (value : Value τ)
    (members : List (τ × Value τ)) :
    lookup other (put key value members) = lookup other members := by
  induction members with
  | nil => simp [put, lookup, Ne.symm h]
  | cons m rest ih =>
    obtain ⟨k, v⟩ := m
    by_cases hk : k = key
    · subst hk; simp [put, lookup, Ne.symm h]
    · simp [put, lookup, hk, ih]

end Value

end ZigDecl
