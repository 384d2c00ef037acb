import ZigDecl.Fault

/-! # The names of one rendering

Every identifier that a rendering needs, kept under the type or top-level that it belongs to. -/

namespace ZigDecl

/-- Why a name cannot be given or found. -/
inductive NameError where
  /-- No name was given to the type that is shown. -/
  | unresolved (type : String)
  | fault (f : Fault)
  deriving DecidableEq, Repr

def NameError.message : NameError → String
  | .unresolved type => "No name resolved for " ++ type
  | .fault f => f.tag

/-- The entry under a key of a list of pairs. -/
def entryFor? {κ α : Type} [BEq κ] (key : κ) : List (κ × α) → Option α
  | [] => none
  | (k, a) :: rest => if k == key then some a else entryFor? key rest

/-- All names of a rendering, in the order in which they were given. -/
structure Names where
  /-- The declared types. -/
  types : List (Nat × String)
  /-- The top-levels that are declared as aliases of their roots. -/
  aliases : List (String × String)
  /-- The top-levels that lend their name to the declaration of their root. -/
  rootTypes : List (String × Nat)
  /-- The fields of each record. -/
  fields : List (Nat × List String)
  /-- The cases of each enumeration. -/
  cases : List (Nat × List String)
  /-- The arms of each declared union, one for each member that is not null. -/
  arms : List (Nat × List String)
  /-- The output file of each declaration. -/
  files : List (String × String)
  deriving DecidableEq, Repr

namespace Names

def empty : Names := ⟨[], [], [], [], [], [], []⟩

def typeName? (n : Names) (id : Nat) : Option String := entryFor? id n.types

def fileName? (n : Names) (name : String) : Option String := entryFor? name n.files

/-- The identifier under which a top-level is declared. -/
def topLevelName? (n : Names) (top : String) : Option String :=
  match entryFor? top n.aliases with
  | some name => some name
  | none => (entryFor? top n.rootTypes).bind n.typeName?

/-- The declared names: the aliases and then the types in the given order. -/
def declared (n : Names) (order : List Nat) : List String :=
  n.aliases.map (·.2) ++ order.filterMap n.typeName?

end Names

end ZigDecl
