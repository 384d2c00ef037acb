/-! # Renamed members

A member whose identifier differs from its external name is recorded with both names. The records
of one declaration are written twice, once for each direction of serialization, with the same
entries in the same order. -/

namespace ZigDecl.Rename

/-- An identifier and the external name that it stands for. -/
structure Entry where
  identifier : String
  externalName : String
  deriving DecidableEq, Repr

/-- Which way the external names are used. -/
inductive Direction where
  | deserialize | serialize
  deriving DecidableEq, Repr

def Direction.name : Direction → String
  | .deserialize => "deserialize"
  | .serialize => "serialize"

/-- Both directions in the order in which they are written. -/
def Direction.all : List Direction := [.deserialize, .serialize]

/-- The entries with one more pair, if the two names differ. -/
def record (entries : List Entry) (identifier externalName : String) : List Entry :=
  if identifier == externalName then entries else entries ++ [⟨identifier, externalName⟩]

/-- The entries of pairs recorded one after the other. -/
def recordAll (pairs : List (String × String)) : List Entry :=
  pairs.foldl (fun entries (identifier, externalName) => record entries identifier externalName) []

/-- One block a direction with every entry, or nothing if there is no entry. -/
def blocks (entries : List Entry) : List (Direction × List Entry) :=
  if entries.isEmpty then [] else Direction.all.map fun d => (d, entries)

end ZigDecl.Rename
