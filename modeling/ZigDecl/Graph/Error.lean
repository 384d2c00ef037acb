import ZigDecl.Fault
import ZigDecl.Value.Shown

/-! # What can be wrong with a serialized type graph -/

namespace ZigDecl

open TextLike (lit)

/-- Why a document is no type graph. -/
inductive GraphError (τ : Type := String) where
  | notAnObject
  | typesNotAnObject
  | noTopLevels
  | duplicateTopLevel (name : τ)
  | unknownReference (target : Value τ)
  /-- A named array, map or reference leads back to itself while it is being read. -/
  | unnamedCycle (name : τ)
  | unknownPrimitive (word place : τ)
  | invalidDefinition (place : τ) (value : Value τ)
  | propertiesNotAList (owner : Value τ)
  | invalidProperty (owner value : Value τ)
  | casesNotTexts (owner : Value τ)
  | noMembers (owner : Value τ)
  | unknownKind (kind : Value τ) (place : τ)
  /-- The finished graph has a cycle that no declaration breaks. -/
  | inlineCycle (type : String)
  | fault (f : Fault)
  deriving Repr

def GraphError.message {τ : Type} [TextLike τ] : GraphError τ → τ
  | .notAnObject => lit "Type graph must be a JSON object"
  | .typesNotAnObject => lit "'types' must be an object"
  | .noTopLevels => lit "Type graph needs at least one top-level"
  | .duplicateTopLevel name => lit "Duplicate top-level: " ++ name
  | .unknownReference target => lit "Unknown type reference: " ++ target.display
  | .unnamedCycle name =>
    lit "Reference cycle through unnamed type '" ++ name ++ lit "' cannot be rendered"
  | .unknownPrimitive word place =>
    lit "Unknown primitive type '" ++ word ++ lit "' at " ++ place
  | .invalidDefinition place value =>
    lit "Invalid type definition at " ++ place ++ lit (": " ++ value.shown)
  | .propertiesNotAList owner => lit "Properties of " ++ owner.display ++ lit " must be a list"
  | .invalidProperty owner value =>
    lit "Invalid property in " ++ owner.display ++ lit (": " ++ value.shown)
  | .casesNotTexts owner => lit "Cases of enum " ++ owner.display ++ lit " must be strings"
  | .noMembers owner => lit "Union " ++ owner.display ++ lit " needs at least one member"
  | .unknownKind kind place => lit "Unknown type kind '" ++ kind.display ++ lit "' at " ++ place
  | .inlineCycle type =>
    lit ("Reference cycle through " ++ type ++
      " never passes a declared type and cannot be rendered")
  | .fault f => lit f.tag

end ZigDecl
