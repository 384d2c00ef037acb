import ZigDecl.Fault
import ZigDecl.Value.Shown

/-! # What can be wrong with a configuration -/

namespace ZigDecl

/-- Why a configuration cannot be used, read or saved. -/
inductive ConfigError where
  | fileNotFound (path : String)
  | notJsonFile (path : String)
  | invalidJson (path : String)
  | notAnObject (path : String)
  | notSaved (path : String)
  /-- Generic settings have values that they may not have. -/
  | invalid (language : String) (problems : List String)
  /-- A Zig type is set to something that cannot be used for it. -/
  | invalidType (key : String) (value : Value)
  | emptyAnyType
  /-- A backend does not accept the configuration, for a reason of its own. -/
  | refused (reason : String)
  | fault (f : Fault)
  deriving Repr

def ConfigError.message : ConfigError → String
  | .fileNotFound path => "Configuration file not found: " ++ path
  | .notJsonFile path => "Configuration file must be JSON: " ++ path
  | .invalidJson path => "Invalid JSON in configuration file " ++ path ++ ": <JSONDecodeError>"
  | .notAnObject path => "Configuration file must contain a JSON object: " ++ path
  | .notSaved path => "Failed to save configuration to " ++ path ++ ": <OSError>"
  | .invalid language problems =>
    "Invalid " ++ language ++ " configuration: " ++ "; ".intercalate problems
  | .invalidType key value => "Invalid " ++ key ++ ": " ++ value.display
  | .emptyAnyType => "any_type must not be empty"
  | .refused reason => reason
  | .fault f => f.tag

end ZigDecl
