import ZigDecl.Config.Error

/-! # What can go wrong with registered languages -/

namespace ZigDecl

/-- Why a language cannot be registered or used. -/
inductive RegistryError where
  | notAFactory
  | aliasIsLanguage (name : String)
  | aliasTaken (name language : String)
  | unknownLanguage (language : String) (available : List String)
  /-- A configuration is given in a form that stands for none. -/
  | invalidConfig (form : String)
  /-- The backend of a language, or its configuration, cannot be made. -/
  | creation (language : String) (cause : ConfigError)
  /-- A backend cannot be made, for a reason of its own. -/
  | noBackend (reason : String)
  deriving Repr

def RegistryError.message : RegistryError → String
  | .notAFactory => "Backend factory must be callable"
  | .aliasIsLanguage name => "Alias '" ++ name ++ "' conflicts with a registered language"
  | .aliasTaken name language => "Alias '" ++ name ++ "' already points to '" ++ language ++ "'"
  | .unknownLanguage language available =>
    "No generator registered for language: " ++ language ++ ". Available: " ++
      ", ".intercalate available
  | .invalidConfig form => "Invalid config type: " ++ form
  | .creation language cause => "Failed to create " ++ language ++ " generator: " ++ cause.message
  | .noBackend reason => reason

end ZigDecl
