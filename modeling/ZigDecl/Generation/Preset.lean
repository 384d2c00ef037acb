import ZigDecl.Config.Layers
import ZigDecl.Generation.Result

/-! # Generators from overrides

A generator for Zig can be made of overrides alone; the common choices have names. -/

namespace ZigDecl

/-- A common choice of settings. -/
inductive Preset where
  /-- Declarations without the visibility modifier. -/
  | privateDeclarations
  /-- One file a declaration. -/
  | splitFiles
  /-- Texts that cannot be changed. -/
  | constStrings
  deriving DecidableEq, Repr

def Preset.overrides : Preset → List (String × Value)
  | .privateDeclarations => [("public", .bool false)]
  | .splitFiles => [("split_files", .bool true)]
  | .constStrings => [("string_type", .str "[]const u8")]

namespace Generator

/-- The generator of overrides over the defaults of the language. -/
def ofOverrides (overrides : Value) : Except ConfigError Generator := do
  ofConfig (← Config.ofLayers Config.languageDefaults language none overrides)

def ofPreset (p : Preset) : Except ConfigError Generator := ofOverrides (.obj p.overrides)

end Generator

end ZigDecl
