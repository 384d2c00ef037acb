import ZigDecl.Config.Basic
import ZigDecl.Text.Case

/-! # Configurations from layers

Settings are put over each other in layers: the defaults of a language, a file, and overrides. A key
that is no field is a setting of the target language and goes into `custom`, and an object under
`custom` is merged key by key; everything else replaces what was there. -/

namespace ZigDecl.Config

open TextLike (lit)

variable {τ : Type} [DecidableEq τ] [TextLike τ]

def noSettings : List (τ × Value τ) := [(lit "custom", .obj [])]

def applySetting (settings : List (τ × Value τ)) (key : τ) (value : Value τ) :
    Except Fault (List (τ × Value τ)) :=
  let custom := (Value.lookup (lit "custom") settings).getD .null
  match key == lit "custom", value with
  | true, .obj members =>
    match custom with
    | .obj present => .ok (Value.put (lit "custom") (.obj (Value.putAll members present)) settings)
    | _ => .error .missingOperation
  | _, _ =>
    if fieldNames.contains key then .ok (Value.put key value settings)
    else
      match custom with
      | .obj present => .ok (Value.put (lit "custom") (.obj (Value.put key value present)) settings)
      | _ => .error .wrongType

/-- Put a layer over the settings, member by member. -/
def applyLayer (settings : List (τ × Value τ)) (layer : List (τ × Value τ)) :
    Except Fault (List (τ × Value τ)) :=
  layer.foldlM (fun settings (key, value) => applySetting settings key value) settings

/-- The members of a layer, which has to be an object. -/
def layerOf : Value τ → Except Fault (List (τ × Value τ))
  | .obj members => .ok members
  | _ => .error .missingOperation

/-- The settings that languages start from. -/
abbrev Defaults (τ : Type := String) := List (τ × Value τ)

def languageDefaults : Defaults τ :=
  [(lit "zig", .obj [(lit "custom", .obj [
    (lit "int_type", .str (lit "i64")), (lit "float_type", .str (lit "f64")),
    (lit "string_type", .str (lit "[]u8")), (lit "any_type", .str (lit "std.json.Value"))])])]

/-- The settings of a language: its defaults, those of a file over them, and overrides on top. -/
def settingsOfLayers (defaults : Defaults τ) (language : String)
    (file : Option (Except ConfigError (List (τ × Value τ)))) (overrides : Value τ) :
    Except ConfigError (List (τ × Value τ)) := do
  let base ← ((layerOf ((Value.lookup (lit (Text.lower language)) defaults).getD (.obj []))).bind
    (applyLayer noSettings)).mapError .fault
  let withFile ← match file with
    | none => pure base
    | some read => do
      let settings ← read
      (applyLayer base settings).mapError .fault
  if overrides.isTruthy then ((layerOf overrides).bind (applyLayer withFile)).mapError .fault
  else return withFile

/-- A configuration, if there is nothing wrong with it. -/
def accept (language : String) (config : Config τ) : Except ConfigError (Config τ) :=
  match config.problems with
  | [] => .ok config
  | problems => .error (.invalid language problems)

/-- The configuration of a language from its defaults, the settings of a file, and overrides. -/
def ofLayers (defaults : Defaults τ) (language : String)
    (file : Option (Except ConfigError (List (τ × Value τ)))) (overrides : Value τ) :
    Except ConfigError (Config τ) := do
  accept language (ofFields (← settingsOfLayers defaults language file overrides))

theorem isValid_of_accept {language : String} {config accepted : Config τ}
    (h : accept language config = .ok accepted) : accepted.IsValid := by
  rw [accept] at h
  split at h
  · next hp =>
    cases h
    exact (problems_eq_nil_iff config).mp hp
  · cases h

theorem isValid_of_ofLayers {defaults : Defaults τ} {language : String}
    {file : Option (Except ConfigError (List (τ × Value τ)))} {overrides : Value τ}
    {config : Config τ} (h : ofLayers defaults language file overrides = .ok config) :
    config.IsValid := by
  rw [ofLayers] at h
  cases hs : settingsOfLayers defaults language file overrides with
  | error e => rw [hs] at h; cases h
  | ok settings => rw [hs] at h; exact isValid_of_accept h

end ZigDecl.Config
