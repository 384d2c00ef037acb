import ZigDecl.Config.Layers
import ZigDecl.File.Directory
import ZigDecl.Value.Printer
import ZigDecl.Value.Raw
import ZigDecl.Value.Reader

/-! # Configuration files

A configuration is saved as one flat JSON object: its generic fields, and then its custom settings.
A custom setting that has the name of a field takes the place of that field. Reading the file as a
layer over the defaults is the way back. A file can spell texts that it cannot hold as they are:
those with half of a surrogate pair in them. -/

namespace ZigDecl.Config

open TextLike (lit points ofPoints?)

variable {τ : Type} [DecidableEq τ] [TextLike τ]

def readFile (d : Directory) (name : String) : Except ConfigError (List (τ × Value τ)) :=
  let path := Path.ofText name
  match d.read path with
  | .error .tooLong => .error (.fault .badPath)
  | .error _ => .error (.fileNotFound path.toText)
  | .ok bytes =>
    if Text.lower path.suffix != ".json" then .error (.notJsonFile path.toText)
    else
      match String.fromUTF8? bytes with
      | none => .error (.fault .badEncoding)
      | some text =>
        match Value.ofJson text with
        | .error .malformed => .error (.invalidJson path.toText)
        | .error .tooManyDigits => .error (.fault .badValue)
        | .ok document =>
          match Value.ofRaw? document with
          | some (.obj members) => .ok members
          | some _ => .error (.notAnObject path.toText)
          | none => .error (.fault .noString)

/-- The configuration of a language, where an empty file name stands for no file. -/
def load (defaults : Defaults τ) (d : Directory) (language : String) (overrides : Value τ)
    (file : Value) : Except ConfigError (Config τ) :=
  let layer := match file with
    | .str name => if name == "" then none else some (readFile d name)
    | v => if v.isTruthy then some (.error (.fault .wrongType)) else none
  ofLayers defaults language layer overrides

theorem isValid_of_load {defaults : Defaults τ} {d : Directory} {language : String}
    {overrides : Value τ} {file : Value} {config : Config τ}
    (h : load defaults d language overrides file = .ok config) : config.IsValid :=
  isValid_of_ofLayers h

/-- A key as the text that stands for it in a file. -/
def keyText : Value τ → Except Fault τ
  | .str s => .ok s
  | .null => .ok (lit "null")
  | .bool b => .ok (lit (if b then "true" else "false"))
  | .int n => .ok (lit (toString n))
  | .float x => .ok (lit (Value.jsonFloat x))
  | _ => .error .wrongType

/-- The code points of a text as texts of their own. -/
def singles (s : τ) : List τ := (points s).filterMap fun p => ofPoints? [p]

/-- The key and the value of a custom setting that is written as a pair. -/
def settingOfPair : Value τ → Except Fault (τ × Value τ)
  | .arr [key, value] => do return (← keyText key, value)
  | .arr _ => .error .badValue
  | .str s =>
    match singles s with
    | [key, value] => .ok (key, .str value)
    | _ => .error .badValue
  | .obj [(k, _), (l, _)] => .ok (k, .str l)
  | .obj _ => .error .badValue
  | _ => .error .wrongType

/-- The custom settings as members: an object, or a list of pairs. -/
def customMembers : Value τ → Except Fault (List (τ × Value τ))
  | .obj members => .ok members
  | .arr items => items.mapM settingOfPair
  | .str s => if s == lit "" then .ok [] else .error .badValue
  | _ => .error .wrongType

/-- A configuration as one flat list of settings. -/
def flatten (c : Config τ) : Except Fault (List (τ × Value τ)) := do
  return Value.putAll (← customMembers c.custom) (c.fields.take 5)

/-- The text of the file in which a configuration is saved, if a file can hold it. -/
def savedText? (c : Config τ) : Except Fault (Option String) := do
  return (Value.whole? (.obj (← c.flatten))).map (Value.toJson (some 2))

/-- The tree after a configuration is saved, and what went wrong, if anything. The file is there,
and empty, before its text is looked at. -/
def save (d : Directory) (c : Config τ) (name : String) : Directory × Except ConfigError Unit :=
  match c.savedText? with
  | .error f => (d, .error (.fault f))
  | .ok text =>
    match d.write (Path.ofText name) (text.getD "") with
    | .ok written => (written, if text.isSome then .ok () else .error (.fault .badText))
    | .error .unwritable => (d, .error (.fault .badValue))
    | .error _ => (d, .error (.notSaved name))

/-- The configuration with strings for its texts, if they are strings. -/
def whole? (c : Config τ) : Option Config := do
  return ⟨← c.isPublic.whole?, ← c.splitFiles.whole?, ← c.leadingComments.whole?,
    ← c.addComments.whole?, ← c.lineEnding.whole?, ← c.custom.whole?⟩

end ZigDecl.Config
