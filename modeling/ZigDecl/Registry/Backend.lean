import ZigDecl.Config.Saved
import ZigDecl.Generation.Result
import ZigDecl.Registry.Basic

/-! # Generators from the registry

A factory makes a generator of a configuration. The registry of the library has one language, Zig,
under its name and one alias. -/

namespace ZigDecl

/-- Makes a generator, unless the configuration is not accepted or there is no backend. -/
abbrev Factory := Config → Except Failure Generator

def Factory.zig : Factory := fun c => (Generator.ofConfig c).mapError .config

/-- A registry of languages that code is generated for. -/
abbrev Backends := Registry Factory

/-- How a configuration is given: ready, or as a value that says where to find it. -/
inductive ConfigSource where
  | ready (c : Config)
  | value (v : Value)

namespace Backends

def builtin : Backends := {
  registrations := [⟨"zig", Factory.zig, ["ziglang"]⟩]
  aliases := [("ziglang", "zig")] }

/-- What a form of value is called that stands for no configuration. -/
def formOf : Value → String
  | .bool _ => "bool"
  | .int _ => "int"
  | .float _ => "float"
  | .arr _ => "list"
  | .str _ => "str"
  | .obj _ => "dict"
  | .null => "NoneType"

/-- The configuration that a source stands for: a text names a file, and an object holds
overrides. -/
def resolveConfig (d : Directory) (language : String) : ConfigSource → Except Failure Config
  | .ready c => .ok c
  | .value (.str file) =>
    (Config.load Config.languageDefaults d language .null (.str file)).mapError .config
  | .value (.obj overrides) =>
    (Config.load Config.languageDefaults d language (.obj overrides) .null).mapError .config
  | .value .null => (Config.load Config.languageDefaults d language .null .null).mapError .config
  | .value v => .error (.registry (.invalidConfig (formOf v)))

/-- A failure to make a generator, as the registry reports it. -/
def creationFailure (language : String) : Failure → Failure
  | .config e => .registry (.creation language e)
  | .fault f => .registry (.creation language (.fault f))
  | e => e

/-- The generator of a language from a configuration. -/
def create (r : Backends) (d : Directory) (language : String) (source : ConfigSource) :
    Except Failure Generator := do
  let registration ← (r.lookup language).mapError .registry
  ((resolveConfig d registration.language source).bind registration.factory).mapError
    (creationFailure language)

/-- What is known about a language. -/
structure Info where
  language : String
  displayName : String
  backend : String
  moduleName : String
  fileExtension : String
  aliases : List String
  keywordCount : Nat
  deriving Repr

/-- What is known about a registered language, found out from its default generator. -/
def info (r : Backends) (language : String) : Except Failure Info := do
  let registration ← (r.lookup language).mapError .registry
  let config ← resolveConfig .empty registration.language (.value .null)
  let _ ← registration.factory config
  return {
    language := Generator.language
    displayName := "Zig"
    backend := "ZigBackend"
    moduleName := "zigtype.codegen.languages.zig.generator"
    fileExtension := Names.fileExtension
    aliases := registration.aliases.mergeSort fun a b => !(decide (b < a))
    keywordCount := Zig.keywords.length }

def allInfo (r : Backends) : Except Failure (List (String × Info)) :=
  r.languages.mapM fun language => do return (language, ← r.info language)

end Backends

end ZigDecl
