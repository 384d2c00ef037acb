import ZigDecl.Config.Error
import ZigDecl.Graph.Error
import ZigDecl.Names.Basic
import ZigDecl.Output.Sink
import ZigDecl.Registry.Error

/-! # What can go wrong in a run -/

namespace ZigDecl

/-- Why a template cannot be rendered. -/
inductive TemplateCause where
  /-- Something that the template needs is not there. -/
  | undefined (what : String)
  | notFound (name : String)
  | noFilter (name : String)
  | syntaxError
  | fault (f : Fault)
  deriving DecidableEq, Repr

def TemplateCause.message : TemplateCause → String
  | .undefined what => what
  | .notFound name => name
  | .noFilter name => "No filter named " ++ Text.quoted name ++ "."
  | .syntaxError => "<TemplateSyntaxError>"
  | .fault f => f.tag

/-- Why a run of the generator stops. -/
inductive Failure where
  | graph (e : GraphError)
  | config (e : ConfigError)
  | naming (e : NameError)
  /-- The template of a name, or a template without one, cannot be rendered. -/
  | template (name : Option String) (cause : TemplateCause)
  | sink (e : Output.SinkError)
  | registry (e : RegistryError)
  | noTopLevels
  /-- A run ended with the given message. -/
  | failedRun (message : String)
  /-- Something that is no type is to be mapped. -/
  | unknownNode (shown : String)
  | fault (f : Fault)
  deriving Repr

def Failure.message : Failure → String
  | .graph e => e.message
  | .config e => e.message
  | .naming e => e.message
  | .template (some name) cause => "Failed to render template " ++ name ++ ": " ++ cause.message
  | .template none cause => "Failed to render template string: " ++ cause.message
  | .sink e => e.message
  | .registry e => e.message
  | .noTopLevels => "Type graph has no top-levels"
  | .failedRun message => "Code generation failed: " ++ message
  | .unknownNode shown => "Unknown type graph node: " ++ shown
  | .fault f => f.tag

end ZigDecl
