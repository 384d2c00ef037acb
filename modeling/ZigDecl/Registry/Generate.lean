import ZigDecl.Graph.Document
import ZigDecl.Registry.Backend

/-! # Generating code for a registered language

From a document or a graph to generated text in one step. What is wrong with the document or the
configuration stops at once; what goes wrong afterwards is an outcome of the run. -/

namespace ZigDecl.Backends

/-- A run on the graph of a document, with the generator of a language. -/
def generateFromDocument (r : Backends) (d : Directory) (document : Value) (language : String)
    (source : ConfigSource) : Logged Failure RunResult := do
  let graph ← ((TypeGraph.ofDocument document).mapError Failure.graph : Except Failure TypeGraph)
  let gen ← r.create d language source
  (gen.run graph).mapError .sink

/-- The text for a graph under the given options; a run that fails has no text. -/
def generateText (r : Backends) (graph : TypeGraph) (options : List (String × Value)) :
    Logged Failure String := do
  let source := if options.isEmpty then Value.null else .obj options
  let gen ← r.create .empty Generator.language (.value source)
  match ← (gen.run graph).mapError .sink with
  | .failure message _ => .fail (.failedRun message)
  | result => return result.code

end ZigDecl.Backends
