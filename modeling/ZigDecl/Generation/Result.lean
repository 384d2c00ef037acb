import ZigDecl.Generation.Emission

/-! # Generating code

A generator is a checked configuration. A run of it ends with files, warnings and facts about the
run, or with the failure that stopped it; only a sink used out of order is no outcome of a run but
an error of the program, and passes through. -/

namespace ZigDecl

open Generation

/-- A configuration together with the options read from it. -/
structure Generator where
  config : Config
  options : Zig.Options

namespace Generator

def language : String := "zig"

def ofConfig (config : Config) : Except ConfigError Generator := do
  return ⟨config, ← Zig.Options.ofConfig config⟩

/-- A generator has the configuration that it is made of, and the options read from it. -/
theorem ofConfig_eq_ok_iff {config : Config} {gen : Generator} :
    ofConfig config = .ok gen ↔
      gen.config = config ∧ Zig.Options.ofConfig config = .ok gen.options := by
  rw [ofConfig]
  cases Zig.Options.ofConfig config with
  | error e => exact ⟨nofun, fun h => nomatch h.2⟩
  | ok options =>
    constructor
    · rintro ⟨⟩
      exact ⟨rfl, rfl⟩
    · rintro ⟨rfl, ⟨⟩⟩
      rfl

abbrev Emission := Context → Output.Sink → Logged Failure Emitted

/-- One stream, or one file a declaration, as the configuration says. -/
def emission (gen : Generator) : Emission := fun c s =>
  if gen.config.splitFiles.isTruthy then c.emitSplit s else c.emitSingle s

/-- What the parts of a rendering look at. -/
def context (gen : Generator) (g : TypeGraph) (names : Names) : Context :=
  ⟨g, names, gen.config, gen.options⟩

/-- The files and the warnings of a rendering, where `emit` does the writing. -/
def generateWith (gen : Generator) (emit : Emission) (g : TypeGraph) :
    Logged Failure (List Output.File × List String) := do
  if g.topLevels.isEmpty then Logged.fail .noTopLevels
  let names ← (Names.resolve g).mapError .naming
  let sink := Output.Sink.new gen.config.splitFiles.isTruthy Names.fileExtension
  let (sink, warnings) ← emit (gen.context g names) sink
  let files ← finishedFiles sink gen.config.lineEnding
  return (files, warnings)

/-- The files and the warnings of a rendering. -/
def generate (gen : Generator) (g : TypeGraph) : Logged Failure (List Output.File × List String) :=
  gen.generateWith gen.emission g

end Generator

namespace TypeGraph

def hasRepetition : List String → Bool
  | [] => false
  | s :: rest => rest.contains s || hasRepetition rest

/-- What is worth a remark about the structure of a graph. -/
def warnings (g : TypeGraph) : List String :=
  (g.records.filterMap fun id =>
    match g.shape? id with
    | some (.record []) =>
      some ("Class '" ++ (g.nameOf id).display ++ "' has no properties - will generate empty struct")
    | _ => none) ++
  (g.enums.filterMap fun id =>
    match g.shape? id with
    | some (.enum []) => some ("Enum '" ++ (g.nameOf id).display ++ "' has no cases")
    | some (.enum cases) =>
      if hasRepetition cases then
        some ("Enum '" ++ (g.nameOf id).display ++ "' has duplicate cases")
      else none
    | _ => none) ++
  (g.namedTypes.filterMap fun id =>
    match g.shape? id with
    | some (.union members) =>
      if (nonNulls members).isEmpty then
        some ("Union '" ++ (g.nameOf id).display ++ "' only admits null")
      else none
    | _ => none)

end TypeGraph

/-- How a run ended. -/
inductive RunResult where
  | success (files : List Output.File) (warnings : List String) (facts : List (String × Value))
  | failure (message : String) (cause : Failure)

namespace RunResult

def code : RunResult → String
  | .success files _ _ => String.join (files.map (·.text))
  | .failure _ _ => ""

end RunResult

namespace Generator

def facts (gen : Generator) (g : TypeGraph) (files : List Output.File) : List (String × Value) := [
  ("language", .str language),
  ("file_extension", .str Names.fileExtension),
  ("top_levels", .arr (g.topLevels.map fun (name, _) => .str name)),
  ("class_count", .int g.records.length),
  ("union_count", .int g.unions.length),
  ("enum_count", .int g.enums.length),
  ("file_count", .int files.length),
  ("split_files", gen.config.splitFiles)]

/-- Log how a run ended, and pass a sink error through. -/
def conclude (gen : Generator) (g : TypeGraph) :
    Except Failure (List Output.File × List String) → Logged Output.SinkError RunResult
  | .ok (files, warnings) => do
    Logged.write .info
      ("Generated " ++ toString files.length ++ " " ++ language ++ " file(s) for " ++
        toString g.topLevels.length ++ " top-level(s)")
    return .success files (g.warnings ++ warnings) (gen.facts g files)
  | .error (.sink e) => .fail e
  | .error e => do
    Logged.write .error ("Code generation failed: " ++ e.message)
    return .failure ("Code generation failed: " ++ e.message) e

/-- Run a generator on a graph, where `emit` does the writing. -/
def runWith (gen : Generator) (emit : Emission) (g : TypeGraph) :
    Logged Output.SinkError RunResult :=
  let done := gen.generateWith emit g
  let rest := gen.conclude g done.result
  ⟨done.log ++ rest.log, rest.result⟩

def run (gen : Generator) (g : TypeGraph) : Logged Output.SinkError RunResult :=
  gen.runWith gen.emission g

end Generator

end ZigDecl
