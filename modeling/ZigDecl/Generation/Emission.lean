import ZigDecl.Generation.Context
import ZigDecl.Output.Tidy

/-! # Emitting a rendering

A rendering goes into one stream, or into one file a declaration. Either way a file starts with the
header and the prelude, parts are separated by one empty line, and everything is written through a
sink, which checks that files are opened and closed in order. -/

namespace ZigDecl.Generation

open Output (Sink Buffer File)

/-- A sink, and the warnings that came up while it was written to. -/
abbrev Emitted := Sink × List String

def addWarnings (present new : List String) : List String :=
  new.foldl (fun ws w => if ws.contains w then ws else ws ++ [w]) present

/-- An operation of the sink as a step of an emission. -/
def sinkStep (x : Except Output.SinkError Sink) : Logged Failure Sink :=
  Logged.lift (x.mapError .sink)

namespace Context

variable (c : Context)

def emitPreamble (s : Sink) : Except Failure Sink := do
  let header ← c.header
  let prelude ← renderPrelude
  return s.modify fun b => ((b.emit header).ensureBlankLine).emit prelude

def emitPart (s : Sink) (text : String) : Sink := s.modify fun b => b.ensureBlankLine.emit text

def emitImports (s : Sink) (imports : List (String × String)) : Except Failure Sink :=
  if imports.isEmpty then .ok s else emitPart s <$> renderImports imports

def emitAll : List (String × Declaration) → Emitted → Logged Failure Emitted
  | [], done => pure done
  | (name, d) :: rest, (s, warnings) => do
    Logged.write .debug ("Emitting " ++ name)
    let r ← c.render name d
    emitAll rest (emitPart s r.text, addWarnings warnings r.warnings)

/-- The name that one stream is opened under. -/
def streamName : Except Failure String :=
  match c.graph.topLevels with
  | (top, _) :: _ => c.topLevelName top
  | [] => .error .noTopLevels

def emitSingle (s : Sink) : Logged Failure Emitted := do
  let name ← c.streamName
  let s ← sinkStep (s.open name none)
  let s ← c.emitPreamble s
  let declarations ← c.declarations
  let (s, warnings) ← c.emitAll declarations (s, [])
  let s ← sinkStep s.close
  return (s, warnings)

/-- Emit one declaration into a file of its own. -/
def emitFile (name : String) (d : Declaration) (s : Sink) (warnings : List String) :
    Logged Failure Emitted := do
  let file ← match c.names.fileName? name with
    | some file => pure file
    | none => .fail (.fault .missingKey)
  let s ← sinkStep (s.open name (some file))
  Logged.write .debug ("Opening output file " ++ file)
  Logged.write .debug ("Emitting " ++ name ++ " into " ++ file)
  let s ← c.emitPreamble s
  let imports ← c.importsOf d
  let s ← emitImports s imports
  let r ← c.render name d
  let s ← sinkStep (emitPart s r.text).close
  return (s, addWarnings warnings r.warnings)

/-- Emit every declaration into a file of its own. -/
def emitFiles : List (String × Declaration) → Emitted → Logged Failure Emitted
  | [], done => pure done
  | (name, d) :: rest, (s, warnings) => do
    emitFiles rest (← c.emitFile name d s warnings)

def emitSplit (s : Sink) : Logged Failure Emitted := do
  let declarations ← c.declarations
  c.emitFiles declarations (s, [])

end Context

def tidied (lineEnding : String) (file : File) : Except Failure File :=
  match Output.tidy? lineEnding file.text with
  | some text => .ok { file with text }
  | none => .error (.fault .badValue)

def finishedFiles (s : Sink) (lineEnding : Value) : Except Failure (List File) :=
  match lineEnding with
  | .str lineEnding => do
    let files ← (s.finished lineEnding).mapError .sink
    files.mapM (tidied lineEnding)
  | _ => .error (.fault .missingOperation)

end ZigDecl.Generation
