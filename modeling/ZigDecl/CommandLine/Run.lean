import ZigDecl.CommandLine.Arguments
import ZigDecl.Console.Markup
import ZigDecl.Console.Table
import ZigDecl.Graph.Whole
import ZigDecl.Registry.Backend
import ZigDecl.Source.Loading

/-! # A run of the command line

Generated code goes to standard output or into files, and everything else to standard error. A run
reads the configuration before the graph and makes the generator last; the first failure ends it
with one line of complaint, and what was written by then stays written. A configuration and a graph
may hold any texts until code is generated, which is described for strings only. -/

namespace ZigDecl.CommandLine

open TextLike (lit)

def programName : String := "zigtype"

def version : String := "0.1.0"

/-- What a run can see: files, standard input, and what the web answers. -/
structure World where
  files : Directory
  stdin : String
  response : Source.Response

/-- What a run leaves behind. -/
structure Outcome where
  exitCode : Nat
  stdout : String
  stderr : String
  files : Directory
  log : List Entry

/-- Why a run breaks off without an outcome. -/
inductive Crash where
  | fault (f : Fault)
  /-- A message holds tags that do not go together. -/
  | unprintable
  | sink (e : Output.SinkError)
  deriving DecidableEq, Repr

/-- The crash of a run that cannot show a message. -/
def Crash.ofMarkup : Console.MarkupError → Crash
  | .missingNumber => .fault .badValue
  | _ => .unprintable

/-- Why a run stops early. -/
inductive Halt where
  | complaint (message : RawText)
  | crash (c : Crash)

/-- What a run has printed, written and logged so far. -/
structure Progress where
  stdout : String
  stderr : String
  files : Directory
  log : List Entry

abbrev Command (α : Type) := ExceptT Halt (StateM Progress) α

namespace Command

def complain {α : Type} (message : String) : Command α := throw (.complaint (lit message))

def crash {α : Type} (c : Crash) : Command α := throw (.crash c)

/-- What a message shows on a console. -/
def shown {τ : Type} [TextLike τ] (message : τ) : Command String :=
  match Console.shownText message with
  | .ok text => return text
  | .error e => crash (.ofMarkup e)

/-- Print a message as lines of standard error. -/
def say {τ : Type} [TextLike τ] (message : τ) : Command Unit := do
  let text ← shown message
  modify fun p => { p with stderr := p.stderr ++ text ++ "\n" }

def print (text : String) : Command Unit := modify fun p => { p with stdout := p.stdout ++ text }

def drawTable (title : String) (header : List String) (rows : List (List String))
    (frame : Console.Frame) : Command String := do
  let rows ← rows.mapM fun row => row.mapM shown
  return (Console.Table.mk title header rows frame).text

/-- Take over the log of a computation, and its result unless it fails. -/
def logged {ε α : Type} (halt : ε → Halt) (x : Logged ε α) : Command α := do
  modify fun p => { p with log := p.log ++ x.log }
  match x.result with
  | .ok a => return a
  | .error e => throw (halt e)

end Command

open Command

/-! ## What stops a run -/

def haltOfConfig : ConfigError → Halt
  | .fault f => .crash (.fault f)
  | e => .complaint (lit e.message)

def haltOfSource : SourceError → Halt
  | .fault f => .crash (.fault f)
  | e => .complaint e.message

def haltOfFailure : Failure → Halt
  | .fault f => .crash (.fault f)
  | e => .complaint (lit e.message)

/-! ## Parts of a run -/

def listLanguages : Command Unit := do
  let infos ← logged haltOfFailure (Logged.lift Backends.builtin.allInfo)
  let rows := infos.map fun (language, info) =>
    [language, info.fileExtension, info.backend,
      if info.aliases.isEmpty then "[dim]none[/dim]" else ", ".intercalate info.aliases]
  print (← drawTable "📋 Supported Languages" ["Language", "Extension", "Backend", "Aliases"] rows
    .rounded)

/-- Whether a text was given that is not empty. -/
def isGiven (text : Option String) : Bool := text.getD "" != ""

/-- What is wrong with the arguments taken together. -/
def complaint? (a : Arguments) : Option String :=
  if !(isGiven a.file || isGiven a.url || a.stdin) then
    some "Input source required (file, --url, or --stdin)"
  else if a.splitFiles && !isGiven a.outDir then some "--split-files needs --out-dir"
  else if isGiven a.outDir && !a.splitFiles then
    some "--out-dir is only used with --split-files"
  else if isGiven a.output && a.splitFiles then
    some "--output cannot be combined with --split-files"
  else none

/-- A comment line as a setting; a line that does not count becomes a value that is no text. -/
def commentValue (line : Option String) : Value RawText :=
  (line.map fun text => .str (lit text)).getD (.arr [])

def overrides (a : Arguments) : List (RawText × Value RawText) :=
  (if a.isPrivate then [(lit "public", .bool false)] else []) ++
  (if a.splitFiles then [(lit "split_files", .bool true)] else []) ++
  (if a.leadingComments.isEmpty then []
    else [(lit "leading_comments", .arr (a.leadingComments.map commentValue))]) ++
  (if a.noComments then [(lit "add_comments", .bool false)] else [])

/-- The configuration of a run for a language. -/
def configOf (d : Directory) (a : Arguments) (language : String) :
    Except ConfigError (Config RawText) :=
  let file := match a.config with
    | some name => Value.str name
    | none => .null
  Config.load Config.languageDefaults d language (.obj (overrides a)) file

/-- The number of seconds that a request may take. -/
def requestSeconds : Value := .int 30

def loadInput (w : World) (a : Arguments) : Logged SourceError Source.Loaded :=
  if a.stdin then Source.ofStream w.stdin "<stdin>"
  else Source.load w.files w.response (a.file.getD "") (a.url.getD "") requestSeconds

/-- Change the tree of files on behalf of what is written to `target`. -/
def store (target : Path) (change : Directory → Except PathError Directory) : Command Unit := do
  match change (← get).files with
  | .ok d => modify fun p => { p with files := d }
  | .error .unwritable => crash (.fault .badValue)
  | .error _ => complain ("Failed to write to " ++ target.toText ++ ": <OSError>")

/-- Write every file into a directory, which is made if it is missing. -/
def writeDirectory (dir : Path) (files : List Output.File) : Command Unit := do
  store dir (·.makeDirs dir)
  files.forM fun file => store dir (·.write (dir.join (file.name.getD "")) file.text)
  say ("[green]✓[/green] Wrote " ++ toString files.length ++ " file(s) to [cyan]" ++
    dir.toText ++ "[/cyan]")

def writeFile (path : Path) (code : String) : Command Unit := do
  store path (·.write path code)
  say ("[green]✓[/green] Generated code saved to [cyan]" ++ path.toText ++ "[/cyan]")

def capitalized : List Char → List Char
  | [] => []
  | c :: cs => c.toUpper :: cs

/-- The heading of a fact about a run. -/
def heading (key : String) : String :=
  String.ofList ([' '].intercalate ((Text.splitAt '_' key.toList).map capitalized))

def sayFacts (facts : List (String × Value)) : Command Unit := do
  let rows := facts.map fun (key, value) => [heading key, value.display]
  let table ← drawTable "📊 Generation Metadata" ["Property", "Value"] rows .simple
  modify fun p => { p with stderr := p.stderr ++ "\n" ++ table }

def sayWarnings (warnings : List String) : Command Unit := do
  if !warnings.isEmpty then
    say "\n[yellow]⚠️  Warnings:[/yellow]"
    warnings.forM fun w => say ("  [yellow]•[/yellow] " ++ w)

/-- Put generated code where it belongs, and tell what there is to tell. -/
def deliver (a : Arguments) (files : List Output.File) (warnings : List String)
    (facts : List (String × Value)) : Command Unit := do
  let code := String.join (files.map (·.text))
  if a.splitFiles then writeDirectory (Path.ofText (a.outDir.getD "")) files
  else if isGiven a.output then writeFile (Path.ofText (a.output.getD "")) code
  else print code
  if a.verbose then sayFacts facts
  sayWarnings warnings

/-- What code is generated from, which has to be without halves of surrogate pairs. -/
def strings {α : Type} : Option α → Command α
  | some a => pure a
  | none => crash (.fault .noString)

/-- Generate code as the arguments ask for; the result is the exit code. -/
def generate (w : World) (a : Arguments) : Command Nat := do
  if let some message := complaint? a then complain message
  let language ← match a.language with
    | some language => pure language
    | none => crash (.fault .missingOperation)
  let config ← logged haltOfConfig (Logged.lift (configOf w.files a language))
  let (source, document) ← logged haltOfSource (loadInput w a)
  let graph ← logged haltOfSource (Logged.lift (Source.toGraph (source, document)))
  logged haltOfSource (Logged.write .info ("Rendering " ++ source))
  let config ← strings config.whole?
  let graph ← strings graph.whole?
  let gen ← logged haltOfFailure
    (Logged.lift (Backends.builtin.create w.files language (.ready config)))
  match ← logged (fun e => .crash (.sink e)) (gen.run graph) with
  | .failure message _ =>
    say ("[red]✗ Code generation failed:[/red] " ++ message)
    return 1
  | .success files warnings facts =>
    deliver a files warnings facts
    return 0

/-- Do what the arguments ask for; the result is the exit code. -/
def execute (w : World) (a : Arguments) : Command Nat :=
  tryCatch (if a.listLanguages then do listLanguages; return 0 else generate w a) fun
    | .complaint message => do
      say (lit "[red]✗ Error:[/red] " ++ message)
      return 1
    | .crash c => crash c

/-! ## Whole runs -/

def usageLine : String := "usage: " ++ programName ++ " [options] [file]\n"

def optionLine (f : Flag) : String :=
  "  " ++ Console.padEnd 24 (", ".intercalate f.spellings ++ (if f.takesValue then " X" else "")) ++
    f.purpose ++ "\n"

def helpText : String :=
  usageLine ++ "\nGenerate Zig declarations from a serialized type graph.\n\n" ++
    String.join (Flag.all.map optionLine)

/-- The outcome of a run that generates nothing. -/
def Outcome.brief (w : World) (exitCode : Nat) (stdout stderr : String) : Outcome :=
  ⟨exitCode, stdout, stderr, w.files, []⟩

def run (w : World) (words : List String) : Except Crash Outcome :=
  match Arguments.ofWords words with
  | .error .help => .ok (.brief w 0 helpText "")
  | .error .version => .ok (.brief w 0 (programName ++ " " ++ version ++ "\n") "")
  | .error (.usage e) =>
    .ok (.brief w 2 "" (usageLine ++ programName ++ ": error: " ++ e.message ++ "\n"))
  | .ok a =>
    match a.level with
    | none => .error (.fault .wrongType)
    | some level =>
      let outcome := fun (exitCode : Nat) (p : Progress) =>
        Outcome.mk exitCode p.stdout p.stderr p.files (Entry.atLeast level p.log)
      match (execute w a).run.run ⟨"", "", w.files, []⟩ with
      | (.ok exitCode, p) => .ok (outcome exitCode p)
      | (.error (.crash c), _) => .error c
      | (.error (.complaint _), p) => .ok (outcome 1 p)

end ZigDecl.CommandLine
