import ZigDecl.CommandLine.Token
import ZigDecl.Log

/-! # Arguments of a run

The words of the command line are taken in order, and the options of a word take effect once the
word is understood. Of the sources of a graph only one may be given. Words that nothing takes are
reported at the end. -/

namespace ZigDecl.CommandLine

/-- What a command line asks for. A value that is the separator `--` does not count, which leaves an
option without the value that it needs. -/
structure Arguments where
  file : Option String
  url : Option String
  stdin : Bool
  language : Option String
  output : Option String
  outDir : Option String
  splitFiles : Bool
  config : Option String
  isPrivate : Bool
  leadingComments : List (Option String)
  noComments : Bool
  listLanguages : Bool
  verbose : Bool
  logLevel : Option Level
  deriving DecidableEq, Repr

def Arguments.default : Arguments := {
  file := none
  url := none
  stdin := false
  language := some "zig"
  output := none
  outDir := none
  splitFiles := false
  config := none
  isPrivate := false
  leadingComments := []
  noComments := false
  listLanguages := false
  verbose := false
  logLevel := some .warning }

/-- Why there are no arguments to run with. -/
inductive Stop where
  | help
  | version
  | usage (e : UsageError)
  deriving DecidableEq, Repr

/-- Arguments under way: whether the place of the file was passed, the labels of the sources that
were given, and the words that nothing took. -/
structure Parse where
  arguments : Arguments
  filePassed : Bool
  sources : List String
  extras : List String
  deriving DecidableEq, Repr

namespace Parse

/-- The labels of the sources, of which only one may be given. -/
def sourceLabels : List String := ["file", "--url", "--stdin"]

/-- A source is given; it must be the only one. -/
def addSource (p : Parse) (label : String) : Except Stop Parse :=
  match sourceLabels.find? fun other => other != label && p.sources.contains other with
  | some other => .error (.usage (.notAllowedWith label other))
  | none => .ok { p with sources := label :: p.sources }

def set (p : Parse) (f : Arguments → Arguments) : Parse := { p with arguments := f p.arguments }

def levelNames : List String := ["DEBUG", "INFO", "WARNING", "ERROR"]

/-- The effect of an option that takes no value. -/
def raise (p : Parse) : Flag → Except Stop Parse
  | .help => .error .help
  | .version => .error .version
  | .stdin => do return (← p.addSource Flag.stdin.label).set ({ · with stdin := true })
  | .splitFiles => .ok (p.set ({ · with splitFiles := true }))
  | .isPrivate => .ok (p.set ({ · with isPrivate := true }))
  | .noComments => .ok (p.set ({ · with noComments := true }))
  | .listLanguages => .ok (p.set ({ · with listLanguages := true }))
  | .verbose => .ok (p.set ({ · with verbose := true }))
  | _ => .ok p

def counted (value : String) : Option String := if value == "--" then none else some value

def levelOf (value : String) : Except Stop (Option Level) :=
  match counted value with
  | none => .ok none
  | some name =>
    match Level.ofName? name with
    | some level => .ok (some level)
    | none => .error (.usage (.invalidChoice Flag.logLevel.label name levelNames))

/-- The effect of an option with its value. -/
def assign (p : Parse) (value : String) : Flag → Except Stop Parse
  | .url => do return (← p.addSource Flag.url.label).set ({ · with url := counted value })
  | .language => .ok (p.set ({ · with language := counted value }))
  | .output => .ok (p.set ({ · with output := counted value }))
  | .outDir => .ok (p.set ({ · with outDir := counted value }))
  | .config => .ok (p.set ({ · with config := counted value }))
  | .leadingComment =>
    .ok (p.set fun a => { a with leadingComments := a.leadingComments ++ [counted value] })
  | .logLevel => do
    let level ← levelOf value
    return p.set ({ · with logLevel := level })
  | _ => .ok p

/-- A plain argument: the file, unless its place was passed. -/
def takePlain (p : Parse) (text : String) : Except Stop Parse :=
  if p.filePassed then .ok { p with extras := p.extras ++ [text] }
  else do
    let p ← p.addSource "file"
    return { p with filePassed := true, arguments := { p.arguments with file := some text } }

/-- What the options of one word ask for: flags to raise, then an option that takes a value, with
the value if the word holds it. -/
structure Bundle where
  raised : List Flag
  valued : Option (Flag × Option String)

/-- An option in front of the others of its word. -/
def Bundle.cons (flag : Flag) (b : Bundle) : Bundle := { b with raised := flag :: b.raised }

/-- Take the characters behind a short option that takes no value for more short options. The first
one among them that takes a value has the rest of the word for it. -/
def bundleJoined (flag : Flag) : List Char → Except Stop Bundle
  | [] => .ok ⟨[flag], none⟩
  | c :: cs =>
    match Flag.ofSpelling? (String.ofList ['-', c]) with
    | none => .error (.usage (.ignoredValue flag.label (String.ofList (c :: cs))))
    | some next =>
      if next.takesValue then
        .ok ⟨[flag], some (next, if cs.isEmpty then none else some (String.ofList cs))⟩
      else (bundleJoined next cs).map (.cons flag)

/-- What an option asks for in its word. -/
def bundle (flag : Flag) (isShort : Bool) (value : Option String) : Except Stop Bundle :=
  match flag.takesValue, value with
  | true, value => .ok ⟨[], some (flag, value)⟩
  | false, none => .ok ⟨[flag], none⟩
  | false, some v =>
    if isShort && v != "" then bundleJoined flag v.toList
    else .error (.usage (.ignoredValue flag.label v))

def takeAll (p : Parse) : List Token → Except Stop Parse
  | [] => .ok p
  | .separator :: rest =>
    if p.filePassed then takeAll { p with extras := p.extras ++ ["--"] } rest
    else
      match rest with
      | .plain text :: rest => do takeAll (← p.takePlain text) rest
      | rest => takeAll { p with filePassed := true } rest
  | .plain text :: rest =>
    match p.filePassed, rest with
    | false, .separator :: rest => do takeAll (← p.takePlain text) rest
    | _, rest => do takeAll (← p.takePlain text) rest
  | .unknownOption text :: rest => takeAll { p with extras := p.extras ++ [text] } rest
  | .option flag isShort value :: rest => do
    let b ← bundle flag isShort value
    match b.valued with
    | none => takeAll (← b.raised.foldlM raise p) rest
    | some (valued, some v) => takeAll (← (← b.raised.foldlM raise p).assign v valued) rest
    | some (valued, none) =>
      match rest with
      | .plain v :: rest => takeAll (← (← b.raised.foldlM raise p).assign v valued) rest
      | _ => throw (.usage (.missingValue valued.label))

end Parse

namespace Arguments

def ofWords (words : List String) : Except Stop Arguments := do
  let tokens ← (Token.ofWords words).mapError .usage
  let p ← Parse.takeAll ⟨default, false, [], []⟩ tokens
  if p.extras.isEmpty then return p.arguments
  else throw (.usage (.unrecognized p.extras))

/-- The least level of the log entries that are shown. -/
def level (a : Arguments) : Option Level := if a.verbose then some .debug else a.logLevel

end Arguments

end ZigDecl.CommandLine
