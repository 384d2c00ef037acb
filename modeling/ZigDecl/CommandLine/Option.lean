import ZigDecl.Text.Quoted

/-! # Options of the command line

The options with their spellings, and what can be wrong with a command line. -/

namespace ZigDecl.CommandLine

/-- An option; only some of them take a value. -/
inductive Flag where
  | help | url | stdin | language | output | outDir | splitFiles | config | isPrivate
  | leadingComment | noComments | listLanguages | verbose | logLevel | version
  deriving DecidableEq, Repr

namespace Flag

/-- All options in the order in which they are declared. -/
def all : List Flag := [.help, .url, .stdin, .language, .output, .outDir, .splitFiles, .config,
  .isPrivate, .leadingComment, .noComments, .listLanguages, .verbose, .logLevel, .version]

def spellings : Flag → List String
  | .help => ["-h", "--help"]
  | .url => ["--url"]
  | .stdin => ["--stdin"]
  | .language => ["--language", "-l"]
  | .output => ["--output", "-o"]
  | .outDir => ["--out-dir"]
  | .splitFiles => ["--split-files"]
  | .config => ["--config"]
  | .isPrivate => ["--private"]
  | .leadingComment => ["--leading-comment"]
  | .noComments => ["--no-comments"]
  | .listLanguages => ["--list-languages"]
  | .verbose => ["--verbose", "-v"]
  | .logLevel => ["--log-level"]
  | .version => ["--version"]

def label (f : Flag) : String := "/".intercalate f.spellings

/-- Whether an option has to be given a value. -/
def takesValue : Flag → Bool
  | .url | .language | .output | .outDir | .config | .leadingComment | .logLevel => true
  | _ => false

def purpose : Flag → String
  | .help => "Show this text and exit"
  | .url => "Address to fetch the type graph from"
  | .stdin => "Read the type graph from standard input"
  | .language => "Target language (default: zig)"
  | .output => "Output file (default: standard output)"
  | .outDir => "Directory for the files of declarations (with --split-files)"
  | .splitFiles => "Write one file a declaration"
  | .config => "Configuration file in JSON"
  | .isPrivate => "Leave the visibility modifier off"
  | .leadingComment => "Put this comment line in place of the header (repeatable)"
  | .noComments => "Leave descriptions out"
  | .listLanguages => "List the languages and exit"
  | .verbose => "Show facts about the run and log everything"
  | .logLevel => "DEBUG, INFO, WARNING or ERROR (default: WARNING)"
  | .version => "Show the version and exit"

def table : List (String × Flag) := all.flatMap fun f => f.spellings.map fun s => (s, f)

def ofSpelling? (spelling : String) : Option Flag :=
  (table.find? (·.1 == spelling)).map (·.2)

end Flag

/-- What is wrong with a command line. -/
inductive UsageError where
  | ambiguous (argument : String) (spellings : List String)
  | notAllowedWith (label other : String)
  | invalidChoice (label value : String) (choices : List String)
  | missingValue (label : String)
  /-- An option that takes no value is given one. -/
  | ignoredValue (label value : String)
  | unrecognized (arguments : List String)
  deriving DecidableEq, Repr

def UsageError.message : UsageError → String
  | .ambiguous argument spellings =>
    "ambiguous option: " ++ argument ++ " could match " ++ ", ".intercalate spellings
  | .notAllowedWith label other => "argument " ++ label ++ ": not allowed with argument " ++ other
  | .invalidChoice label value choices =>
    "argument " ++ label ++ ": invalid choice: " ++ Text.quoted value ++ " (choose from " ++
      ", ".intercalate (choices.map Text.quoted) ++ ")"
  | .missingValue label => "argument " ++ label ++ ": expected one argument"
  | .ignoredValue label value =>
    "argument " ++ label ++ ": ignored explicit argument " ++ Text.quoted value
  | .unrecognized arguments => "unrecognized arguments: " ++ " ".intercalate arguments

end ZigDecl.CommandLine
