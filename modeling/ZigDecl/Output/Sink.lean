import ZigDecl.Output.Buffer
import ZigDecl.Text.Case

/-! # Where generated text goes

A sink collects text in one stream or in one named buffer a declaration. At most one buffer is open
at a time; whoever opens a second one, or closes when none is open, has lost track of the order, and
the sink says so and stays as it is. -/

namespace ZigDecl.Output

/-- Finished text; only the stream has no name. -/
structure File where
  name : Option String
  text : String
  deriving DecidableEq, Repr

/-- Why an operation is out of sequence. -/
inductive SinkError where
  /-- A buffer is opened while the named one is open. -/
  | unfinished (name : String)
  /-- A buffer is opened whose name was used before. -/
  | alreadyWritten (name : String)
  /-- A buffer is closed while none is open. -/
  | notOpen
  /-- The files are asked for while the named one is open. -/
  | stillOpen (name : String)
  deriving DecidableEq, Repr

def SinkError.message : SinkError → String
  | .unfinished name => "Previous file wasn't finished: " ++ name
  | .alreadyWritten name => "File was already written: " ++ name
  | .notOpen => "No file is open"
  | .stillOpen name => "File still open: " ++ name

/-- Text under way. In split mode `files` holds the named buffers in the order in which they were
opened, else `stream` holds everything; `current` is the name of the open buffer. -/
structure Sink where
  isSplit : Bool
  extension : String
  stream : Buffer
  files : List (String × Buffer)
  current : Option String
  deriving DecidableEq, Repr

namespace Sink

def new (isSplit : Bool) (extension : String) : Sink := ⟨isSplit, extension, .empty, [], none⟩

/-- The file name of a declaration that is given none. -/
def fileNameFor (s : Sink) (name : String) : String := Text.lower name ++ s.extension

def isOpen (s : Sink) : Bool := s.current.isSome

/-- The file of a declaration. An empty file name counts as none. -/
def fileFor (s : Sink) (name : String) : Option String → String
  | none | some "" => s.fileNameFor name
  | some file => file

def «open» (s : Sink) (name : String) (fileName : Option String) : Except SinkError Sink :=
  match s.current with
  | some label => .error (.unfinished label)
  | none =>
    if s.isSplit then
      let file := s.fileFor name fileName
      if s.files.any (·.1 == file) then .error (.alreadyWritten file)
      else .ok { s with files := s.files ++ [(file, .empty)], current := some file }
    else .ok { s with current := some name }

def close (s : Sink) : Except SinkError Sink :=
  match s.current with
  | none => .error .notOpen
  | some _ => .ok { s with current := none }

def modifyLast (f : Buffer → Buffer) : List (String × Buffer) → List (String × Buffer)
  | [] => []
  | [(name, b)] => [(name, f b)]
  | entry :: rest => entry :: modifyLast f rest

/-- Change the buffer that was opened last, be it still open or not. -/
def modify (s : Sink) (f : Buffer → Buffer) : Sink :=
  if s.isSplit then { s with files := modifyLast f s.files } else { s with stream := f s.stream }

def lastBuffer (s : Sink) : Buffer :=
  if s.isSplit then (s.files.getLast?.map (·.2)).getD .empty else s.stream

/-- What the body of a block does with the open sink: it leaves a sink, and may fail in doing
so. -/
structure Outcome (ε : Type) where
  sink : Sink
  failure : Option ε

/-- Open a buffer for a block and close it however the block ends. If closing fails too, that is
the failure that counts. -/
def emitFile {ε : Type} (ofSink : SinkError → ε) (s : Sink) (name : String)
    (fileName : Option String) (body : Sink → Outcome ε) : Outcome ε :=
  match s.open name fileName with
  | .error e => ⟨s, some (ofSink e)⟩
  | .ok opened =>
    let done := body opened
    match done.sink.close with
    | .error e => ⟨done.sink, some (ofSink e)⟩
    | .ok closed => ⟨closed, done.failure⟩

/-- All text, in the order in which the buffers were finished. -/
def finished (s : Sink) (lineEnding : String) : Except SinkError (List File) :=
  match s.current with
  | some label => .error (.stillOpen label)
  | none =>
    if s.isSplit then .ok (s.files.map fun (name, b) => ⟨some name, b.text lineEnding⟩)
    else .ok [⟨none, s.stream.text lineEnding⟩]

end Sink

end ZigDecl.Output
