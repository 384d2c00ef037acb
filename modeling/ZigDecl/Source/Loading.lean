import ZigDecl.File.Directory
import ZigDecl.Graph.Document
import ZigDecl.Log
import ZigDecl.Source.Error
import ZigDecl.Source.Url
import ZigDecl.Value.Reader

/-! # Loading documents

A document comes from a file, from the web or from a stream of text, and is loaded together with
the name of its source. It may hold any texts that JSON can spell, halves of surrogate pairs
included. -/

namespace ZigDecl.Source

/-- What a web server answers, or how a request fails. -/
inductive Response where
  | answer (status : Int) (contentType body : String)
  | timeout
  | noConnection
  | failed (reason : String)
  deriving Repr

/-- The name of a source, and the document from it. -/
abbrev Loaded := String × Value RawText

def parse (text source : String) : Except SourceError (Value RawText) :=
  match Value.ofJson text with
  | .ok v => .ok v
  | .error .malformed => .error (.invalidJson source)
  | .error .tooManyDigits => .error (.fault .badValue)

def ofFile (d : Directory) (name : String) : Logged SourceError Loaded := do
  let path := Path.ofText name
  let shown := path.toText
  Logged.write .debug ("Reading type graph file " ++ shown)
  match d.read path with
  | .error .tooLong => .fail (.fault .badPath)
  | .error _ => .fail (.fileNotFound shown)
  | .ok bytes => do
    if Text.lower path.suffix != ".json" then
      Logged.write .warning (shown ++ " has no .json extension, parsing anyway")
    match String.fromUTF8? bytes with
    | none => .fail (.fault .badEncoding)
    | some text => do
      let document ← parse text ("file " ++ shown)
      Logged.write .info ("Loaded " ++ shown)
      return (shown, document)

/-- The text of an answer, without the byte order mark in front of it. -/
def withoutMark (body : String) : String :=
  match body.toList with
  | '\uFEFF' :: cs => String.ofList cs
  | _ => body

/-- The document in the answer to a request. -/
def ofAnswer (url path : String) (status : Int) (contentType body : String) :
    Logged SourceError Loaded := do
  if 400 ≤ status && status < 600 then Logged.fail (.httpStatus status url)
  let kind := Text.lower contentType
  if (Text.splitOn "json".toList kind.toList).length == 1 && !path.endsWith ".json" then
    Logged.write .warning (url ++ " answered with content type " ++ Text.quoted kind)
  match Value.ofJson (withoutMark body) with
  | .error .malformed => .fail (.invalidResponse url)
  | .error .tooManyDigits => .fail (.fault .badValue)
  | .ok document => do
    Logged.write .info ("Loaded " ++ url)
    return (url, document)

/-- The document at an address, given how a request for it ends. -/
def ofUrl (response : Response) (url : String) (seconds : Value) : Logged SourceError Loaded :=
  match Url.ofText? url with
  | none => .fail (.fault .badValue)
  | some parts =>
    if !parts.isWeb then .fail (.invalidUrl url)
    else do
      Logged.write .debug
        ("Fetching type graph from " ++ url ++ " (timeout " ++ seconds.display ++ "s)")
      match response with
      | .answer status contentType body => ofAnswer url parts.path status contentType body
      | .timeout => .fail (.timeout seconds url)
      | .noConnection => .fail (.noConnection url)
      | .failed reason => .fail (.requestFailed url reason)

def ofStream (text name : String) : Logged SourceError Loaded := do
  let document ← parse text name
  return (name, document)

/-- The document of exactly one of a file and an address; an empty text stands for none. -/
def load (d : Directory) (response : Response) (file url : String) (seconds : Value) :
    Logged SourceError Loaded :=
  match file != "", url != "" with
  | true, true => .fail .twoSources
  | false, false => .fail .noSource
  | true, false => ofFile d file
  | false, true => ofUrl response url seconds

def toGraph (loaded : Loaded) : Except SourceError (TypeGraph RawText) :=
  match TypeGraph.ofDocument loaded.2 with
  | .ok g => .ok g
  | .error (.fault f) => .error (.fault f)
  | .error e => .error (.invalidGraph loaded.1 e)

end ZigDecl.Source
