import ZigDecl.Graph.Error

/-! # What can go wrong while a document is loaded -/

namespace ZigDecl

open TextLike (lit)

/-- Why a document cannot be loaded. -/
inductive SourceError where
  | noSource
  | twoSources
  | fileNotFound (path : String)
  /-- The text of a source is no JSON document. -/
  | invalidJson (source : String)
  | invalidUrl (url : String)
  | invalidResponse (url : String)
  | timeout (seconds : Value) (url : String)
  | noConnection (url : String)
  | httpStatus (status : Int) (url : String)
  | requestFailed (url reason : String)
  /-- The document of a source is no type graph. -/
  | invalidGraph (source : String) (cause : GraphError RawText)
  | fault (f : Fault)
  deriving Repr

def SourceError.message : SourceError → RawText
  | .noSource => lit "Either file_path or url must be provided"
  | .twoSources => lit "Cannot specify both file_path and url"
  | .fileNotFound path => lit ("File not found: " ++ path)
  | .invalidJson source => lit ("Invalid JSON in " ++ source ++ ": <JSONDecodeError>")
  | .invalidUrl url => lit ("Invalid URL: " ++ url)
  | .invalidResponse url => lit ("Invalid JSON response from URL " ++ url ++ ": <JSONDecodeError>")
  | .timeout seconds url =>
    lit ("Request timeout after " ++ seconds.display ++ "s for URL: " ++ url)
  | .noConnection url => lit ("Could not connect to " ++ url)
  | .httpStatus status url => lit ("HTTP error " ++ toString status ++ " for URL: " ++ url)
  | .requestFailed url reason => lit ("Request to " ++ url ++ " failed: " ++ reason)
  | .invalidGraph source cause => lit ("Invalid type graph in " ++ source ++ ": ") ++ cause.message
  | .fault f => lit f.tag

end ZigDecl
