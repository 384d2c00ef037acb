import ZigDecl.CommandLine.Arguments
import ZigDecl.CommandLine.Option
import ZigDecl.CommandLine.Run
import ZigDecl.CommandLine.Token
import ZigDecl.Config.Basic
import ZigDecl.Config.Error
import ZigDecl.Config.Layers
import ZigDecl.Config.Saved
import ZigDecl.Console.CellWidth
import ZigDecl.Console.ColorTable
import ZigDecl.Console.EmojiTable
import ZigDecl.Console.Literal
import ZigDecl.Console.Literal.Piece
import ZigDecl.Console.Markup
import ZigDecl.Console.Style
import ZigDecl.Console.Table
import ZigDecl.Decimal.Shortest
import ZigDecl.Failure
import ZigDecl.Fault
import ZigDecl.File.Directory
import ZigDecl.Generation.Context
import ZigDecl.Generation.Emission
import ZigDecl.Generation.Preset
import ZigDecl.Generation.Result
import ZigDecl.Graph.Basic
import ZigDecl.Graph.Build
import ZigDecl.Graph.Definition
import ZigDecl.Graph.Document
import ZigDecl.Graph.Error
import ZigDecl.Graph.InlineCycle
import ZigDecl.Graph.Order
import ZigDecl.Graph.Shown
import ZigDecl.Graph.Whole
import ZigDecl.Log
import ZigDecl.Log.Setup
import ZigDecl.Main
import ZigDecl.Name.Namespace
import ZigDecl.Name.Style
import ZigDecl.Name.Word
import ZigDecl.Names.Basic
import ZigDecl.Names.Proposal
import ZigDecl.Names.Resolve
import ZigDecl.Output.Buffer
import ZigDecl.Output.Sink
import ZigDecl.Output.Tidy
import ZigDecl.Registry.Backend
import ZigDecl.Registry.Basic
import ZigDecl.Registry.Error
import ZigDecl.Registry.Generate
import ZigDecl.Rename
import ZigDecl.Source.Error
import ZigDecl.Source.Host
import ZigDecl.Source.Loading
import ZigDecl.Source.Url
import ZigDecl.Template.Filter
import ZigDecl.Template.Pattern
import ZigDecl.Template.Scope
import ZigDecl.Template.Store
import ZigDecl.Text.Alphanumeric
import ZigDecl.Text.Blank
import ZigDecl.Text.Block
import ZigDecl.Text.Case
import ZigDecl.Text.CaseTable
import ZigDecl.Text.Digit
import ZigDecl.Text.Lines
import ZigDecl.Text.Point
import ZigDecl.Text.Points
import ZigDecl.Text.Printable
import ZigDecl.Text.Quoted
import ZigDecl.Value.Basic
import ZigDecl.Value.Printer
import ZigDecl.Value.Raw
import ZigDecl.Value.Reader
import ZigDecl.Value.Shown
import ZigDecl.Zig.Identifier
import ZigDecl.Zig.Layout
import ZigDecl.Zig.Literal
import ZigDecl.Zig.Options
import ZigDecl.Zig.TypeExpr
import ZigDecl.Zig.TypeMap
import ZigDecl.Proofs.Name.Kinds
import ZigDecl.Proofs.Name.Identifier
import ZigDecl.Proofs.Name.Words
import ZigDecl.Proofs.Name.Boundary
import ZigDecl.Proofs.Name.Styled
import ZigDecl.Proofs.Name.Numbered
import ZigDecl.Proofs.Name.Search
import ZigDecl.Proofs.Name.Assign
import ZigDecl.Proofs.Name.Snake
import ZigDecl.Proofs.Name.Pascal
import ZigDecl.Proofs.Graph.Inline
import ZigDecl.Proofs.Graph.Search
import ZigDecl.Proofs.Graph.Loaded
import ZigDecl.Proofs.Graph.Texts
import ZigDecl.Proofs.Names.Entries
import ZigDecl.Proofs.Names.Declared
import ZigDecl.Proofs.Names.Members
import ZigDecl.Proofs.Names.Files
import ZigDecl.Proofs.Names.Resolved
import ZigDecl.Proofs.Zig.Spelling
import ZigDecl.Proofs.Zig.Options
import ZigDecl.Proofs.Zig.Descent
import ZigDecl.Proofs.Generation.Mentions
import ZigDecl.Proofs.Generation.Fill
import ZigDecl.Proofs.Generation.Declares
import ZigDecl.Proofs.Generation.Order
import ZigDecl.Proofs.Output.Parts
import ZigDecl.Proofs.Generation.Imports
import ZigDecl.Proofs.Generation.Runs
import ZigDecl.Proofs.Generation.Success
import ZigDecl.Proofs.Generation.Closed
import ZigDecl.Proofs.Generation.Results
import ZigDecl.Proofs.Generation.SelfContained
import ZigDecl.Proofs.Graph.Cycle
import ZigDecl.Proofs.Graph.Entered
import ZigDecl.Proofs.Graph.Refusal
import ZigDecl.Proofs.Document.Place
import ZigDecl.Proofs.Document.Spelled
import ZigDecl.Proofs.Document.Forms
import ZigDecl.Proofs.Document.Made
import ZigDecl.Proofs.Document.Passage
import ZigDecl.Proofs.Document.Faithful
import ZigDecl.Proofs.Document.Inline
import ZigDecl.Proofs.Document.EntryOrder
import ZigDecl.Proofs.Zig.Decode
import ZigDecl.Proofs.Zig.Reader
import ZigDecl.Proofs.Output.Lines
import ZigDecl.Proofs.Zig.Draft
import ZigDecl.Proofs.Zig.DraftLines
import ZigDecl.Proofs.Generation.Renames
import ZigDecl.Proofs.Generation.Drafts
import ZigDecl.Proofs.Generation.ReadBack
import ZigDecl.Proofs.Graph.Nodes
import ZigDecl.Proofs.Zig.Nesting
import ZigDecl.Proofs.Registry.History
import ZigDecl.Proofs.Registry.Lookups
import ZigDecl.Proofs.Output.Blocks
import ZigDecl.Proofs.Generation.Solid
import ZigDecl.Proofs.Generation.Rendering
import ZigDecl.Proofs.Generation.Split
import ZigDecl.Proofs.Names.FileForm
import ZigDecl.Proofs.Generation.FileImports
import ZigDecl.Proofs.Output.LineEndings
import ZigDecl.Proofs.Generation.LineEndings
import ZigDecl.Proofs.Output.Session
import ZigDecl.Proofs.Output.Discipline
import ZigDecl.Proofs.Document.Undescribed
import ZigDecl.Proofs.Graph.Undescribed
import ZigDecl.Proofs.Generation.Undescribed
import ZigDecl.Proofs.Output.Comments
import ZigDecl.Proofs.Generation.Comments
import ZigDecl.Proofs.Generation.Descriptions
import ZigDecl.Proofs.Registry.Ownership
import ZigDecl.Proofs.Names.Stable
import ZigDecl.Proofs.Value.Bytes
import ZigDecl.Proofs.Value.Raw
import ZigDecl.Proofs.Config.Loading
import ZigDecl.Proofs.Document.Stops
import ZigDecl.Proofs.Source.Loading
import ZigDecl.Proofs.Zig.Optionality
import ZigDecl.Proofs.Zig.Issues
import ZigDecl.Proofs.Generation.Warnings
import ZigDecl.Proofs.Value.Members
import ZigDecl.Proofs.Config.Precedence
import ZigDecl.Proofs.Value.Json
import ZigDecl.Proofs.File.Written
import ZigDecl.Proofs.Config.RoundTrip
import ZigDecl.Proofs.Zig.Literal
import ZigDecl.Proofs.Output.Tidied
import ZigDecl.Proofs.Graph.Preorder
import ZigDecl.Proofs.Document.Definitions
import ZigDecl.Proofs.Name.Combined
import ZigDecl.Proofs.Graph.Edits
import ZigDecl.Proofs.Generation.Asked
import ZigDecl.Proofs.Output.Published
import ZigDecl.Proofs.Generation.Published
import ZigDecl.Proofs.Generation.Visibility
