import GoMend.Command.Directive
import GoMend.Command.Event
import GoMend.Command.Line
import GoMend.Command.LogFilter
import GoMend.Command.Options
import GoMend.Command.Run
import GoMend.Config.Basic
import GoMend.Config.Reading
import GoMend.Fault
import GoMend.Grammar.Declarations
import GoMend.Grammar.Expressions
import GoMend.Grammar.Fault
import GoMend.Grammar.Parser
import GoMend.Grammar.Production
import GoMend.Grammar.Reading
import GoMend.Grammar.Statements
import GoMend.Grammar.Types
import GoMend.Main
import GoMend.Pattern.Basic
import GoMend.Pattern.CharClass
import GoMend.Pattern.Compiler
import GoMend.Pattern.Notation
import GoMend.Pattern.Search
import GoMend.Proofs.Grammar.Outcome
import GoMend.Proofs.Names.Declarations
import GoMend.Proofs.Names.Document
import GoMend.Proofs.Names.Expressions
import GoMend.Proofs.Names.Imports
import GoMend.Proofs.Names.Reading
import GoMend.Proofs.Names.Reads
import GoMend.Proofs.Names.Statements
import GoMend.Proofs.Names.Types
import GoMend.Proofs.Pattern.Language
import GoMend.Proofs.Repair.Convergence
import GoMend.Proofs.Repair.Location
import GoMend.Proofs.Repair.Mending
import GoMend.Proofs.Repair.Progress
import GoMend.Proofs.Repair.Undefined
import GoMend.Proofs.Scope.Occurrences
import GoMend.Proofs.Scope.Packages
import GoMend.Proofs.Scope.Renaming
import GoMend.Proofs.Scope.Resolution
import GoMend.Proofs.Scope.Visits
import GoMend.Proofs.Syntax.Idents
import GoMend.Proofs.Token.Names
import GoMend.Proofs.Token.Scanning
import GoMend.Proofs.Token.Words
import GoMend.Proofs.Unit.Importing
import GoMend.Proofs.Unit.Placement
import GoMend.Repair.Diagnostic
import GoMend.Repair.Heal
import GoMend.Repair.Verify
import GoMend.Scope.Imports
import GoMend.Scope.Package
import GoMend.Scope.Resolve
import GoMend.Sync.Directories
import GoMend.Sync.Update
import GoMend.Syntax.Build
import GoMend.Syntax.Layout
import GoMend.Syntax.Operator
import GoMend.Syntax.Piece
import GoMend.Syntax.Tree
import GoMend.Syntax.Walk
import GoMend.Text.Alphanumeric
import GoMend.Text.Blank
import GoMend.Text.CaseFold
import GoMend.Text.Identifier
import GoMend.Text.Letter
import GoMend.Text.Position
import GoMend.Text.Quoted
import GoMend.Text.Ranges
import GoMend.Text.Uppercase
import GoMend.Text.Word
import GoMend.Token.Kind
import GoMend.Token.Lexed
import GoMend.Token.Scan
import GoMend.Token.Shape
import GoMend.Toml.Basic
import GoMend.Toml.Number
import GoMend.Toml.Reading
import GoMend.Unit.Body
import GoMend.Unit.Locate
import GoMend.Unit.Positions
import GoMend.Unit.Source
import GoMend.Unit.Structure
import GoMend.Volume.Basic
import GoMend.Volume.Disk
import GoMend.Volume.Path
import GoMend.Volume.Resolve
import GoMend.Wrap.Pipeline
import GoMend.Wrap.Publish
import GoMend.Wrap.Table
import GoMend.Wrap.Wrapper
import GoMend.Proofs.Repair.Qualifier
import GoMend.Proofs.Unit.Bodies
import GoMend.Proofs.Wrap.Initializer
import GoMend.Proofs.Repair.Replacement
import GoMend.Proofs.Unit.Locating
import GoMend.Proofs.Wrap.Embedding
import GoMend.Proofs.Wrap.Hygiene
import GoMend.Proofs.Scope.Lexical
import GoMend.Proofs.Wrap.Table
import GoMend.Proofs.Sync.Publication
import GoMend.Proofs.Syntax.Pieces
import GoMend.Proofs.Comments.Layout
import GoMend.Proofs.Comments.Placing
import GoMend.Proofs.Comments.Expressions
import GoMend.Proofs.Comments.Statements
import GoMend.Proofs.Comments.Document
import GoMend.Proofs.Grammar.Forward
import GoMend.Proofs.Pattern.Longest
import GoMend.Proofs.Reprint.Declarations
import GoMend.Proofs.Reprint.Document
import GoMend.Proofs.Repair.Reporting
import GoMend.Proofs.Stripped.Declarations
import GoMend.Proofs.Stripped.Document
import GoMend.Proofs.Sync.Frame
import GoMend.Proofs.Unit.Parts
import GoMend.Proofs.Unit.Structures
import GoMend.Proofs.Wrap.Enriching
import GoMend.Proofs.Wrap.Idempotence
import GoMend.Proofs.Wrap.Managed
import GoMend.Proofs.Volume.Outcome
import GoMend.Proofs.Volume.Listing
import GoMend.Proofs.Repair.Rounds
import GoMend.Proofs.Sync.Publishing
import GoMend.Proofs.Volume.Agreement
import GoMend.Proofs.Volume.Directories
import GoMend.Proofs.Sync.Names
import GoMend.Proofs.Sync.Stability
import GoMend.Proofs.Token.Tiling
import GoMend.Proofs.Token.Semicolons
import GoMend.Proofs.Wrap.Rewriting
import GoMend.Proofs.Wrap.NormalForm
import GoMend.Proofs.Parens.Enclosed
import GoMend.Proofs.Unit.Positions
import GoMend.Proofs.Unit.ImportRuns
import GoMend.Proofs.Repair.Verified
import GoMend.Proofs.Wrap.Framing
import GoMend.Proofs.Repair.Permuted
import GoMend.Proofs.Wrap.Edits
import GoMend.Proofs.Repair.Spelled
import GoMend.Proofs.Wrap.Listing
import GoMend.Proofs.Sync.Faults
import GoMend.Proofs.Sync.Handover
import GoMend.Proofs.Formed.Operators
import GoMend.Proofs.Headers.Document
import GoMend.Proofs.Nesting.Bound
import GoMend.Proofs.Token.Identifiers
