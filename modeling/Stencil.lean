import Stencil.Calendar.Date
import Stencil.Calendar.Moment
import Stencil.Calendar.Pattern
import Stencil.Calendar.Reading
import Stencil.Command.Arguments
import Stencil.Command.Run
import Stencil.Decimal.Binary64
import Stencil.Decimal.Fixed
import Stencil.Decimal.Integer
import Stencil.Decimal.Ratio
import Stencil.Decimal.Reading
import Stencil.Decimal.Shortest
import Stencil.Diagnostic.Basic
import Stencil.Diagnostic.Ink
import Stencil.Diagnostic.Snippet
import Stencil.Dump.Basic
import Stencil.Dump.Function
import Stencil.Dump.Template
import Stencil.Engine.Basic
import Stencil.Engine.Directory
import Stencil.Evaluation.Context
import Stencil.Evaluation.Error
import Stencil.Evaluation.Expression
import Stencil.Expression.Basic
import Stencil.Expression.Reading
import Stencil.Expression.Token
import Stencil.Files.Tree
import Stencil.Function.Argument
import Stencil.Function.Arithmetic
import Stencil.Function.Basic
import Stencil.Function.Builtin
import Stencil.Function.Collections
import Stencil.Function.Dates
import Stencil.Function.Registry
import Stencil.Function.Texts
import Stencil.Main
import Stencil.Render.Blocks
import Stencil.Render.Fault
import Stencil.Render.Library
import Stencil.Render.Output
import Stencil.Source.Cursor
import Stencil.Suite.Category
import Stencil.Suite.FrontMatter
import Stencil.Suite.Report
import Stencil.Suite.Verdict
import Stencil.Tag.Closing
import Stencil.Tag.Piece
import Stencil.Template.Block
import Stencil.Template.Compile
import Stencil.Template.Fault
import Stencil.Template.Form
import Stencil.Template.Nest
import Stencil.Text.Alphabetic
import Stencil.Text.Blank
import Stencil.Text.Bytes
import Stencil.Text.Case
import Stencil.Text.CaseContext
import Stencil.Text.CaseTable
import Stencil.Text.Hex
import Stencil.Text.Numeric
import Stencil.Text.Printable
import Stencil.Text.Quoted
import Stencil.Text.Ranges
import Stencil.Text.Search
import Stencil.Text.Width
import Stencil.Toml.Reading
import Stencil.Toml.Scalar
import Stencil.Toml.Table
import Stencil.Value.Basic
import Stencil.Value.Json
import Stencil.Value.Kind
import Stencil.Value.Order
import Stencil.Proofs.Outcome
import Stencil.Proofs.Template.Grammar
import Stencil.Proofs.Template.Nesting
import Stencil.Proofs.Template.Roles
import Stencil.Proofs.Template.Soundness
import Stencil.Proofs.Template.Completeness
import Stencil.Proofs.Tag.Bytes
import Stencil.Proofs.Tag.Quotes
import Stencil.Proofs.Tag.Pieces
import Stencil.Proofs.Text.Blank
import Stencil.Proofs.Template.Tiling
import Stencil.Proofs.Expression.Grammar
import Stencil.Proofs.Expression.Reading
import Stencil.Proofs.Tag.Beginnings
import Stencil.Proofs.Template.Beginnings
import Stencil.Proofs.Computation
import Stencil.Proofs.Evaluation.Steps
import Stencil.Proofs.Evaluation.Scopes
import Stencil.Proofs.Template.Trees
import Stencil.Proofs.Evaluation.Errors
import Stencil.Proofs.Render.Steps
import Stencil.Proofs.Render.Reach
import Stencil.Proofs.Render.Runs
import Stencil.Proofs.Engine.Reachable
import Stencil.Proofs.Template.Loops
import Stencil.Proofs.Render.Faults
import Stencil.Proofs.Evaluation.Debugging
import Stencil.Proofs.Render.Debugging
import Stencil.Proofs.Template.Cuts
import Stencil.Proofs.Template.Compiles
import Stencil.Proofs.Tag.Windows
import Stencil.Proofs.Template.Shifts
import Stencil.Proofs.Template.Windows
import Stencil.Proofs.Template.Concatenation
import Stencil.Proofs.Expression.Trimming
import Stencil.Proofs.Template.Headers
import Stencil.Proofs.Template.Wrapping
import Stencil.Proofs.Decimal.Binary64
import Stencil.Proofs.Evaluation.Comparisons
import Stencil.Proofs.Function.Calls
import Stencil.Proofs.Template.Raising
import Stencil.Proofs.Template.Places
import Stencil.Proofs.Expression.Spelling
import Stencil.Proofs.Expression.Image
import Stencil.Proofs.Expression.Writing
import Stencil.Proofs.Evaluation.Simulation
import Stencil.Proofs.Render.Chains
import Stencil.Proofs.Render.Simulation
import Stencil.Proofs.Render.Extraction
import Stencil.Proofs.Render.Items
import Stencil.Proofs.Render.Depth
import Stencil.Proofs.Engine.Verbatim
import Stencil.Proofs.Template.Tags
import Stencil.Proofs.Text.Case
import Stencil.Proofs.Text.Cutting
import Stencil.Proofs.Engine.Partials
import Stencil.Proofs.Engine.Functions
import Stencil.Proofs.Engine.Variables
import Stencil.Proofs.Engine.Inclusions
import Stencil.Proofs.Files.Listings
import Stencil.Proofs.Engine.Directories
import Stencil.Proofs.Decimal.Exact
import Stencil.Proofs.Value.Coercion
import Stencil.Proofs.Function.Arguments
import Stencil.Proofs.Function.Settled
import Stencil.Proofs.Decimal.Arithmetic
import Stencil.Proofs.Decimal.Finite
import Stencil.Proofs.Function.WholeNumbers
import Stencil.Proofs.Function.Finite
import Stencil.Proofs.Expression.Paths
import Stencil.Proofs.Expression.Calls
import Stencil.Proofs.Engine.Integers
import Stencil.Proofs.Calendar.Dates
import Stencil.Proofs.Calendar.Moments
import Stencil.Proofs.Calendar.Readings
import Stencil.Proofs.Function.Dates
import Stencil.Proofs.Suite.FrontMatter
import Stencil.Proofs.Suite.Categories
import Stencil.Proofs.Source.Readers
import Stencil.Proofs.Source.Progress
import Stencil.Proofs.Source.Termination
